import MatVerse.OrganismLoop
import MatVerse.Lib.Fallible
import MatVerse.Lib.Run

/-! What one operation of the organism does, and the invariant of every organism
that operations alone have built. -/
namespace MatVerse.GovernedOrganism

open Fallible

variable {host : Host}

/-! ## The cached root -/

/-- Equal up to the cache of the state root. -/
structure SameState (o p : GovernedOrganism) : Prop where
  identity : o.identity = p.identity
  constraints : o.constraints = p.constraints
  lineage : o.lineage = p.lineage

/-- The root the organism would return is the hash of its payload. -/
def Coherent (host : Host) (o : GovernedOrganism) : Prop :=
  (o.stateRoot host).1 = stableHash host (.dict o.statePayload)

theorem stateRoot_same (o : GovernedOrganism) : SameState (o.stateRoot host).2 o := by
  unfold stateRoot
  split
  · split <;> exact ⟨rfl, rfl, rfl⟩
  · exact ⟨rfl, rfl, rfl⟩

@[simp] theorem stateRoot_identity (o : GovernedOrganism) :
    (o.stateRoot host).2.identity = o.identity := (stateRoot_same o).identity
@[simp] theorem stateRoot_constraints (o : GovernedOrganism) :
    (o.stateRoot host).2.constraints = o.constraints := (stateRoot_same o).constraints
@[simp] theorem stateRoot_lineage (o : GovernedOrganism) :
    (o.stateRoot host).2.lineage = o.lineage := (stateRoot_same o).lineage

theorem SameState.payload {o p : GovernedOrganism} (same : SameState o p) :
    o.statePayload = p.statePayload := by
  simp only [statePayload, same.identity, same.constraints, same.lineage]

@[simp] theorem stateRoot_payload (o : GovernedOrganism) :
    (o.stateRoot host).2.statePayload = o.statePayload := (stateRoot_same o).payload

theorem coherent_of_uncached {o : GovernedOrganism} (empty : o.cachedStateRoot = none) :
    Coherent host o := by
  simp [Coherent, stateRoot, empty]

theorem coherent_mark (o : GovernedOrganism) : Coherent host (markStateMutated o) :=
  coherent_of_uncached rfl

theorem Coherent.stateRoot {o : GovernedOrganism} (coherent : Coherent host o) :
    Coherent host (o.stateRoot host).2 := by
  have again : ((o.stateRoot host).2.stateRoot host).1 = (o.stateRoot host).1 := by
    cases cached : o.cachedStateRoot with
    | none => simp [GovernedOrganism.stateRoot, cached]
    | some root =>
      by_cases current : o.cachedStateGeneration = o.stateGeneration
      · simp [GovernedOrganism.stateRoot, cached, current]
      · simp [GovernedOrganism.stateRoot, cached, current]
  rw [Coherent, again, stateRoot_payload]
  exact coherent

/-! ## What one operation does -/

@[simp] theorem mark_identity (o : GovernedOrganism) : (markStateMutated o).identity = o.identity := rfl
@[simp] theorem mark_constraints (o : GovernedOrganism) :
    (markStateMutated o).constraints = o.constraints := rfl
@[simp] theorem mark_lineage (o : GovernedOrganism) : (markStateMutated o).lineage = o.lineage := rfl

def EvaluateArgs.proposalJson (args : EvaluateArgs) : Json := (Json.obj args.proposal).norm
def EvaluateArgs.humanJson (args : EvaluateArgs) : Option Json :=
  args.human.map (fun h => (Json.obj h).norm)

/-- An evaluation that returns appended one record and changed nothing else. -/
theorem evaluate_ok {o o' : GovernedOrganism} {args : EvaluateArgs} {r : LoopResult}
    (done : o.evaluate host args = .ok (r, o')) :
    args.eventId ≠ "" ∧ o.lineage.any (isEvaluationOf args.eventId) = false ∧
    ∃ matched, firstMatch args.proposalJson o.constraints = .ok matched ∧
      (r, o') = o.recordEvaluation host args args.proposalJson args.humanJson matched := by
  simp only [evaluate, jsonClone_eq, guard_ok, bind_ok, pure_ok] at done
  obtain ⟨empty, known, matched, found, result⟩ := done
  exact ⟨by simpa using empty, by simpa using known, matched, found, result.symm⟩

/-- The record an evaluation appends, its receipt left open. -/
def recordOf (host : Host) (o : GovernedOrganism) (args : EvaluateArgs)
    (matched : Option InheritedConstraint) (receipt : String) : Json :=
  let verdict := gateDecision host matched args.proposalJson args.humanJson args
  evaluationRecord o.identity.runtimeId args.eventId args.proposalJson (gateInputs args.humanJson args)
    verdict.1 verdict.2.1 verdict.2.2 receipt

theorem recordEvaluation_state (host : Host) (o : GovernedOrganism) (args : EvaluateArgs)
    (matched : Option InheritedConstraint) :
    let after := o.recordEvaluation host args args.proposalJson args.humanJson matched
    SameState after.2
      { o with lineage := o.lineage ++ [recordOf host o args matched after.1.evidence.receiptHash] } := by
  constructor
  · simp [recordEvaluation]
  · simp [recordEvaluation]
  · simp [recordEvaluation, recordOf]

theorem evaluate_identity {o o' : GovernedOrganism} {args : EvaluateArgs} {r : LoopResult}
    (done : o.evaluate host args = .ok (r, o')) : o'.identity = o.identity := by
  obtain ⟨_, _, matched, _, result⟩ := evaluate_ok done
  rw [show o' = (o.recordEvaluation host args args.proposalJson args.humanJson matched).2 from congrArg Prod.snd result]
  exact (recordEvaluation_state host o args matched).identity

theorem evaluate_record {o : GovernedOrganism} {args : EvaluateArgs} {matched : Option InheritedConstraint}
    (named : args.eventId ≠ "") (fresh : o.lineage.any (isEvaluationOf args.eventId) = false)
    (found : firstMatch args.proposalJson o.constraints = .ok matched) :
    o.evaluate host args = .ok (o.recordEvaluation host args args.proposalJson args.humanJson matched) := by
  simp only [evaluate, jsonClone_eq, guard_ok, bind_ok]
  exact ⟨by simpa using named, by simpa using fresh, matched, found, rfl⟩

theorem getItem_ok {v w : Json} {key : String} : getItem v key = .ok w ↔ v.get? key = some w := by
  unfold getItem
  cases found : v.get? key with
  | none => simp
  | some u => simp

/-- An observation that returns read one uncaused BLOCK evaluation. -/
theorem observe_ok {o : GovernedOrganism} {eventId generatorId : String} {causalKeys : List String}
    {candidate : ConstraintCandidate}
    (done : o.observeRejection host eventId generatorId causalKeys = .ok candidate) :
    eventId ≠ "" ∧ generatorId ≠ "" ∧ ∃ source proposal reason receipt,
      o.evaluation eventId = .ok source ∧ source.get? "decision" = some (.str "BLOCK") ∧
      isAbsent (source.get? "matched_constraint_id") = true ∧
      source.get? "proposal" = some proposal ∧ matchOf proposal causalKeys ≠ [] ∧
      source.get? "reason" = some reason ∧ source.get? "receipt_hash" = some receipt ∧
      candidate = ⟨candidateIdOf host eventId (pyStr host receipt) generatorId
          (canonicalJson (.dict (matchOf proposal causalKeys))) (pyStr host reason),
        eventId, pyStr host receipt, generatorId, canonicalJson (.dict (matchOf proposal causalKeys)),
        pyStr host reason⟩ := by
  simp only [observeRejection, guard_ok, bind_ok, pure_ok, getItem_ok, Bool.not_eq_true',
    Bool.not_eq_false, Bool.or_eq_true, beq_iff_eq, not_or, Json.pyEq_str] at done
  obtain ⟨⟨event, generator⟩, source, found, decision, block, isBlock, uncaused, proposal, hasProposal,
    nonempty, reason, hasReason, receipt, hasReceipt, result⟩ := done
  subst isBlock
  exact ⟨event, generator, source, proposal, reason, receipt, found, block, uncaused, hasProposal,
    by simpa using nonempty, hasReason, hasReceipt, result.symm⟩

theorem verifyGrant_candidate {o : GovernedOrganism} {grant : AuthorizationGrant} {candidateId : String}
    (granted : o.verifyGrant host grant candidateId = .ok ()) :
    grant.capability = authCapability ∧ grant.candidateId = candidateId := by
  unfold verifyGrant at granted
  split_ifs at granted with wrong
  simp only [Bool.or_eq_true, bne_iff_ne, not_or, not_not] at wrong
  exact wrong

theorem checkCandidate_ok {o : GovernedOrganism} {candidate : ConstraintCandidate}
    {grant : AuthorizationGrant} : o.checkCandidate host candidate grant = .ok () ↔
    o.verifyGrant host grant candidate.candidateId = .ok () ∧
    grant.principalId ≠ candidate.generatorId ∧
    ∃ source, o.evaluation candidate.sourceEventId = .ok source ∧
      source.get? "decision" = some (.str "BLOCK") ∧
      source.get? "receipt_hash" = some (.str candidate.sourceReceiptHash) := by
  simp only [checkCandidate, guard_ok, last_guard_ok, bind_ok, pure_ok, getItem_ok, Bool.not_eq_true',
    Bool.not_eq_false, beq_iff_eq, Json.pyEq_str]
  constructor
  · rintro ⟨_, granted, apart, source, found, decision, block, isBlock, receipt, hasReceipt, isReceipt⟩
    subst isBlock
    exact ⟨granted, apart, source, found, block, by rw [hasReceipt, isReceipt.1]⟩
  · rintro ⟨granted, apart, source, found, block, hasReceipt⟩
    exact ⟨(), granted, apart, source, found, _, block, rfl, _, hasReceipt, rfl, trivial⟩

theorem authorize_ok {o o' : GovernedOrganism} {candidate : ConstraintCandidate}
    {grant : AuthorizationGrant} {c : InheritedConstraint}
    (done : o.authorizeConstraint host candidate grant = .ok (c, o')) :
    o.checkCandidate host candidate grant = .ok () ∧ c = o.promote host candidate grant ∧
    o' = markStateMutated { o with
      constraints := Dict.insert c.constraintId c o.constraints
      lineage := o.lineage ++ [promotedRecord c] } := by
  simp only [authorizeConstraint, bind_ok, pure_ok, Prod.mk.injEq] at done
  obtain ⟨_, checked, rfl, result⟩ := done
  exact ⟨checked, rfl, result.symm⟩

/-- One call changes nothing, appends an evaluation, or promotes a constraint. -/
theorem apply_cases (host : Host) (o : GovernedOrganism) (op : Op) :
    (o.apply host op).2 = o ∨
    (∃ args matched receipt, op = .evaluate args ∧ args.eventId ≠ "" ∧
      o.lineage.any (isEvaluationOf args.eventId) = false ∧
      firstMatch args.proposalJson o.constraints = .ok matched ∧
      Coherent host (o.apply host op).2 ∧
      SameState (o.apply host op).2
        { o with lineage := o.lineage ++ [recordOf host o args matched receipt] }) ∨
    (∃ candidate grant c, op = .authorize candidate grant ∧
      o.authorizeConstraint host candidate grant = .ok (c, (o.apply host op).2)) := by
  cases op with
  | evaluate args =>
    cases done : o.evaluate host args with
    | error e => exact .inl (by simp [apply, done])
    | ok p =>
      obtain ⟨r, o'⟩ := p
      obtain ⟨named, fresh, matched, found, result⟩ := evaluate_ok done
      have same := recordEvaluation_state host o args matched
      have after : (o.apply host (.evaluate args)).2 =
          (o.recordEvaluation host args args.proposalJson args.humanJson matched).2 := by
        simp [apply, done, ← result]
      simp only [← after] at same
      refine .inr (.inl ⟨args, matched, _, rfl, named, fresh, found, ?_, same⟩)
      rw [after]
      exact (coherent_mark _).stateRoot
  | observe eventId generatorId causalKeys =>
    left
    simp only [apply]
    cases o.observeRejection host eventId generatorId causalKeys <;> rfl
  | authorize candidate grant =>
    cases done : o.authorizeConstraint host candidate grant with
    | error e => exact .inl (by simp [apply, done])
    | ok p =>
      obtain ⟨c, o'⟩ := p
      exact .inr (.inr ⟨candidate, grant, c, rfl, by simp [apply, done]⟩)

/-! ## What the lineage holds -/

/-- The items that operations append. -/
inductive Entry : Json → Prop where
  | evaluation {runtimeId eventId : String} {proposal inputs : Json} {decision : Decision}
      {reason : String} {matchedId : Option String} {receipt : String} (named : eventId ≠ "")
      (mapping : proposal.isObj = true) (normal : proposal.Normal) (normalInputs : inputs.Normal) :
      Entry (evaluationRecord runtimeId eventId proposal inputs decision reason matchedId receipt)
  | promoted (c : InheritedConstraint) : Entry (promotedRecord c)

theorem normal_optionStr (s : Option String) : (optionStr s).Normal := by
  cases s <;> rfl

theorem normal_record {runtimeId eventId : String} {proposal inputs : Json} {decision : Decision}
    {reason : String} {matchedId : Option String} {receipt : String} (normal : proposal.Normal)
    (normalInputs : inputs.Normal) :
    (evaluationRecord runtimeId eventId proposal inputs decision reason matchedId receipt).Normal := by
  apply Json.normal_dict
  intro p member
  simp only [List.mem_cons, List.not_mem_nil, or_false] at member
  rcases member with rfl | rfl | rfl | rfl | rfl | rfl | rfl | rfl | rfl
  all_goals first | rfl | assumption | exact normal_optionStr _

theorem Entry.normal {item : Json} (entry : Entry item) : item.Normal := by
  cases entry with
  | evaluation named mapping normal normalInputs => exact normal_record normal normalInputs
  | promoted c =>
    apply Json.normal_dict
    intro p member
    simp only [List.mem_cons, List.not_mem_nil, or_false] at member
    rcases member with rfl | rfl | rfl | rfl | rfl <;> rfl

theorem isEvaluation_promoted (c : InheritedConstraint) : isEvaluation (promotedRecord c) = false := by
  simp [isEvaluation, promotedRecord, isStr]

theorem isEvaluationOf_record {id runtimeId eventId : String} {proposal inputs : Json} {decision : Decision}
    {reason : String} {matchedId : Option String} {receipt : String} :
    isEvaluationOf id (evaluationRecord runtimeId eventId proposal inputs decision reason matchedId receipt) =
      (eventId == id) := by
  simp [isEvaluationOf, isEvaluation, evaluationRecord, isStr]

theorem normal_gateInputs (args : EvaluateArgs) : (gateInputs args.humanJson args).Normal := by
  apply Json.normal_dict
  intro p member
  simp only [List.mem_cons, List.not_mem_nil, or_false] at member
  rcases member with rfl | rfl | rfl | rfl
  · cases human : args.human with
    | none => simp [EvaluateArgs.humanJson, human, Json.Normal]
    | some h => simp [EvaluateArgs.humanJson, human]
  all_goals rfl

theorem proposal_isObj (args : EvaluateArgs) : args.proposalJson.isObj = true := by
  simp [EvaluateArgs.proposalJson, Json.norm_obj, Json.dict, Json.isObj]

theorem recordOf_entry (host : Host) (o : GovernedOrganism) {args : EvaluateArgs} (named : args.eventId ≠ "")
    (matched : Option InheritedConstraint) (receipt : String) :
    Entry (recordOf host o args matched receipt) :=
  .evaluation named (proposal_isObj args) (Json.normal_norm _) (normal_gateInputs args)

/-- The fields of a recorded evaluation that later operations read. -/
theorem evaluationRecord_fields (runtimeId eventId : String) (proposal inputs : Json) (decision : Decision)
    (reason : String) (matchedId : Option String) (receipt : String) :
    let item := evaluationRecord runtimeId eventId proposal inputs decision reason matchedId receipt
    item.get? "event_id" = some (.str eventId) ∧ item.get? "proposal" = some proposal ∧
    item.get? "decision" = some (.str decision.value) ∧ item.get? "reason" = some (.str reason) ∧
    item.get? "matched_constraint_id" = some (optionStr matchedId) ∧
    item.get? "receipt_hash" = some (.str receipt) := by
  simp [evaluationRecord]

/-- The source of an observation or an authorization is an evaluation of the lineage. -/
theorem evaluation_ok {o : GovernedOrganism} (entries : ∀ item ∈ o.lineage, Entry item)
    {eventId : String} {source : Json} (found : o.evaluation eventId = .ok source) :
    source ∈ o.lineage ∧ ∃ runtimeId proposal inputs decision reason matchedId receipt,
      source = evaluationRecord runtimeId eventId proposal inputs decision reason matchedId receipt ∧
      proposal.isObj = true ∧ proposal.Normal := by
  unfold evaluation at found
  split at found
  next item shape =>
    have member : item ∈ o.lineage.filter (isEvaluationOf eventId) := by simp [shape]
    obtain ⟨member, named⟩ := List.mem_filter.mp member
    have entry := entries item member
    rw [jsonClone_eq, entry.normal] at found
    obtain rfl := Except.ok.inj found
    refine ⟨member, ?_⟩
    cases entry with
    | evaluation _ mapping normal _ =>
      rw [isEvaluationOf_record, beq_iff_eq] at named
      subst named
      exact ⟨_, _, _, _, _, _, _, rfl, mapping, normal⟩
    | promoted c => simp [isEvaluationOf, isEvaluation_promoted] at named
  next => cases found

theorem evaluation_unique {o : GovernedOrganism} {eventId : String} {item : Json}
    (shape : o.lineage.filter (isEvaluationOf eventId) = [item]) (normal : item.Normal) :
    o.evaluation eventId = .ok item := by
  simp only [evaluation, shape, jsonClone_eq]
  rw [normal]

/-- An uncaused BLOCK evaluation can be observed under any of its keys. -/
theorem observe_record {o : GovernedOrganism} {runtimeId eventId generatorId : String}
    {proposal inputs : Json} {reason receipt : String} {causalKeys : List String}
    (found : o.evaluation eventId =
      .ok (evaluationRecord runtimeId eventId proposal inputs .block reason none receipt))
    (event : eventId ≠ "") (generator : generatorId ≠ "") (nonempty : matchOf proposal causalKeys ≠ []) :
    o.observeRejection host eventId generatorId causalKeys =
      .ok ⟨candidateIdOf host eventId receipt generatorId
          (canonicalJson (.dict (matchOf proposal causalKeys))) reason,
        eventId, receipt, generatorId, canonicalJson (.dict (matchOf proposal causalKeys)), reason⟩ := by
  obtain ⟨_, hasProposal, hasDecision, hasReason, hasMatched, hasReceipt⟩ :=
    evaluationRecord_fields runtimeId eventId proposal inputs .block reason none receipt
  simp only [observeRejection, guard_ok, bind_ok, pure_ok, getItem_ok, Bool.not_eq_true',
    Bool.not_eq_false, Bool.or_eq_true, beq_iff_eq, not_or, Json.pyEq_str]
  refine ⟨⟨event, generator⟩, _, found, _, hasDecision, rfl, ?_, _, hasProposal, ?_, _, hasReason, _,
    hasReceipt, rfl⟩
  · rw [hasMatched]
    rfl
  · simpa using nonempty

theorem authorize_record {o : GovernedOrganism} {candidate : ConstraintCandidate}
    {grant : AuthorizationGrant} {runtimeId : String} {proposal inputs : Json} {reason : String}
    {matchedId : Option String}
    (granted : o.verifyGrant host grant candidate.candidateId = .ok ())
    (apart : grant.principalId ≠ candidate.generatorId)
    (found : o.evaluation candidate.sourceEventId =
      .ok (evaluationRecord runtimeId candidate.sourceEventId proposal inputs .block reason matchedId
        candidate.sourceReceiptHash)) :
    o.authorizeConstraint host candidate grant =
      .ok (o.promote host candidate grant, markStateMutated { o with
        constraints := Dict.insert (o.promote host candidate grant).constraintId
          (o.promote host candidate grant) o.constraints
        lineage := o.lineage ++ [promotedRecord (o.promote host candidate grant)] }) := by
  obtain ⟨_, _, hasDecision, _, _, hasReceipt⟩ := evaluationRecord_fields runtimeId
    candidate.sourceEventId proposal inputs .block reason matchedId candidate.sourceReceiptHash
  have checked : o.checkCandidate host candidate grant = .ok () :=
    checkCandidate_ok.mpr ⟨granted, apart, _, found, hasDecision, hasReceipt⟩
  rw [authorizeConstraint, checked]
  rfl

theorem verifyGrant_signed {o : GovernedOrganism}
    {principalId secret candidateId : String}
    (known : Dict.get? principalId o.identity.authoritySecrets = some secret) :
    o.verifyGrant host ⟨principalId, authCapability, candidateId,
      hmacText host secret (grantPayload principalId authCapability candidateId)⟩ candidateId = .ok () := by
  simp only [verifyGrant, bne_self_eq_false, Bool.or_self, Bool.false_eq_true, if_false, known, hmacText,
    compareDigest_self, ok_bind, if_true]
  rfl

/-! ## What an observation attributes -/

theorem matchOf_mem {proposal : Json} {keys : List String} {p : String × Json}
    (member : p ∈ matchOf proposal keys) : proposal.get? p.1 = some p.2 := by
  obtain ⟨key, _, found⟩ := List.mem_filterMap.mp member
  cases has : proposal.get? key with
  | none => simp [has] at found
  | some v =>
    obtain rfl : (key, v) = p := by simpa [has] using found
    exact has

/-- The text of a nonempty attribution reads back as a nonempty part of the proposal. -/
theorem loads_matchOf {proposal : Json} (normal : proposal.Normal) {keys : List String}
    (nonempty : matchOf proposal keys ≠ []) : ∃ entries,
      JsonText.loads (canonicalJson (.dict (matchOf proposal keys))) = some (.obj entries) ∧
      entries ≠ [] ∧ ∀ p ∈ entries, proposal.get? p.1 = some p.2 := by
  have values : ∀ p ∈ matchOf proposal keys, p.2.Normal := by
    intro p member
    exact normal.get? (matchOf_mem member)
  have itself : (Json.dict (matchOf proposal keys)).norm = .dict (matchOf proposal keys) :=
    Json.normal_dict values
  refine ⟨Dict.ofPairs (matchOf proposal keys), ?_, Dict.ofPairs_ne_nil nonempty, ?_⟩
  · rw [loads_canonicalJson, itself]
    rfl
  · intro p member
    exact matchOf_mem (Dict.mem_ofPairs member)

end MatVerse.GovernedOrganism
