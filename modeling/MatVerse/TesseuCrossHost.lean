import MatVerse.OrganismInheritance

/-! Continuity across runtimes: one exported state restored on two runtimes and
driven alike. The semantic projection drops `runtime_id` and `receipt_hash` of an
item, but a promotion names a receipt and an id that depend on the runtime its
source was evaluated on. -/
namespace MatVerse.TesseuCrossHost

open Fallible GovernedOrganism

variable {host : Host}

/-- One item of `_semantic_lineage`. -/
def semanticItem (item : Json) : Json :=
  .obj (Dict.erase "receipt_hash" (Dict.erase "runtime_id" item.entries))

def semanticLineageHash (host : Host) (state : Mapping) : Except PyError String :=
  match Dict.get? "lineage" (Dict.ofPairs state) with
  | none => .ok (stableHash host (.arr []))
  | some (.arr items) => .ok (stableHash host (.arr (items.map semanticItem)))
  | some _ => .error (.valueError "state lineage must be a list")

theorem semanticLineageHash_export (host : Host) (o : GovernedOrganism) :
    semanticLineageHash host (o.exportState host).1 =
      .ok (stableHash host (.arr (o.lineage.map (fun item => semanticItem item.norm)))) := by
  have lineage : Dict.get? "lineage" (Dict.ofPairs (o.exportState host).1) =
      some (.arr (o.lineage.map Json.norm)) := by
    simp [exportState, statePayload]
  simp only [semanticLineageHash, lineage, List.map_map]
  rfl

/-! ## Driving an organism -/

/-- An operation by its arguments. A candidate is named by its place among the results
of the observations so far, and authorized by a principal who signs its id. -/
inductive DriveOp where
  | evaluate (args : EvaluateArgs)
  | observe (eventId generatorId : String) (causalKeys : List String)
  | authorize (index : Nat) (principalId secret : String)

/-- An organism with the results of the observations made on it. -/
structure Driven where
  organism : GovernedOrganism
  candidates : List (Option ConstraintCandidate)

def resultOf {α : Type} : Except PyError α → Option α
  | .ok a => some a
  | .error _ => none

/-- The accepted promotion, if the call is one and succeeds. -/
def accepted (host : Host) (d : Driven) : DriveOp → Option (ConstraintCandidate × GovernedOrganism)
  | .authorize index principalId secret => do
    let candidate ← (d.candidates[index]?).join
    let grant ← resultOf (signAuthorizationGrant host secret principalId candidate.candidateId)
    let (_, organism) ← resultOf (d.organism.authorizeConstraint host candidate grant)
    return (candidate, organism)
  | _ => none

def drive (host : Host) (d : Driven) (op : DriveOp) : Driven :=
  match op with
  | .evaluate args => { d with organism := (d.organism.apply host (.evaluate args)).2 }
  | .observe eventId generatorId causalKeys =>
    { d with candidates := d.candidates ++
        [resultOf (d.organism.observeRejection host eventId generatorId causalKeys)] }
  | .authorize index principalId secret =>
    match accepted host d (.authorize index principalId secret) with
    | some (_, organism) => { d with organism := organism }
    | none => d

/-- The decision and reason of an evaluation, or its exception. -/
def verdict (host : Host) (o : GovernedOrganism) (args : EvaluateArgs) : Except PyError (Decision × String) :=
  (o.evaluate host args).map (fun p => (p.1.decision, p.1.reason))

/-- An accepted promotion is of an event that the exported state had evaluated. -/
def PromotesExported (host : Host) (exported : List Json) (d : Driven) (op : DriveOp) : Prop :=
  ∀ p, accepted host d op = some p → exported.any (isEvaluationOf p.1.sourceEventId) = true

/-- The same operation on two organisms. -/
def Both (host : Host) (pair : Driven × Driven) (op : DriveOp) (next : Driven × Driven) : Prop :=
  next = (drive host pair.1 op, drive host pair.2 op)

/-- The same operation on two organisms, promotions being of exported events. -/
def Together (host : Host) (exported : List Json) (pair : Driven × Driven) (op : DriveOp)
    (next : Driven × Driven) : Prop :=
  PromotesExported host exported pair.1 op ∧ PromotesExported host exported pair.2 op ∧
  Both host pair op next

/-! ## The relation between the two organisms -/

/-- Items that agree but for the runtime and its receipt. -/
inductive SameMeaning : Json → Json → Prop where
  | refl (item : Json) : SameMeaning item item
  | evaluation {runtimeId runtimeId' eventId : String} {proposal inputs : Json} {decision : Decision}
      {reason : String} {matchedId : Option String} {receipt receipt' : String}
      (normal : proposal.Normal) (normalInputs : inputs.Normal) :
      SameMeaning
        (evaluationRecord runtimeId eventId proposal inputs decision reason matchedId receipt)
        (evaluationRecord runtimeId' eventId proposal inputs decision reason matchedId receipt')

theorem semanticItem_record (runtimeId runtimeId' eventId : String) (proposal inputs : Json)
    (decision : Decision) (reason : String) (matchedId : Option String) (receipt receipt' : String) :
    semanticItem (evaluationRecord runtimeId eventId proposal inputs decision reason matchedId receipt) =
      semanticItem
        (evaluationRecord runtimeId' eventId proposal inputs decision reason matchedId receipt') := rfl

theorem SameMeaning.semantic {x y : Json} (same : SameMeaning x y) :
    semanticItem x.norm = semanticItem y.norm := by
  cases same with
  | refl => rfl
  | evaluation normal normalInputs =>
    rw [normal_record normal normalInputs, normal_record normal normalInputs]
    exact semanticItem_record ..

theorem SameMeaning.isEvaluationOf {x y : Json} (same : SameMeaning x y) (eventId : String) :
    isEvaluationOf eventId x = isEvaluationOf eventId y := by
  cases same with
  | refl => rfl
  | evaluation => rw [isEvaluationOf_record, isEvaluationOf_record]

/-- The items of one event on the two sides: none, several, or one of the same meaning,
and the same item when the exported state has it. -/
theorem evaluation_alike {o p : GovernedOrganism} {exported la lb : List Json}
    (left : o.lineage = exported ++ la) (right : p.lineage = exported ++ lb)
    (alike : List.Forall₂ SameMeaning la lb) (eventId : String) :
    (∃ e, o.evaluation eventId = .error e ∧ p.evaluation eventId = .error e) ∨
    ∃ x y, o.evaluation eventId = .ok x.norm ∧ p.evaluation eventId = .ok y.norm ∧ SameMeaning x y ∧
      isEvaluationOf eventId x = true ∧ (exported.any (isEvaluationOf eventId) = true → x = y) := by
  have filtered : List.Forall₂ SameMeaning (la.filter (isEvaluationOf eventId))
      (lb.filter (isEvaluationOf eventId)) := by
    clear left right
    induction alike with
    | nil => exact .nil
    | cons same _ ih =>
      rw [List.filter_cons, List.filter_cons, same.isEvaluationOf]
      split_ifs
      · exact .cons same ih
      · exact ih
  simp only [evaluation, left, right, List.filter_append, jsonClone_eq]
  cases known : exported.filter (isEvaluationOf eventId) with
  | nil =>
    have unknown : ¬ exported.any (isEvaluationOf eventId) = true := by
      intro any
      obtain ⟨item, member, named⟩ := List.any_eq_true.mp any
      have : item ∈ exported.filter (isEvaluationOf eventId) := List.mem_filter.mpr ⟨member, named⟩
      simp [known] at this
    cases shape : la.filter (isEvaluationOf eventId) with
    | nil =>
      rw [shape] at filtered
      rw [List.forall₂_nil_left_iff.mp filtered]
      exact .inl ⟨_, rfl, rfl⟩
    | cons x rest =>
      rw [shape] at filtered
      obtain ⟨y, rest', same, tail, shape'⟩ := List.forall₂_cons_left_iff.mp filtered
      rw [shape']
      cases tail with
      | nil =>
        have named : x ∈ la.filter (isEvaluationOf eventId) := by simp [shape]
        exact .inr ⟨x, y, rfl, rfl, same, (List.mem_filter.mp named).2, fun any => absurd any unknown⟩
      | cons => exact .inl ⟨_, rfl, rfl⟩
  | cons x rest =>
    have named : x ∈ exported.filter (isEvaluationOf eventId) := by simp [known]
    cases rest with
    | cons => exact .inl ⟨_, rfl, rfl⟩
    | nil =>
      generalize la.filter (isEvaluationOf eventId) = fa at filtered
      generalize lb.filter (isEvaluationOf eventId) = fb at filtered
      cases filtered with
      | nil =>
        exact .inr ⟨x, x, rfl, rfl, .refl x, (List.mem_filter.mp named).2, fun _ => rfl⟩
      | cons => exact .inl ⟨_, rfl, rfl⟩

/-- Candidates of the same event, and equal when the exported state evaluated it. -/
inductive SameCandidate (exported : List Json) :
    Option ConstraintCandidate → Option ConstraintCandidate → Prop where
  | none : SameCandidate exported none none
  | some {c d : ConstraintCandidate} (source : c.sourceEventId = d.sourceEventId)
      (known : exported.any (isEvaluationOf c.sourceEventId) = true → c = d) :
      SameCandidate exported (some c) (some d)

structure Related (exported : List Json) (a b : Driven) : Prop where
  identity : ∃ runtimeId, a.organism.identity = Identity.moved b.organism.identity runtimeId
  constraints : a.organism.constraints = b.organism.constraints
  lineage : ∃ la lb, a.organism.lineage = exported ++ la ∧ b.organism.lineage = exported ++ lb ∧
    List.Forall₂ SameMeaning la lb
  candidates : List.Forall₂ (SameCandidate exported) a.candidates b.candidates

theorem observe_error {o : GovernedOrganism} {eventId generatorId : String} {causalKeys : List String}
    {e : PyError} (missing : o.evaluation eventId = .error e) :
    resultOf (o.observeRejection host eventId generatorId causalKeys) = none := by
  cases done : o.observeRejection host eventId generatorId causalKeys with
  | error => rfl
  | ok c =>
    obtain ⟨_, _, source, _, _, _, found, _⟩ := observe_ok done
    rw [missing] at found
    cases found

theorem isAbsent_optionStr {id : Option String} (absent : isAbsent (some (optionStr id)) = true) :
    id = none := by
  cases id with
  | none => rfl
  | some => simp [optionStr, isAbsent] at absent

/-- An observation of a record succeeds on the other runtime's record too. -/
theorem observe_record_alike {o p : GovernedOrganism} {runtimeId runtimeId' eventId generatorId : String}
    {proposal inputs : Json} {decision : Decision} {reason : String} {matchedId : Option String}
    {receipt receipt' : String} {causalKeys : List String} {c : ConstraintCandidate}
    (left : o.evaluation eventId =
      .ok (evaluationRecord runtimeId eventId proposal inputs decision reason matchedId receipt))
    (right : p.evaluation eventId =
      .ok (evaluationRecord runtimeId' eventId proposal inputs decision reason matchedId receipt'))
    (done : o.observeRejection host eventId generatorId causalKeys = .ok c) :
    ∃ d, p.observeRejection host eventId generatorId causalKeys = .ok d ∧
      c.sourceEventId = d.sourceEventId := by
  obtain ⟨event, generator, source, proposal', reason', receipt'', found, block, uncaused, hasProposal,
    nonempty, _, _, rfl⟩ := observe_ok done
  rw [left] at found
  obtain rfl := Except.ok.inj found
  obtain ⟨_, recProposal, recDecision, _, recMatched, _⟩ := evaluationRecord_fields runtimeId eventId
    proposal inputs decision reason matchedId receipt
  obtain rfl := Option.some.inj (recProposal.symm.trans hasProposal)
  obtain rfl : decision = .block :=
    Decision.value_injective (Json.str.inj (Option.some.inj (recDecision.symm.trans block)))
  rw [recMatched] at uncaused
  obtain rfl := isAbsent_optionStr uncaused
  exact ⟨_, observe_record right event generator nonempty, rfl⟩

/-! ## One operation keeps the relation -/

theorem SameCandidate.of_eq {exported : List Json} :
    (c : Option ConstraintCandidate) → SameCandidate exported c c
  | .none => .none
  | .some _ => .some rfl (fun _ => rfl)

theorem observe_congr (host : Host) {o p : GovernedOrganism} {eventId : String}
    (same : o.evaluation eventId = p.evaluation eventId) (generatorId : String) (causalKeys : List String) :
    o.observeRejection host eventId generatorId causalKeys =
      p.observeRejection host eventId generatorId causalKeys := by
  simp only [observeRejection, same]

theorem observe_alike {o p : GovernedOrganism} {exported la lb : List Json}
    (left : o.lineage = exported ++ la) (right : p.lineage = exported ++ lb)
    (alike : List.Forall₂ SameMeaning la lb) (eventId generatorId : String) (causalKeys : List String) :
    SameCandidate exported (resultOf (o.observeRejection host eventId generatorId causalKeys))
      (resultOf (p.observeRejection host eventId generatorId causalKeys)) := by
  rcases evaluation_alike left right alike eventId with
    ⟨e, missing, missing'⟩ | ⟨x, y, found, found', same, named, known⟩
  · rw [observe_error missing, observe_error missing']
    exact .none
  · cases same with
    | refl =>
      rw [observe_congr host (found.trans found'.symm)]
      exact .of_eq _
    | @evaluation runtimeId runtimeId' id proposal inputs decision reason matchedId receipt receipt' normal
        normalInputs =>
      rw [isEvaluationOf_record, beq_iff_eq] at named
      subst named
      rw [normal_record normal normalInputs] at found found'
      cases done : o.observeRejection host id generatorId causalKeys with
      | error e =>
        cases done' : p.observeRejection host id generatorId causalKeys with
        | error e' => exact .none
        | ok d =>
          obtain ⟨c, impossible, _⟩ := observe_record_alike found' found done'
          rw [done] at impossible
          cases impossible
      | ok c =>
        obtain ⟨d, done', source⟩ := observe_record_alike found found' done
        rw [done']
        refine .some source (fun any => ?_)
        have event : c.sourceEventId = id := by
          obtain ⟨_, _, _, _, _, _, _, _, _, _, _, _, _, rfl⟩ := observe_ok done
          rfl
        rw [event] at any
        have again := observe_congr host (found.trans (known any ▸ found'.symm)) generatorId causalKeys
        rw [done, done'] at again
        exact Except.ok.inj again

theorem Related.any {exported : List Json} {a b : Driven} (related : Related exported a b)
    (eventId : String) : a.organism.lineage.any (isEvaluationOf eventId) =
      b.organism.lineage.any (isEvaluationOf eventId) := by
  obtain ⟨la, lb, left, right, alike⟩ := related.lineage
  rw [left, right, List.any_append, List.any_append]
  congr 1
  clear left right
  induction alike with
  | nil => rfl
  | cons same _ ih => rw [List.any_cons, List.any_cons, same.isEvaluationOf, ih]

theorem Related.admission {exported : List Json} {a b : Driven} (related : Related exported a b)
    (args : EvaluateArgs) : admission a.organism.lineage a.organism.constraints args =
      admission b.organism.lineage b.organism.constraints args := by
  simp only [GovernedOrganism.admission, related.any, related.constraints]

theorem recordEvaluation_verdict (host : Host) (o : GovernedOrganism) (args : EvaluateArgs)
    (matched : Option InheritedConstraint) :
    let r := (o.recordEvaluation host args args.proposalJson args.humanJson matched).1
    let gate := gateDecision host matched args.proposalJson args.humanJson args
    r.decision = gate.1 ∧ r.reason = gate.2.1 := ⟨rfl, rfl⟩

theorem Related.verdict {exported : List Json} {a b : Driven} (related : Related exported a b)
    (args : EvaluateArgs) : verdict host a.organism args = verdict host b.organism args := by
  simp only [TesseuCrossHost.verdict, evaluate_eq, related.admission]
  cases GovernedOrganism.admission b.organism.lineage b.organism.constraints args with
  | error e => simp only [Except.map]
  | ok matched =>
    obtain ⟨decision, reason⟩ := recordEvaluation_verdict host a.organism args matched
    obtain ⟨decision', reason'⟩ := recordEvaluation_verdict host b.organism args matched
    simp only [Except.map, decision, reason, decision', reason']

theorem Related.appended {exported : List Json} {a b : Driven} (related : Related exported a b)
    {x y : Json} (same : SameMeaning x y) :
    ∃ la lb, a.organism.lineage ++ [x] = exported ++ la ∧ b.organism.lineage ++ [y] = exported ++ lb ∧
      List.Forall₂ SameMeaning la lb := by
  obtain ⟨la, lb, left, right, alike⟩ := related.lineage
  refine ⟨la ++ [x], lb ++ [y], by rw [left, List.append_assoc], by rw [right, List.append_assoc], ?_⟩
  exact List.rel_append alike (.cons same .nil)

theorem Related.evaluate {exported : List Json} {a b : Driven} (related : Related exported a b)
    (args : EvaluateArgs) :
    Related exported (drive host a (.evaluate args)) (drive host b (.evaluate args)) := by
  have admits := related.admission args
  simp only [drive, apply, evaluate_eq, admits]
  cases GovernedOrganism.admission b.organism.lineage b.organism.constraints args with
  | error e => exact related
  | ok matched =>
    have left := recordEvaluation_state host a.organism args matched
    have right := recordEvaluation_state host b.organism args matched
    constructor
    · obtain ⟨runtimeId, identity⟩ := related.identity
      exact ⟨runtimeId, left.identity.trans (identity.trans
        (congrArg (Identity.moved · runtimeId) right.identity.symm))⟩
    · exact left.constraints.trans (related.constraints.trans right.constraints.symm)
    · simp only [Except.map]
      rw [left.lineage, right.lineage]
      exact related.appended (.evaluation (Json.normal_norm _) (normal_gateInputs args))
    · exact related.candidates

theorem Related.observe {exported : List Json} {a b : Driven} (related : Related exported a b)
    (eventId generatorId : String) (causalKeys : List String) :
    Related exported (drive host a (.observe eventId generatorId causalKeys))
      (drive host b (.observe eventId generatorId causalKeys)) := by
  obtain ⟨la, lb, left, right, alike⟩ := related.lineage
  refine ⟨related.identity, related.constraints, related.lineage, ?_⟩
  exact List.rel_append related.candidates
    (.cons (observe_alike left right alike eventId generatorId causalKeys) .nil)

theorem candidate_alike {exported : List Json} {cs ds : List (Option ConstraintCandidate)}
    (alike : List.Forall₂ (SameCandidate exported) cs ds) (index : Nat) :
    SameCandidate exported (cs[index]?).join (ds[index]?).join := by
  induction alike generalizing index with
  | nil => exact .none
  | cons head _ ih =>
    cases index with
    | zero => exact head
    | succ index => exact ih index

theorem promote_moved {o p : GovernedOrganism} {runtimeId : String}
    (identity : o.identity = Identity.moved p.identity runtimeId) (candidate : ConstraintCandidate)
    (grant : AuthorizationGrant) : o.promote host candidate grant = p.promote host candidate grant := by
  simp only [promote, identity, Identity.moved]

/-- A candidate whose source the exported state has is checked alike. -/
theorem Related.checkCandidate {exported : List Json} {a b : Driven} (related : Related exported a b)
    {candidate : ConstraintCandidate} (known : exported.any (isEvaluationOf candidate.sourceEventId) = true)
    (grant : AuthorizationGrant) :
    a.organism.checkCandidate host candidate grant = b.organism.checkCandidate host candidate grant := by
  obtain ⟨la, lb, left, right, alike⟩ := related.lineage
  have source : a.organism.evaluation candidate.sourceEventId =
      b.organism.evaluation candidate.sourceEventId := by
    rcases evaluation_alike left right alike candidate.sourceEventId with
      ⟨e, missing, missing'⟩ | ⟨x, y, found, found', _, _, equal⟩
    · rw [missing, missing']
    · rw [found, found', equal known]
  obtain ⟨runtimeId, identity⟩ := related.identity
  simp only [GovernedOrganism.checkCandidate, verifyGrant, source, identity, Identity.moved]

theorem drive_rejected {d : Driven} {index : Nat} {principalId secret : String}
    (rejected : accepted host d (.authorize index principalId secret) = none) :
    drive host d (.authorize index principalId secret) = d := by
  simp only [drive, rejected]

theorem accepted_missing {d : Driven} {index : Nat} (missing : (d.candidates[index]?).join = none)
    (principalId secret : String) : accepted host d (.authorize index principalId secret) = none := by
  simp only [accepted, missing]
  rfl

/-- A signed candidate is accepted when its check passes, and promoted. -/
theorem accepted_eq {d : Driven} {index : Nat} {candidate : ConstraintCandidate}
    (present : (d.candidates[index]?).join = some candidate) (principalId secret : String) :
    accepted host d (.authorize index principalId secret) =
      match signAuthorizationGrant host secret principalId candidate.candidateId with
      | .error _ => none
      | .ok grant =>
        match d.organism.checkCandidate host candidate grant with
        | .error _ => none
        | .ok _ => some (candidate, markStateMutated { d.organism with
            constraints := Dict.insert (d.organism.promote host candidate grant).constraintId
              (d.organism.promote host candidate grant) d.organism.constraints
            lineage := d.organism.lineage ++ [promotedRecord (d.organism.promote host candidate grant)] }) := by
  simp only [accepted, present, Option.bind_eq_bind, Option.bind_some]
  cases signAuthorizationGrant host secret principalId candidate.candidateId with
  | error e => rfl
  | ok grant =>
    simp only [resultOf, Option.bind_some, authorizeConstraint]
    cases d.organism.checkCandidate host candidate grant with
    | error e => rfl
    | ok _ => rfl

theorem accepted_candidate {d : Driven} {index : Nat} {principalId secret : String}
    {p : ConstraintCandidate × GovernedOrganism}
    (outcome : accepted host d (.authorize index principalId secret) = some p) :
    (d.candidates[index]?).join = some p.1 := by
  cases present : (d.candidates[index]?).join with
  | none =>
    rw [accepted_missing present] at outcome
    cases outcome
  | some candidate =>
    rw [accepted_eq present] at outcome
    split at outcome
    · cases outcome
    · split at outcome
      · cases outcome
      · cases outcome
        rfl

/-- Where only exported events are promoted, a candidate of another event is not accepted. -/
theorem rejected_unknown {exported : List Json} {d : Driven} {index : Nat} {principalId secret : String}
    (promotes : PromotesExported host exported d (.authorize index principalId secret))
    {candidate : ConstraintCandidate} (present : (d.candidates[index]?).join = some candidate)
    (unknown : ¬ exported.any (isEvaluationOf candidate.sourceEventId) = true) :
    accepted host d (.authorize index principalId secret) = none := by
  cases outcome : accepted host d (.authorize index principalId secret) with
  | none => rfl
  | some p =>
    obtain rfl := Option.some.inj ((accepted_candidate outcome).symm.trans present)
    exact absurd (promotes p outcome) unknown

theorem Related.promoted {exported : List Json} {a b : Driven} (related : Related exported a b)
    (c : InheritedConstraint) :
    Related exported
      { a with organism := markStateMutated { a.organism with
          constraints := Dict.insert c.constraintId c a.organism.constraints
          lineage := a.organism.lineage ++ [promotedRecord c] } }
      { b with organism := markStateMutated { b.organism with
          constraints := Dict.insert c.constraintId c b.organism.constraints
          lineage := b.organism.lineage ++ [promotedRecord c] } } := by
  refine ⟨related.identity, ?_, related.appended (.refl _), related.candidates⟩
  simp only [mark_constraints, related.constraints]

theorem Related.authorize {exported : List Json} {a b : Driven} (related : Related exported a b)
    {index : Nat} {principalId secret : String}
    (left : PromotesExported host exported a (.authorize index principalId secret))
    (right : PromotesExported host exported b (.authorize index principalId secret)) :
    Related exported (drive host a (.authorize index principalId secret))
      (drive host b (.authorize index principalId secret)) := by
  have alike := candidate_alike related.candidates index
  cases inA : (a.candidates[index]?).join with
  | none =>
    rw [inA] at alike
    generalize inB : (b.candidates[index]?).join = found at alike
    cases alike
    rw [drive_rejected (accepted_missing inA ..), drive_rejected (accepted_missing inB ..)]
    exact related
  | some c =>
    rw [inA] at alike
    generalize inB : (b.candidates[index]?).join = found at alike
    cases alike with
    | @some _ d source known =>
      by_cases any : exported.any (isEvaluationOf c.sourceEventId) = true
      · obtain rfl := known any
        obtain ⟨runtimeId, identity⟩ := related.identity
        simp only [drive, accepted_eq inA, accepted_eq inB, related.checkCandidate any,
          promote_moved identity]
        cases signAuthorizationGrant host secret principalId c.candidateId with
        | error e => exact related
        | ok grant =>
          cases checked : b.organism.checkCandidate host c grant with
          | error e => simpa only [checked] using related
          | ok _ => simpa only [checked] using related.promoted (b.organism.promote host c grant)
      · rw [drive_rejected (rejected_unknown left inA any),
          drive_rejected (rejected_unknown right inB (source ▸ any))]
        exact related

theorem Related.step {exported : List Json} {pair next : Driven × Driven} {op : DriveOp}
    (related : Related exported pair.1 pair.2) (together : Together host exported pair op next) :
    Related exported next.1 next.2 := by
  obtain ⟨left, right, rfl⟩ := together
  cases op with
  | evaluate args => exact related.evaluate args
  | observe eventId generatorId causalKeys => exact related.observe eventId generatorId causalKeys
  | authorize index principalId secret => exact related.authorize left right

theorem Related.semantic {exported : List Json} {a b : Driven} (related : Related exported a b) :
    semanticLineageHash host (a.organism.exportState host).1 =
      semanticLineageHash host (b.organism.exportState host).1 := by
  obtain ⟨la, lb, left, right, alike⟩ := related.lineage
  have items : la.map (fun item => semanticItem item.norm) = lb.map (fun item => semanticItem item.norm) := by
    clear left right
    induction alike with
    | nil => rfl
    | cons same _ ih => rw [List.map_cons, List.map_cons, same.semantic, ih]
  rw [semanticLineageHash_export, semanticLineageHash_export, left, right, List.map_append,
    List.map_append, items]

/-! ## The two restored organisms -/

/-- Restoring constraints depends on the runtime in the identity only. -/
theorem restoreConstraints_moved (host : Host) (o : GovernedOrganism) (runtimeId : String)
    (items : List Json) :
    { o with identity := Identity.moved o.identity runtimeId }.restoreConstraints host items =
      (o.restoreConstraints host items).map
        (fun p => { p with identity := Identity.moved p.identity runtimeId }) := by
  induction items generalizing o with
  | nil => rfl
  | cons raw rest ih =>
    simp only [restoreConstraints]
    cases InheritedConstraint.ofJson raw with
    | error e => rfl
    | ok c =>
      have same : { o with identity := Identity.moved o.identity runtimeId }.validateConstraint host c =
          o.validateConstraint host c := rfl
      simp only [ok_bind, same]
      cases o.validateConstraint host c with
      | error e => rfl
      | ok _ => exact ih { o with constraints := Dict.insert c.constraintId c o.constraints }

theorem restore_ok {o o' : GovernedOrganism} {state : Mapping} (done : o.restore host state = .ok o') :
    ∃ items p lineage, listField (.obj (Dict.erase "state_root" (Dict.erase "state_mac"
        (jsonClone (.obj state)).entries))) "constraints" = .ok items ∧
      listField (.obj (Dict.erase "state_root" (Dict.erase "state_mac"
        (jsonClone (.obj state)).entries))) "lineage" = .ok lineage ∧
      o.restoreConstraints host items = .ok p ∧
      SameState o' { p with lineage := lineage.map jsonClone } := by
  simp only [restore, guard_ok, bind_ok, pure_ok] at done
  obtain ⟨_, _, _, _, _, _, items, hasItems, p, rebuilt, lineage, hasLineage, _, _, _, rfl⟩ := done
  exact ⟨items, p, lineage, hasItems, hasLineage, rebuilt,
    stateRoot_identity _, stateRoot_constraints _, stateRoot_lineage _⟩

/-- Two organisms restored from one state differ in the runtime alone. -/
theorem related_restored {organismId contract runtimeA runtimeB stateSecret : String}
    {secrets : List (String × String)} {state : Mapping} {a b : GovernedOrganism}
    (madeA : create host organismId contract runtimeA stateSecret secrets (some state) = .ok a)
    (madeB : create host organismId contract runtimeB stateSecret secrets (some state) = .ok b) :
    a.lineage = b.lineage ∧ Related a.lineage ⟨a, []⟩ ⟨b, []⟩ := by
  simp only [create, guard_ok, bind_ok] at madeA madeB
  obtain ⟨_, _, contractHash, bound, restoredA⟩ := madeA
  obtain ⟨_, _, contractHash', bound', restoredB⟩ := madeB
  obtain rfl := Except.ok.inj (bound.symm.trans bound')
  obtain ⟨items, p, lineage, hasItems, hasLineage, rebuilt, sameA⟩ := restore_ok restoredA
  obtain ⟨items', q, lineage', hasItems', hasLineage', rebuilt', sameB⟩ := restore_ok restoredB
  obtain rfl := Except.ok.inj (hasItems.symm.trans hasItems')
  obtain rfl := Except.ok.inj (hasLineage.symm.trans hasLineage')
  have moved := restoreConstraints_moved host (blank ⟨organismId, runtimeB, contract, stateSecret,
    Dict.ofPairs secrets, MatVerse.gateFingerprint host, contractHash⟩) runtimeA items
  have p_eq : p = { q with identity := Identity.moved q.identity runtimeA } := by
    rw [rebuilt'] at moved
    exact Except.ok.inj (rebuilt.symm.trans moved)
  subst p_eq
  have lineages : a.lineage = b.lineage := sameA.lineage.trans sameB.lineage.symm
  refine ⟨lineages, ⟨runtimeA, ?_⟩, sameA.constraints.trans sameB.constraints.symm,
    ⟨[], [], by simp, by simp [lineages], .nil⟩, .nil⟩
  exact sameA.identity.trans (congrArg (Identity.moved · runtimeA) sameB.identity.symm)

/-- While every accepted promotion is of an event evaluated before the export, two
organisms restored from one state on different runtimes decide alike and keep one
semantic lineage, whatever operations are made on both. -/
theorem semantic_continuity {organismId contract runtimeA runtimeB stateSecret : String}
    {secrets : List (String × String)} {state : Mapping} {a b : GovernedOrganism}
    (madeA : create host organismId contract runtimeA stateSecret secrets (some state) = .ok a)
    (madeB : create host organismId contract runtimeB stateSecret secrets (some state) = .ok b)
    {ops : List DriveOp} {after : Driven × Driven}
    (run : Run (Together host a.lineage) (⟨a, []⟩, ⟨b, []⟩) ops after) :
    semanticLineageHash host (after.1.organism.exportState host).1 =
        semanticLineageHash host (after.2.organism.exportState host).1 ∧
      ∀ args, verdict host after.1.organism args = verdict host after.2.organism args := by
  have related : Related a.lineage after.1 after.2 :=
    run.invariant (fun pair => Related a.lineage pair.1 pair.2)
      (fun _ _ _ related together => related.step together) (related_restored madeA madeB).2
  exact ⟨related.semantic, related.verdict⟩

/-! ## An event evaluated and promoted after the export -/

section
variable (host : Host)

/-- A restored organism that has evaluated nothing yet. -/
structure Fork (runtimeId : String) (o : GovernedOrganism) : Prop where
  identity : o.identity = Identity.moved (sample host).identity runtimeId
  constraints : o.constraints = []
  lineage : o.lineage = []

theorem create_fork (runtimeId : String) (named : runtimeId ≠ "") :
    ∃ o, create host "organism" sampleContract runtimeId "state-secret" sampleSecrets
      (some ((sample host).exportState host).1) = .ok o ∧ Fork host runtimeId o := by
  obtain ⟨_, _, restores⟩ := create_restores (create_sample host) named ((sample host).exportState host).1
  have valid : Valid host (sample host) := valid_blank _
  obtain ⟨o, restored, same, _⟩ := restore_export valid runtimeId
  exact ⟨o, restores.trans restored, same.identity, same.constraints, same.lineage⟩

def driveSample : List DriveOp :=
  [.evaluate sampleArgs, .observe "event" "generator" ["action"],
    .authorize 0 "authority" "authority-secret"]

/-- The promotion names the receipt of the evaluation it follows. -/
theorem fork_driven {runtimeId : String} {o : GovernedOrganism} (fork : Fork host runtimeId o)
    (nonempty : ∀ v, stableHash host v ≠ "") :
    let blocked := o.recordEvaluation host sampleArgs sampleArgs.proposalJson sampleArgs.humanJson none
    ∃ c, (driveSample.foldl (drive host) ⟨o, []⟩).organism.lineage =
        [recordOf host o sampleArgs none blocked.1.evidence.receiptHash, promotedRecord c] ∧
      c.sourceReceiptHash = blocked.1.evidence.receiptHash := by
  intro blocked
  have evaluated : o.evaluate host sampleArgs = .ok blocked :=
    evaluate_record (by decide) (by rw [fork.lineage]; rfl) (by rw [fork.constraints]; rfl)
  have same : SameState blocked.2
      { o with lineage := [recordOf host o sampleArgs none blocked.1.evidence.receiptHash] } := by
    have after := recordEvaluation_state host o sampleArgs none
    simpa [fork.lineage] using after
  have found : blocked.2.evaluation "event" =
      .ok (recordOf host o sampleArgs none blocked.1.evidence.receiptHash) := by
    apply evaluation_unique
    · rw [same.lineage]
      simp [recordOf, isEvaluationOf_record, sampleArgs]
    · exact (recordOf_entry host o (by decide) none _).normal
  obtain ⟨candidate, observed, source, receipt, generator, named⟩ : ∃ candidate,
      blocked.2.observeRejection host "event" "generator" ["action"] = .ok candidate ∧
      candidate.sourceEventId = "event" ∧
      candidate.sourceReceiptHash = blocked.1.evidence.receiptHash ∧
      candidate.generatorId = "generator" ∧ candidate.candidateId ≠ "" :=
    ⟨_, observe_record found (by decide) (by decide) (by decide), rfl, rfl, rfl, nonempty _⟩
  have signed : signAuthorizationGrant host "authority-secret" "authority" candidate.candidateId =
      .ok ⟨"authority", authCapability, candidate.candidateId, hmacText host "authority-secret"
        (grantPayload "authority" authCapability candidate.candidateId)⟩ := by
    simp [signAuthorizationGrant, named]
  have secret : Dict.get? "authority" blocked.2.identity.authoritySecrets = some "authority-secret" := by
    rw [same.identity, fork.identity]
    rfl
  have checked : blocked.2.checkCandidate host candidate ⟨"authority", authCapability,
      candidate.candidateId, hmacText host "authority-secret"
        (grantPayload "authority" authCapability candidate.candidateId)⟩ = .ok () := by
    obtain ⟨_, _, decision, _, _, hasReceipt⟩ := evaluationRecord_fields o.identity.runtimeId "event"
      sampleArgs.proposalJson (gateInputs sampleArgs.humanJson sampleArgs) .block "ontology violation" none
      blocked.1.evidence.receiptHash
    refine checkCandidate_ok.mpr ⟨verifyGrant_signed secret, by simp [generator], _,
      by rw [source]; exact found, decision, ?_⟩
    rw [receipt]
    exact hasReceipt
  have afterEvaluation : drive host ⟨o, []⟩ (.evaluate sampleArgs) = ⟨blocked.2, []⟩ := by
    simp only [drive, apply, evaluated]
  have afterObservation : drive host ⟨blocked.2, []⟩ (.observe "event" "generator" ["action"]) =
      ⟨blocked.2, [some candidate]⟩ := by
    simp only [drive, observed, resultOf, List.nil_append]
  have present : (([some candidate] : List (Option ConstraintCandidate))[0]?).join = some candidate := rfl
  have authorized : accepted host ⟨blocked.2, [some candidate]⟩
      (.authorize 0 "authority" "authority-secret") = _ := accepted_eq present _ _
  simp only [signed, checked] at authorized
  refine ⟨blocked.2.promote host candidate ⟨"authority", authCapability, candidate.candidateId,
    hmacText host "authority-secret" (grantPayload "authority" authCapability candidate.candidateId)⟩, ?_,
    receipt⟩
  simp only [driveSample, List.foldl_cons, List.foldl_nil, afterEvaluation, afterObservation]
  simp only [drive, authorized, mark_lineage, same.lineage, List.singleton_append]

theorem evaluation_receipt (o : GovernedOrganism) (args : EvaluateArgs)
    (matched : Option InheritedConstraint) :
    let gate := gateDecision host matched args.proposalJson args.humanJson args
    (o.recordEvaluation host args args.proposalJson args.humanJson matched).1.evidence =
      evidenceReceipt host "ORGANISM_EVALUATION"
        (o.eventCore args.eventId args.proposalJson (gateInputs args.humanJson args) gate.1 gate.2.1 gate.2.2
          (o.stateRoot host).1)
        (.dict [("decision", .str gate.1.value), ("reason", .str gate.2.1)]) := by
  simp only [recordEvaluation, eventCore, stateRoot_identity]

/-- The receipt of an evaluation commits to the runtime. -/
theorem receipt_runtime (free : host.CollisionFree) {o p : GovernedOrganism} (args : EvaluateArgs)
    {matched matched' : Option InheritedConstraint}
    (same : (o.recordEvaluation host args args.proposalJson args.humanJson matched).1.evidence.receiptHash =
      (p.recordEvaluation host args args.proposalJson args.humanJson matched').1.evidence.receiptHash) :
    o.identity.runtimeId = p.identity.runtimeId := by
  rw [evaluation_receipt, evaluation_receipt] at same
  obtain ⟨_, inputs, _⟩ := evidenceReceipt_injective free same
  have field := congrArg (Json.get? "runtime_id") inputs
  simpa [eventCore] using field

theorem semanticItem_promoted (c : InheritedConstraint) :
    semanticItem (promotedRecord c) = promotedRecord c := rfl

/-- Forks on two runtimes that evaluate, observe and promote one event end with two
semantic lineages. -/
theorem fork_diverges (free : host.CollisionFree) (nonempty : ∀ v, stableHash host v ≠ "")
    {runtimeA runtimeB : String} (apart : runtimeA ≠ runtimeB) {a b : GovernedOrganism}
    (forkA : Fork host runtimeA a) (forkB : Fork host runtimeB b) :
    semanticLineageHash host ((driveSample.foldl (drive host) ⟨a, []⟩).organism.exportState host).1 ≠
      semanticLineageHash host ((driveSample.foldl (drive host) ⟨b, []⟩).organism.exportState host).1 := by
  obtain ⟨c, lineageA, receiptA⟩ := fork_driven host forkA nonempty
  obtain ⟨d, lineageB, receiptB⟩ := fork_driven host forkB nonempty
  rw [semanticLineageHash_export, semanticLineageHash_export, lineageA, lineageB]
  intro same
  have items := stableHash_injective free (Except.ok.inj same)
  have promotions : promotedRecord c = promotedRecord d := by
    have normal (e : InheritedConstraint) : (promotedRecord e).norm = promotedRecord e :=
      (Entry.promoted e).normal
    simp only [List.map_cons, List.map_nil, semanticItem_promoted, Json.norm_arr, normal, Json.arr.injEq,
      List.cons.injEq] at items
    exact items.2.1
  have receipts : c.sourceReceiptHash = d.sourceReceiptHash := by
    have field := congrArg (Json.get? "source_receipt_hash") promotions
    simpa [promotedRecord] using field
  rw [receiptA, receiptB] at receipts
  have runtimes := receipt_runtime host free sampleArgs receipts
  rw [forkA.identity, forkB.identity] at runtimes
  exact apart runtimes

end

/-- Two runtimes that restore one export, then evaluate, observe and promote the same
event, end with different semantic lineages. -/
theorem promotion_after_export_diverges :
    hexHost.CollisionFree ∧
    create hexHost "organism" sampleContract "runtime" "state-secret" sampleSecrets none =
      .ok (sample hexHost) ∧
    ∃ a b after,
      create hexHost "organism" sampleContract "runtime-a" "state-secret" sampleSecrets
        (some ((sample hexHost).exportState hexHost).1) = .ok a ∧
      create hexHost "organism" sampleContract "runtime-b" "state-secret" sampleSecrets
        (some ((sample hexHost).exportState hexHost).1) = .ok b ∧
      Run (Both hexHost) (⟨a, []⟩, ⟨b, []⟩) driveSample after ∧
      semanticLineageHash hexHost (after.1.organism.exportState hexHost).1 ≠
        semanticLineageHash hexHost (after.2.organism.exportState hexHost).1 := by
  obtain ⟨a, madeA, forkA⟩ := create_fork hexHost "runtime-a" (by decide)
  obtain ⟨b, madeB, forkB⟩ := create_fork hexHost "runtime-b" (by decide)
  exact ⟨hexHost_collisionFree, create_sample hexHost, a, b, _, madeA, madeB,
    .cons rfl (.cons rfl (.cons rfl .nil)),
    fork_diverges hexHost hexHost_collisionFree hexHost_stableHash_ne_empty (by decide) forkA forkB⟩

/-- Candidates of exported events alone are promoted. -/
theorem promotes_known {exported : List Json} {d : Driven}
    (known : ∀ c, some c ∈ d.candidates → exported.any (isEvaluationOf c.sourceEventId) = true)
    (op : DriveOp) : PromotesExported host exported d op := by
  intro p outcome
  cases op with
  | evaluate => cases outcome
  | observe => cases outcome
  | authorize index principalId secret =>
    exact known p.1 (List.mem_of_getElem? (Option.join_eq_some_iff.mp (accepted_candidate outcome)))

theorem create_blocked (host : Host) (runtimeId : String) (named : runtimeId ≠ "") :
    ∃ o, create host "organism" sampleContract runtimeId "state-secret" sampleSecrets
      (some ((sampleBlocked host).2.exportState host).1) = .ok o ∧
      o.lineage.any (isEvaluationOf "event") = true := by
  obtain ⟨_, _, restores⟩ :=
    create_restores (create_sample host) named ((sampleBlocked host).2.exportState host).1
  have initial : Valid host (sample host) := valid_blank _
  obtain ⟨o, restored, same, _⟩ := restore_export (initial.step (calls_sample host)) runtimeId
  rw [(sampleBlocked_state host).identity] at restored
  refine ⟨o, restores.trans restored, ?_⟩
  rw [same.lineage, (sampleBlocked_state host).lineage]
  simp [isEvaluationOf_record]

/-- An event evaluated before the export is observed and promoted on both runtimes. -/
theorem semantic_continuity_sample : ∃ a b after,
    create hexHost "organism" sampleContract "runtime-a" "state-secret" sampleSecrets
      (some ((sampleBlocked hexHost).2.exportState hexHost).1) = .ok a ∧
    create hexHost "organism" sampleContract "runtime-b" "state-secret" sampleSecrets
      (some ((sampleBlocked hexHost).2.exportState hexHost).1) = .ok b ∧
    Run (Both hexHost) (⟨a, []⟩, ⟨b, []⟩)
      [.observe "event" "generator" ["action"], .authorize 0 "authority" "authority-secret"] after ∧
    semanticLineageHash hexHost (after.1.organism.exportState hexHost).1 =
      semanticLineageHash hexHost (after.2.organism.exportState hexHost).1 ∧
    ∀ args, verdict hexHost after.1.organism args = verdict hexHost after.2.organism args := by
  obtain ⟨a, madeA, exported⟩ := create_blocked hexHost "runtime-a" (by decide)
  obtain ⟨b, madeB, _⟩ := create_blocked hexHost "runtime-b" (by decide)
  have observes (o : GovernedOrganism) :
      PromotesExported hexHost a.lineage ⟨o, []⟩ (.observe "event" "generator" ["action"]) :=
    promotes_known (by simp) _
  have promotes (o : GovernedOrganism) : PromotesExported hexHost a.lineage
      (drive hexHost ⟨o, []⟩ (.observe "event" "generator" ["action"]))
      (.authorize 0 "authority" "authority-secret") := by
    apply promotes_known
    intro c member
    have done : resultOf (o.observeRejection hexHost "event" "generator" ["action"]) = some c := by
      simpa [drive, eq_comm] using member
    cases outcome : o.observeRejection hexHost "event" "generator" ["action"] with
    | error e => simp [outcome, resultOf] at done
    | ok candidate =>
      obtain rfl : candidate = c := by simpa [outcome, resultOf] using done
      obtain ⟨_, _, _, _, _, _, _, _, _, _, _, _, _, rfl⟩ := observe_ok outcome
      exact exported
  exact ⟨a, b, _, madeA, madeB, .cons rfl (.cons rfl .nil), semantic_continuity madeA madeB
    (.cons ⟨observes a, observes b, rfl⟩ (.cons ⟨promotes a, promotes b, rfl⟩ .nil))⟩

end MatVerse.TesseuCrossHost
