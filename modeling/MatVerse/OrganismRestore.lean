import MatVerse.OrganismProvenance

/-! Export and restoration. Every state that operations build passes the checks of
`_restore`, and the restored organism answers every further call as the original. -/
namespace MatVerse.GovernedOrganism

open Fallible

variable {host : Host}

/-! ## The invariant that restoration checks -/

def evaluationId (item : Json) : Option String :=
  if isEvaluation item then
    match item.get? "event_id" with
    | some (.str eventId) => some eventId
    | _ => none
  else none

structure Valid (host : Host) (o : GovernedOrganism) : Prop where
  entries : ∀ item ∈ o.lineage, Entry item
  distinct : (o.lineage.filterMap evaluationId).Nodup
  sorted : Dict.Sorted o.constraints
  admitted : ∀ p ∈ o.constraints, p.1 = p.2.constraintId ∧ o.validateConstraint host p.2 = .ok ()
  coherent : Coherent host o

theorem evaluationId_record (runtimeId eventId : String) (proposal inputs : Json) (decision : Decision)
    (reason : String) (matchedId : Option String) (receipt : String) :
    evaluationId (evaluationRecord runtimeId eventId proposal inputs decision reason matchedId receipt) =
      some eventId := by
  simp [evaluationId, isEvaluation, evaluationRecord, isStr]

theorem evaluationId_promoted (c : InheritedConstraint) : evaluationId (promotedRecord c) = none := by
  simp [evaluationId, isEvaluation_promoted]

theorem evaluationId_of_any {lineage : List Json} (entries : ∀ item ∈ lineage, Entry item)
    {eventId : String} (fresh : lineage.any (isEvaluationOf eventId) = false) :
    eventId ∉ lineage.filterMap evaluationId := by
  intro member
  obtain ⟨item, inside, named⟩ := List.mem_filterMap.mp member
  have unused := List.any_eq_false.mp fresh item inside
  cases entries item inside with
  | evaluation =>
    rw [evaluationId_record] at named
    rw [isEvaluationOf_record] at unused
    simp [Option.some.inj named] at unused
  | promoted c => simp [evaluationId_promoted] at named

theorem validateConstraint_congr {o p : GovernedOrganism} (same : o.identity = p.identity)
    (c : InheritedConstraint) : o.validateConstraint host c = p.validateConstraint host c := by
  simp only [validateConstraint, verifyGrant, same]

theorem Valid.of_same {o p : GovernedOrganism} (same : SameState o p) (coherent : Coherent host o)
    (entries : ∀ item ∈ p.lineage, Entry item) (distinct : (p.lineage.filterMap evaluationId).Nodup)
    (sorted : Dict.Sorted p.constraints)
    (admitted : ∀ q ∈ p.constraints, q.1 = q.2.constraintId ∧ p.validateConstraint host q.2 = .ok ()) :
    Valid host o := by
  constructor
  · rwa [same.lineage]
  · rwa [same.lineage]
  · rwa [same.constraints]
  · rw [same.constraints]
    intro q member
    rw [validateConstraint_congr same.identity]
    exact admitted q member
  · exact coherent

/-- What authorization stores passes the checks that restoration makes. -/
theorem promote_valid {o : GovernedOrganism} {candidate : ConstraintCandidate} {grant : AuthorizationGrant}
    (granted : o.verifyGrant host grant candidate.candidateId = .ok ())
    (apart : grant.principalId ≠ candidate.generatorId) :
    o.validateConstraint host (o.promote host candidate grant) = .ok () := by
  obtain ⟨principalId, capability, candidateId, signature⟩ := grant
  obtain ⟨_, rfl⟩ := verifyGrant_candidate granted
  simp only [validateConstraint, promote, constraintCore, granted, ok_bind, bne_self_eq_false,
    Bool.false_eq_true, if_false, beq_iff_eq, apart]
  rfl

theorem Valid.step {o o' : GovernedOrganism} {op : Op} (valid : Valid host o)
    (call : Calls host o op o') : Valid host o' := by
  subst call
  rcases apply_cases host o op with
    same | ⟨args, matched, receipt, rfl, named, fresh, _, coherent, same⟩ |
    ⟨candidate, grant, c, rfl, done⟩
  · rwa [same]
  · apply Valid.of_same same coherent
    · intro item member
      rcases List.mem_append.mp member with member | member
      · exact valid.entries item member
      · rw [List.mem_singleton.mp member]
        exact recordOf_entry host o named matched receipt
    · have unused := evaluationId_of_any valid.entries fresh
      have last : [recordOf host o args matched receipt].filterMap evaluationId = [args.eventId] := by
        simp [recordOf, evaluationId_record]
      rw [List.filterMap_append, last]
      exact List.nodup_append.mpr ⟨valid.distinct, by simp, by
        intro a inside b single
        rw [List.mem_singleton.mp single]
        rintro rfl
        exact unused inside⟩
    · exact valid.sorted
    · exact valid.admitted
  · obtain ⟨checked, rfl, after⟩ := authorize_ok done
    obtain ⟨granted, apart, _⟩ := checkCandidate_ok.mp checked
    rw [after]
    constructor
    · intro item member
      rcases List.mem_append.mp member with member | member
      · exact valid.entries item member
      · rw [List.mem_singleton.mp member]
        exact .promoted _
    · simpa [evaluationId_promoted] using valid.distinct
    · exact Dict.sorted_insert _ _ valid.sorted
    · intro p member
      rcases Dict.mem_insert member with rfl | member
      · exact ⟨rfl, promote_valid granted apart⟩
      · exact valid.admitted p member
    · exact coherent_mark _

theorem valid_blank (identity : Identity) : Valid host (blank identity) where
  entries := by simp [blank]
  distinct := by simp [blank]
  sorted := Dict.sorted_nil
  admitted := by simp [blank]
  coherent := coherent_of_uncached rfl

theorem Valid.run {o o' : GovernedOrganism} {ops : List Op} (valid : Valid host o)
    (run : Run (Calls host) o ops o') : Valid host o' :=
  run.invariant (Valid host) (fun _ _ _ valid call => valid.step call) valid

/-! ## The exported state passes every check -/

theorem mem_ofPairs_keys {keys : List String} {pairs : Mapping} (within : ∀ p ∈ pairs, p.1 ∈ keys)
    {p : String × Json} (member : p ∈ Dict.ofPairs pairs) : p.1 ∈ keys :=
  within p (Dict.mem_ofPairs member)

/-- `InheritedConstraint(**asdict(c))` is `c`. -/
theorem ofJson_toJson (c : InheritedConstraint) : InheritedConstraint.ofJson c.toJson = .ok c := by
  have known : ∀ pairs : Mapping, (∀ p ∈ pairs, p.1 ∈ constraintFields) →
      (Dict.ofPairs pairs).find? (fun p => !constraintFields.contains p.1) = none := by
    intro pairs within
    apply List.find?_eq_none.mpr
    intro p member
    simpa using mem_ofPairs_keys within member
  simp only [InheritedConstraint.toJson, Json.dict, InheritedConstraint.ofJson]
  rw [known _ (by simp [constraintFields])]
  simp [strField, Json.get?, ok_bind, pure, Except.pure]

theorem normal_toJson (c : InheritedConstraint) : c.toJson.Normal := by
  apply Json.normal_dict
  simp [Json.Normal]

theorem restoreConstraints_toJson {o : GovernedOrganism} {cs : List (String × InheritedConstraint)}
    (admitted : ∀ p ∈ cs, p.1 = p.2.constraintId ∧ o.validateConstraint host p.2 = .ok ()) :
    o.restoreConstraints host (cs.map (fun p => p.2.toJson)) =
      .ok { o with constraints := Dict.insertAll o.constraints cs } := by
  induction cs generalizing o with
  | nil => rfl
  | cons p cs ih =>
    obtain ⟨key, c⟩ := p
    obtain ⟨keyed, accepted⟩ := admitted (key, c) (by simp)
    obtain rfl : key = c.constraintId := keyed
    simp only [List.map_cons, restoreConstraints, ofJson_toJson, ok_bind, accepted]
    rw [ih]
    · rfl
    · intro q member
      exact admitted q (List.mem_cons_of_mem _ member)

theorem checkEvaluation_record (runtimeId eventId : String) {proposal : Json} (inputs : Json)
    (mapping : proposal.isObj = true) (decision : Decision) (reason : String)
    (matchedId : Option String) (receipt : String) :
    checkEvaluation (evaluationRecord runtimeId eventId proposal inputs decision reason matchedId receipt) =
      .ok () := by
  obtain ⟨_, hasProposal, hasDecision, _, _, hasReceipt⟩ :=
    evaluationRecord_fields runtimeId eventId proposal inputs decision reason matchedId receipt
  have known : decisionValues.contains decision.value = true := by
    simpa using Decision.value_mem decision
  simp only [checkEvaluation, checkDecision, hasDecision, known, if_true, ok_bind, hasProposal,
    Option.elim_some, mapping, hasReceipt, isText]
  rfl

/-- A lineage of appended items with distinct event ids is accepted. -/
theorem validateLineage_entries {items : List Json} {seen : List String}
    (entries : ∀ item ∈ items, Entry item) (distinct : (items.filterMap evaluationId).Nodup)
    (unseen : ∀ eventId ∈ items.filterMap evaluationId, eventId ∉ seen) :
    validateLineage seen items = .ok () := by
  induction items generalizing seen with
  | nil => rfl
  | cons item items ih =>
    have tail := fun item member => entries item (List.mem_cons_of_mem _ member)
    cases entries item (by simp) with
    | @evaluation runtimeId eventId proposal inputs decision reason matchedId receipt named mapping =>
      rw [List.filterMap_cons_some (evaluationId_record ..)] at distinct unseen
      obtain ⟨apart, distinct⟩ := List.nodup_cons.mp distinct
      have rest : validateLineage (eventId :: seen) items = .ok () := by
        apply ih tail distinct
        intro id member
        simp only [List.mem_cons, not_or]
        refine ⟨?_, unseen id (List.mem_cons_of_mem _ member)⟩
        rintro rfl
        exact apart member
      have object : (evaluationRecord runtimeId eventId proposal inputs decision reason matchedId
          receipt).isObj = true := rfl
      have kind : isEvaluation (evaluationRecord runtimeId eventId proposal inputs decision reason
          matchedId receipt) = true := by simp [isEvaluation, evaluationRecord, isStr]
      obtain ⟨hasId, _⟩ :=
        evaluationRecord_fields runtimeId eventId proposal inputs decision reason matchedId receipt
      have new : seen.contains eventId = false := by simpa using unseen eventId (by simp)
      have nonempty : (eventId == "") = false := by simpa using named
      simp only [validateLineage, object, kind, hasId, new, nonempty,
        checkEvaluation_record runtimeId eventId inputs mapping, ok_bind, rest]
      rfl
    | promoted c =>
      rw [List.filterMap_cons_none (evaluationId_promoted c)] at distinct unseen
      have object : (promotedRecord c).isObj = true := rfl
      simp only [validateLineage, object, isEvaluation_promoted c]
      exact ih tail distinct unseen

/-- The same organism on another runtime. -/
def Identity.moved (identity : Identity) (runtimeId : String) : Identity :=
  { identity with runtimeId := runtimeId }

theorem normal_payload (o : GovernedOrganism) : ∀ p ∈ o.statePayload, p.2.Normal := by
  intro p member
  simp only [statePayload, List.mem_cons, List.not_mem_nil, or_false] at member
  rcases member with rfl | rfl | rfl | rfl | rfl | rfl
  · rfl
  · rfl
  · rfl
  · rfl
  · apply Json.normal_arr.mpr
    intro item member
    obtain ⟨p, _, rfl⟩ := List.mem_map.mp member
    exact normal_toJson p.2
  · simp only [jsonClone_eq]
    exact Json.normal_norm _

/-- An export is normal: JSON encoding and decoding keep it. -/
theorem norm_export (host : Host) (o : GovernedOrganism) :
    (Json.obj (o.exportState host).1).norm = .dict (o.exportState host).1 := by
  apply Json.norm_obj_of_normal
  intro p member
  rcases List.mem_append.mp member with member | member
  · exact normal_payload o p member
  · simp only [List.mem_cons, List.not_mem_nil, or_false] at member
    rcases member with rfl | rfl <;> rfl

theorem payload_keys (o : GovernedOrganism) :
    (∀ p ∈ o.statePayload, p.1 ≠ "state_root") ∧ ∀ p ∈ o.statePayload, p.1 ≠ "state_mac" := by
  constructor <;> simp [statePayload]

theorem payload_moved {o p : GovernedOrganism} {runtimeId : String}
    (identity : p.identity = Identity.moved o.identity runtimeId)
    (constraints : p.constraints = o.constraints) (lineage : p.lineage = o.lineage) :
    p.statePayload = o.statePayload := by
  simp [statePayload, identity, constraints, lineage, Identity.moved]

/-- `_restore` reads its argument up to JSON equality. -/
theorem restore_norm {o : GovernedOrganism} {state state' : Mapping}
    (same : (Json.obj state).norm = (Json.obj state').norm) :
    o.restore host state = o.restore host state' := by
  simp only [restore, jsonClone_eq, same]

theorem insertAll_empty {cs : List (String × InheritedConstraint)} (sorted : Dict.Sorted cs) :
    Dict.insertAll [] cs = cs :=
  Dict.ofPairs_of_sorted sorted

/-- The two keys of an export beside the payload, and the payload without them. -/
theorem export_parts (host : Host) (o : GovernedOrganism) :
    Dict.get? "state_mac" (Dict.ofPairs (o.exportState host).1) =
      some (.str (o.stateMac host (.dict o.statePayload))) ∧
    Dict.get? "state_root" (Dict.ofPairs (o.exportState host).1) = some (.str (o.stateRoot host).1) ∧
    Json.obj (Dict.erase "state_root" (Dict.erase "state_mac" (Dict.ofPairs (o.exportState host).1))) =
      .dict o.statePayload := by
  obtain ⟨noRoot, noMac⟩ := payload_keys o
  refine ⟨?_, ?_, ?_⟩
  · simp [exportState, Dict.get?_ofPairs_append, stateMac]
  · simp [exportState, Dict.get?_ofPairs_append]
  · simp only [exportState, Dict.erase_extended noRoot noMac, Json.dict]

theorem payload_fields (o : GovernedOrganism) :
    let payload := Json.dict o.statePayload
    payload.get? "schema" = some (.str schemaVersion) ∧
    payload.get? "organism_id" = some (.str o.identity.organismId) ∧
    payload.get? "constitutional_contract_hash" = some (.str o.identity.constitutionalContractHash) ∧
    payload.get? "constraints" = some (.arr (o.constraints.map (fun p => p.2.toJson))) ∧
    payload.get? "lineage" = some (.arr (o.lineage.map Json.norm)) := by
  simp [statePayload]

/-- Restoring the export of a valid organism on any runtime rebuilds its state. -/
theorem restore_export {o : GovernedOrganism} (valid : Valid host o) (runtimeId : String) :
    ∃ o', (blank (Identity.moved o.identity runtimeId)).restore host (o.exportState host).1 = .ok o' ∧
      SameState o' { o with identity := Identity.moved o.identity runtimeId } ∧ Coherent host o' := by
  obtain ⟨mac, root, payload⟩ := export_parts host o
  let rebuilt : GovernedOrganism :=
    { blank (Identity.moved o.identity runtimeId) with constraints := o.constraints, lineage := o.lineage }
  have authentic : authenticates ((blank (Identity.moved o.identity runtimeId)).stateMac host
      (.dict o.statePayload)) (some (.str (o.stateMac host (.dict o.statePayload)))) = .ok true :=
    compareDigest_self host _ _
  have admitted : ∀ p ∈ o.constraints, p.1 = p.2.constraintId ∧
      (blank (Identity.moved o.identity runtimeId)).validateConstraint host p.2 = .ok () :=
    valid.admitted
  have constraints : (blank (Identity.moved o.identity runtimeId)).restoreConstraints host
      (o.constraints.map (fun p => p.2.toJson)) =
      .ok { blank (Identity.moved o.identity runtimeId) with constraints := o.constraints } := by
    rw [restoreConstraints_toJson admitted]
    simp only [blank, insertAll_empty valid.sorted]
  have lineage : (o.lineage.map Json.norm).map jsonClone = o.lineage := by
    rw [List.map_map]
    apply Json.map_eq_self.mpr
    intro item member
    simp only [Function.comp_apply, jsonClone_eq, Json.norm_norm]
    exact (valid.entries item member).normal
  have accepted : validateLineage [] o.lineage = .ok () :=
    validateLineage_entries valid.entries valid.distinct (by simp)
  have uncached : Coherent host rebuilt := coherent_of_uncached rfl
  have samePayload : rebuilt.statePayload = o.statePayload := payload_moved rfl rfl rfl
  have sameRoot : (rebuilt.stateRoot host).1 = (o.stateRoot host).1 := by
    rw [uncached, samePayload, valid.coherent]
  refine ⟨(rebuilt.stateRoot host).2, ?_, ?_, uncached.stateRoot⟩
  · have clone : (Json.obj (o.exportState host).1).norm.entries = Dict.ofPairs (o.exportState host).1 := by
      rw [norm_export]
      rfl
    obtain ⟨schema, organism, contract, hasConstraints, hasLineage⟩ := payload_fields o
    have asItself : isStr (some (.str (o.stateRoot host).1)) (rebuilt.stateRoot host).1 = true := by
      simp [isStr, sameRoot]
    simp only [restore, jsonClone_eq, clone, mac, root, payload, schema, organism, contract, listField,
      hasConstraints, hasLineage, guard_ok, bind_ok, pure_ok]
    refine ⟨_, authentic, by simp, by simp [isStr], by simp [isStr, blank, Identity.moved],
      by simp [isStr, blank, Identity.moved], _, rfl, _, constraints, _, rfl, (), ?_, ?_, ?_⟩
    · rw [lineage]
      exact accepted
    · simp only [lineage]
      simpa using asItself
    · simp only [lineage]
      rfl
  · exact ⟨stateRoot_identity _, stateRoot_constraints _, stateRoot_lineage _⟩

/-! ## The restored organism behaves as the original -/

/-- The same state under coherent caches. -/
structure Bisimilar (host : Host) (o p : GovernedOrganism) : Prop where
  same : SameState o p
  left : Coherent host o
  right : Coherent host p

theorem Bisimilar.root {o p : GovernedOrganism} (related : Bisimilar host o p) :
    (o.stateRoot host).1 = (p.stateRoot host).1 := by
  rw [related.left, related.right, related.same.payload]

theorem Bisimilar.exportState {o p : GovernedOrganism} (related : Bisimilar host o p) :
    (o.exportState host).1 = (p.exportState host).1 := by
  simp only [GovernedOrganism.exportState, related.root, related.same.payload, stateMac, stateRoot_identity,
    related.same.identity]

theorem recordEvaluation_alike {o p : GovernedOrganism} (related : Bisimilar host o p)
    (args : EvaluateArgs) (proposal : Json) (human : Option Json) (matched : Option InheritedConstraint) :
    (o.recordEvaluation host args proposal human matched).1 =
      (p.recordEvaluation host args proposal human matched).1 ∧
    Bisimilar host (o.recordEvaluation host args proposal human matched).2
      (p.recordEvaluation host args proposal human matched).2 := by
  obtain ⟨identity, constraints, lineage⟩ := related.same
  have marked (q : GovernedOrganism) : ((markStateMutated q).stateRoot host).1 =
      stableHash host (.dict (markStateMutated q).statePayload) := coherent_mark q
  constructor
  · simp only [recordEvaluation, eventCore, marked, stateRoot_identity, related.root, identity]
    simp only [statePayload, mark_identity, mark_constraints, mark_lineage, stateRoot_lineage,
      stateRoot_constraints, constraints, lineage]
  · refine ⟨⟨?_, ?_, ?_⟩, (coherent_mark _).stateRoot, (coherent_mark _).stateRoot⟩
    · simp only [recordEvaluation, stateRoot_identity, mark_identity, identity]
    · simp only [recordEvaluation, stateRoot_constraints, mark_constraints, constraints]
    · simp only [recordEvaluation, eventCore, stateRoot_identity, stateRoot_lineage, mark_lineage,
        related.root, identity, lineage]

theorem observeRejection_congr {o p : GovernedOrganism} (lineage : o.lineage = p.lineage)
    (eventId generatorId : String) (causalKeys : List String) :
    o.observeRejection host eventId generatorId causalKeys =
      p.observeRejection host eventId generatorId causalKeys := by
  simp only [observeRejection, evaluation, lineage]

/-- The part of `evaluate` that may raise reads the lineage and the constraints only. -/
def admission (lineage : List Json) (constraints : List (String × InheritedConstraint))
    (args : EvaluateArgs) : Except PyError (Option InheritedConstraint) := do
  if args.eventId == "" then throw (.valueError "event_id is required")
  if lineage.any (isEvaluationOf args.eventId) then throw (.valueError "event_id must be unique")
  firstMatch args.proposalJson constraints

theorem evaluate_eq (host : Host) (o : GovernedOrganism) (args : EvaluateArgs) :
    o.evaluate host args = (admission o.lineage o.constraints args).map
      (o.recordEvaluation host args args.proposalJson args.humanJson) := by
  simp only [evaluate, admission, jsonClone_eq, EvaluateArgs.proposalJson, EvaluateArgs.humanJson]
  by_cases empty : (args.eventId == "") = true
  · simp only [empty, if_true]
    rfl
  · by_cases known : o.lineage.any (isEvaluationOf args.eventId) = true
    · simp only [empty, known, if_true]
      rfl
    · simp only [empty, known]
      cases firstMatch (Json.obj args.proposal).norm o.constraints <;> rfl

theorem checkCandidate_congr {o p : GovernedOrganism} (same : SameState o p)
    (candidate : ConstraintCandidate) (grant : AuthorizationGrant) :
    o.checkCandidate host candidate grant = p.checkCandidate host candidate grant := by
  simp only [checkCandidate, verifyGrant, evaluation, same.identity, same.lineage]

theorem promote_congr {o p : GovernedOrganism} (identity : o.identity = p.identity)
    (candidate : ConstraintCandidate) (grant : AuthorizationGrant) :
    o.promote host candidate grant = p.promote host candidate grant := by
  simp only [promote, identity]

/-- One call of bisimilar organisms gives one result and bisimilar organisms. -/
theorem apply_alike {o p : GovernedOrganism} (op : Op) (related : Bisimilar host o p) :
    (o.apply host op).1 = (p.apply host op).1 ∧
    Bisimilar host (o.apply host op).2 (p.apply host op).2 := by
  obtain ⟨identity, constraints, lineage⟩ := related.same
  cases op with
  | evaluate args =>
    simp only [apply, evaluate_eq, constraints, lineage]
    cases admission p.lineage p.constraints args with
    | error e => exact ⟨rfl, related⟩
    | ok matched =>
      obtain ⟨alike, further⟩ :=
        recordEvaluation_alike related args args.proposalJson args.humanJson matched
      exact ⟨congrArg OpResult.evaluated alike, further⟩
  | observe eventId generatorId causalKeys =>
    simp only [apply, observeRejection_congr lineage]
    cases p.observeRejection host eventId generatorId causalKeys with
    | ok candidate => exact ⟨rfl, related⟩
    | error e => exact ⟨rfl, related⟩
  | authorize candidate grant =>
    simp only [apply, authorizeConstraint, checkCandidate_congr related.same, promote_congr identity]
    cases p.checkCandidate host candidate grant with
    | error e => exact ⟨rfl, related⟩
    | ok _ =>
      refine ⟨rfl, ⟨identity, ?_, ?_⟩, coherent_mark _, coherent_mark _⟩
      · simp only [ok_bind, pure, Except.pure, mark_constraints, constraints]
      · simp only [ok_bind, pure, Except.pure, mark_lineage, lineage]

/-! ## Round trip -/

theorem apply_identity (host : Host) (o : GovernedOrganism) (op : Op) :
    (o.apply host op).2.identity = o.identity := by
  rcases apply_cases host o op with
    same | ⟨_, _, _, _, _, _, _, _, same⟩ | ⟨_, _, _, _, done⟩
  · rw [same]
  · exact same.identity
  · obtain ⟨_, _, after⟩ := authorize_ok done
    rw [after]
    rfl

theorem run_identity {o o' : GovernedOrganism} {ops : List Op} (run : Run (Calls host) o ops o') :
    o'.identity = o.identity :=
  run.invariant (fun p => p.identity = o.identity)
    (fun s op t before call => by rw [call, apply_identity, before]) rfl

/-- A construction that succeeds without a state restores one on any runtime. -/
theorem create_restores {organismId contract runtimeId stateSecret : String}
    {secrets : List (String × String)} {start : GovernedOrganism}
    (made : create host organismId contract runtimeId stateSecret secrets none = .ok start)
    {other : String} (named : other ≠ "") (state : Mapping) :
    start = blank start.identity ∧ start.identity.runtimeId = runtimeId ∧
    create host organismId contract other stateSecret secrets (some state) =
      (blank (Identity.moved start.identity other)).restore host state := by
  simp only [create, guard_ok, bind_ok, pure_ok, Bool.or_eq_true, beq_iff_eq, not_or] at made
  obtain ⟨⟨⟨organism, _⟩, secret⟩, keys, contractHash, bound, rfl⟩ := made
  refine ⟨rfl, rfl, ?_⟩
  simp only [create, bound, organism, named, secret, keys, ok_bind, Bool.or_eq_true, beq_iff_eq, or_self,
    if_false]
  rfl

/-- An export decoded from any JSON layout restores an organism with the same payload,
root and MAC, which answers all further calls as the original does. -/
theorem export_round_trip {organismId contract runtimeId stateSecret : String}
    {secrets : List (String × String)} {start o : GovernedOrganism} {ops : List Op}
    (made : create host organismId contract runtimeId stateSecret secrets none = .ok start)
    (run : Run (Calls host) start ops o) (layout : JsonText.Layout) :
    ∃ decoded restored,
      JsonText.loads (JsonText.dumps layout (.obj (o.exportState host).1)) = some (.obj decoded) ∧
      create host organismId contract runtimeId stateSecret secrets (some decoded) = .ok restored ∧
      restored.statePayload = o.statePayload ∧
      (restored.stateRoot host).1 = (o.stateRoot host).1 ∧
      (restored.exportState host).1 = (o.exportState host).1 ∧
      ∀ further : List Op,
        Machine.outputs (apply host) restored further = Machine.outputs (apply host) o further ∧
        ((Machine.after (apply host) restored further).stateRoot host).1 =
          ((Machine.after (apply host) o further).stateRoot host).1 := by
  have named : runtimeId ≠ "" := by
    simp only [create, guard_ok, Bool.or_eq_true, beq_iff_eq, not_or] at made
    exact made.1.1.2
  obtain ⟨empty, runtime, _⟩ := create_restores made named []
  have valid : Valid host o := by
    have initial : Valid host start := by
      rw [empty]
      exact valid_blank _
    exact initial.run run
  have identity : o.identity = start.identity := run_identity run
  have here : Identity.moved o.identity runtimeId = o.identity := by
    rw [identity, ← runtime]
    rfl
  obtain ⟨restored, accepted, same, coherent⟩ := restore_export valid runtimeId
  rw [here] at accepted same
  have related : Bisimilar host restored o := ⟨⟨same.identity, same.constraints, same.lineage⟩, coherent,
    valid.coherent⟩
  refine ⟨Dict.ofPairs (o.exportState host).1, restored, ?_, ?_, related.same.payload, related.root,
    related.exportState, ?_⟩
  · rw [JsonText.loads_dumps, norm_export]
    rfl
  · obtain ⟨_, _, restores⟩ := create_restores made named (Dict.ofPairs (o.exportState host).1)
    have decoded : (Json.obj (Dict.ofPairs (o.exportState host).1)).norm =
        (Json.obj (o.exportState host).1).norm := by
      have twice := Json.norm_norm (.obj (o.exportState host).1)
      rwa [norm_export] at twice ⊢
    rw [restores, ← identity, here, restore_norm decoded, accepted]
  · intro further
    obtain ⟨outputs, after⟩ := Machine.outputs_eq (Bisimilar host)
      (fun _ _ op related => apply_alike op related) further related
    exact ⟨outputs, after.root⟩

theorem export_round_trip_sample :
    let o := samplePromoted hexHost (honestCandidate hexHost).matchJson
    ∃ decoded restored,
      JsonText.loads (JsonText.dumps (JsonText.indented 2) (.obj (o.exportState hexHost).1)) =
        some (.obj decoded) ∧
      create hexHost "organism" sampleContract "runtime" "state-secret" sampleSecrets (some decoded) =
        .ok restored ∧
      restored.statePayload = o.statePayload ∧
      (restored.stateRoot hexHost).1 = (o.stateRoot hexHost).1 ∧
      (restored.exportState hexHost).1 = (o.exportState hexHost).1 ∧
      ∀ further : List Op,
        Machine.outputs (apply hexHost) restored further = Machine.outputs (apply hexHost) o further ∧
        ((Machine.after (apply hexHost) restored further).stateRoot hexHost).1 =
          ((Machine.after (apply hexHost) o further).stateRoot hexHost).1 :=
  export_round_trip (create_sample hexHost) (run_samplePromoted hexHost _) (JsonText.indented 2)

end MatVerse.GovernedOrganism
