import MatVerse.OrganismRestore

/-! How long a constraint lasts: through every later call and every hop of export
and restoration, whatever the runtime. `_matches` raises on a match text that is
not a mapping, so permanence follows the candidates that are accepted. -/
namespace MatVerse.GovernedOrganism

open Fallible

variable {host : Host}

/-! ## Matching -/

/-- `_matches` does not raise on the text: it reads as a mapping or as a falsy value. -/
def Matchable (matchJson : String) : Bool :=
  match JsonText.loads matchJson with
  | some v => v.isObj || !v.truthy
  | none => false

theorem matchesProposal_ok {matchJson : String} (matchable : Matchable matchJson = true)
    (proposal : Json) : ∃ b, matchesProposal matchJson proposal = .ok b := by
  unfold Matchable at matchable
  unfold matchesProposal
  cases read : JsonText.loads matchJson with
  | none => simp [read] at matchable
  | some v =>
    simp only [read] at matchable ⊢
    split_ifs with falsy
    · exact ⟨false, rfl⟩
    · cases v with
      | obj entries => exact ⟨_, rfl⟩
      | _ => simp_all [Json.isObj]

/-- The proposal has every pair of the match, by `==`. -/
def Contains (proposal : Json) (matchJson : String) : Prop :=
  ∃ entries, JsonText.loads matchJson = some (.obj entries) ∧ entries ≠ [] ∧
    ∀ p ∈ entries, ∃ w, proposal.get? p.1 = some w ∧
      (w.pyEq p.2 = true ∨ w = p.2 ∧ w.isNan = false)

theorem matchesProposal_of_contains {proposal : Json} {matchJson : String}
    (contains : Contains proposal matchJson) : matchesProposal matchJson proposal = .ok true := by
  obtain ⟨entries, read, nonempty, pairs⟩ := contains
  have truthy : (Json.obj entries).truthy = true := by
    cases entries with
    | nil => exact absurd rfl nonempty
    | cons => rfl
  have all : entries.all (hasPair proposal) = true := by
    apply List.all_eq_true.mpr
    intro p member
    obtain ⟨w, found, equal | ⟨rfl, number⟩⟩ := pairs p member
    · simp [hasPair, found, equal]
    · simp [hasPair, found, Json.pyEq_refl number]
  simp only [matchesProposal, read, truthy, all]
  rfl

/-- Among constraints none of which raises, one that matches makes the search succeed. -/
theorem firstMatch_some {proposal : Json} {cs : List (String × InheritedConstraint)}
    (matchable : ∀ p ∈ cs, Matchable p.2.matchJson = true)
    (matching : ∃ p ∈ cs, matchesProposal p.2.matchJson proposal = .ok true) :
    ∃ d, firstMatch proposal cs = .ok (some d) := by
  induction cs with
  | nil => simp at matching
  | cons q cs ih =>
    obtain ⟨key, c⟩ := q
    obtain ⟨b, head⟩ := matchesProposal_ok (matchable (key, c) (by simp)) proposal
    simp only at head
    cases b with
    | true => exact ⟨c, by simp only [firstMatch, head, ok_bind]; rfl⟩
    | false =>
      obtain ⟨p, member, hit⟩ := matching
      rcases List.mem_cons.mp member with rfl | member
      · simp [head] at hit
      · obtain ⟨d, found⟩ := ih (fun r h => matchable r (List.mem_cons_of_mem _ h)) ⟨p, member, hit⟩
        refine ⟨d, ?_⟩
        simp only [firstMatch, head, ok_bind, Bool.false_eq_true, if_false]
        exact found

/-! ## Lives -/

inductive LifeEvent where
  | call (op : Op)
  | hop (runtimeId : String) (state : Mapping)

/-- A call, or a hop: the state, equal as JSON to the export, restored under the same
organism id, contract and secrets on any runtime. -/
inductive Life (host : Host) : GovernedOrganism → LifeEvent → GovernedOrganism → Prop where
  | call {o o' : GovernedOrganism} {op : Op} : Calls host o op o' → Life host o (.call op) o'
  | hop {o o' : GovernedOrganism} {runtimeId : String} {state : Mapping} :
      (Json.obj state).norm = (Json.obj (o.exportState host).1).norm →
      create host o.identity.organismId o.identity.frozenContractHash runtimeId o.identity.stateSecret
        o.identity.authoritySecrets (some state) = .ok o' →
      Life host o (.hop runtimeId state) o'

/-- An accepted candidate has a match text on which matching does not raise. -/
def AcceptsMatchable (host : Host) (o : GovernedOrganism) : LifeEvent → Prop
  | .call (.authorize candidate grant) =>
    o.checkCandidate host candidate grant = .ok () → Matchable candidate.matchJson = true
  | _ => True

/-- The identity a constructor gives. -/
def Constructed (host : Host) (identity : Identity) : Prop :=
  create host identity.organismId identity.frozenContractHash identity.runtimeId identity.stateSecret
    identity.authoritySecrets none = .ok (blank identity)

theorem create_constructed {organismId contract runtimeId stateSecret : String}
    {secrets : List (String × String)} {start : GovernedOrganism}
    (made : create host organismId contract runtimeId stateSecret secrets none = .ok start) :
    Constructed host start.identity ∧ start = blank start.identity := by
  simp only [create, guard_ok, bind_ok, pure_ok] at made
  obtain ⟨named, keys, contractHash, bound, rfl⟩ := made
  refine ⟨?_, rfl⟩
  have again : Dict.ofPairs (Dict.ofPairs secrets) = Dict.ofPairs secrets :=
    Dict.ofPairs_of_sorted (Dict.sorted_ofPairs _)
  simp only [Constructed, create, guard_ok, bind_ok, pure_ok, blank, again]
  exact ⟨named, keys, contractHash, bound, rfl⟩

theorem create_runtime_named {organismId contract runtimeId stateSecret : String}
    {secrets : List (String × String)} {state : Option Mapping} {o : GovernedOrganism}
    (made : create host organismId contract runtimeId stateSecret secrets state = .ok o) :
    runtimeId ≠ "" := by
  simp only [create, guard_ok, Bool.or_eq_true, beq_iff_eq, not_or] at made
  exact made.1.1.2

theorem hop_same {o o' : GovernedOrganism} {runtimeId : String} {state : Mapping}
    (valid : Valid host o) (constructed : Constructed host o.identity)
    (exported : (Json.obj state).norm = (Json.obj (o.exportState host).1).norm)
    (made : create host o.identity.organismId o.identity.frozenContractHash runtimeId
      o.identity.stateSecret o.identity.authoritySecrets (some state) = .ok o') :
    SameState o' { o with identity := Identity.moved o.identity runtimeId } ∧ Coherent host o' := by
  obtain ⟨_, _, restores⟩ := create_restores constructed (create_runtime_named made) state
  obtain ⟨restored, accepted, same, coherent⟩ := restore_export valid runtimeId
  rw [restores, restore_norm exported] at made
  obtain rfl : restored = o' := Except.ok.inj (accepted.symm.trans made)
  exact ⟨same, coherent⟩

theorem constructed_moved {identity : Identity} {runtimeId : String} (named : runtimeId ≠ "")
    (constructed : Constructed host identity) : Constructed host (Identity.moved identity runtimeId) := by
  simp only [Constructed, create, guard_ok, bind_ok, pure_ok, Identity.moved, blank,
    GovernedOrganism.mk.injEq, Identity.mk.injEq, Bool.or_eq_true, beq_iff_eq, not_or] at constructed ⊢
  obtain ⟨⟨⟨organism, _⟩, secret⟩, keys, contractHash, bound, same, rest⟩ := constructed
  exact ⟨⟨⟨organism, named⟩, secret⟩, keys, contractHash, bound, ⟨trivial, trivial, trivial, trivial,
    congrArg Identity.authoritySecrets same, congrArg Identity.gateFingerprint same,
    congrArg Identity.constitutionalContractHash same⟩, rest⟩

/-- The invariant of a life that accepts matchable candidates only. -/
structure Sound (host : Host) (o : GovernedOrganism) : Prop where
  valid : Valid host o
  constructed : Constructed host o.identity
  matchable : ∀ p ∈ o.constraints, Matchable p.2.matchJson = true

theorem Sound.step {o o' : GovernedOrganism} {e : LifeEvent} (sound : Sound host o)
    (accepts : AcceptsMatchable host o e) (life : Life host o e o') : Sound host o' := by
  cases life with
  | @call _ op call =>
    refine ⟨sound.valid.step call, by rw [call, apply_identity]; exact sound.constructed, ?_⟩
    subst call
    rcases apply_cases host o op with
      same | ⟨_, _, _, _, _, _, _, _, same⟩ | ⟨candidate, grant, c, rfl, done⟩
    · rw [same]
      exact sound.matchable
    · rw [same.constraints]
      exact sound.matchable
    · obtain ⟨checked, rfl, after⟩ := authorize_ok done
      rw [after]
      intro p member
      rcases Dict.mem_insert member with rfl | member
      · exact accepts checked
      · exact sound.matchable p member
  | hop exported made =>
    obtain ⟨same, coherent⟩ := hop_same sound.valid sound.constructed exported made
    refine ⟨?_, ?_, ?_⟩
    · exact Valid.of_same same coherent sound.valid.entries sound.valid.distinct sound.valid.sorted
        sound.valid.admitted
    · rw [same.identity]
      exact constructed_moved (create_runtime_named made) sound.constructed
    · rw [same.constraints]
      exact sound.matchable

/-! ## Permanence -/

theorem constraintId_match (free : host.CollisionFree) {contract contract' receipt receipt' : String}
    {c d : InheritedConstraint}
    (same : constraintIdOf host (constraintCore contract c) receipt =
      constraintIdOf host (constraintCore contract' d) receipt') : c.matchJson = d.matchJson := by
  have fields := congrArg (Json.get? "match_json") (stableHash_injective free same)
  simpa [constraintCore] using fields

/-- A constraint with this id and match is stored. -/
def Kept (c : InheritedConstraint) (o : GovernedOrganism) : Prop :=
  ∃ d, (c.constraintId, d) ∈ o.constraints ∧ d.matchJson = c.matchJson

def SealedId (host : Host) (c : InheritedConstraint) : Prop :=
  ∃ contract receipt, c.constraintId = constraintIdOf host (constraintCore contract c) receipt

theorem sealedId_promote (host : Host) (o : GovernedOrganism) (candidate : ConstraintCandidate)
    (grant : AuthorizationGrant) : SealedId host (o.promote host candidate grant) := ⟨_, _, rfl⟩

theorem Kept.step (free : host.CollisionFree) {c : InheritedConstraint} (sealedId : SealedId host c)
    {o o' : GovernedOrganism} {e : LifeEvent} (sound : Sound host o) (kept : Kept c o)
    (life : Life host o e o') : Kept c o' := by
  obtain ⟨d, member, same⟩ := kept
  cases life with
  | @call _ op call =>
    subst call
    rcases apply_cases host o op with
      unchanged | ⟨_, _, _, _, _, _, _, _, after⟩ | ⟨candidate, grant, new, rfl, done⟩
    · rw [unchanged]
      exact ⟨d, member, same⟩
    · exact ⟨d, by rw [after.constraints]; exact member, same⟩
    · obtain ⟨_, rfl, after⟩ := authorize_ok done
      rw [after]
      let new := o.promote host candidate grant
      have sorted := Dict.sorted_insert new.constraintId new sound.valid.sorted
      by_cases replaced : c.constraintId = new.constraintId
      · refine ⟨new, ?_, ?_⟩
        · rw [replaced]
          exact Dict.get?_mem (Dict.get?_insert_self _ _ _)
        · obtain ⟨_, _, ours⟩ := sealedId
          obtain ⟨_, _, theirs⟩ := sealedId_promote host o candidate grant
          exact (constraintId_match free (ours.symm.trans (replaced.trans theirs))).symm
      · refine ⟨d, Dict.get?_mem ?_, same⟩
        rw [mark_constraints, Dict.get?_insert_of_ne replaced]
        exact Dict.get?_of_mem sound.valid.sorted member
  | hop exported made =>
    obtain ⟨after, _⟩ := hop_same sound.valid sound.constructed exported made
    exact ⟨d, by rw [after.constraints]; exact member, same⟩

/-- A kept constraint blocks every fresh proposal that contains its match. -/
theorem Kept.blocks {c : InheritedConstraint} {o : GovernedOrganism} (kept : Kept c o)
    (sound : Sound host o) {args : EvaluateArgs} (named : args.eventId ≠ "")
    (fresh : o.lineage.any (isEvaluationOf args.eventId) = false)
    (contains : Contains args.proposalJson c.matchJson) :
    ∃ r o', o.evaluate host args = .ok (r, o') ∧ r.decision = .block ∧
      ∃ id, r.matchedConstraintId = some id := by
  obtain ⟨d, member, same⟩ := kept
  have hit : matchesProposal d.matchJson args.proposalJson = .ok true := by
    rw [same]
    exact matchesProposal_of_contains contains
  obtain ⟨first, found⟩ := firstMatch_some sound.matchable ⟨_, member, hit⟩
  exact ⟨_, _, evaluate_record named fresh found, rfl, first.constraintId, rfl⟩

theorem observable_matchable {o : GovernedOrganism} (entries : ∀ item ∈ o.lineage, Entry item)
    {candidate : ConstraintCandidate} (observed : Observable host o candidate) :
    Matchable candidate.matchJson = true := by
  obtain ⟨eventId, generatorId, causalKeys, done⟩ := observed
  obtain ⟨_, _, source, proposal, reason, receipt, found, _, _, hasProposal, nonempty, _, _, rfl⟩ :=
    observe_ok done
  obtain ⟨_, runtimeId, proposal', inputs, decision, reason', matchedId, receipt', rfl, _, normal⟩ :=
    evaluation_ok entries found
  obtain ⟨_, recProposal, _⟩ := evaluationRecord_fields runtimeId eventId proposal' inputs decision
    reason' matchedId receipt'
  obtain rfl := Option.some.inj (recProposal.symm.trans hasProposal)
  obtain ⟨parts, reads, _, _⟩ := loads_matchOf normal nonempty
  simp [Matchable, reads, Json.isObj]

/-- A constraint stored from an observable candidate blocks its match after every
later history that accepts matchable candidates only. -/
theorem inherited_block {organismId contract runtimeId stateSecret : String}
    {secrets : List (String × String)} {start o o' t : GovernedOrganism} {earlier later : List LifeEvent}
    (free : host.CollisionFree)
    (made : create host organismId contract runtimeId stateSecret secrets none = .ok start)
    (before : Run (fun s e s' => AcceptsMatchable host s e ∧ Life host s e s') start earlier o)
    {candidate : ConstraintCandidate} {grant : AuthorizationGrant} {c : InheritedConstraint}
    (observed : Observable host o candidate)
    (stored : o.authorizeConstraint host candidate grant = .ok (c, o'))
    (after : Run (fun s e s' => AcceptsMatchable host s e ∧ Life host s e s') o' later t)
    {args : EvaluateArgs} (named : args.eventId ≠ "")
    (fresh : t.lineage.any (isEvaluationOf args.eventId) = false)
    (contains : Contains args.proposalJson c.matchJson) :
    ∃ r t', t.evaluate host args = .ok (r, t') ∧ r.decision = .block ∧
      ∃ id, r.matchedConstraintId = some id := by
  obtain ⟨constructed, empty⟩ := create_constructed made
  have initial : Sound host start := by
    rw [empty]
    exact ⟨valid_blank _, constructed, by simp [blank]⟩
  have soundBefore : Sound host o :=
    before.invariant (Sound host) (fun _ _ _ sound step => sound.step step.1 step.2) initial
  have call : Life host o (.call (.authorize candidate grant)) o' :=
    .call (by simp [Calls, apply, stored])
  have accepts : AcceptsMatchable host o (.call (.authorize candidate grant)) :=
    fun _ => observable_matchable soundBefore.valid.entries observed
  have sound : Sound host o' := soundBefore.step accepts call
  obtain ⟨_, rfl, shape⟩ := authorize_ok stored
  have kept : Kept (o.promote host candidate grant) o' := by
    rw [shape]
    exact ⟨_, Dict.get?_mem (Dict.get?_insert_self _ _ _), rfl⟩
  obtain ⟨soundAfter, keptAfter⟩ := after.invariant
    (fun s => Sound host s ∧ Kept (o.promote host candidate grant) s)
    (fun _ _ _ both step => ⟨both.1.step step.1 step.2,
      both.2.step free (sealedId_promote host o candidate grant) both.1 step.2⟩) ⟨sound, kept⟩
  exact keptAfter.blocks soundAfter named fresh contains

/-! ## A match text that is not JSON -/

def sampleConstraint (host : Host) (matchJson : String) : InheritedConstraint :=
  (sample host).promote host (sampleCandidate host matchJson) (sampleGrant host)

/-- A fresh proposal with the honest constraint's match. -/
def laterArgs : EvaluateArgs := ⟨"later", [("action", .str "A")], none, true, true, true⟩

section
variable (host : Host)

theorem sampleBlocked_promote (matchJson : String) :
    (sampleBlocked host).2.promote host (sampleCandidate host matchJson) (sampleGrant host) =
      sampleConstraint host matchJson :=
  promote_congr (sampleBlocked_state host).identity _ _

/-- The organism that accepted the honest candidate accepts any other match under the same id. -/
theorem authorize_again (matchJson : String) :
    let o := samplePromoted host (honestCandidate host).matchJson
    o.authorizeConstraint host (sampleCandidate host matchJson) (sampleGrant host) =
      .ok (sampleConstraint host matchJson, markStateMutated { o with
        constraints := Dict.insert (sampleConstraint host matchJson).constraintId
          (sampleConstraint host matchJson) o.constraints
        lineage := o.lineage ++ [promotedRecord (sampleConstraint host matchJson)] }) := by
  intro o
  have identity : o.identity = (sample host).identity := run_identity (run_samplePromoted host _)
  obtain ⟨_, lineage⟩ := samplePromoted_eq host (honestCandidate host).matchJson
  have found : o.evaluation "event" = .ok (evaluationRecord "runtime" "event"
      (.dict [("action", .str "A")]) (gateInputs none sampleArgs) .block "ontology violation" none
      (sampleReceipt host)) := by
    apply evaluation_unique
    · rw [lineage]
      have promoted (c : InheritedConstraint) : isEvaluationOf "event" (promotedRecord c) = false := by
        simp [isEvaluationOf, isEvaluation_promoted]
      simp [isEvaluationOf_record, promoted]
    · exact (recordOf_entry host (sample host) (by decide) none (sampleReceipt host)).normal
  have granted : o.verifyGrant host (sampleGrant host) (sampleCandidate host matchJson).candidateId =
      .ok () := verifyGrant_signed (by rw [identity]; rfl)
  have promoted : o.promote host (sampleCandidate host matchJson) (sampleGrant host) =
      sampleConstraint host matchJson := promote_congr identity _ _
  rw [authorize_record granted (by simp [sampleGrant, sampleCandidate]) found, promoted]

theorem contains_later : Contains laterArgs.proposalJson (honestCandidate host).matchJson := by
  refine ⟨[("action", .str "A")], loads_canonicalJson _, by simp, ?_⟩
  intro p member
  obtain rfl := List.mem_singleton.mp member
  exact ⟨.str "A", by simp [laterArgs, EvaluateArgs.proposalJson, Json.norm_obj], .inl (by simp [Json.pyEq])⟩

theorem calls_sample : Calls host (sample host) (.evaluate sampleArgs) (sampleBlocked host).2 := by
  simp [Calls, apply, evaluate_sample]

theorem fresh_later (matchJson : String) :
    (samplePromoted host matchJson).lineage.any (isEvaluationOf laterArgs.eventId) = false := by
  have promoted (c : InheritedConstraint) : isEvaluationOf "later" (promotedRecord c) = false := by
    simp [isEvaluationOf, isEvaluation_promoted]
  simp [(samplePromoted_eq host matchJson).2, laterArgs, isEvaluationOf_record, promoted]

/-- Where the unreadable match sorts first, evaluation raises instead of blocking. -/
theorem unreadable_raises
    (first : (sampleConstraint host "! 3").constraintId <
      (sampleConstraint host (honestCandidate host).matchJson).constraintId) :
    ∃ o o' t, Run (Calls host) (sample host) [.evaluate sampleArgs] o ∧
      Observable host o (honestCandidate host) ∧
      o.authorizeConstraint host (honestCandidate host) (sampleGrant host) =
        .ok (sampleConstraint host (honestCandidate host).matchJson, o') ∧
      Run (Life host) o' [.call (.authorize (sampleCandidate host "! 3") (sampleGrant host))] t ∧
      t.lineage.any (isEvaluationOf laterArgs.eventId) = false ∧
      t.evaluate host laterArgs = .error .jsonDecodeError := by
  obtain ⟨constraints, lineage⟩ := samplePromoted_eq host (honestCandidate host).matchJson
  rw [sampleBlocked_promote] at constraints lineage
  have stored := authorize_samplePromoted host (honestCandidate host).matchJson
  rw [sampleBlocked_promote] at stored
  have again := authorize_again host "! 3"
  let t := markStateMutated { samplePromoted host (honestCandidate host).matchJson with
    constraints := Dict.insert (sampleConstraint host "! 3").constraintId (sampleConstraint host "! 3")
      (samplePromoted host (honestCandidate host).matchJson).constraints
    lineage := (samplePromoted host (honestCandidate host).matchJson).lineage ++
      [promotedRecord (sampleConstraint host "! 3")] }
  have further : Calls host (samplePromoted host (honestCandidate host).matchJson)
      (.authorize (sampleCandidate host "! 3") (sampleGrant host)) t := by
    simp only [Calls, apply, again]
    rfl
  have fresh : t.lineage.any (isEvaluationOf laterArgs.eventId) = false := by
    have promoted (c : InheritedConstraint) : isEvaluationOf "later" (promotedRecord c) = false := by
      simp [isEvaluationOf, isEvaluation_promoted]
    have before := fresh_later host (honestCandidate host).matchJson
    simp only [t, mark_lineage, List.any_append, before, List.any_cons, List.any_nil, Bool.or_false,
      Bool.false_or]
    exact promoted _
  refine ⟨(sampleBlocked host).2, _, t, .single (calls_sample host),
    ⟨"event", "generator", ["action"], observe_sample host⟩, stored, .single (.call further), fresh, ?_⟩
  have unreadable : matchesProposal "! 3" laterArgs.proposalJson = .error .jsonDecodeError := rfl
  have search : firstMatch laterArgs.proposalJson t.constraints = .error .jsonDecodeError := by
    have head : t.constraints = [((sampleConstraint host "! 3").constraintId, sampleConstraint host "! 3"),
        ((sampleConstraint host (honestCandidate host).matchJson).constraintId,
          sampleConstraint host (honestCandidate host).matchJson)] := by
      simp only [t, mark_constraints, constraints, Dict.insert, first, if_true]
    have text : (sampleConstraint host "! 3").matchJson = "! 3" := rfl
    rw [head, firstMatch, text, unreadable]
    rfl
  have named : (laterArgs.eventId == "") = false := rfl
  simp only [evaluate_eq, admission, named, fresh, search]
  rfl

theorem sampleConstraint_id (matchJson : String) : (sampleConstraint host matchJson).constraintId =
    stableHash host (.dict (constraintCore (sample host).identity.constitutionalContractHash
      (sampleConstraint host matchJson) ++
      [("authority_receipt", .str (sampleConstraint host matchJson).authorityReceipt)])) := rfl

/-- The field of a constraint's id that holds its match. -/
theorem id_match (contract receipt : String) (c : InheritedConstraint) :
    (Json.dict (constraintCore contract c ++ [("authority_receipt", .str receipt)])).norm.get? "match_json" =
      some (.str c.matchJson) := by
  simp [constraintCore]

end

/-- The match text a digest's input carries, when the input is JSON. -/
def carriesUnreadable (bytes : ByteArray) : Bool :=
  match (String.fromUTF8? bytes).bind JsonText.loads with
  | some v => isStr (v.get? "match_json") "! 3"
  | none => false

/-- Collision-free digests that put the inputs with the unreadable match first. -/
def orderedHost : Host where
  sha256 bytes := (if carriesUnreadable bytes then "0" else "1") ++ Hex.text bytes
  sha256Digits bytes := by
    have digits := Hex.digits_text bytes
    unfold Hex.Digits at digits ⊢
    split_ifs
    · simp [digits, Hex.isDigit]
    · simp [digits, Hex.isDigit]
  hmac := hexHost.hmac
  hmacDigits := hexHost.hmacDigits
  source := hexHost.source
  containerText := hexHost.containerText

theorem orderedHost_collisionFree : orderedHost.CollisionFree := by
  intro a b same
  have tails := congrArg (fun s : String => s.toList.tail) same
  apply Hex.text_injective
  apply String.toList_inj.mp
  simp only [orderedHost] at tails
  split_ifs at tails <;> simpa using tails

theorem orderedHost_stableHash (v : Json) : stableHash orderedHost v =
    (if isStr (v.norm.get? "match_json") "! 3" then "0" else "1") ++ Hex.text (canonicalJson v).toUTF8 := by
  have decoded : String.fromUTF8? (canonicalJson v).toUTF8 = some (canonicalJson v) := by
    simp only [String.fromUTF8?, Option.dite_none_right_eq_some]
    exact ⟨(canonicalJson v).isValidUTF8, rfl⟩
  simp only [stableHash, sha256Text, orderedHost, carriesUnreadable, decoded, Option.bind_some,
    loads_canonicalJson]

/-- A signed grant for an honest candidate also admits a match text that is not JSON;
a fresh proposal with the honest match then raises. -/
theorem unreadable_constraint_raises : ∃ host : Host, host.CollisionFree ∧
    create host "organism" sampleContract "runtime" "state-secret" sampleSecrets none =
      .ok (sample host) ∧
    ∃ o c o' t, Run (Calls host) (sample host) [.evaluate sampleArgs] o ∧
      Observable host o (honestCandidate host) ∧
      o.authorizeConstraint host (honestCandidate host) (sampleGrant host) = .ok (c, o') ∧
      Run (Life host) o' [.call (.authorize (sampleCandidate host "! 3") (sampleGrant host))] t ∧
      t.lineage.any (isEvaluationOf laterArgs.eventId) = false ∧
      Contains laterArgs.proposalJson c.matchJson ∧
      t.evaluate host laterArgs = .error .jsonDecodeError := by
  have low (a b : String) : "0" ++ a < "1" ++ b := by
    rw [String.lt_iff]
    simp only [String.toList_append]
    exact List.Lex.rel (by decide)
  have first : (sampleConstraint orderedHost "! 3").constraintId <
      (sampleConstraint orderedHost (honestCandidate orderedHost).matchJson).constraintId := by
    have honest : (canonicalJson (.dict [("action", .str "A")]) == "! 3") = false := by decide
    have junk : (sampleConstraint orderedHost "! 3").matchJson = "! 3" := rfl
    have other : (sampleConstraint orderedHost (honestCandidate orderedHost).matchJson).matchJson =
        canonicalJson (.dict [("action", .str "A")]) := rfl
    rw [sampleConstraint_id, sampleConstraint_id, orderedHost_stableHash, orderedHost_stableHash,
      id_match, id_match, junk, other]
    simp only [isStr, beq_self_eq_true, if_true, honest, Bool.false_eq_true, if_false]
    exact low _ _
  obtain ⟨o, o', t, evaluated, observed, stored, further, fresh, raises⟩ :=
    unreadable_raises orderedHost first
  exact ⟨orderedHost, orderedHost_collisionFree, create_sample orderedHost, o, _, o', t, evaluated, observed,
    stored, further, fresh, contains_later orderedHost, raises⟩

theorem inherited_block_sample :
    ∃ r t', (samplePromoted hexHost (honestCandidate hexHost).matchJson).evaluate hexHost laterArgs =
        .ok (r, t') ∧ r.decision = .block ∧ ∃ id, r.matchedConstraintId = some id := by
  have accepts : AcceptsMatchable hexHost (sample hexHost) (.call (.evaluate sampleArgs)) := trivial
  exact inherited_block hexHost_collisionFree (create_sample hexHost)
    (.single ⟨accepts, .call (calls_sample hexHost)⟩)
    ⟨"event", "generator", ["action"], observe_sample hexHost⟩
    (authorize_samplePromoted hexHost (honestCandidate hexHost).matchJson) .nil (by decide)
    (fresh_later hexHost (honestCandidate hexHost).matchJson) (contains_later hexHost)

end MatVerse.GovernedOrganism
