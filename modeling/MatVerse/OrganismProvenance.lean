import MatVerse.OrganismState

/-! Where a stored constraint comes from. `authorize_constraint` checks the grant
and the source event of a candidate, not its id, match or reason, so provenance
follows the candidates that an observation could have returned. -/
namespace MatVerse.GovernedOrganism

open Fallible

variable {host : Host}

/-- A constraint derives from a BLOCK evaluation that no constraint caused. -/
structure Derived (host : Host) (o : GovernedOrganism) (c : InheritedConstraint) : Prop where
  source : ∃ evaluation ∈ o.lineage, isEvaluationOf c.sourceEventId evaluation = true ∧
    evaluation.get? "decision" = some (.str "BLOCK") ∧
    isAbsent (evaluation.get? "matched_constraint_id") = true ∧
    evaluation.get? "receipt_hash" = some (.str c.sourceReceiptHash) ∧
    evaluation.get? "reason" = some (.str c.reason) ∧
    ∃ proposal entries, evaluation.get? "proposal" = some proposal ∧
      JsonText.loads c.matchJson = some (.obj entries) ∧ entries ≠ [] ∧
      ∀ p ∈ entries, proposal.get? p.1 = some p.2
  candidate : c.candidateId =
    candidateIdOf host c.sourceEventId c.sourceReceiptHash c.generatorId c.matchJson c.reason
  separated : c.authorizerId ≠ c.generatorId
  granted : o.verifyGrant host
    ⟨c.authorizerId, c.authorizationCapability, c.candidateId, c.authorizationSignature⟩
    c.candidateId = .ok ()

/-- A candidate that an observation returns in this state. -/
def Observable (host : Host) (o : GovernedOrganism) (candidate : ConstraintCandidate) : Prop :=
  ∃ eventId generatorId causalKeys,
    o.observeRejection host eventId generatorId causalKeys = .ok candidate

/-- The call accepts no candidate but one that an observation returns. -/
def AcceptsObservable (host : Host) (o : GovernedOrganism) (op : Op) : Prop :=
  ∀ candidate grant c o', op = .authorize candidate grant →
    o.authorizeConstraint host candidate grant = .ok (c, o') → Observable host o candidate

theorem Derived.mono {o p : GovernedOrganism} {c : InheritedConstraint} (derived : Derived host o c)
    (identity : p.identity = o.identity) (lineage : ∀ item ∈ o.lineage, item ∈ p.lineage) :
    Derived host p c := by
  obtain ⟨evaluation, member, rest⟩ := derived.source
  refine ⟨⟨evaluation, lineage _ member, rest⟩, derived.candidate, derived.separated, ?_⟩
  have granted := derived.granted
  simp only [verifyGrant] at granted ⊢
  rwa [identity]

/-- An accepted observable candidate becomes a derived constraint. -/
theorem authorize_derived {o o' : GovernedOrganism} (entries : ∀ item ∈ o.lineage, Entry item)
    {candidate : ConstraintCandidate} {grant : AuthorizationGrant} {c : InheritedConstraint}
    (done : o.authorizeConstraint host candidate grant = .ok (c, o'))
    (observable : Observable host o candidate) : Derived host o c := by
  obtain ⟨checked, rfl, _⟩ := authorize_ok done
  obtain ⟨granted, apart, _⟩ := checkCandidate_ok.mp checked
  obtain ⟨eventId, generatorId, causalKeys, observed⟩ := observable
  obtain ⟨_, _, source, proposal, reason, receipt, found, block, uncaused, hasProposal, nonempty,
    hasReason, hasReceipt, rfl⟩ := observe_ok observed
  obtain ⟨member, runtimeId, proposal', inputs, decision, reason', matchedId, receipt', rfl, _, normal⟩ :=
    evaluation_ok entries found
  obtain ⟨_, recProposal, _, recReason, _, recReceipt⟩ := evaluationRecord_fields runtimeId eventId
    proposal' inputs decision reason' matchedId receipt'
  obtain rfl := Option.some.inj (recProposal.symm.trans hasProposal)
  obtain rfl := Option.some.inj (recReason.symm.trans hasReason)
  obtain rfl := Option.some.inj (recReceipt.symm.trans hasReceipt)
  obtain ⟨parts, reads, some, within⟩ := loads_matchOf normal nonempty
  constructor
  · exact ⟨_, member, by simp [isEvaluationOf_record, promote], block, uncaused, hasReceipt, hasReason,
      proposal', parts, hasProposal, reads, some, within⟩
  · rfl
  · exact apart
  · obtain ⟨principalId, capability, candidateId, signature⟩ := grant
    obtain ⟨_, rfl⟩ := verifyGrant_candidate granted
    exact granted

/-- The invariant of provenance: known items, derived constraints. -/
structure Provenance (host : Host) (o : GovernedOrganism) : Prop where
  entries : ∀ item ∈ o.lineage, Entry item
  derived : ∀ p ∈ o.constraints, Derived host o p.2

theorem Provenance.of_same {o p : GovernedOrganism} (same : SameState o p)
    (provenance : Provenance host p) : Provenance host o := by
  constructor
  · rw [same.lineage]
    exact provenance.entries
  · rw [same.constraints]
    intro q member
    exact (provenance.derived q member).mono same.identity (by rw [same.lineage]; exact fun _ h => h)

theorem Provenance.step {o o' : GovernedOrganism} {op : Op} (provenance : Provenance host o)
    (accepts : AcceptsObservable host o op) (call : Calls host o op o') : Provenance host o' := by
  subst call
  rcases apply_cases host o op with
    same | ⟨args, matched, receipt, rfl, named, _, _, _, same⟩ | ⟨candidate, grant, c, rfl, done⟩
  · rwa [same]
  · apply Provenance.of_same same
    constructor
    · intro item member
      rcases List.mem_append.mp member with member | member
      · exact provenance.entries item member
      · rw [List.mem_singleton.mp member]
        exact recordOf_entry host o named matched receipt
    · intro p member
      exact (provenance.derived p member).mono rfl (fun item h => List.mem_append_left _ h)
  · have derived := authorize_derived provenance.entries done (accepts _ _ _ _ rfl done)
    obtain ⟨_, _, after⟩ := authorize_ok done
    rw [after]
    constructor
    · intro item member
      rcases List.mem_append.mp member with member | member
      · exact provenance.entries item member
      · rw [List.mem_singleton.mp member]
        exact .promoted c
    · intro p member
      rcases Dict.mem_insert member with rfl | member
      · exact derived.mono rfl (fun item h => List.mem_append_left _ h)
      · exact (provenance.derived p member).mono rfl (fun item h => List.mem_append_left _ h)

theorem create_empty {organismId contract runtimeId stateSecret : String}
    {secrets : List (String × String)} {o : GovernedOrganism}
    (made : create host organismId contract runtimeId stateSecret secrets none = .ok o) :
    o.constraints = [] ∧ o.lineage = [] ∧ o.cachedStateRoot = none := by
  simp only [create, guard_ok, bind_ok, pure_ok] at made
  obtain ⟨_, _, contractHash, _, rfl⟩ := made
  exact ⟨rfl, rfl, rfl⟩

/-- While only observable candidates are accepted, every constraint of every state
reached derives from an uncaused BLOCK evaluation. -/
theorem constraints_derived {organismId contract runtimeId stateSecret : String}
    {secrets : List (String × String)} {start o : GovernedOrganism} {ops : List Op}
    (made : create host organismId contract runtimeId stateSecret secrets none = .ok start)
    (run : Run (fun s op t => AcceptsObservable host s op ∧ Calls host s op t) start ops o) :
    ∀ p ∈ o.constraints, Derived host o p.2 := by
  obtain ⟨noConstraints, noLineage, _⟩ := create_empty made
  have initial : Provenance host start := ⟨by simp [noLineage], by simp [noConstraints]⟩
  exact (run.invariant (Provenance host)
    (fun _ _ _ provenance call => provenance.step call.1 call.2) initial).derived

/-! ## A blocked evaluation, an honest candidate and a forged one -/

def sampleContract : String := "0000000000000000000000000000000000000000000000000000000000000000"

def sampleSecrets : List (String × String) := [("authority", "authority-secret")]

section
variable (host : Host)

def sample : GovernedOrganism :=
  blank ⟨"organism", "runtime", sampleContract, "state-secret", sampleSecrets,
    MatVerse.gateFingerprint host,
    stableHash host (.dict [("schema", .str bindingVersion),
      ("frozen_contract_hash", .str sampleContract.toLower),
      ("gate_fingerprint", .str (MatVerse.gateFingerprint host))])⟩

theorem create_sample :
    create host "organism" sampleContract "runtime" "state-secret" sampleSecrets none =
      .ok (sample host) := by
  have contract : isSha256Hex sampleContract = true := by decide
  simp only [create, MatVerse.constitutionalContractHash, contract, if_true]
  rfl

def sampleArgs : EvaluateArgs := ⟨"event", [("action", .str "A")], none, false, true, true⟩

def sampleBlocked : LoopResult × GovernedOrganism :=
  (sample host).recordEvaluation host sampleArgs sampleArgs.proposalJson sampleArgs.humanJson none

def sampleReceipt : String := (sampleBlocked host).1.evidence.receiptHash

def sampleCandidate (matchJson : String) : ConstraintCandidate :=
  ⟨candidateIdOf host "event" (sampleReceipt host) "generator"
      (canonicalJson (.dict [("action", .str "A")])) "ontology violation",
    "event", sampleReceipt host, "generator", matchJson, "ontology violation"⟩

/-- What `observe_rejection` returns for the blocked event. -/
def honestCandidate : ConstraintCandidate :=
  sampleCandidate host (canonicalJson (.dict [("action", .str "A")]))

/-- The honest candidate's id over another match. -/
def forgedCandidate : ConstraintCandidate :=
  sampleCandidate host (canonicalJson (.dict [("action", .str "B")]))

def sampleGrant : AuthorizationGrant :=
  ⟨"authority", authCapability, (honestCandidate host).candidateId,
    hmacText host "authority-secret"
      (grantPayload "authority" authCapability (honestCandidate host).candidateId)⟩

theorem evaluate_sample : (sample host).evaluate host sampleArgs = .ok (sampleBlocked host) :=
  evaluate_record (by decide) rfl rfl

theorem sampleBlocked_state : SameState (sampleBlocked host).2
    { sample host with lineage := [evaluationRecord "runtime" "event" (.dict [("action", .str "A")])
        (gateInputs none sampleArgs) .block "ontology violation" none (sampleReceipt host)] } :=
  recordEvaluation_state host (sample host) sampleArgs none

theorem evaluation_sampleBlocked : (sampleBlocked host).2.evaluation "event" =
    .ok (evaluationRecord "runtime" "event" (.dict [("action", .str "A")])
      (gateInputs none sampleArgs) .block "ontology violation" none (sampleReceipt host)) := by
  apply evaluation_unique
  · rw [(sampleBlocked_state host).lineage]
    simp [isEvaluationOf_record]
  · exact (recordOf_entry host (sample host) (by decide) none (sampleReceipt host)).normal

theorem observe_sample : (sampleBlocked host).2.observeRejection host "event" "generator" ["action"] =
    .ok (honestCandidate host) := by
  rw [observe_record (evaluation_sampleBlocked host) (by decide) (by decide)]
  · rfl
  · decide

theorem authorize_sample (matchJson : String) :
    (sampleBlocked host).2.authorizeConstraint host (sampleCandidate host matchJson) (sampleGrant host) =
      .ok ((sampleBlocked host).2.promote host (sampleCandidate host matchJson) (sampleGrant host),
        markStateMutated { (sampleBlocked host).2 with
          constraints := [(((sampleBlocked host).2.promote host (sampleCandidate host matchJson)
              (sampleGrant host)).constraintId,
            (sampleBlocked host).2.promote host (sampleCandidate host matchJson) (sampleGrant host))]
          lineage := (sampleBlocked host).2.lineage ++ [promotedRecord
            ((sampleBlocked host).2.promote host (sampleCandidate host matchJson)
              (sampleGrant host))] }) := by
  have granted : (sampleBlocked host).2.verifyGrant host (sampleGrant host)
      (sampleCandidate host matchJson).candidateId = .ok () :=
    verifyGrant_signed (by rw [(sampleBlocked_state host).identity]; rfl)
  rw [authorize_record granted (by simp [sampleGrant, sampleCandidate]) (evaluation_sampleBlocked host),
    (sampleBlocked_state host).constraints]
  rfl

theorem sign_sample (nonempty : ∀ v, stableHash host v ≠ "") :
    signAuthorizationGrant host "authority-secret" "authority" (honestCandidate host).candidateId =
      .ok (sampleGrant host) := by
  have named : (honestCandidate host).candidateId ≠ "" := nonempty _
  simp [signAuthorizationGrant, named, sampleGrant]

/-- The organism after it accepted a candidate under the honest candidate's id. -/
def samplePromoted (matchJson : String) : GovernedOrganism :=
  Machine.after (apply host) (sample host)
    [.evaluate sampleArgs, .authorize (sampleCandidate host matchJson) (sampleGrant host)]

theorem samplePromoted_eq (matchJson : String) :
    let c := (sampleBlocked host).2.promote host (sampleCandidate host matchJson) (sampleGrant host)
    (samplePromoted host matchJson).constraints = [(c.constraintId, c)] ∧
    (samplePromoted host matchJson).lineage =
      [evaluationRecord "runtime" "event" (.dict [("action", .str "A")])
        (gateInputs none sampleArgs) .block "ontology violation" none (sampleReceipt host),
        promotedRecord c] := by
  simp only [samplePromoted, Machine.after, apply, evaluate_sample, authorize_sample host matchJson,
    mark_constraints, mark_lineage, (sampleBlocked_state host).lineage, List.singleton_append, true_and]

theorem authorize_samplePromoted (matchJson : String) :
    (sampleBlocked host).2.authorizeConstraint host (sampleCandidate host matchJson) (sampleGrant host) =
      .ok ((sampleBlocked host).2.promote host (sampleCandidate host matchJson) (sampleGrant host),
        samplePromoted host matchJson) := by
  rw [authorize_sample]
  simp only [samplePromoted, Machine.after, apply, evaluate_sample, authorize_sample]

/-- The forged match is in no evaluation of the lineage. -/
theorem forged_not_derived :
    ∃ p ∈ (samplePromoted host (forgedCandidate host).matchJson).constraints,
      ¬ Derived host (samplePromoted host (forgedCandidate host).matchJson) p.2 := by
  obtain ⟨constraints, lineage⟩ := samplePromoted_eq host (forgedCandidate host).matchJson
  rw [constraints]
  refine ⟨_, List.mem_singleton.mpr rfl, ?_⟩
  intro derived
  obtain ⟨item, member, named, _, _, _, _, proposal, entries, hasProposal, reads, _, within⟩ :=
    derived.source
  have forged : JsonText.loads (forgedCandidate host).matchJson = some (.obj [("action", .str "B")]) :=
    loads_canonicalJson _
  obtain rfl := Json.obj.inj (Option.some.inj (reads.symm.trans forged))
  have claimed := within ("action", .str "B") (by simp)
  rw [lineage] at member
  rcases List.mem_cons.mp member with rfl | member
  · obtain ⟨_, recProposal, _⟩ := evaluationRecord_fields "runtime" "event" (.dict [("action", .str "A")])
      (gateInputs none sampleArgs) .block "ontology violation" none (sampleReceipt host)
    obtain rfl := Option.some.inj (recProposal.symm.trans hasProposal)
    simp at claimed
  · rw [List.mem_singleton.mp member] at named
    simp [isEvaluationOf, isEvaluation_promoted] at named

theorem run_samplePromoted (matchJson : String) :
    Run (Calls host) (sample host)
      [.evaluate sampleArgs, .authorize (sampleCandidate host matchJson) (sampleGrant host)]
      (samplePromoted host matchJson) :=
  Machine.run_after (apply host) (sample host) _

theorem accepts_sample :
    Run (fun s op t => AcceptsObservable host s op ∧ Calls host s op t) (sample host)
      [.evaluate sampleArgs, .authorize (honestCandidate host) (sampleGrant host)]
      (samplePromoted host (honestCandidate host).matchJson) := by
  have observed : AcceptsObservable host ((sample host).apply host (.evaluate sampleArgs)).2
      (.authorize (honestCandidate host) (sampleGrant host)) := by
    intro candidate grant c o' same _
    cases same
    refine ⟨"event", "generator", ["action"], ?_⟩
    rw [apply, evaluate_sample]
    exact observe_sample host
  have evaluates : AcceptsObservable host (sample host) (.evaluate sampleArgs) := by
    intro candidate grant c o' same
    cases same
  exact .cons ⟨evaluates, rfl⟩ (.cons ⟨observed, rfl⟩ .nil)

end

/-- A signed grant for the honest candidate admits a match that no evaluation made. -/
theorem forged_constraint_stored :
    hexHost.CollisionFree ∧
    create hexHost "organism" sampleContract "runtime" "state-secret" sampleSecrets none =
      .ok (sample hexHost) ∧
    signAuthorizationGrant hexHost "authority-secret" "authority" (honestCandidate hexHost).candidateId =
      .ok (sampleGrant hexHost) ∧
    ∃ o, Run (Calls hexHost) (sample hexHost)
        [.evaluate sampleArgs, .authorize (forgedCandidate hexHost) (sampleGrant hexHost)] o ∧
      ∃ p ∈ o.constraints, ¬ Derived hexHost o p.2 :=
  ⟨hexHost_collisionFree, create_sample hexHost, sign_sample hexHost hexHost_stableHash_ne_empty,
    samplePromoted hexHost _, run_samplePromoted hexHost _, forged_not_derived hexHost⟩

/-- The honest candidate's constraint is derived. -/
theorem constraints_derived_sample :
    (samplePromoted hexHost (honestCandidate hexHost).matchJson).constraints ≠ [] ∧
      ∀ p ∈ (samplePromoted hexHost (honestCandidate hexHost).matchJson).constraints,
        Derived hexHost (samplePromoted hexHost (honestCandidate hexHost).matchJson) p.2 := by
  refine ⟨?_, constraints_derived (create_sample hexHost) (accepts_sample hexHost)⟩
  rw [(samplePromoted_eq hexHost (honestCandidate hexHost).matchJson).1]
  exact List.cons_ne_nil _ _

end MatVerse.GovernedOrganism
