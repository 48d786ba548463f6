import MatVerse.EffectFeedback
import MatVerse.EventConsumers

/-! The homeostatic supervisor: while a recovery is pending it proposes the recovery of a
policy that was bound before, numbers its attempts and records what came of them. -/
namespace MatVerse.Physiology

def supervisorSchema : String := "matverse.bounded-autonomous-recovery.v1"

/-! ## The policy -/

/-- `_RESERVED_POLICY_KEYS`, sorted. -/
def reservedPolicyKeys : List String := ["action", "recovery_for"]

/-- A predeclared recovery, its parameters as canonical JSON. -/
structure BoundedRecoveryPolicy where
  action : String
  parametersJson : String
  named : action ≠ ""
  canonical : ∃ parameters : Mapping, parametersJson = canonicalJson (.dict parameters) ∧
    ∀ key ∈ reservedPolicyKeys, Dict.get? key (Dict.ofPairs parameters) = none

namespace BoundedRecoveryPolicy

def build (action : String) (parameters : Option Mapping) : Except PyError BoundedRecoveryPolicy :=
  if named : Text.strip action = "" then .error (.valueError "action must be a non-empty string")
  else
    let parameters := parameters.getD []
    let overlap := reservedPolicyKeys.filter fun key => (Dict.get? key (Dict.ofPairs parameters)).isSome
    if free : overlap = [] then
      .ok ⟨Text.strip action, canonicalJson (.dict parameters), named, parameters, rfl, fun key member => by
        simpa using List.filter_eq_nil_iff.mp free key member⟩
    else
      .error (.valueError ("reserved recovery policy keys: [" ++
        String.intercalate ", " (overlap.map fun key => "'" ++ key ++ "'") ++ "]"))

/-- `json.loads(self.parameters_json)`. -/
def parameters (p : BoundedRecoveryPolicy) : Json := (JsonText.loads p.parametersJson).getD .null

def fingerprint (host : Host) (p : BoundedRecoveryPolicy) : String :=
  stableHash host (.dict [("schema", .str supervisorSchema), ("action", .str p.action), ("parameters", p.parameters)])

/-- The proposal for a recovery of a cycle. -/
def recovery (p : BoundedRecoveryPolicy) (origin : String) : Mapping :=
  Dict.insert "recovery_for" (.str origin) (Dict.insert "action" (.str p.action) p.parameters.entries)

def proposalFor (p : BoundedRecoveryPolicy) (f : FeedbackState) : Except EngineError Mapping :=
  match f.recoveryRequired, f.recoveryForCycleId with
  | true, some origin => .ok (p.recovery origin)
  | _, _ => .error (.valueError "recovery policy may run only while recovery is required")

end BoundedRecoveryPolicy

/-! ## The records of an attempt -/

/-- The event id of an attempt, with the beginning of its digest. -/
def recoveryEventId (host : Host) (origin : String) (number : Int) (digest : String) : String :=
  origin ++ (":autonomous-recovery:" ++ (pyStr host (.int number) ++ (":" ++ digest)))

section
variable {host : Host} {origin digest : String} {number : Int}

theorem recoveryEventId_mark (host : Host) (number : Int) (digest : String) :
    (":autonomous-recovery:" ++ (pyStr host (.int number) ++ (":" ++ digest))).toList.head? = some ':' := by
  simp [String.toList_append]

theorem strip_recoveryEventId (hex : Hex.Digits origin) (hex' : Hex.Digits digest) {more : String}
    (ends : more = "" ∨ ∃ last, more.toList.getLast? = some last ∧ Text.isSpace last = false) :
    Text.strip (recoveryEventId host origin number digest ++ more) =
      recoveryEventId host origin number digest ++ more := by
  obtain ⟨last, found, mark⟩ : ∃ last,
      ((":autonomous-recovery:" ++ (pyStr host (.int number) ++ (":" ++ digest))) ++ more).toList.getLast? = some last ∧
        Text.isSpace last = false := by
    simp only [String.toList_append, List.getLast?_append]
    rcases ends with rfl | ⟨last, found, mark⟩
    · cases own : digest.toList.getLast? with
      | none => exact ⟨':', by simp, rfl⟩
      | some c =>
        exact ⟨c, by simp, Hex.isDigit_not_space (List.all_eq_true.mp hex' c (List.mem_of_getLast? own))⟩
    · exact ⟨last, by rw [found]; rfl, mark⟩
  rw [recoveryEventId, String.append_assoc]
  have starts : (":autonomous-recovery:" ++ (pyStr host (.int number) ++ (":" ++ digest)) ++ more).toList.head? =
      some ':' := by
    simp [String.toList_append]
  exact hex.strip_append starts found ⟨rfl, mark⟩

end

structure RecoveryAttempt where
  organismId : String
  origin : String
  number : Int
  sourceEventId : String
  sourceReceiptHash : Option String
  policyFingerprint : String
  ontologyOk : Bool
  signatureValid : Bool
  transitionValid : Bool
  humanInputHash : Option String
  proposal : Mapping

namespace RecoveryAttempt

/-- `proposal_inputs`. -/
def inputs (a : RecoveryAttempt) : Mapping :=
  [("schema", .str supervisorSchema), ("organism_id", .str a.organismId), ("recovery_origin_cycle_id", .str a.origin),
    ("attempt_number", .int a.number), ("source_feedback_event_id", .str a.sourceEventId),
    ("source_feedback_receipt_hash", optText a.sourceReceiptHash), ("policy_fingerprint", .str a.policyFingerprint),
    ("gate_inputs", .dict [("ontology_ok", .bool a.ontologyOk), ("signature_valid", .bool a.signatureValid),
      ("transition_valid", .bool a.transitionValid)]),
    ("human_input_hash", optText a.humanInputHash)]

/-- `proposal_outputs`. -/
def outputs (a : RecoveryAttempt) : Mapping := [("proposal", .dict a.proposal)]

section
variable (host : Host)

def receipt (a : RecoveryAttempt) : EvidenceReceipt :=
  evidenceReceipt host "BOUNDED_AUTONOMOUS_RECOVERY_PROPOSAL" (.dict a.inputs) (.dict a.outputs)

/-- `attempt_id`. -/
def id (a : RecoveryAttempt) : String :=
  stableHash host (.dict (a.inputs ++ [("proposal_receipt_hash", .str (a.receipt host).receiptHash)]))

def payload (a : RecoveryAttempt) : Mapping :=
  [("inputs", .dict a.inputs), ("outputs", .dict a.outputs), ("receipt", (a.receipt host).toJson)]

/-- The call that records the proposal. -/
def call (a : RecoveryAttempt) (time : TimeNs) : AppendCall :=
  ⟨recoveryEventId host a.origin a.number (String.ofList ((a.id host).toList.take 16)), "physiology",
     "BOUNDED_AUTONOMOUS_RECOVERY_PROPOSED", a.payload host, some a.sourceEventId, some a.origin, none, time.1⟩

def outcomeInputs (a : RecoveryAttempt) (cycle : ClosedLoopCycleResult) : Mapping :=
  [("schema", .str supervisorSchema), ("proposal_receipt_hash", .str (a.receipt host).receiptHash),
    ("recovery_origin_cycle_id", .str a.origin), ("recovery_cycle_id", .str cycle.cycle.cycleId),
    ("attempt_number", .int a.number)]

def outcomeOutputs (cycle : ClosedLoopCycleResult) : Mapping :=
  [("effective_decision", optText (cycle.effectiveDecision.map Decision.value)),
    ("executed", .bool cycle.cycle.executed),
    ("post_effect_health", optText (cycle.postEffectHealth.map HealthState.value)),
    ("recovery_required", .bool cycle.recoveryRequired), ("recovery_cleared", .bool (!cycle.recoveryRequired)),
    ("feedback_receipt_hash", optText cycle.feedbackReceiptHash),
    ("closed_loop_state_root", .str cycle.closedLoopStateRoot)]

def outcomeReceipt (a : RecoveryAttempt) (cycle : ClosedLoopCycleResult) : EvidenceReceipt :=
  evidenceReceipt host "BOUNDED_AUTONOMOUS_RECOVERY_OUTCOME" (.dict (a.outcomeInputs host cycle))
    (.dict (outcomeOutputs cycle))

/-- The call that records what came of the proposal. -/
def outcomeCall (a : RecoveryAttempt) (proposed : String) (cycle : ClosedLoopCycleResult) (time : TimeNs) :
    AppendCall :=
  ⟨proposed ++ ":outcome", "physiology", "BOUNDED_AUTONOMOUS_RECOVERY_OUTCOME",
    [("inputs", .dict (a.outcomeInputs host cycle)), ("outputs", .dict (outcomeOutputs cycle)),
      ("receipt", (a.outcomeReceipt host cycle).toJson)], some proposed, some a.origin, none, time.1⟩

end

section
variable {host : Host} {a : RecoveryAttempt} {time : TimeNs}

theorem digest_digits (host : Host) (a : RecoveryAttempt) :
    Hex.Digits (String.ofList ((a.id host).toList.take 16)) := by
  have digits : Hex.Digits (a.id host) := host.sha256Digits _
  unfold Hex.Digits at digits ⊢
  rw [String.toList_ofList]
  exact List.all_eq_true.mpr fun c member => List.all_eq_true.mp digits c (List.mem_of_mem_take member)

theorem id_call (hex : Hex.Digits a.origin) : (a.call host time).id =
    recoveryEventId host a.origin a.number (String.ofList ((a.id host).toList.take 16)) := by
  have kept : Text.strip (recoveryEventId host a.origin a.number _ ++ "") = _ :=
    strip_recoveryEventId hex (a.digest_digits host) (.inl rfl)
  rw [String.append_empty] at kept
  exact kept

theorem id_outcomeCall (hex : Hex.Digits a.origin) (cycle : ClosedLoopCycleResult) :
    (a.outcomeCall host (recoveryEventId host a.origin a.number (String.ofList ((a.id host).toList.take 16))) cycle
      time).id = recoveryEventId host a.origin a.number (String.ofList ((a.id host).toList.take 16)) ++ ":outcome" :=
  strip_recoveryEventId hex (a.digest_digits host) (.inr ⟨'e', by decide, by decide⟩)

end

end RecoveryAttempt

structure SupervisorStepResult where
  cycle : ClosedLoopCycleResult
  autonomousRecoveryAttempted : Bool
  recoveryOriginCycleId : Option String
  policyFingerprint : Option String
  proposalReceiptHash : Option String
  outcomeReceiptHash : Option String

/-! ## The supervisor -/

/-- `_policy_state_key`. -/
def policyKey (organismId : String) : String := "bounded-recovery-policy:" ++ organismId

/-- `_attempt_state_key`. -/
def attemptsKey (organismId : String) : String := "bounded-recovery-attempts:" ++ organismId

def binding (fingerprint : String) : Json :=
  .dict [("schema", .str supervisorSchema), ("policy_fingerprint", .str fingerprint)]

/-- The payload of the event has the receipt of this hash. -/
def receiptIs (receiptHash : String) (event : JournalEvent) : Bool :=
  match event.payload.get? "receipt" with
  | some receipt => isStr (receipt.get? "receipt_hash") receiptHash
  | none => false

section
variable (host : Host) {upper : String → String} (policy : HomeostaticPolicy)
    (feedbackPolicy : EffectFeedbackPolicy upper)
  (secret : String) (recovery : BoundedRecoveryPolicy)

/-- `journal.append`, of which the id of the event is used. -/
def appendEvent (call : AppendCall) : Physiological String := do
  let event ← durably fun j => append host j call
  return event.eventId

/-- What a journal answers without writing. -/
def consult {α : Type} : Except JournalError α → ClosedLoop α
  | .ok a => pure a
  | .error e => throw (.journal e)

def bindOrValidatePolicy : ClosedLoop Unit := do
  let l ← get
  match ← consult (getState l.world.journal (policyKey l.world.organism.identity.organismId)) with
  | none | some .null =>
    if l.feedback.recoveryRequired then throw (.runtimeError "pending recovery has no pre-bound recovery policy")
    inner (durably fun j => setState j (policyKey l.world.organism.identity.organismId)
      (binding (recovery.fingerprint host)))
  | some stored =>
    if !stored.isObj then throw (.valueError "invalid persisted recovery policy binding")
    if !isStr (stored.get? "schema") supervisorSchema then
      throw (.valueError "unsupported recovery policy binding schema")
    if !isStr (stored.get? "policy_fingerprint") (recovery.fingerprint host) then
      throw (.valueError "recovery policy fingerprint mismatch")

def nextAttemptNumber (origin : String) : ClosedLoop Int := do
  let l ← get
  let state := (← consult (getState l.world.journal (attemptsKey l.world.organism.identity.organismId))).getD (.obj [])
  if !state.isObj then throw (.valueError "invalid persisted recovery attempt state")
  let current ← inner (lifted (pyInt (state.get? origin)))
  if current < 0 then throw (.valueError "invalid persisted recovery attempt counter")
  inner (durably fun j => setState j (attemptsKey l.world.organism.identity.organismId)
    (.dict (state.entries ++ [(origin, .int (current + 1))])))
  return current + 1

def feedbackEventIdForReceipt (receiptHash : Option String) : ClosedLoop String := do
  let l ← get
  match receiptHash with
  | none => throw (.runtimeError "pending recovery has no source feedback receipt")
  | some receiptHash =>
    let events ← consult (readEvents l.world.journal.view 0 10000 (some "physiology"))
    match events.reverse.find? (receiptIs receiptHash) with
    | some event => return event.eventId
    | none => throw (.runtimeError "source feedback event for pending recovery was not found")

/-- The arguments of a step with a proposal of the supervisor. -/
def LoopInput.proposing (input : LoopInput) (proposal : Mapping) : LoopInput :=
  { input with stimulus := { input.stimulus with proposal := some proposal } }

/-- A step while the recovery of a cycle is pending. -/
def attemptRecovery (input : LoopInput) (f : FeedbackState) (origin : String) : ClosedLoop SupervisorStepResult := do
  let number ← nextAttemptNumber origin
  let source ← feedbackEventIdForReceipt f.lastFeedbackReceiptHash
  let proposal ← inner (lifted (recovery.proposalFor f))
  let l ← get
  let attempt : RecoveryAttempt :=
    ⟨l.world.organism.identity.organismId, origin, number, source, f.lastFeedbackReceiptHash,
    recovery.fingerprint host, input.stimulus.ontologyOk, input.stimulus.signatureValid, input.stimulus.transitionValid,
    input.stimulus.human.map fun human => stableHash host (.dict human), proposal⟩
  let proposed ← inner (appendEvent host (attempt.call host (input.effector.clock ":autonomous-recovery")))
  let cycle ← loopTick host policy feedbackPolicy secret (input.proposing proposal)
  let _ ← inner (appendEvent host (attempt.outcomeCall host proposed cycle (input.effector.clock ":outcome")))
  return ⟨cycle, true, some origin, some (recovery.fingerprint host), some (attempt.receipt host).receiptHash,
    some (attempt.outcomeReceipt host cycle).receiptHash⟩

/-- `_step_locked`. -/
def superviseStep (input : LoopInput) : ClosedLoop SupervisorStepResult := do
  bindOrValidatePolicy host recovery
  let l ← get
  if l.feedback.recoveryRequired then
    if input.stimulus.proposal.isSome then
      throw (.valueError "external proposal is not accepted while bounded autonomous recovery is pending")
    match l.feedback.recoveryForCycleId with
    | none => throw (.runtimeError "recovery_required without recovery origin")
    | some origin => attemptRecovery host policy feedbackPolicy secret recovery input l.feedback origin
  else
    let cycle ← loopTick host policy feedbackPolicy secret input
    return ⟨cycle, false, none, none, none, none⟩

end

/-! ## Processes -/

/-- What a process is started with. -/
structure Supervisor (upper : String → String) where
  policy : HomeostaticPolicy
  feedbackPolicy : EffectFeedbackPolicy upper
  recovery : BoundedRecoveryPolicy

/-- A journal with the process over it, if one is running; the journal is that of the loop. -/
structure Site (upper : String → String) where
  loop : Loop
  supervisor : Option (Supervisor upper)

inductive SiteStep (upper : String → String) (organismId : String) where
  /-- A process is started over the journal. -/
  | boot (organism : { o : GovernedOrganism // o.identity.organismId = organismId }) (supervisor : Supervisor upper)
  | step (input : LoopInput)
  /-- The process ends after so many durable writes of a step. -/
  | crash (input : LoopInput) (writes : Nat)

section
variable (host : Host) {upper : String → String} (secret : String) {organismId : String}

/-- A step of a supervisor, and the loop after it. -/
def Supervisor.stepped (supervisor : Supervisor upper) (input : LoopInput) (l : Loop) : Loop :=
  afterwards (superviseStep host supervisor.policy supervisor.feedbackPolicy secret supervisor.recovery input) l

/-- The engine is constructed, then the supervisor over it. -/
def bootSite (l : Loop) (organism : GovernedOrganism) (supervisor : Supervisor upper) : Site upper :=
  match startLoop host secret l.world.journal.reopen organism with
  | .error _ => ⟨l, none⟩
  | .ok (feedback, runtime) =>
    let started : Loop := { l with
      world := { l.world with journal := l.world.journal.reopen, organism := organism, runtime := runtime }
      feedback := feedback }
    match bindOrValidatePolicy host supervisor.recovery started with
    | .ok _ v => ⟨v, some supervisor⟩
    | .error _ v => ⟨v, none⟩

def siteStep (s : Site upper) : SiteStep upper organismId → Site upper
  | .boot organism supervisor => bootSite host secret s.loop organism.1 supervisor
  | .step input =>
    match s.supervisor with
    | none => s
    | some supervisor => { s with loop := supervisor.stepped host secret input s.loop }
  | .crash input writes =>
    match s.supervisor with
    | none => s
    | some supervisor => ⟨(supervisor.stepped host secret input (s.loop.fused (some writes))).fused none, none⟩

end

end MatVerse.Physiology
