import MatVerse.PhysiologyEngine

/-! The physiology engine in a closed loop: what was executed is measured again, the
failures in a row are kept in an authenticated state, and while a recovery is required
only proposals for it reach the engine. -/
namespace MatVerse.Physiology

def feedbackSchema : String := "matverse.physiology-effect-feedback.v1"

/-- `_SHA256_RE.fullmatch`. -/
def isSha256 (text : String) : Bool := text.length == 64 && text.toList.all Hex.isDigit

def HealthState.ofValue? (text : String) : Option HealthState :=
  [HealthState.normal, .degraded, .critical, .recovering, .safeMode].find? fun state => state.value == text

section
variable (upper : String → String)

/-- What a status is compared by; `upper` is `str.upper`. -/
def normalized (status : String) : String := upper (Text.strip status)

structure EffectFeedbackPolicy where
  successStatuses : List String
  failuresBeforeRecoveryGate : Nat
  some : ∃ status ∈ successStatuses, Text.strip status ≠ ""
  unique : ((successStatuses.filter fun status => Text.strip status != "").map (normalized upper)).Nodup
  positive : 1 ≤ failuresBeforeRecoveryGate

variable {upper}

def EffectFeedbackPolicy.accepts (policy : EffectFeedbackPolicy upper) (status : String) : Bool :=
  Text.strip status != "" && (policy.successStatuses.map (normalized upper)).contains (normalized upper status)

end

structure FeedbackState where
  failureStreak : Nat
  recoveryRequired : Bool
  recoveryForCycleId : Option String
  lastEffectStatus : Option String
  lastPostEffectHealth : Option HealthState
  lastFeedbackReceiptHash : Option String
  deriving DecidableEq

/-- `_empty_state`. -/
def FeedbackState.fresh : FeedbackState := ⟨0, false, none, none, none, none⟩

def FeedbackState.toJson (f : FeedbackState) : Json :=
  .dict [("schema", .str feedbackSchema), ("failure_streak", .int f.failureStreak),
    ("recovery_required", .bool f.recoveryRequired), ("recovery_for_cycle_id", optText f.recoveryForCycleId),
    ("last_effect_status", optText f.lastEffectStatus),
    ("last_post_effect_health", optText (f.lastPostEffectHealth.map HealthState.value)),
    ("last_feedback_receipt_hash", optText f.lastFeedbackReceiptHash)]

/-- A field that is a text with a property, or null. -/
def textOrNull (property : String → Bool) (message : String) : Option Json → Except EngineError (Option String)
  | none => .ok none
  | some .null => .ok none
  | some (.str s) => if property s then .ok (some s) else .error (.valueError message)
  | some _ => .error (.valueError message)

section
variable (host : Host)

/-- `last_post_effect_health`, by the text of the value. -/
def healthOrNull : Option Json → Except EngineError (Option HealthState)
  | none => .ok none
  | some .null => .ok none
  | some v =>
    match HealthState.ofValue? (pyStr host v) with
    | some health => .ok (some health)
    | none => .error (.valueError "invalid last_post_effect_health")

/-- `_validate_state`. -/
def validateFeedback (value : Json) : Except EngineError FeedbackState := do
  if !value.isObj then throw (.valueError "invalid effect feedback state")
  if !((value.get? "schema").all fun schema => isStr (some schema) feedbackSchema) then
    throw (.valueError "unsupported effect feedback schema")
  let failureStreak ← pyInt (value.get? "failure_streak")
  if failureStreak < 0 then throw (.valueError "failure_streak must be >= 0")
  let recoveryRequired := ((value.get? "recovery_required").map Json.truthy).getD false
  let recoveryFor ← textOrNull (fun s => s != "") "recovery_for_cycle_id must be a non-empty string or null"
    (value.get? "recovery_for_cycle_id")
  if recoveryRequired != recoveryFor.isSome then
    throw (.valueError "recovery_required and recovery_for_cycle_id are inconsistent")
  let lastStatus ← textOrNull (fun _ => true) "last_effect_status must be a string or null"
    (value.get? "last_effect_status")
  let health ← healthOrNull host (value.get? "last_post_effect_health")
  let receiptHash ← textOrNull isSha256 "last_feedback_receipt_hash must be a SHA-256 hex string or null"
    (value.get? "last_feedback_receipt_hash")
  return ⟨failureStreak.toNat, recoveryRequired, recoveryFor, lastStatus, health, receiptHash⟩

variable (secret : String)

def feedbackMac (payload : Json) : String := hmacText host secret (canonicalJson payload)

/-- `_load_persisted_state`. -/
def loadPersisted (stored : Json) : Except EngineError FeedbackState := do
  if !stored.isObj || stored.entries.map Prod.fst != ["payload", "state_mac"] then
    throw (.valueError "invalid persisted effect feedback envelope")
  match stored.get? "payload", stored.get? "state_mac" with
  | some (.obj fields), some (.str supplied) =>
    match compareDigest (feedbackMac host secret (.obj fields)) supplied with
    | .error _ => throw (.typeError "comparing strings with non-ASCII characters is not supported")
    | .ok false => throw (.valueError "effect feedback state authentication failed")
    | .ok true => validateFeedback host (.obj fields)
  | _, _ => throw (.valueError "invalid persisted effect feedback envelope")

def feedbackKey (o : GovernedOrganism) : String := "physiology-effect-feedback:" ++ o.identity.organismId

/-- The feedback state that an engine takes up from the journal. -/
def reload (journal : Journal) (o : GovernedOrganism) : Except EngineError FeedbackState :=
  match getState journal (feedbackKey o) with
  | .error e => .error (.journal e)
  | .ok none => .ok .fresh
  | .ok (some .null) => .ok .fresh
  | .ok (some stored) => loadPersisted host secret stored

def envelope (f : FeedbackState) : Json :=
  .dict [("payload", jsonClone f.toJson), ("state_mac", .str (feedbackMac host secret (jsonClone f.toJson)))]

end

/-! ## The loop -/

inductive Measurement where
  /-- The telemetry raises. -/
  | unavailable (errorType message : String)
  /-- The integrity check raises. -/
  | unchecked (sample : TelemetrySample) (errorType message : String)
  | taken (sample : TelemetrySample) (journalOk : Bool)

/-- An effect that was fed back: the cycle, what the executor answered and what was measured. -/
structure Effect where
  cycleId : String
  status : String
  health : Option HealthState
  deriving DecidableEq

structure Loop where
  world : World
  feedback : FeedbackState
  effects : List Effect

/-- The loop with so many durable writes left before its process ends. -/
def Loop.fused (l : Loop) (fuse : Option Nat) : Loop := { l with world := { l.world with fuse := fuse } }

structure ClosedLoopCycleResult where
  cycle : CycleResult
  effectiveDecision : Option Decision
  postEffectHealth : Option HealthState
  effectStatus : Option String
  recoveryRequired : Bool
  recoveryForCycleId : Option String
  feedbackReceiptHash : Option String
  closedLoopStateRoot : String

abbrev ClosedLoop (α : Type) := EStateM EngineError Loop α

/-- A program of the wrapped engine. -/
def inner {α : Type} (m : Physiological α) : ClosedLoop α := fun l =>
  match m l.world with
  | .ok a w => .ok a { l with world := w }
  | .error e w => .error e { l with world := w }

structure LoopInput where
  stimulus : Stimulus
  effector : Effector
  after : Measurement

def Moment.executed? : Moment → Option Json
  | .executed proposal => some proposal
  | _ => none

/-- `_execute_and_capture`: any other value is refused inside the executor's call. -/
def executeAndCapture (executor : Json → ExecutorOutcome) (proposal : Json) : ExecutorOutcome :=
  match executor proposal with
  | .other => .raised "TypeError" "executor must return ExecutionResult"
  | outcome => outcome

/-- The effector that the engine gets. -/
def Effector.wrapped (effector : Effector) : Effector :=
  { effector with executor := effector.executor.map executeAndCapture }

/-- What `_execute_and_capture` has kept of the executor's answer in a tick. -/
def captured (effector : Effector) (before after : World) : Option ExecutorOutcome := do
  let proposal ← (after.moments.drop before.moments.length).findSome? Moment.executed?
  return (← effector.wrapped.executor) proposal

/-- `_captured_error`. -/
def ExecutorOutcome.error : ExecutorOutcome → Json
  | .raised errorType message => .dict [("error_type", .str errorType), ("error_message", .str message)]
  | _ => .null

structure Measured where
  sample : Option TelemetrySample
  assessment : Option HealthAssessment
  error : Option (String × String)

def measure (policy : HomeostaticPolicy) : Measurement → Measured
  | .unavailable errorType message => ⟨none, none, some (errorType, message)⟩
  | .unchecked sample errorType message => ⟨some sample, none, some (errorType, message)⟩
  | .taken sample journalOk =>
    match assess policy sample journalOk with
    | .ok assessment => ⟨some sample, some assessment, none⟩
    | .error _ => ⟨some sample, none, some ("OverflowError", "integer division result too large for a float")⟩

def Measured.health (m : Measured) : Option HealthState := m.assessment.map HealthAssessment.state

/-- The streak and the gate after an effect. -/
def FeedbackState.after (f : FeedbackState) (limit : Nat) (success : Bool) (cycleId : String) : FeedbackState :=
  if success then { f with failureStreak := 0, recoveryRequired := false, recoveryForCycleId := none }
  else if limit ≤ f.failureStreak + 1 then
    { f with
      failureStreak := f.failureStreak + 1
      recoveryRequired := true
      recoveryForCycleId := some (f.recoveryForCycleId.getD cycleId) }
  else { f with failureStreak := f.failureStreak + 1 }

/-- `_recovery_gate`: why a proposal is held back, if it is. -/
def recoveryGate (f : FeedbackState) (proposal : Option Json) : Option String :=
  match f.recoveryForCycleId, proposal with
  | some origin, some proposal =>
    if isStr (proposal.get? "recovery_for") origin then none
    else some ("effect recovery required for cycle " ++ origin)
  | _, _ => none

def wasRecoveryAttempt (f : FeedbackState) (proposal : Option Json) : Bool :=
  match f.recoveryForCycleId, proposal with
  | some origin, some proposal => isStr (proposal.get? "recovery_for") origin
  | _, _ => false

section
variable (host : Host) {upper : String → String} (policy : HomeostaticPolicy)
    (feedbackPolicy : EffectFeedbackPolicy upper)
  (secret : String)

def effectStatus : Option ExecutorOutcome → String
  | some (.result status _) => pyStr host status
  -- of the other answers only an exception lets the tick go on
  | some _ => "ERROR"
  | none => "UNKNOWN"

/-- `_persist_state`. -/
def persistFeedback : ClosedLoop Unit := do
  let l ← get
  inner (durably fun j => setState j (feedbackKey l.world.organism) (envelope host secret l.feedback))

def closedLoopRoot (f : FeedbackState) (cycle : CycleResult) : String :=
  stableHash host (.dict [("schema", .str feedbackSchema), ("organism_state_root", .str cycle.stateRoot),
    ("feedback_state", f.toJson)])

def recordGateHold (clock : String → TimeNs) (f : FeedbackState) (cycle : CycleResult) (reason : String) :
    ClosedLoop String := do
  let receipt := evidenceReceipt host "PHYSIOLOGY_EFFECT_RECOVERY_GATE"
    (.dict [("schema", .str feedbackSchema), ("cycle_id", .str cycle.cycleId),
      ("recovery_for_cycle_id", optText f.recoveryForCycleId)])
    (.dict [("decision", .str Decision.hold.value), ("reason", .str reason)])
  let _ ← inner (record host clock cycle.cycleId ":effect-recovery-gate" "EFFECT_RECOVERY_GATE"
    [("decision", .str Decision.hold.value), ("reason", .str reason), ("receipt", receipt.toJson)]
    (some (cycle.cycleId ++ ":memory")))
  return receipt.receiptHash

def feedbackInputs (cycle : CycleResult) (attempt : Bool) (outcome : Option ExecutorOutcome) (m : Measured) : Mapping :=
  [("schema", .str feedbackSchema), ("cycle_id", .str cycle.cycleId), ("cycle_receipt_hash", .str cycle.receiptHash),
    ("was_recovery_attempt", .bool attempt), ("effect_status", .str (effectStatus host outcome)),
    ("executor_error", (outcome.map ExecutorOutcome.error).getD .null),
    ("measurement_error", (m.error.map fun error =>
      Json.dict [("error_type", .str error.1), ("error_message", .str error.2)]).getD .null),
    ("post_effect_telemetry", (m.sample.map TelemetrySample.toJson).getD .null),
    ("post_effect_health", optText (m.health.map HealthState.value)),
    ("post_effect_reasons", .arr (((m.assessment.map HealthAssessment.reasons).getD []).map .str))]

def feedbackOutputs (success : Bool) (f : FeedbackState) : Mapping :=
  [("effect_success", .bool success), ("failure_streak", .int f.failureStreak),
    ("recovery_required", .bool f.recoveryRequired), ("recovery_for_cycle_id", optText f.recoveryForCycleId)]

/-- The transport acknowledges and the fresh measurement is NORMAL. -/
def effectSuccess (status : String) (m : Measured) : Bool :=
  feedbackPolicy.accepts status && m.health == some .normal && m.error.isNone

def recordEffectFeedback (input : LoopInput) (cycle : CycleResult) (attempt : Bool) (outcome : Option ExecutorOutcome) :
    ClosedLoop (Option HealthState × String × String) := do
  let l ← get
  let status := effectStatus host outcome
  let m := measure policy input.after
  let success := effectSuccess feedbackPolicy status m
  let changed := l.feedback.after feedbackPolicy.failuresBeforeRecoveryGate success cycle.cycleId
  let inputs := feedbackInputs host cycle attempt outcome m
  let outputs := feedbackOutputs success changed
  let receipt := evidenceReceipt host "PHYSIOLOGY_EFFECT_FEEDBACK" (.dict inputs) (.dict outputs)
  modify fun l => { l with
    feedback := { changed with
      lastEffectStatus := some status
      lastPostEffectHealth := m.health
      lastFeedbackReceiptHash := some receipt.receiptHash }
    effects := l.effects ++ [⟨cycle.cycleId, status, m.health⟩] }
  persistFeedback host secret
  let _ ← inner (record host input.effector.clock cycle.cycleId ":effect-feedback" "EFFECT_FEEDBACK"
    [("inputs", jsonClone (.dict inputs)), ("outputs", jsonClone (.dict outputs)), ("receipt", receipt.toJson)]
    (some (cycle.cycleId ++ ":effect")))
  return (m.health, status, receipt.receiptHash)

/-- `_tick_locked`, for the copy of a proposal. -/
def loopTick (input : LoopInput) : ClosedLoop ClosedLoopCycleResult := do
  let l ← get
  let proposal := input.stimulus.proposal.map fun proposal => jsonClone (.dict proposal)
  match recoveryGate l.feedback proposal with
  | some reason =>
    let cycle ← inner (tick host policy { input.stimulus with proposal := none } input.effector.wrapped)
    let receipt ← recordGateHold host input.effector.clock l.feedback cycle reason
    return ⟨cycle, some .hold, none, none, true, l.feedback.recoveryForCycleId, some receipt,
      closedLoopRoot host l.feedback cycle⟩
  | none =>
    let cycle ← inner
      (tick host policy { input.stimulus with proposal := proposal.map Json.entries } input.effector.wrapped)
    if cycle.decision = some .pass then
      let executed ← get
      let (health, status, receipt) ← recordEffectFeedback host policy feedbackPolicy secret input cycle
        (wasRecoveryAttempt l.feedback proposal) (captured input.effector l.world executed.world)
      let recorded ← get
      return ⟨cycle, cycle.decision, health, some status, recorded.feedback.recoveryRequired,
        recorded.feedback.recoveryForCycleId, some receipt, closedLoopRoot host recorded.feedback cycle⟩
    else
      return ⟨cycle, cycle.decision, none, none, l.feedback.recoveryRequired, l.feedback.recoveryForCycleId, none,
        closedLoopRoot host l.feedback cycle⟩

/-- `__init__`: the states are what the journal holds. -/
def startLoop (journal : Journal) (o : GovernedOrganism) : Except EngineError (FeedbackState × RuntimeState) := do
  if secret = "" then throw (.valueError "feedback_state_secret must be a non-empty string")
  return (← reload host secret journal o, ← start journal o)

end

end MatVerse.Physiology
