import MatVerse.EventJournal
import MatVerse.Lib.Chronicle
import MatVerse.Lib.Hoare
import MatVerse.OrganismLoop

/-! The physiology engine: each tick senses, plans recovery, lets the organism decide on a
proposal, executes what passed and remembers the cycle. -/
namespace MatVerse.Physiology

inductive HealthState where
  | normal
  | degraded
  | critical
  | recovering
  | safeMode
  deriving DecidableEq

def HealthState.value : HealthState → String
  | .normal => "NORMAL"
  | .degraded => "DEGRADED"
  | .critical => "CRITICAL"
  | .recovering => "RECOVERING"
  | .safeMode => "SAFE_MODE"

inductive RecoveryAction where
  | none
  | throttle
  | enterSafeMode
  | exitSafeMode
  deriving DecidableEq

def RecoveryAction.value : RecoveryAction → String
  | .none => "NONE"
  | .throttle => "THROTTLE"
  | .enterSafeMode => "ENTER_SAFE_MODE"
  | .exitSafeMode => "EXIT_SAFE_MODE"

structure TelemetrySample where
  monotonicNs : Int
  processTimeNs : Int
  diskTotalBytes : Int
  diskUsedBytes : Int
  diskFreeBytes : Int
  rssBytes : Option Int
  load1m : Option Binary64
  instruments : List (String × String)

inductive EngineError where
  | journal (error : JournalError)
  | organism (error : PyError)
  | overflowError (message : String)
  | typeError (message : String)
  | valueError (message : String)
  | runtimeError (message : String)
  /-- An exception that the executor's result or exception causes when it is recorded. -/
  | effect
  /-- The process ends between two durable writes. -/
  | crash

namespace TelemetrySample

/-- The quotient of two integers, rounded once. -/
def diskFreeRatio (s : TelemetrySample) : Except EngineError Binary64 :=
  if s.diskTotalBytes ≤ 0 then .ok (.zero false)
  else
    match Binary64.ofSigned ((s.diskFreeBytes : ℚ) / s.diskTotalBytes) with
    | .inf _ => .error (.overflowError "integer division result too large for a float")
    | ratio => .ok ratio

/-- `asdict(sample)`. -/
def toJson (s : TelemetrySample) : Json :=
  .dict [("monotonic_ns", .int s.monotonicNs), ("process_time_ns", .int s.processTimeNs),
    ("disk_total_bytes", .int s.diskTotalBytes), ("disk_used_bytes", .int s.diskUsedBytes),
    ("disk_free_bytes", .int s.diskFreeBytes), ("rss_bytes", (s.rssBytes.map Json.int).getD .null),
    ("load_1m", (s.load1m.map Json.float).getD .null),
    ("instruments", .dict (s.instruments.map (fun p => (p.1, .str p.2))))]

end TelemetrySample

def le (x y : Binary64) : Bool := x.lt y || x.eqv y

structure HomeostaticPolicy where
  minDiskFreeRatio : Binary64
  maxRssBytes : Option Int
  degradedDiskFreeRatio : Binary64
  normalStreakToExitSafeMode : Nat
  thresholds : le (.zero false) minDiskFreeRatio = true ∧ minDiskFreeRatio.lt degradedDiskFreeRatio = true ∧
    le degradedDiskFreeRatio (.ofRat 1) = true
  rss : ∀ limit, maxRssBytes = some limit → 0 < limit
  streak : 1 ≤ normalStreakToExitSafeMode

structure HealthAssessment where
  state : HealthState
  reasons : List String

def assess (policy : HomeostaticPolicy) (sample : TelemetrySample) (journalOk : Bool) :
    Except EngineError HealthAssessment := do
  let ratio ← sample.diskFreeRatio
  let low := ratio.lt policy.minDiskFreeRatio
  let rss := match policy.maxRssBytes, sample.rssBytes with
    | some limit, some rss => decide (limit < rss)
    | _, _ => false
  let critical := (if journalOk then [] else ["journal_integrity_failure"]) ++
    (if low then ["disk_free_below_critical"] else []) ++ (if rss then ["rss_above_configured_limit"] else [])
  let degraded := if !low && ratio.lt policy.degradedDiskFreeRatio then ["disk_free_below_degraded"] else []
  if critical ≠ [] then return ⟨.critical, critical⟩
  if degraded ≠ [] then return ⟨.degraded, degraded⟩
  return ⟨.normal, []⟩

structure RuntimeState where
  cycleSeq : Nat
  safeMode : Bool
  normalStreak : Nat
  throttled : Bool
  deriving DecidableEq

def RuntimeState.fresh : RuntimeState := ⟨0, false, 0, false⟩

def RuntimeState.toJson (r : RuntimeState) : Json :=
  .dict [("cycle_seq", .int r.cycleSeq), ("safe_mode", .bool r.safeMode), ("normal_streak", .int r.normalStreak),
    ("throttled", .bool r.throttled)]

/-- `int(value)` of a number, which is what the engine stores. -/
def pyInt : Option Json → Except EngineError Int
  | none => .ok 0
  | some (.int i) => .ok i
  | some (.bool b) => .ok (if b then 1 else 0)
  | some _ => .error (.typeError "int() argument")

def validateRuntimeState (value : Json) : Except EngineError RuntimeState := do
  if !value.isObj then throw (.valueError "invalid physiology runtime state")
  let cycleSeq ← pyInt (value.get? "cycle_seq")
  let normalStreak ← pyInt (value.get? "normal_streak")
  if cycleSeq < 0 || normalStreak < 0 then throw (.valueError "invalid physiology counters")
  return ⟨cycleSeq.toNat, ((value.get? "safe_mode").map Json.truthy).getD false, normalStreak.toNat,
    ((value.get? "throttled").map Json.truthy).getD false⟩

def planRecovery (policy : HomeostaticPolicy) (r : RuntimeState) : HealthState → RecoveryAction × RuntimeState
  | .critical => (.enterSafeMode, { r with safeMode := true, throttled := true, normalStreak := 0 })
  | .degraded => (.throttle, { r with throttled := true, normalStreak := 0 })
  | _ =>
    if r.safeMode then
      if policy.normalStreakToExitSafeMode ≤ r.normalStreak + 1 then
        (.exitSafeMode, { r with normalStreak := r.normalStreak + 1, safeMode := false, throttled := false })
      else (.none, { r with normalStreak := r.normalStreak + 1 })
    else (.none, { r with normalStreak := r.normalStreak + 1, throttled := false })

inductive ExecutorOutcome where
  | result (status : Json) (effect : Mapping)
  | raised (errorType message : String)
  /-- A value that is not an `ExecutionResult`. -/
  | other
  /-- An `ExecutionResult` or an exception without a JSON text, which is noticed before the
  EXECUTION event or at the EFFECT event. -/
  | unrecordable (executed early : Bool)

/-- A reading of `time.time_ns`. -/
abbrev TimeNs := { t : Int // 0 ≤ t ∧ t < 2 ^ 63 }

theorem zero_range : (0 : Int) ≤ 0 ∧ (0 : Int) < 2 ^ 63 := by decide

structure Stimulus where
  sample : TelemetrySample
  /-- The verdict of the integrity check. -/
  journalOk : Bool
  proposal : Option Mapping
  human : Option Mapping
  ontologyOk : Bool
  signatureValid : Bool
  transitionValid : Bool

/-- The executor of a tick, and the clock at each of its events. -/
structure Effector where
  executor : Option (Json → ExecutorOutcome)
  clock : String → TimeNs

inductive Moment where
  | assessed (health : HealthState)
  | planned (safeMode : Bool)
  | decided (decision : Decision)
  | executed (proposal : Json)

structure World where
  journal : Journal
  organism : GovernedOrganism
  runtime : RuntimeState
  moments : List Moment
  /-- The durable writes left before the process ends. -/
  fuse : Option Nat

structure CycleResult where
  cycleId : String
  cycleSeq : Nat
  health : HealthState
  recoveryAction : RecoveryAction
  decision : Option Decision
  executed : Bool
  stateRoot : String
  receiptHash : String

abbrev Physiological (α : Type) := EStateM EngineError World α

def stateKey (o : GovernedOrganism) : String := "physiology:" ++ o.identity.organismId

namespace World

def noted (w : World) (m : Moment) : World := { w with moments := w.moments ++ [m] }

end World

section
variable (host : Host)

/-- A journal's answer as the result of a program. -/
def answered {α : Type} (w : World) : Except JournalError α → EStateM.Result EngineError World α
  | .ok a => .ok a w
  | .error e => .error (.journal e) w

/-- A durable write, unless the process ends first. -/
def durably {α : Type} (write : Journal → Except JournalError α × Journal) : Physiological α := fun w =>
  match w.fuse with
  | some 0 => .error .crash w
  | fuse => answered { w with journal := (write w.journal).2, fuse := fuse.map (· - 1) } (write w.journal).1

/-- `journal.append` of an event of a cycle; what the engine goes on to use of it is its id. -/
def record (clock : String → TimeNs) (cycleId label eventType : String) (payload : Mapping)
    (causation : Option String) : Physiological String := do
  let event ← durably fun j => append host j
    ⟨cycleId ++ label, "physiology", eventType, payload, causation, some cycleId, none, (clock label).1⟩
  return event.eventId

def persistRuntimeState : Physiological Unit := do
  let w ← get
  durably fun j => setState j (stateKey w.organism) w.runtime.toJson

def stateRoot : Physiological String := fun w =>
  .ok (w.organism.stateRoot host).1 { w with organism := (w.organism.stateRoot host).2 }

def lifted {α : Type} : Except EngineError α → Physiological α
  | .ok a => pure a
  | .error e => throw e

/-- The start of a tick: the id of its cycle, named after the state of the organism. -/
def openCycle (clock : String → TimeNs) : Physiological (Nat × String × String) := do
  modify fun w => { w with runtime := { w.runtime with cycleSeq := w.runtime.cycleSeq + 1 } }
  let w ← get
  let root ← stateRoot host
  let cycleId := stableHash host (.dict [("schema", .str schemaVersion),
    ("organism_id", .str w.organism.identity.organismId), ("cycle_seq", .int w.runtime.cycleSeq),
    ("previous_state_root", .str root)])
  let tick ← record host clock cycleId ":tick" "TICK"
    [("cycle_id", .str cycleId), ("cycle_seq", .int w.runtime.cycleSeq)] none
  return (w.runtime.cycleSeq, cycleId, tick)

/-- The plan for an assessment is in force before the next durable write. -/
def adopt (policy : HomeostaticPolicy) (health : HealthState) : Physiological RecoveryAction := fun w =>
  let plan := planRecovery policy w.runtime health
  .ok plan.1 (({ w with runtime := plan.2 }.noted (.assessed health)).noted (.planned plan.2.safeMode))

def sense (policy : HomeostaticPolicy) (stimulus : Stimulus) (clock : String → TimeNs) (cycleId tick : String) :
    Physiological (HealthState × RecoveryAction × String) := do
  let assessment ← lifted (assess policy stimulus.sample stimulus.journalOk)
  let action ← adopt policy assessment.state
  persistRuntimeState
  let observation ← record host clock cycleId ":observation" "OBSERVATION"
    [("cycle_id", .str cycleId), ("telemetry", stimulus.sample.toJson),
      ("journal_integrity", .bool stimulus.journalOk), ("health", .str assessment.state.value),
      ("reasons", .arr (assessment.reasons.map .str))] (some tick)
  let w ← get
  let plan ← record host clock cycleId ":plan" "RECOVERY_PLAN"
    [("cycle_id", .str cycleId), ("action", .str action.value), ("safe_mode", .bool w.runtime.safeMode),
      ("throttled", .bool w.runtime.throttled)] (some observation)
  return (assessment.state, action, plan)

def evaluate (args : GovernedOrganism.EvaluateArgs) : Physiological LoopResult := fun w =>
  match w.organism.evaluate host args with
  | .ok (result, organism) => .ok result { w with organism := organism }
  | .error e => .error (.organism e) w

/-- The decision on a proposal, in safe mode without the organism. -/
def decideOn (stimulus : Stimulus) (clock : String → TimeNs) (cycleId plan : String) (proposal : Mapping) :
    Physiological (Decision × String) := do
  let w ← get
  if w.runtime.safeMode then
    let reason := "physiology safe mode blocks external execution"
    let receipt := evidenceReceipt host "PHYSIOLOGY_SAFE_MODE_DECISION"
      (.dict [("cycle_id", .str cycleId), ("proposal", jsonClone (.dict proposal))])
      (.dict [("decision", .str Decision.hold.value), ("reason", .str reason)])
    modify (·.noted (.decided .hold))
    let event ← record host clock cycleId ":decision" "DECISION"
      [("decision", .str Decision.hold.value), ("reason", .str reason), ("receipt", receipt.toJson)] (some plan)
    return (.hold, event)
  else
    let result ← evaluate host ⟨cycleId ++ ":organism-evaluation", (jsonClone (.dict proposal)).entries, stimulus.human,
      stimulus.ontologyOk, stimulus.signatureValid, stimulus.transitionValid⟩
    modify (·.noted (.decided result.decision))
    let event ← record host clock cycleId ":decision" "DECISION"
      [("decision", .str result.decision.value), ("reason", .str result.reason),
        ("organism_receipt", result.evidence.toJson)] (some plan)
    return (result.decision, event)

/-- The EFFECT payload of an outcome, and whether the proposal counts as executed. -/
def effectPayload : ExecutorOutcome → Except EngineError (Bool × Option Mapping)
  | .result status effect => .ok (true, some [("status", status), ("effect", jsonClone (.dict effect))])
  | .raised errorType message => .ok (false, some [("status", .str "ERROR"), ("error_type", .str errorType),
      ("error_message", .str message)])
  | .other => .error (.typeError "executor must return ExecutionResult")
  | .unrecordable executed early => if early then .error .effect else .ok (executed, none)

/-- The execution of a proposal that passed. -/
def execute (effector : Effector) (cycleId decision : String) (proposal : Json) : Physiological (Bool × String) := do
  match effector.executor with
  | none => throw (.runtimeError "PASS decision requires an explicit executor")
  | some executor =>
    modify (·.noted (.executed proposal))
    let (executed, effect) ← lifted (effectPayload (executor proposal))
    let execution ← record host effector.clock cycleId ":execution" "EXECUTION"
      [("attempted", .bool true), ("executed", .bool executed)] (some decision)
    match effect with
    | none => throw .effect
    | some payload =>
      let _ ← record host effector.clock cycleId ":effect" "EFFECT" payload (some execution)
      return (executed, execution)

def cycleCore (r : CycleResult) (runtime : RuntimeState) (executionEvent : Option String) : Mapping :=
  [("schema", .str schemaVersion), ("cycle_id", .str r.cycleId), ("cycle_seq", .int r.cycleSeq),
    ("health", .str r.health.value), ("recovery_action", .str r.recoveryAction.value),
    ("safe_mode", .bool runtime.safeMode), ("throttled", .bool runtime.throttled),
    ("decision", optText (r.decision.map Decision.value)), ("executed", .bool r.executed),
    ("execution_event_id", optText executionEvent), ("state_root", .str r.stateRoot)]

/-- The end of a tick. -/
def remember (clock : String → TimeNs) (cycleSeq : Nat) (cycleId plan : String) (health : HealthState)
    (action : RecoveryAction) (decision : Option Decision) (execution : Option (Bool × String)) :
    Physiological CycleResult := do
  let root ← stateRoot host
  let w ← get
  let result : CycleResult := ⟨cycleId, cycleSeq, health, action, decision, (execution.map (·.1)).getD false, root, ""⟩
  let core := cycleCore result w.runtime (execution.map (·.2))
  let receipt := evidenceReceipt host "PHYSIOLOGY_CYCLE" (.dict core) (.dict [("closed", .bool true)])
  let _ ← record host clock cycleId ":memory" "MEMORY_COMMIT" (core ++ [("cycle_receipt", receipt.toJson)])
    (some ((execution.map (·.2)).getD plan))
  persistRuntimeState
  return { result with receiptHash := receipt.receiptHash }

/-- What a tick does before anything is executed. -/
def deliberate (policy : HomeostaticPolicy) (stimulus : Stimulus) (clock : String → TimeNs) :
    Physiological (Nat × String × HealthState × RecoveryAction × String × Option (Decision × String × Json)) := do
  let (cycleSeq, cycleId, tick) ← openCycle host clock
  let (health, action, plan) ← sense host policy stimulus clock cycleId tick
  match stimulus.proposal with
  | none => return (cycleSeq, cycleId, health, action, plan, none)
  | some proposal =>
    let (decision, event) ← decideOn host stimulus clock cycleId plan proposal
    return (cycleSeq, cycleId, health, action, plan, some (decision, event, jsonClone (.dict proposal)))

/-- What a tick does once the decision is taken. -/
def conclude (effector : Effector) (cycleSeq : Nat) (cycleId : String) (health : HealthState)
    (action : RecoveryAction) (plan : String) : Option (Decision × String × Json) → Physiological CycleResult
  | none => remember host effector.clock cycleSeq cycleId plan health action none none
  | some (decision, event, proposal) => do
    if decision = .pass then
      let execution ← execute host effector cycleId event proposal
      remember host effector.clock cycleSeq cycleId plan health action (some decision) (some execution)
    else remember host effector.clock cycleSeq cycleId plan health action (some decision) none

def tick (policy : HomeostaticPolicy) (stimulus : Stimulus) (effector : Effector) : Physiological CycleResult := do
  let (cycleSeq, cycleId, health, action, plan, decided) ← deliberate host policy stimulus effector.clock
  conclude host effector cycleSeq cycleId health action plan decided

end

/-- `PhysiologyEngine.__init__`: the runtime state is what the journal holds. -/
def start (journal : Journal) (organism : GovernedOrganism) : Except EngineError RuntimeState :=
  match getState journal (stateKey organism) with
  | .error e => .error (.journal e)
  | .ok none => .ok .fresh
  | .ok (some stored) => validateRuntimeState stored

def samplePolicy : HomeostaticPolicy where
  minDiskFreeRatio := .zero false
  maxRssBytes := none
  degradedDiskFreeRatio := .ofRat 1
  normalStreakToExitSafeMode := 3
  thresholds := by decide +kernel
  rss := by simp
  streak := by decide

def sampleStimulus : Stimulus :=
  ⟨⟨0, 0, 1, 0, 1, none, none, []⟩, true, some [("action", .str "A")], none, true, true, true⟩

/-! ## Writes of a process that goes on -/

def AppendCall.timed (c : AppendCall) (time : TimeNs) : AppendCall := { c with createdNs := none, timeNs := time.1 }

theorem created_range (c : AppendCall) (time : TimeNs) : (c.timed time).created < 2 ^ 63 := time.2.2

section
variable {host : Host} {w : World}

theorem durably_alive {α : Type} (write : Journal → Except JournalError α × Journal) (alive : w.fuse = none) :
    durably write w = answered { w with journal := (write w.journal).2 } (write w.journal).1 := by
  obtain ⟨journal, organism, runtime, moments, fuse⟩ := w
  obtain rfl : fuse = none := alive
  rfl

/-- The call by which a cycle records an event. -/
def recordCall (cycleId label eventType : String) (payload : Mapping) (causation : Option String) : AppendCall :=
  ⟨cycleId ++ label, "physiology", eventType, payload, causation, some cycleId, none, 0⟩

theorem record_alive (clock : String → TimeNs) (cycleId label eventType : String) (payload : Mapping)
    (causation : Option String) (alive : w.fuse = none) :
    record host clock cycleId label eventType payload causation w =
      answered { w with
          journal := (append host w.journal
            ((recordCall cycleId label eventType payload causation).timed (clock label))).2 }
        ((append host w.journal
          ((recordCall cycleId label eventType payload causation).timed (clock label))).1.map
          JournalEvent.eventId) := by
  have step := durably_alive (fun j => append host j
    ((recordCall cycleId label eventType payload causation).timed (clock label))) alive
  show EStateM.bind (durably fun j => append host j
    ((recordCall cycleId label eventType payload causation).timed (clock label))) _ w = _
  unfold EStateM.bind
  rw [step]
  cases (append host w.journal ((recordCall cycleId label eventType payload causation).timed (clock label))).1 <;> rfl

theorem persist_alive (alive : w.fuse = none) : persistRuntimeState w =
    answered { w with journal := (setState w.journal (stateKey w.organism) w.runtime.toJson).2 }
      (setState w.journal (stateKey w.organism) w.runtime.toJson).1 :=
  durably_alive (fun j => setState j (stateKey w.organism) w.runtime.toJson) alive

end

end MatVerse.Physiology
