import MatVerse.PhysiologyEngine

/-! The deterministic laboratory: a plan of faults, telemetry that follows it cycle by cycle and
an executor that fails at the planned invocations. -/
namespace MatVerse.Physiology

inductive FaultKind where
  | executorError
  | degradedDisk
  | criticalDisk
  deriving DecidableEq

def FaultKind.value : FaultKind → String
  | .executorError => "EXECUTOR_ERROR"
  | .degradedDisk => "DEGRADED_DISK"
  | .criticalDisk => "CRITICAL_DISK"

structure FaultDirective where
  cycleSeq : Int
  kind : FaultKind
  deriving DecidableEq

structure DeterministicFaultPlan where
  seed : Int
  cycles : Int
  directives : List FaultDirective

namespace DeterministicFaultPlan

def forCycle (p : DeterministicFaultPlan) (cycleSeq : Int) : List FaultDirective :=
  p.directives.filter (fun d => d.cycleSeq == cycleSeq)

/-- A fault of a kind is planned for a cycle. -/
def has (p : DeterministicFaultPlan) (cycleSeq : Int) (kind : FaultKind) : Bool :=
  (p.forCycle cycleSeq).any (fun d => d.kind == kind)

end DeterministicFaultPlan

/-! ## The executor -/

structure FaultInjectingExecutor where
  delegate : Json → ExecutorOutcome
  plan : DeterministicFaultPlan
  invocation : Nat

def FaultInjectingExecutor.call (e : FaultInjectingExecutor) (proposal : Json) :
    ExecutorOutcome × FaultInjectingExecutor :=
  let invocation := e.invocation + 1
  (if e.plan.has invocation .executorError then
      .raised "RuntimeError" ("deterministic injected executor fault at invocation " ++ toString invocation)
    else e.delegate proposal,
    { e with invocation := invocation })

/-! ## The telemetry -/

structure DeterministicTelemetry where
  plan : DeterministicFaultPlan
  diskTotalBytes : Int
  normalFreeRatio : Binary64
  degradedFreeRatio : Binary64
  criticalFreeRatio : Binary64
  rssBytes : Int
  cycle : Nat
  positive : 0 < diskTotalBytes
  ratios : ∀ ratio ∈ [normalFreeRatio, degradedFreeRatio, criticalFreeRatio],
    le (.zero false) ratio = true ∧ le ratio (.ofRat 1) = true

/-- `int(total * ratio)`: the total as a float, the rounded product, its whole part. -/
def freeBytes (total : Int) (ratio : Binary64) : Except EngineError Int :=
  match (Binary64.ofSigned total).toRat?, ratio.toRat? with
  | some size, some part =>
    match (Binary64.ofSigned (size * part)).toRat? with
    | some product => .ok (product.num.tdiv product.den)
    | none => .error (.overflowError "cannot convert float infinity to integer")
  | none, _ => .error (.overflowError "int too large to convert to float")
  | _, none => .error (.valueError "cannot convert float NaN to integer")

namespace DeterministicTelemetry

/-- The share of the disk that is free in a cycle. -/
def ratio (t : DeterministicTelemetry) (cycle : Nat) : Binary64 :=
  if t.plan.has cycle .criticalDisk then t.criticalFreeRatio
  else if t.plan.has cycle .degradedDisk then t.degradedFreeRatio
  else t.normalFreeRatio

def instruments : List (String × String) :=
  [("monotonic_ns", "deterministic_lab.logical_clock"), ("process_time_ns", "deterministic_lab.logical_cpu"),
    ("disk", "deterministic_lab.synthetic_disk"), ("rss", "deterministic_lab.synthetic_rss"),
    ("load_1m", "deterministic_lab.synthetic_load")]

def reading (t : DeterministicTelemetry) (cycle : Nat) : Except EngineError TelemetrySample := do
  let free ← freeBytes t.diskTotalBytes (t.ratio cycle)
  return ⟨cycle * 1000000000, cycle * 1000000, t.diskTotalBytes, t.diskTotalBytes - free, free, some t.rssBytes,
    some (.zero false), instruments⟩

def sample (t : DeterministicTelemetry) : Except EngineError TelemetrySample × DeterministicTelemetry :=
  (t.reading (t.cycle + 1), { t with cycle := t.cycle + 1 })

/-- `DeterministicTelemetry(plan=plan)`. -/
def standard (plan : DeterministicFaultPlan) : DeterministicTelemetry where
  plan := plan
  diskTotalBytes := 1000000000
  normalFreeRatio := .ofRat (1 / 2)
  degradedFreeRatio := .ofRat (75 / 1000)
  criticalFreeRatio := .ofRat (25 / 1000)
  rssBytes := 64 * 1024 * 1024
  cycle := 0
  positive := by norm_num
  ratios := by decide +kernel

end DeterministicTelemetry

theorem no_rss_limit (limit : Int) (given : none = some limit) : 0 < limit := by cases given

theorem three_streak : 1 ≤ 3 := by decide

/-- `HomeostaticPolicy()`. -/
def HomeostaticPolicy.standard : HomeostaticPolicy where
  minDiskFreeRatio := .ofRat (5 / 100)
  maxRssBytes := none
  degradedDiskFreeRatio := .ofRat (10 / 100)
  normalStreakToExitSafeMode := 3
  thresholds := by decide +kernel
  rss := no_rss_limit
  streak := three_streak

/-- The health that a plan makes of a cycle. -/
def DeterministicFaultPlan.health (p : DeterministicFaultPlan) (cycle : Nat) : HealthState :=
  if p.has cycle .criticalDisk then .critical else if p.has cycle .degradedDisk then .degraded else .normal

theorem diskFreeRatio_ok {sample : TelemetrySample} (positive : 0 < sample.diskTotalBytes)
    (finite : (Binary64.ofSigned ((sample.diskFreeBytes : ℚ) / sample.diskTotalBytes)).isFinite = true) :
    sample.diskFreeRatio = .ok (.ofSigned ((sample.diskFreeBytes : ℚ) / sample.diskTotalBytes)) := by
  rw [TelemetrySample.diskFreeRatio, if_neg (by omega)]
  cases quotient : Binary64.ofSigned ((sample.diskFreeBytes : ℚ) / sample.diskTotalBytes) with
  | inf =>
    rw [quotient] at finite
    cases finite
  | nan => rfl
  | finite => rfl

/-- The verdicts of the standard policy by the share of the disk that is free. -/
theorem assess_standard {sample : TelemetrySample} {share : Binary64} (free : sample.diskFreeRatio = .ok share)
    (journalOk : Bool) : ∃ assessment, assess .standard sample journalOk = .ok assessment ∧
      assessment.state = if !journalOk || share.lt HomeostaticPolicy.standard.minDiskFreeRatio then .critical
        else if share.lt HomeostaticPolicy.standard.degradedDiskFreeRatio then .degraded else .normal := by
  simp only [assess, free, Fallible.ok_bind]
  cases journalOk <;> cases share.lt HomeostaticPolicy.standard.minDiskFreeRatio <;>
    cases share.lt HomeostaticPolicy.standard.degradedDiskFreeRatio <;> exact ⟨_, rfl, rfl⟩

/-- The share of the disk that the standard telemetry leaves free. -/
def share : HealthState → ℚ
  | .critical => 25 / 1000
  | .degraded => 75 / 1000
  | _ => 1 / 2

theorem standard_ratio (plan : DeterministicFaultPlan) (cycle : Nat) :
    (DeterministicTelemetry.standard plan).ratio cycle = .ofRat (share (plan.health cycle)) := by
  unfold DeterministicTelemetry.ratio DeterministicFaultPlan.health
  show (if plan.has cycle .criticalDisk then _ else if plan.has cycle .degradedDisk then _ else _) = _
  split_ifs <;> rfl

theorem health_planned (plan : DeterministicFaultPlan) (cycle : Nat) :
    plan.health cycle = .critical ∨ plan.health cycle = .degraded ∨ plan.health cycle = .normal := by
  unfold DeterministicFaultPlan.health
  split_ifs <;> simp

theorem standard_share {health : HealthState} (planned : health = .critical ∨ health = .degraded ∨ health = .normal) :
    ∃ free : Int, (freeBytes 1000000000 (.ofRat (share health))).toOption = some free ∧
      (Binary64.ofSigned ((free : ℚ) / (1000000000 : Int))).isFinite = true ∧
      health =
        if (Binary64.ofSigned ((free : ℚ) / (1000000000 : Int))).lt HomeostaticPolicy.standard.minDiskFreeRatio then
          .critical
        else if (Binary64.ofSigned ((free : ℚ) / (1000000000 : Int))).lt
            HomeostaticPolicy.standard.degradedDiskFreeRatio then .degraded
        else .normal := by
  rcases planned with rfl | rfl | rfl
  · exact ⟨25000000, by decide +kernel, by decide +kernel, by decide +kernel⟩
  · exact ⟨75000000, by decide +kernel, by decide +kernel, by decide +kernel⟩
  · exact ⟨500000000, by decide +kernel, by decide +kernel, by decide +kernel⟩

theorem assess_planned (plan : DeterministicFaultPlan) (cycle : Nat) :
    ∃ sample, (DeterministicTelemetry.standard plan).reading cycle = .ok sample ∧ ∀ journalOk,
      ∃ assessment, assess .standard sample journalOk = .ok assessment ∧
        assessment.state = if journalOk then plan.health cycle else .critical := by
  obtain ⟨free, whole, finite, verdict⟩ := standard_share (health_planned plan cycle)
  have total : (DeterministicTelemetry.standard plan).diskTotalBytes = 1000000000 := rfl
  cases counted : freeBytes 1000000000 (.ofRat (share (plan.health cycle))) with
  | error e =>
    rw [counted] at whole
    cases whole
  | ok n =>
    rw [counted] at whole
    obtain rfl : n = free := Option.some.inj whole
    refine ⟨⟨cycle * 1000000000, cycle * 1000000, 1000000000, 1000000000 - n, n, some (64 * 1024 * 1024),
      some (.zero false), DeterministicTelemetry.instruments⟩, ?_, fun journalOk => ?_⟩
    · rw [DeterministicTelemetry.reading, standard_ratio, total, counted]
      rfl
    · obtain ⟨assessment, done, state⟩ := assess_standard (show TelemetrySample.diskFreeRatio ⟨cycle * 1000000000,
        cycle * 1000000, 1000000000, 1000000000 - n, n, some (64 * 1024 * 1024), some (.zero false),
        DeterministicTelemetry.instruments⟩ = _ from diskFreeRatio_ok (by norm_num) finite) journalOk
      refine ⟨assessment, done, state.trans ?_⟩
      cases journalOk with
      | true => exact verdict.symm
      | false => rfl

end MatVerse.Physiology
