import MatVerse.DeterministicLab
import MatVerse.EffectRecorded
import MatVerse.FirstTick
import MatVerse.OrganismRestore

/-! The executor substitution experiment: one task of one authenticated snapshot, executed by
several executors, each on a clone of the organism with a journal of its own. -/
namespace MatVerse.Physiology

def substitutionSchema : String := "matverse.executor-substitution-experiment.v1"

structure OrganismCloneConfig where
  organismId : String
  frozenContractHash : String
  runtimeId : String
  stateSecret : String
  authoritySecrets : List (String × String)
  named : organismId ≠ "" ∧ runtimeId ≠ "" ∧ stateSecret ≠ ""
  digest : frozenContractHash.length = 64
  secrets : authoritySecrets ≠ []

structure ExecutorArm where
  armId : String
  provider : String
  model : String
  executor : Json → ExecutorOutcome
  labelled : ∀ text ∈ [armId, provider, model], Text.strip text ≠ ""

structure ArmOutcome where
  armId : String
  provider : String
  model : String
  decision : Option String
  executed : Bool
  success : Bool
  health : String
  recoveryAction : String
  cycleId : String
  stateRootBefore : String
  stateRootAfter : String
  effectStatus : Option String
  effectHash : Option String
  usage : Mapping
  journalIntegrity : Bool
  journalEventTypes : List String

structure SubstitutionReport where
  schema : String
  experimentId : String
  snapshotHash : String
  taskHash : String
  arms : List ArmOutcome
  invariants : List (String × Bool)
  substitutionPass : Bool
  receipt : EvidenceReceipt

/-- What an arm meets: the time at its events, and the verdicts of the integrity check during
the tick and after it. -/
structure Circumstance where
  clock : String → TimeNs
  sensed : Bool
  integrity : Bool

/-- The journal files of the work directory, each with what is committed in it. -/
abbrev Workdir := String → Tables

section
variable (host : Host)

def OrganismCloneConfig.instantiate (config : OrganismCloneConfig) (state : Option Mapping) :
    Except PyError GovernedOrganism :=
  GovernedOrganism.create host config.organismId config.frozenContractHash config.runtimeId config.stateSecret
    config.authoritySecrets state

def captureSnapshot (config : OrganismCloneConfig) (organism : Option GovernedOrganism) : Except PyError Mapping := do
  let source ← match organism with
    | some source => .ok source
    | none => config.instantiate host none
  if source.identity.organismId != config.organismId then
    throw (.valueError "snapshot source organism_id does not match clone config")
  return (source.exportState host).1

def constraintsFingerprint (o : GovernedOrganism) : String :=
  stableHash host ((Json.dict o.statePayload).get? "constraints" |>.getD (.arr []))

def lineageFingerprint (o : GovernedOrganism) : String :=
  stableHash host ((Json.dict o.statePayload).get? "lineage" |>.getD (.arr []))

def effectFromJournal (t : Tables) : Except JournalError (Option Json) := do
  let events ← readEvents t 0 10000 (some "physiology")
  return ((events.filter (fun event => event.eventType == "EFFECT")).getLast?).map JournalEvent.payload

def usageFromEffect (effect : Option Json) : Mapping :=
  match effect.bind (Json.get? "effect") with
  | some (.obj nested) =>
    match (Json.obj nested).get? "usage" with
    | some (.obj usage) => usage
    | _ => []
  | _ => []

def armSuccess (decision : Option Decision) (executed : Bool) : Option Json → Bool
  | none => false
  | some effect =>
    if decision ≠ some .pass || !executed || !effect.truthy then false
    else if !isStr (effect.get? "status") "OK" then false
    else
      match effect.get? "effect" with
      | some (.obj nested) =>
        match (Json.obj nested).get? "validated" with
        | some (.bool false) => false
        | _ => true
      | _ => true

abbrev Experiment (α : Type) := EStateM EngineError Workdir α

def attempt {α : Type} : Except EngineError α → Experiment α
  | .ok a => pure a
  | .error e => throw e

/-- A program of an engine over a journal file, which keeps what was committed. -/
def overFile {α : Type} (file : String) (start : Journal → World) (program : Physiological α) :
    Experiment (α × World) := fun files =>
  match program (start (Connection.connect (files file))) with
  | .ok a w => .ok (a, w) (Function.update files file w.journal.durable)
  | .error e w => .error e (Function.update files file w.journal.durable)

def armOutcome (arm : ExecutorArm) (circumstance : Circumstance) (before after : String) (cycle : CycleResult)
    (effect : Option Json) (events : List JournalEvent) : ArmOutcome where
  armId := arm.armId
  provider := arm.provider
  model := arm.model
  decision := cycle.decision.map Decision.value
  executed := cycle.executed
  success := armSuccess cycle.decision cycle.executed effect
  health := cycle.health.value
  recoveryAction := cycle.recoveryAction.value
  cycleId := cycle.cycleId
  stateRootBefore := before
  stateRootAfter := after
  effectStatus := effect.map (fun effect => pyStr host ((effect.get? "status").getD .null))
  effectHash := effect.map (stableHash host)
  usage := usageFromEffect effect
  journalIntegrity := circumstance.integrity
  journalEventTypes := events.map JournalEvent.eventType

/-- One arm of the experiment, on a clone restored from the snapshot. -/
def runArm (config : OrganismCloneConfig) (snapshot task : Mapping) (locate : String → String)
    (circumstance : Circumstance) (arm : ExecutorArm) : Experiment (ArmOutcome × GovernedOrganism) := do
  let organism ← attempt ((config.instantiate host (some snapshot)).mapError .organism)
  let files ← get
  let runtime ← attempt (start (Connection.connect (files (locate arm.armId))) (organism.stateRoot host).2)
  let sample ← attempt (DeterministicTelemetry.standard ⟨1, 1, []⟩).sample.1
  let (cycle, w) ← overFile (locate arm.armId)
    (fun journal => ⟨journal, (organism.stateRoot host).2, runtime, [], none⟩)
    (tick host .standard ⟨sample, circumstance.sensed, some task, none, true, true, true⟩ ⟨some arm.executor,
      circumstance.clock⟩)
  let effect ← attempt ((effectFromJournal w.journal.durable).mapError .journal)
  let events ← attempt ((readEvents w.journal.durable 0 10000 (some "physiology")).mapError .journal)
  return (armOutcome host arm circumstance (organism.stateRoot host).1 (w.organism.stateRoot host).1 cycle effect
    events, (w.organism.stateRoot host).2)

def runArms (config : OrganismCloneConfig) (snapshot task : Mapping) (locate : String → String)
    (circumstances : String → Circumstance) : List ExecutorArm → Experiment (List (ArmOutcome × GovernedOrganism))
  | [] => return []
  | arm :: arms => do
    let outcome ← runArm host config snapshot task locate (circumstances arm.armId) arm
    let outcomes ← runArms config snapshot task locate circumstances arms
    return outcome :: outcomes

/-- The structural invariants, against the clone that was restored before the arms. -/
def substitutionInvariants (probe : GovernedOrganism) (finals : List (ArmOutcome × GovernedOrganism)) :
    List (String × Bool) :=
  let outcomes := finals.map Prod.fst
  let organisms := finals.map Prod.snd
  [("same_snapshot", outcomes.all fun o => some o.stateRootBefore == (outcomes.head?.map ArmOutcome.stateRootBefore)),
    ("identity_preserved", organisms.all fun o => o.identity.organismId == probe.identity.organismId),
    ("constitution_preserved",
      organisms.all fun o => o.identity.constitutionalContractHash == probe.identity.constitutionalContractHash),
    ("gate_fingerprint_preserved", organisms.all fun o => o.identity.gateFingerprint == probe.identity.gateFingerprint),
    ("constraints_preserved", organisms.all fun o => constraintsFingerprint host o == constraintsFingerprint host
      probe),
    ("lineage_equivalent_across_arms", (organisms.map (lineageFingerprint host)).dedup.length == 1),
    ("state_root_equivalent_across_arms", (outcomes.map ArmOutcome.stateRootAfter).dedup.length == 1),
    ("journal_integrity", outcomes.all ArmOutcome.journalIntegrity)]

def substitutionCore (snapshot task : Mapping) (arms : List ExecutorArm) (probe : GovernedOrganism) : Json :=
  .dict [("schema", .str substitutionSchema), ("snapshot_hash", .str (stableHash host (.dict snapshot))),
    ("task_hash", .str (stableHash host (.dict task))), ("baseline_lineage_hash", .str (lineageFingerprint host probe)),
    ("executor_identities",
      .arr (arms.map fun arm => .dict [("arm_id", .str arm.armId), ("provider", .str arm.provider),
      ("model", .str arm.model)]))]

def ArmOutcome.auditable (o : ArmOutcome) : Json :=
  .dict [("arm_id", .str o.armId), ("provider", .str o.provider), ("model", .str o.model),
    ("decision", optText o.decision),
    ("executed", .bool o.executed), ("success", .bool o.success), ("state_root_after", .str o.stateRootAfter),
    ("effect_hash", optText o.effectHash), ("usage", .dict o.usage), ("journal_integrity", .bool o.journalIntegrity)]

def substitutionReport (snapshot task : Mapping) (arms : List ExecutorArm) (probe : GovernedOrganism)
    (finals : List (ArmOutcome × GovernedOrganism)) : SubstitutionReport :=
  let outcomes := finals.map Prod.fst
  let invariants := substitutionInvariants host probe finals
  let pass := invariants.all Prod.snd && outcomes.all ArmOutcome.success
  let core := substitutionCore host snapshot task arms probe
  let experimentId := stableHash host core
  let outputs := Json.dict [("experiment_id", .str experimentId), ("arms", .arr (outcomes.map ArmOutcome.auditable)),
    ("invariants", .dict (invariants.map fun p => (p.1, .bool p.2))), ("substitution_pass", .bool pass)]
  ⟨substitutionSchema, experimentId, stableHash host (.dict snapshot), stableHash host (.dict task), outcomes,
    invariants, pass, evidenceReceipt host "EXECUTOR_SUBSTITUTION_EXPERIMENT" core outputs⟩

def runExecutorSubstitution (config : OrganismCloneConfig) (snapshot task : Mapping) (arms : List ExecutorArm)
    (locate : String → String) (circumstances : String → Circumstance) : Experiment SubstitutionReport := do
  if arms.length < 2 then throw (.valueError "executor substitution requires at least two arms")
  if (arms.map ExecutorArm.armId).dedup.length ≠ arms.length then throw (.valueError "arm_id values must be unique")
  if (arms.map fun arm => (arm.provider, arm.model)).dedup.length < 2 then
    throw (.valueError "executor substitution requires at least two distinct executor identities")
  let probe ← attempt ((config.instantiate host (some snapshot)).mapError .organism)
  let finals ← runArms host config snapshot task locate circumstances arms
  return substitutionReport host snapshot task arms probe finals

end

/-! ## Reading the effect back -/

section
variable {host : Host} {property : GovernedOrganism → Prop} {c : Cycle} {effects : List Json}

theorem Underway.read {w : World} (underway : Underway host property c 8 effects w) (single : effects.length ≤ 1) :
    effectFromJournal w.journal.durable = .ok effects.getLast? ∧
      ∃ events, readEvents w.journal.durable 0 10000 (some "physiology") = .ok events := by
  have every : (w.journal.durable.events.filter fun row => decide ((0 : Int) < row.seq) &&
      (some "physiology").all (· == row.topic)) = w.journal.durable.events := by
    refine List.filter_eq_self.mpr fun row listed => ?_
    obtain ⟨topic, first⟩ := underway.placed row listed
    simp [topic, first]
  have sorted := List.mergeSort_perm w.journal.durable.events fun row row' => row.seq ≤ row'.seq
  have rows : readEvents w.journal.durable 0 10000 (some "physiology") =
      .ok ((w.journal.durable.events.mergeSort fun row row' => row.seq ≤ row'.seq).map rowToEvent) := by
    have short : w.journal.durable.events.length ≤ (10000 : Int).toNat := Nat.le_trans underway.few (by norm_num)
    rw [← sorted.length_eq] at short
    rw [readEvents, if_neg (by decide), if_neg (by decide), rowsAfter, every, List.take_of_length_le short]
  refine ⟨?_, _, rows⟩
  have effect : ((w.journal.durable.events.mergeSort fun row row' => row.seq ≤ row'.seq).filter
      (fun row => row.eventType == "EFFECT")).map EventRow.payload = effects := by
    have same := (sorted.filter fun row => row.eventType == "EFFECT").map EventRow.payload
    rw [underway.recorded] at same
    cases effects with
    | nil => exact same.eq_nil
    | cons effect rest =>
      obtain rfl : rest = [] := List.length_eq_zero_iff.mp (Nat.le_zero.mp (Nat.le_of_succ_le_succ single))
      exact List.perm_singleton.mp same
  simp only [effectFromJournal, rows, Fallible.ok_bind]
  rw [← effect, List.filter_map, List.getLast?_map, List.getLast?_map, Option.map_map]
  rfl

/-- The executor answered with an effect that it did not declare invalid. -/
def Validated (outcome : ExecutorOutcome) : Prop :=
  ∃ effect, outcome = .result (.str "OK") effect ∧ (Json.dict effect).norm.get? "validated" ≠ some (.bool false)

theorem isStr_norm {v : Json} {text : String} : isStr (some v.norm) text = true ↔ v = .str text := by
  cases v <;> simp [isStr, Json.norm_obj, Json.norm_arr, Json.dict]

theorem armSuccess_iff {outcome : ExecutorOutcome} {executed : Bool} {payload : Mapping}
    (told : effectPayload outcome = .ok (executed, some payload)) :
    armSuccess (some .pass) executed (some (Json.dict payload).norm) = true ↔ Validated outcome := by
  cases outcome with
  | result status effect =>
    simp only [effectPayload, Except.ok.injEq, Prod.mk.injEq, Option.some.injEq] at told
    obtain ⟨rfl, rfl⟩ := told
    obtain ⟨entries, same⟩ : ∃ entries, (Json.dict effect).norm = .obj entries := ⟨_, by rw [Json.norm_dict, Json.dict]⟩
    have truthy : (Json.dict [("status", status), ("effect", jsonClone (.dict effect))]).norm.truthy = true := by
      rw [Json.norm_dict, Json.dict, Json.truthy, Bool.not_eq_true', List.isEmpty_eq_false_iff]
      exact Dict.ofPairs_ne_nil (by simp)
    have named : (Json.dict [("status", status), ("effect", jsonClone (.dict effect))]).norm.get? "status" =
        some status.norm := by simp
    have nested : (Json.dict [("status", status), ("effect", jsonClone (.dict effect))]).norm.get? "effect" = some
        (.obj entries) := by
      have fixed : (Json.obj entries).norm = .obj entries := by rw [← same, Json.norm_norm]
      rw [jsonClone_eq, same, Json.norm_dict]
      simp only [List.map_cons, List.map_nil, fixed, Json.get?_dict]
      simp
    have judged : (match (Json.obj entries).get? "validated" with
        | some (.bool false) => false
        | _ => true) = true ↔ (Json.obj entries).get? "validated" ≠ some (.bool false) := by
      split
      · next found => simp [found]
      · next other => simpa using fun found => other found
    have validated : Validated (.result status effect) ↔
        status = .str "OK" ∧ (Json.obj entries).get? "validated" ≠ some (.bool false) := by
      rw [← same]
      constructor
      · rintro ⟨effect', outcome, valid⟩
        cases outcome
        exact ⟨rfl, valid⟩
      · rintro ⟨rfl, valid⟩
        exact ⟨effect, rfl, valid⟩
    rw [validated, ← judged, ← isStr_norm]
    simp only [armSuccess, truthy, named, nested]
    cases isStr (some status.norm) "OK" <;> simp
  | raised errorType message =>
    simp only [effectPayload, Except.ok.injEq, Prod.mk.injEq, Option.some.injEq] at told
    obtain ⟨rfl, rfl⟩ := told
    simp [armSuccess, Validated]
  | other => simp only [effectPayload, reduceCtorEq] at told
  | unrecordable executed early =>
    cases early <;> simp [effectPayload] at told

end

/-! ## One arm -/

section
variable (host : Host)

def armWorld (o : GovernedOrganism) : World := ⟨Journal.empty, (o.stateRoot host).2, .fresh, [], none⟩

def armStimulus (sample : TelemetrySample) (task : Mapping) : Stimulus :=
  ⟨sample, true, some task, none, true, true, true⟩

/-- The organism's answer to the task in the first cycle after the snapshot. -/
def governed (o : GovernedOrganism) (task : Mapping) : Except PyError (LoopResult × GovernedOrganism) :=
  (o.stateRoot host).2.evaluate host
    ⟨Cycle.id host ⟨o.identity.organismId, 1, (o.stateRoot host).1⟩ ++ ":organism-evaluation",
      (jsonClone (.dict task)).entries, none, true, true, true⟩

theorem stateRoot_again (o : GovernedOrganism) : (o.stateRoot host).2.stateRoot host = o.stateRoot host := by
  unfold GovernedOrganism.stateRoot
  cases cached : o.cachedStateRoot with
  | none => simp
  | some root =>
    by_cases current : o.cachedStateGeneration = o.stateGeneration
    · simp [cached, current]
    · simp [current]

theorem cycle_arm (o : GovernedOrganism) :
    ((armWorld host o).cycle host).id host = Cycle.id host ⟨o.identity.organismId, 1, (o.stateRoot host).1⟩ := by
  rw [World.cycle, armWorld, stateRoot_again, GovernedOrganism.stateRoot_identity]
  rfl

theorem verdict_arm (o : GovernedOrganism) (sample : TelemetrySample) (task : Mapping) :
    verdict host (armWorld host o) (armStimulus sample task) task = governed host o task := by
  rw [verdict, governed, question, cycle_arm]
  show ((o.stateRoot host).2.stateRoot host).2.evaluate host _ = _
  rw [stateRoot_again]
  rfl

variable (o last : GovernedOrganism) (task : Mapping) (circumstance : Circumstance) (arm : ExecutorArm)
  (final : ArmOutcome × GovernedOrganism) in
structure Reported : Prop where
  named : final.1.armId = arm.armId
  cycle : final.1.cycleId = Cycle.id host ⟨o.identity.organismId, 1, (o.stateRoot host).1⟩
  healthy : final.1.health = "NORMAL" ∧ final.1.recoveryAction = "NONE"
  before : final.1.stateRootBefore = (o.stateRoot host).1
  after : final.1.stateRootAfter = (last.stateRoot host).1
  organism : final.2 = (last.stateRoot host).2
  integrity : final.1.journalIntegrity = circumstance.integrity
  decision : ∃ done, governed host o task = .ok done ∧ final.1.decision = some done.1.decision.value ∧
    (final.1.success = true ↔ done.1.decision = .pass ∧ Validated (arm.executor (jsonClone (.dict task)))) ∧
    (done.1.decision = .pass → Recordable (arm.executor (jsonClone (.dict task))))

end

section
variable {host : Host} {config : OrganismCloneConfig} {snapshot task : Mapping} {locate : String → String}

/-- The success of an arm is that of its organism and its executor. -/
theorem TickEnded.success {before w : World} {stimulus : Stimulus} {executor : Json → ExecutorOutcome} {r : CycleResult}
    (concluded : TickEnded host before stimulus task executor r w) :
    ∃ effect events, effectFromJournal w.journal.durable = .ok effect ∧
      readEvents w.journal.durable 0 10000 (some "physiology") = .ok events ∧
      (armSuccess r.decision r.executed effect = true ↔
        r.decision = some .pass ∧ Validated (executor (jsonClone (.dict task)))) := by
  by_cases passed : r.decision = some .pass
  · obtain ⟨payload, told, underway⟩ := concluded.passed passed
    obtain ⟨effect, events, read⟩ := underway.read (Nat.le_refl 1)
    refine ⟨_, events, effect, read, ?_⟩
    rw [passed, List.getLast?_singleton, armSuccess_iff told]
    simp
  · obtain ⟨idle, underway⟩ := concluded.held passed
    obtain ⟨effect, events, read⟩ := underway.read (Nat.zero_le 1)
    refine ⟨_, events, effect, read, ?_⟩
    simp [armSuccess, passed]

theorem overFile_ran {α : Type} {file : String} {begun : Journal → World} {program : Physiological α}
    (files : Workdir) : Ensures (· = files) (overFile file begun program)
      (fun r t => program (begun (Connection.connect (files file))) = .ok r.1 r.2 ∧
        t = Function.update files file r.2.journal.durable)
      fun _ => ∃ e w, program (begun (Connection.connect (files file))) = .error e w := by
  intro t same
  subst same
  unfold overFile
  cases ran : program (begun (Connection.connect (t file))) with
  | ok a w => exact ⟨rfl, rfl⟩
  | error e w => exact ⟨e, w, rfl⟩

attribute [local irreducible] Ensures

theorem runArm_reported {circumstance : Circumstance} {arm : ExecutorArm} {files : Workdir} {o : GovernedOrganism}
    {sample : TelemetrySample} (free : host.CollisionFree) (restored : config.instantiate host (some snapshot) = .ok o)
    (read : (DeterministicTelemetry.standard ⟨1, 1, []⟩).sample.1 = .ok sample)
    (fresh : files (locate arm.armId) = ⟨[], 0, []⟩) (sensed : circumstance.sensed = true) :
    Ensures (· = files) (runArm host config snapshot task locate circumstance arm)
      (fun final t => (∃ tables, t = Function.update files (locate arm.armId) tables) ∧
        Reported host o (afterwards (tick host .standard (armStimulus sample task) ⟨none, fun _ => ⟨0, zero_range⟩⟩)
          (armWorld host o)).organism task circumstance arm final)
      fun _ => ¬Answered host (armWorld host o) (armStimulus sample task) task arm.executor := by
  have rooted := rooted_stateRoot host o
  have clean : ∀ o', Counted host ⟨Journal.empty, o', .fresh, [], none⟩ :=
    fun o' => (steadfast_empty host "" o').counted
  generalize finished : (afterwards (tick host .standard (armStimulus sample task) ⟨none, fun _ => ⟨0, zero_range⟩⟩)
    (armWorld host o)).organism = last
  unfold runArm
  rw [restored]
  refine .bind (q := fun clone t => clone = o ∧ t = files) (.pure fun t same => ⟨rfl, same⟩) fun clone =>
    .given fun same => ?_
  subst same
  refine .get_bind fun t same => ?_
  subst same
  rw [fresh, read]
  refine .bind (q := fun runtime u => runtime = .fresh ∧ u = t) ?_ fun runtime => .given fun same => ?_
  · rw [show start (Connection.connect ⟨[], 0, []⟩) (clone.stateRoot host).2 = .ok .fresh by
      show start Journal.empty _ = _
      simp only [start, getState_empty]]
    exact .pure fun u same => ⟨rfl, same⟩
  subst same
  refine .bind (q := fun sample' u => sample' = sample ∧ u = t) (.pure fun u same => ⟨rfl, same⟩) fun sample' =>
    .given fun same => ?_
  subst same
  obtain ⟨assessment, assessed, normal⟩ : ∃ assessment, assess .standard sample' true = .ok assessment ∧
      assessment.state = .normal := by
    obtain ⟨sample, read', judged⟩ := assess_planned ⟨1, 1, []⟩ 1
    obtain rfl : sample' = sample := Except.ok.inj (read.symm.trans read')
    obtain ⟨assessment, assessed, state⟩ := judged true
    exact ⟨assessment, assessed, state⟩
  have concluded : Ensures (· = armWorld host clone)
      (tick host .standard (armStimulus sample' task) ⟨some arm.executor, circumstance.clock⟩)
      (fun r w => TickEnded host (armWorld host clone) (armStimulus sample' task) task arm.executor r w)
      fun _ => ¬Answered host (armWorld host clone) (armStimulus sample' task) task arm.executor :=
    tick_underway free rfl (clean (clone.stateRoot host).2) rfl rfl rfl assessed normal rfl
  have same := tick_same free .standard (armStimulus sample' task) ⟨some arm.executor, circumstance.clock⟩
    ⟨none, fun _ => ⟨0, zero_range⟩⟩ (⟨rfl, rfl, rfl, .empty, .empty, rfl, rfl⟩ : Same host (armWorld host clone)
      (armWorld host clone))
  refine .bind (q := fun r u => (∃ tables, u = Function.update t (locate arm.armId) tables) ∧
      tick host .standard (armStimulus sample' task) ⟨some arm.executor, circumstance.clock⟩ (armWorld host clone) =
      .ok r.1 r.2)
    ((overFile_ran t).mono (fun _ => id) (fun r u ran => ?_) fun u failed => ?_) fun reply => .start fun u ran => ?_
  · rw [fresh, sensed] at ran
    exact ⟨⟨_, ran.2⟩, ran.1⟩
  · rw [fresh, sensed] at failed
    obtain ⟨e, w, failed⟩ := failed
    exact concluded.raised rfl failed
  · obtain ⟨cycle, w⟩ := reply
    obtain ⟨files, ran⟩ := ran
    have concluded : TickEnded host (armWorld host clone) (armStimulus sample' task) task arm.executor cycle w :=
      concluded.returned rfl ran
    have ended : w.organism = last := by
      rw [← finished, ← same.organism]
      unfold afterwards
      rw [ran]
    obtain ⟨effect, events, recorded, read, success⟩ := concluded.success
    dsimp only
    rw [recorded, read, ended]
    refine .bind (q := fun effect' v => effect' = effect ∧ v = u) (.pure fun v same => ⟨rfl, same⟩) fun effect' =>
      .given fun same => ?_
    subst same
    refine .bind (q := fun events' v => events' = events ∧ v = u) (.pure fun v same => ⟨rfl, same⟩) fun events' =>
      .given fun same => ?_
    subst same
    refine .pure fun v same => ⟨same ▸ files, rfl, ?_,
      ⟨by rw [armOutcome, concluded.health]; rfl, by rw [armOutcome, concluded.action]; rfl⟩, rfl, rfl, rfl, rfl, ?_⟩
    · exact concluded.cycle.trans (cycle_arm host clone)
    · obtain ⟨done, answered, decision⟩ := concluded.decision
      rw [verdict_arm] at answered
      refine ⟨done, answered, ?_, ?_, fun passed => ?_⟩
      · rw [armOutcome, decision]
        rfl
      · show armSuccess cycle.decision cycle.executed effect' = true ↔ _
        rw [success, decision, Option.some.injEq]
      · obtain ⟨payload, told, -⟩ := concluded.passed (by rw [decision, passed])
        exact ⟨_, _, told⟩

/-- The arms report in order, each on a journal that no other arm has written. -/
theorem runArms_reported {circumstances : String → Circumstance} {o : GovernedOrganism} {sample : TelemetrySample}
    (free : host.CollisionFree) (restored : config.instantiate host (some snapshot) = .ok o)
    (read : (DeterministicTelemetry.standard ⟨1, 1, []⟩).sample.1 = .ok sample) (arms : List ExecutorArm)
    {files : Workdir} (apart : (arms.map fun arm => locate arm.armId).Nodup)
    (fresh : ∀ arm ∈ arms, files (locate arm.armId) = ⟨[], 0, []⟩)
    (sensed : ∀ arm ∈ arms, (circumstances arm.armId).sensed = true) :
    Ensures (· = files) (runArms host config snapshot task locate circumstances arms)
      (fun finals _ => List.Forall₂
        (fun arm final => Reported host o (afterwards (tick host .standard (armStimulus sample task)
        ⟨none, fun _ => ⟨0, zero_range⟩⟩) (armWorld host o)).organism task (circumstances arm.armId) arm final) arms
        finals)
      fun _ => ∃ arm ∈ arms, ¬Answered host (armWorld host o) (armStimulus sample task) task arm.executor := by
  induction arms generalizing files with
  | nil => exact .pure fun _ _ => .nil
  | cons arm arms ih =>
    obtain ⟨other, apart⟩ := List.nodup_cons.mp apart
    refine .bind
      ((runArm_reported free restored read (fresh arm List.mem_cons_self) (sensed arm List.mem_cons_self)).raises
      fun _ silent => ⟨arm, List.mem_cons_self, silent⟩) fun final => .start fun t reported => ?_
    obtain ⟨⟨tables, rfl⟩, reported⟩ := reported
    refine .bind
      ((ih apart (fun arm' member => ?_) fun arm' member => sensed arm' (List.mem_cons_of_mem _ member)).raises
      fun _ silent => ?_) fun finals => .pure fun _ rest => .cons reported rest
    · rw [Function.update_of_ne]
      · exact fresh arm' (List.mem_cons_of_mem _ member)
      · intro same
        exact other (List.mem_map.mpr ⟨arm', member, same⟩)
    · obtain ⟨arm', member, silent⟩ := silent
      exact ⟨arm', List.mem_cons_of_mem _ member, silent⟩

/-! ## The report -/

theorem dedup_constant {α : Type} [DecidableEq α] {items : List α} {a : α} (constant : ∀ x ∈ items, x = a)
    (nonempty : items ≠ []) : items.dedup.length = 1 := by
  rw [List.eq_replicate_of_mem constant, List.replicate_dedup (by simpa using nonempty)]
  rfl

variable (host task) in
theorem clone_kept (sample : TelemetrySample) (effector : Effector) (o : GovernedOrganism) :
    (afterwards (tick host .standard (armStimulus sample task) effector) (armWorld host o)).organism.identity =
    o.identity ∧
      (afterwards (tick host .standard (armStimulus sample task) effector) (armWorld host o)).organism.constraints =
      o.constraints := by
  have keeps : Keeps (fun w : World => w.organism.identity = o.identity ∧ w.organism.constraints = o.constraints)
      (tick host .standard (armStimulus sample task) effector) := by
    refine @tick_keeps host (fun o' => o'.identity = o.identity ∧ o'.constraints = o.constraints) _ _ _
      (fun o' kept => ?_)
      fun o' args done kept answered => ?_
    · exact ⟨(GovernedOrganism.stateRoot_identity o').trans kept.1,
        (GovernedOrganism.stateRoot_constraints o').trans kept.2⟩
    · obtain ⟨-, -, matched, -, result⟩ := GovernedOrganism.evaluate_ok answered
      have state := GovernedOrganism.recordEvaluation_state host o' args matched
      rw [← result] at state
      exact ⟨state.identity.trans kept.1, state.constraints.trans kept.2⟩
  exact keeps.final ⟨GovernedOrganism.stateRoot_identity o, GovernedOrganism.stateRoot_constraints o⟩

theorem constraintsFingerprint_congr {o o' : GovernedOrganism} (same : o.constraints = o'.constraints) :
    constraintsFingerprint host o = constraintsFingerprint host o' := by
  have part (o : GovernedOrganism) : (Json.dict o.statePayload).get? "constraints" = some
      (.arr (o.constraints.map (fun p => p.2.toJson))) := by
    simp [GovernedOrganism.statePayload]
  rw [constraintsFingerprint, constraintsFingerprint, part, part, same]

variable (host) in
/-- What a report says: every arm met the same organism, decided the same and left the same
organism, and the experiment passes exactly when the organism and all executors do. -/
structure Substituted (o : GovernedOrganism) (task : Mapping) (arms : List ExecutorArm)
    (circumstances : String → Circumstance)
    (report : SubstitutionReport) : Prop where
  named : report.arms.map ArmOutcome.armId = arms.map ExecutorArm.armId
  decided : ∃ answer, governed host o task = .ok answer ∧
    (∀ outcome ∈ report.arms, outcome.decision = some answer.1.decision.value ∧
      outcome.stateRootBefore = (o.stateRoot host).1 ∧ outcome.health = "NORMAL" ∧ outcome.recoveryAction = "NONE") ∧
    (report.substitutionPass = true ↔ answer.1.decision = .pass ∧
      ∀ arm ∈ arms, Validated (arm.executor (jsonClone (.dict task))) ∧ (circumstances arm.armId).integrity = true)
  same : ∀ outcome ∈ report.arms, ∀ other ∈ report.arms, outcome.cycleId = other.cycleId ∧
    outcome.stateRootAfter = other.stateRootAfter
  preserved : ∀ check ∈ report.invariants, check.1 ≠ "journal_integrity" → check.2 = true

theorem forall₂_members {α β : Type} {related : α → β → Prop} {as : List α} {bs : List β}
    (all : List.Forall₂ related as bs) : (∀ a ∈ as, ∃ b ∈ bs, related a b) ∧ ∀ b ∈ bs, ∃ a ∈ as, related a b := by
  induction all with
  | nil => simp
  | cons one _ ih =>
    refine ⟨fun a member => ?_, fun b member => ?_⟩
    · rcases List.mem_cons.mp member with rfl | member
      · exact ⟨_, List.mem_cons_self, one⟩
      · obtain ⟨b, listed, held⟩ := ih.1 a member
        exact ⟨b, List.mem_cons_of_mem _ listed, held⟩
    · rcases List.mem_cons.mp member with rfl | member
      · exact ⟨_, List.mem_cons_self, one⟩
      · obtain ⟨a, listed, held⟩ := ih.2 b member
        exact ⟨a, List.mem_cons_of_mem _ listed, held⟩

theorem reported_named {circumstances : String → Circumstance} {o last : GovernedOrganism} {arms : List ExecutorArm}
    {finals : List (ArmOutcome × GovernedOrganism)}
    (reported : List.Forall₂ (fun arm final => Reported host o last task (circumstances arm.armId) arm final) arms
      finals) :
    (finals.map Prod.fst).map ArmOutcome.armId = arms.map ExecutorArm.armId := by
  induction reported with
  | nil => rfl
  | cons one _ ih => rw [List.map_cons, List.map_cons, List.map_cons, ih, one.named]

/-- Clones that end alike keep every invariant but the integrity of their journals. -/
theorem substitutionInvariants_kept {o last : GovernedOrganism} {finals : List (ArmOutcome × GovernedOrganism)}
    (nonempty : finals ≠ []) (identity : last.identity = o.identity) (constraints : last.constraints = o.constraints)
    (each : ∀ final ∈ finals, final.1.stateRootBefore = (o.stateRoot host).1 ∧
      final.1.stateRootAfter = (last.stateRoot host).1 ∧ final.2 = (last.stateRoot host).2) :
    ∀ check ∈ substitutionInvariants host o finals, check.1 ≠ "journal_integrity" → check.2 = true := by
  have organisms : ∀ organism ∈ finals.map Prod.snd, organism = (last.stateRoot host).2 := by
    intro organism member
    obtain ⟨final, listed, rfl⟩ := List.mem_map.mp member
    exact (each final listed).2.2
  have kept : (last.stateRoot host).2.identity = o.identity := (GovernedOrganism.stateRoot_identity last).trans identity
  intro check member other
  simp only [substitutionInvariants, List.mem_cons, List.not_mem_nil, or_false] at member
  rcases member with rfl | rfl | rfl | rfl | rfl | rfl | rfl | rfl
  · refine List.all_eq_true.mpr fun outcome member => ?_
    obtain ⟨final, listed, rfl⟩ := List.mem_map.mp member
    cases finals with
    | nil => cases listed
    | cons first rest =>
      simp [(each final listed).1, (each first List.mem_cons_self).1]
  · exact List.all_eq_true.mpr fun organism member => by rw [organisms organism member, kept, beq_self_eq_true]
  · exact List.all_eq_true.mpr fun organism member => by rw [organisms organism member, kept, beq_self_eq_true]
  · exact List.all_eq_true.mpr fun organism member => by rw [organisms organism member, kept, beq_self_eq_true]
  · refine List.all_eq_true.mpr fun organism member => ?_
    have same : (last.stateRoot host).2.constraints = o.constraints :=
      (GovernedOrganism.stateRoot_constraints last).trans constraints
    rw [organisms organism member, constraintsFingerprint_congr same, beq_self_eq_true]
  · rw [beq_iff_eq]
    refine dedup_constant (a := lineageFingerprint host (last.stateRoot host).2) (fun fingerprint member => ?_)
      (by simpa using nonempty)
    obtain ⟨organism, listed, rfl⟩ := List.mem_map.mp member
    rw [organisms organism listed]
  · rw [beq_iff_eq]
    refine dedup_constant (a := (last.stateRoot host).1) (fun root member => ?_) (by simpa using nonempty)
    obtain ⟨outcome, listed, rfl⟩ := List.mem_map.mp member
    obtain ⟨final, held, rfl⟩ := List.mem_map.mp listed
    exact (each final held).2.1
  · exact absurd rfl other

theorem journalIntegrity_check {o : GovernedOrganism} {finals : List (ArmOutcome × GovernedOrganism)}
    {check : String × Bool} (member : check ∈ substitutionInvariants host o finals)
    (named : check.1 = "journal_integrity") :
    check = ("journal_integrity", (finals.map Prod.fst).all ArmOutcome.journalIntegrity) := by
  simp only [substitutionInvariants, List.mem_cons, List.not_mem_nil, or_false] at member
  rcases member with rfl | rfl | rfl | rfl | rfl | rfl | rfl | rfl
  all_goals first | rfl | simp at named

theorem substitutionReport_substituted {circumstances : String → Circumstance} {o last : GovernedOrganism}
    {arms : List ExecutorArm} (nonempty : arms ≠ []) (identity : last.identity = o.identity)
    (constraints : last.constraints = o.constraints) {finals : List (ArmOutcome × GovernedOrganism)}
    (reported : List.Forall₂ (fun arm final => Reported host o last task (circumstances arm.armId) arm final) arms
      finals) :
    Substituted host o task arms circumstances (substitutionReport host snapshot task arms o finals) := by
  obtain ⟨left, right⟩ := forall₂_members reported
  have outcomes : ∀ outcome ∈ finals.map Prod.fst, ∃ arm ∈ arms, ∃ final, outcome = final.1 ∧
      Reported host o last task (circumstances arm.armId) arm final := by
    intro outcome member
    obtain ⟨final, listed, rfl⟩ := List.mem_map.mp member
    obtain ⟨arm, member, held⟩ := right final listed
    exact ⟨arm, member, final, rfl, held⟩
  obtain ⟨first, member⟩ := List.exists_mem_of_ne_nil arms nonempty
  obtain ⟨final, listed, held⟩ := left first member
  have preserved := substitutionInvariants_kept (List.ne_nil_of_mem listed) identity constraints fun final listed => by
    obtain ⟨arm, -, held⟩ := right final listed
    exact ⟨held.before, held.after, held.organism⟩
  obtain ⟨answer, answered, -, -, -⟩ := held.decision
  have success {arm : ExecutorArm} {final : ArmOutcome × GovernedOrganism}
      (held : Reported host o last task (circumstances arm.armId) arm final) :
      final.1.decision = some answer.1.decision.value ∧
        (final.1.success = true ↔ answer.1.decision = .pass ∧ Validated (arm.executor (jsonClone (.dict task)))) := by
    obtain ⟨answer', answered', decision, success, -⟩ := held.decision
    obtain rfl := Except.ok.inj (answered.symm.trans answered')
    exact ⟨decision, success⟩
  refine ⟨reported_named reported, ⟨answer, answered, fun outcome member => ?_, ?_⟩,
    fun outcome member outcome' member' => ?_, preserved⟩
  · obtain ⟨arm, -, final, rfl, held⟩ := outcomes outcome member
    exact ⟨(success held).1, held.before, held.healthy⟩
  · show ((substitutionInvariants host o finals).all Prod.snd && (finals.map Prod.fst).all ArmOutcome.success) = true ↔
      _
    rw [Bool.and_eq_true, List.all_eq_true, List.all_eq_true]
    constructor
    · rintro ⟨checks, successes⟩
      refine ⟨((success held).2.mp (successes _ (List.mem_map_of_mem listed))).1, fun arm member => ?_⟩
      obtain ⟨final, listed, held⟩ := left arm member
      have intact : (finals.map Prod.fst).all ArmOutcome.journalIntegrity = true :=
        checks ("journal_integrity", (finals.map Prod.fst).all ArmOutcome.journalIntegrity)
          (by simp [substitutionInvariants])
      refine ⟨((success held).2.mp (successes _ (List.mem_map_of_mem listed))).2, ?_⟩
      rw [← held.integrity]
      exact List.all_eq_true.mp intact _ (List.mem_map_of_mem listed)
    · rintro ⟨passed, valid⟩
      refine ⟨fun check member => ?_, fun outcome member => ?_⟩
      · by_cases integrity : check.1 = "journal_integrity"
        · have last := journalIntegrity_check member integrity
          rw [last]
          refine List.all_eq_true.mpr fun outcome member => ?_
          obtain ⟨arm, listed, final, rfl, held⟩ := outcomes outcome member
          rw [held.integrity]
          exact (valid arm listed).2
        · exact preserved check member integrity
      · obtain ⟨arm, listed, final, rfl, held⟩ := outcomes outcome member
        exact (success held).2.mpr ⟨passed, (valid arm listed).1⟩
  · obtain ⟨arm, -, final, rfl, held⟩ := outcomes outcome member
    obtain ⟨arm', -, final', rfl, held'⟩ := outcomes outcome' member'
    exact ⟨held.cycle.trans held'.cycle.symm, held.after.trans held'.after.symm⟩

/-! ## The experiment -/

variable (arms : List ExecutorArm) (locate : String → String) (circumstances : String → Circumstance)
    (files : Workdir) in
/-- Every arm has a file of its own, on which nothing was written, and the checks of the journal
pass during the ticks. -/
structure Isolated : Prop where
  apart : ∀ arm ∈ arms, ∀ other ∈ arms, locate arm.armId = locate other.armId → arm.armId = other.armId
  fresh : ∀ arm ∈ arms, files (locate arm.armId) = ⟨[], 0, []⟩
  sensed : ∀ arm ∈ arms, (circumstances arm.armId).sensed = true

/-- At least two arms with ids of their own, and two executors. -/
structure Comparable (arms : List ExecutorArm) : Prop where
  several : 2 ≤ arms.length
  unique : (arms.map ExecutorArm.armId).Nodup
  distinct : 2 ≤ (arms.map fun arm => (arm.provider, arm.model)).dedup.length

theorem comparable_checks {arms : List ExecutorArm} : Comparable arms ↔ ¬arms.length < 2 ∧
    ¬(arms.map ExecutorArm.armId).dedup.length ≠ arms.length ∧
    ¬(arms.map fun arm => (arm.provider, arm.model)).dedup.length < 2 := by
  have unique : (arms.map ExecutorArm.armId).dedup.length = arms.length ↔ (arms.map ExecutorArm.armId).Nodup := by
    constructor
    · intro same
      rw [← (List.dedup_sublist _).eq_of_length (same.trans (by simp))]
      exact List.nodup_dedup _
    · intro nodup
      rw [nodup.dedup, List.length_map]
  constructor
  · rintro ⟨several, nodup, distinct⟩
    exact ⟨not_lt.mpr several, not_not.mpr (unique.mpr nodup), not_lt.mpr distinct⟩
  · rintro ⟨several, nodup, distinct⟩
    exact ⟨not_lt.mp several, unique.mp (not_not.mp nodup), not_lt.mp distinct⟩

variable (host) in
/-- The organism answers the task, and where it answers PASS, every executor too. -/
def Answering (o : GovernedOrganism) (task : Mapping) (arms : List ExecutorArm) : Prop :=
  ∃ answer, governed host o task = .ok answer ∧
    (answer.1.decision = .pass → ∀ arm ∈ arms, Recordable (arm.executor (jsonClone (.dict task))))

variable (config snapshot task) in
theorem runExecutorSubstitution_ensures {circumstances : String → Circumstance} {arms : List ExecutorArm}
    {files : Workdir} (free : host.CollisionFree) (isolated : Isolated arms locate circumstances files) :
    Ensures (· = files) (runExecutorSubstitution host config snapshot task arms locate circumstances)
      (fun report _ => Comparable arms ∧ ∃ o, config.instantiate host (some snapshot) = .ok o ∧
        Answering host o task arms ∧ Substituted host o task arms circumstances report)
      fun _ => ¬(Comparable arms ∧ ∃ o, config.instantiate host (some snapshot) = .ok o ∧
        Answering host o task arms) := by
  have refuses {α : Type} {e : EngineError} {rest : PUnit → Experiment α} {post : α → Workdir → Prop}
      (bad : ¬Comparable arms) :
      Ensures (· = files) (throw e >>= rest) post fun _ => ¬(Comparable arms ∧
        ∃ o, config.instantiate host (some snapshot) = .ok o ∧ Answering host o task arms) :=
    .bind (q := fun _ _ => False) (.throw fun _ _ held => bad held.1) fun _ => .start fun _ never => never.elim
  refine .ite (fun few => refuses fun comparable => (comparable_checks.mp comparable).1 few) fun several =>
    .ite (fun repeated => refuses fun comparable => (comparable_checks.mp comparable).2.1 repeated) fun unique =>
      .ite (fun alike => refuses fun comparable => (comparable_checks.mp comparable).2.2 alike) fun distinct => ?_
  have comparable := comparable_checks.mpr ⟨several, unique, distinct⟩
  cases restored : config.instantiate host (some snapshot) with
  | error e =>
    refine .bind (q := fun _ _ => False) (.throw fun _ _ held => ?_) fun _ => .start fun _ never => never.elim
    obtain ⟨-, o, restored', -⟩ := held
    cases restored'
  | ok o =>
    refine .bind (q := fun probe t => probe = o ∧ t = files) (.pure fun t same => ⟨rfl, same⟩) fun probe =>
      .given fun same => ?_
    subst same
    obtain ⟨sample, read, -⟩ := assess_planned ⟨1, 1, []⟩ 1
    have apart : (arms.map fun arm => locate arm.armId).Nodup := by
      refine List.Nodup.map_on (fun arm member other member' same => ?_) (List.Nodup.of_map _ comparable.unique)
      exact List.inj_on_of_nodup_map comparable.unique member member' (isolated.apart arm member other member' same)
    refine .bind
      ((runArms_reported free restored read arms apart isolated.fresh isolated.sensed).raises fun _ silent held => ?_)
      fun finals => .pure fun t reported => ⟨comparable, probe, rfl, ?_, ?_⟩
    · obtain ⟨arm, member, silent⟩ := silent
      obtain ⟨-, o, same, answer, answered, recordable⟩ := held
      obtain rfl := Except.ok.inj same
      exact silent ⟨answer, (verdict_arm host probe sample task).trans answered,
        fun passed => recordable passed arm member⟩
    · obtain ⟨left, -⟩ := forall₂_members reported
      obtain ⟨first, member⟩ := List.exists_mem_of_length_pos (Nat.lt_of_lt_of_le Nat.zero_lt_two comparable.several)
      obtain ⟨final, -, held⟩ := left first member
      obtain ⟨answer, answered, -, -, -⟩ := held.decision
      refine ⟨answer, answered, fun passed arm member => ?_⟩
      obtain ⟨final, -, held⟩ := left arm member
      obtain ⟨answer', answered', -, -, recordable⟩ := held.decision
      obtain rfl := Except.ok.inj (answered.symm.trans answered')
      exact recordable passed
    · have kept := clone_kept host task sample ⟨none, fun _ => ⟨0, zero_range⟩⟩ probe
      have nonempty : arms ≠ [] := List.ne_nil_of_length_pos (Nat.lt_of_lt_of_le Nat.zero_lt_two comparable.several)
      exact substitutionReport_substituted nonempty kept.1 kept.2 reported

/-- On isolated files the experiment reports exactly when the arms can be compared, the snapshot
restores and the organism and the executors answer; the report then tells that all arms met the
same organism and left the same one, and passes exactly when the organism and every executor did. -/
theorem executor_substitution (free : host.CollisionFree) (config : OrganismCloneConfig) (snapshot task : Mapping)
    (arms : List ExecutorArm) (locate : String → String) (circumstances : String → Circumstance) {files : Workdir}
    (isolated : Isolated arms locate circumstances files) :
    ((∃ report after, runExecutorSubstitution host config snapshot task arms locate circumstances files =
      .ok report after) ↔
      Comparable arms ∧ ∃ o, config.instantiate host (some snapshot) = .ok o ∧ Answering host o task arms) ∧
    ∀ report after, runExecutorSubstitution host config snapshot task arms locate circumstances files =
    .ok report after →
      ∃ o, config.instantiate host (some snapshot) = .ok o ∧ Substituted host o task arms circumstances report := by
  have ensured := runExecutorSubstitution_ensures config snapshot task free isolated
  refine ⟨⟨fun ran => ?_, fun held => ?_⟩, fun report after ran => ?_⟩
  · obtain ⟨report, after, ran⟩ := ran
    obtain ⟨comparable, o, restored, answering, -⟩ := ensured.returned rfl ran
    exact ⟨comparable, o, restored, answering⟩
  · cases ran : runExecutorSubstitution host config snapshot task arms locate circumstances files with
    | ok report after => exact ⟨report, after, rfl⟩
    | error e after => exact absurd held (ensured.raised rfl ran)
  · obtain ⟨-, o, restored, -, substituted⟩ := ensured.returned rfl ran
    exact ⟨o, restored, substituted⟩

def sampleConfig : OrganismCloneConfig where
  organismId := "organism"
  frozenContractHash := GovernedOrganism.sampleContract
  runtimeId := "runtime"
  stateSecret := "state-secret"
  authoritySecrets := GovernedOrganism.sampleSecrets
  named := by decide
  digest := by decide
  secrets := by decide

def sampleArm (armId : String) (named : Text.strip armId ≠ "") : ExecutorArm where
  armId := armId
  provider := "provider"
  model := armId
  executor := fun _ => .result (.str "OK") []
  labelled := by
    intro text member
    simp only [List.mem_cons, List.not_mem_nil, or_false] at member
    rcases member with rfl | rfl | rfl
    · exact named
    · decide
    · exact named

def sampleArms : List ExecutorArm := [sampleArm "left" (by decide), sampleArm "right" (by decide)]

variable (host) in
theorem sample_restores :
    ∃ o, sampleConfig.instantiate host (some ((GovernedOrganism.sample host).exportState host).1) = .ok o ∧
    o.Unused := by
  obtain ⟨-, -, restores⟩ := GovernedOrganism.create_restores (GovernedOrganism.create_sample host)
    (by decide : "runtime" ≠ "")
    ((GovernedOrganism.sample host).exportState host).1
  obtain ⟨o, restored, same, -⟩ := GovernedOrganism.restore_export (GovernedOrganism.valid_blank
    (GovernedOrganism.sample host).identity : GovernedOrganism.Valid host _) "runtime"
  exact ⟨o, restores.trans restored, same.constraints, same.lineage⟩

/-- Two executors that both answer are substitutable. -/
theorem executor_substitution_sample : ∃ report after, runExecutorSubstitution hexHost sampleConfig
    ((GovernedOrganism.sample hexHost).exportState hexHost).1 [("action", .str "A")] sampleArms id
    (fun _ => ⟨fun _ => ⟨0, zero_range⟩, true, true⟩) (fun _ => ⟨[], 0, []⟩) = .ok report after ∧
    report.substitutionPass = true := by
  have free := hexHost_collisionFree
  generalize hexHost = host at free ⊢
  obtain ⟨returns, reports⟩ :=
    executor_substitution free sampleConfig ((GovernedOrganism.sample host).exportState host).1
    [("action", .str "A")] sampleArms id (fun _ => ⟨fun _ => ⟨0, zero_range⟩, true, true⟩)
    (⟨fun _ _ _ _ => id, fun _ _ => rfl, fun _ _ => rfl⟩ : Isolated sampleArms id _ fun _ => ⟨[], 0, []⟩)
  obtain ⟨o, restored, unused⟩ := sample_restores host
  have comparable : Comparable sampleArms := ⟨by decide, by decide, by decide⟩
  have named : Cycle.id host ⟨o.identity.organismId, 1, (o.stateRoot host).1⟩ ++ ":organism-evaluation" ≠ "" := by
    intro empty
    have lists := congrArg String.toList empty
    rw [String.toList_append] at lists
    cases (List.append_eq_nil_iff.mp lists).2
  obtain ⟨result, next, answered, passed⟩ := @evaluate_unused host (o.stateRoot host).2
    ⟨(GovernedOrganism.stateRoot_constraints o).trans unused.1, (GovernedOrganism.stateRoot_lineage o).trans unused.2⟩
    ⟨_, (jsonClone (.dict [("action", .str "A")])).entries, none, true, true, true⟩ named rfl rfl rfl rfl
  have valid : ∀ arm ∈ sampleArms, arm.executor (jsonClone (.dict [("action", .str "A")])) = .result
      (.str "OK") [] := by
    intro arm member
    simp only [sampleArms, List.mem_cons, List.not_mem_nil, or_false] at member
    rcases member with rfl | rfl <;> rfl
  obtain ⟨report, after, ran⟩ := returns.mpr ⟨comparable, o, restored, (result, next), answered, fun _ arm member =>
    ⟨true, _, by rw [valid arm member]; rfl⟩⟩
  obtain ⟨o', restored', substituted⟩ := reports report after ran
  obtain rfl := Except.ok.inj (restored.symm.trans restored')
  obtain ⟨answer, answered', -, verdict⟩ := substituted.decided
  obtain rfl := Except.ok.inj (answered.symm.trans answered')
  exact ⟨report, after, ran, verdict.mpr ⟨passed, fun arm member => ⟨⟨[], valid arm member, by simp⟩, rfl⟩⟩⟩

end

end MatVerse.Physiology
