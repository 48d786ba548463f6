import MatVerse.OrganismProvenance
import MatVerse.PhysiologyEngine

/-! Safe mode over whole runs of the engine, restarts included: when it holds is read off
the history of assessments, and nothing is executed while it does. -/
namespace MatVerse.Physiology

/-! ## Histories of assessments -/

def Moment.health? : Moment → Option HealthState
  | .assessed health => some health
  | _ => none

def assessments (moments : List Moment) : List HealthState := moments.filterMap Moment.health?

/-- The number of NORMAL assessments at the end. -/
def streakOf (history : List HealthState) : Nat := (history.reverse.takeWhile (fun h => decide (h = .normal))).length

/-- Since some CRITICAL assessment there have never been `k` NORMAL ones in a row. -/
def SafeAfter (k : Nat) (history : List HealthState) : Prop :=
  ∃ before since, history = before ++ .critical :: since ∧ ∀ part, part <+: since → streakOf part < k

@[simp] theorem assessments_snoc (moments : List Moment) (m : Moment) :
    assessments (moments ++ [m]) = assessments moments ++ m.health?.toList := by
  unfold assessments
  rw [List.filterMap_append]
  cases m <;> rfl

theorem streakOf_snoc (history : List HealthState) (h : HealthState) :
    streakOf (history ++ [h]) = if h = .normal then streakOf history + 1 else 0 := by
  unfold streakOf
  rw [List.reverse_append, List.reverse_singleton, List.singleton_append, List.takeWhile_cons]
  by_cases normal : h = .normal <;> simp [normal]

/-- A CRITICAL assessment ends every streak before it. -/
theorem streakOf_critical (before since : List HealthState) :
    streakOf (before ++ .critical :: since) = streakOf since := by
  induction since using List.reverseRecOn with
  | nil => simp [streakOf]
  | append_singleton since h ih =>
    rw [← List.cons_append, ← List.append_assoc, streakOf_snoc, ih, streakOf_snoc]

theorem safeAfter_critical {k : Nat} (positive : 1 ≤ k) (history : List HealthState) :
    SafeAfter k (history ++ [.critical]) := by
  refine ⟨history, [], rfl, fun part within => ?_⟩
  rw [List.prefix_nil.mp within]
  exact positive

theorem SafeAfter.streak {k : Nat} {history : List HealthState} (safe : SafeAfter k history) :
    streakOf history < k := by
  obtain ⟨before, since, rfl, short⟩ := safe
  rw [streakOf_critical]
  exact short since (List.prefix_refl since)

/-- Any other assessment ends safe mode if it completes a streak of `k`. -/
theorem safeAfter_snoc {k : Nat} {history : List HealthState} {h : HealthState} (other : h ≠ .critical) :
    SafeAfter k (history ++ [h]) ↔ SafeAfter k history ∧ streakOf (history ++ [h]) < k := by
  constructor
  · intro safe
    refine ⟨?_, safe.streak⟩
    obtain ⟨before, since, split, short⟩ := safe
    rcases List.eq_nil_or_concat since with rfl | ⟨rest, last, rfl⟩
    · obtain ⟨_, same⟩ := List.append_inj' split rfl
      exact absurd (List.head_eq_of_cons_eq same) other
    · rw [List.concat_eq_append, ← List.cons_append, ← List.append_assoc] at split
      obtain ⟨rfl, _⟩ := List.append_inj' split rfl
      refine ⟨before, rest, rfl, fun part within => short part ?_⟩
      rw [List.concat_eq_append]
      exact within.trans (List.prefix_append rest [last])
  · rintro ⟨⟨before, since, rfl, short⟩, last⟩
    refine ⟨before, since ++ [h], by rw [List.append_assoc, List.cons_append], fun part within => ?_⟩
    rcases List.prefix_concat_iff.mp within with rfl | within
    · rwa [List.append_assoc, List.cons_append, streakOf_critical] at last
    · exact short part within

/-! ## The plan for an assessment -/

/-- The flags and the streak are what the assessments so far make them. -/
structure Flagged (policy : HomeostaticPolicy) (history : List HealthState) (r : RuntimeState) : Prop where
  streak : r.normalStreak = streakOf history
  safe : r.safeMode = true ↔ SafeAfter policy.normalStreakToExitSafeMode history
  throttled : r.safeMode = true → r.throttled = true

theorem flagged_fresh (policy : HomeostaticPolicy) : Flagged policy [] .fresh := by
  refine ⟨rfl, ?_, nofun⟩
  simp [RuntimeState.fresh, SafeAfter]

theorem assess_state {policy : HomeostaticPolicy} {sample : TelemetrySample} {journalOk : Bool} {a : HealthAssessment}
    (done : assess policy sample journalOk = .ok a) :
    a.state = .critical ∨ a.state = .degraded ∨ a.state = .normal := by
  have verdict (critical degraded : List String)
      (chosen : (if critical ≠ [] then pure ⟨.critical, critical⟩ else if degraded ≠ [] then pure ⟨.degraded, degraded⟩
        else pure ⟨.normal, []⟩ : Except EngineError HealthAssessment) = .ok a) :
      a.state = .critical ∨ a.state = .degraded ∨ a.state = .normal := by
    split at chosen
    · exact .inl (congrArg HealthAssessment.state (Except.ok.inj chosen)).symm
    · split at chosen
      · exact .inr (.inl (congrArg HealthAssessment.state (Except.ok.inj chosen)).symm)
      · exact .inr (.inr (congrArg HealthAssessment.state (Except.ok.inj chosen)).symm)
  obtain ⟨ratio, _, chosen⟩ := Fallible.bind_ok.mp done
  exact verdict _ _ chosen

theorem planRecovery_normal (policy : HomeostaticPolicy) (r : RuntimeState) :
    (planRecovery policy r .normal).2.normalStreak = r.normalStreak + 1 ∧
    ((planRecovery policy r .normal).2.safeMode = true ↔
      r.safeMode = true ∧ r.normalStreak + 1 < policy.normalStreakToExitSafeMode) ∧
    ((planRecovery policy r .normal).2.safeMode = true →
      (planRecovery policy r .normal).2.throttled = r.throttled) := by
  simp only [planRecovery]
  split
  · next safe =>
    split
    · next exits => simp [exits]
    · next stays => exact ⟨rfl, by simpa [safe] using stays, fun _ => rfl⟩
  · next safe => simp [safe]

theorem planRecovery_flagged {policy : HomeostaticPolicy} {history : List HealthState} {r : RuntimeState}
    (flags : Flagged policy history r) {h : HealthState} (state : h = .critical ∨ h = .degraded ∨ h = .normal) :
    Flagged policy (history ++ [h]) (planRecovery policy r h).2 := by
  rcases state with rfl | rfl | rfl
  · exact ⟨by simp [planRecovery, streakOf_snoc], by simp [planRecovery, safeAfter_critical policy.streak],
      fun _ => rfl⟩
  · refine ⟨by simp [planRecovery, streakOf_snoc], ?_, fun _ => rfl⟩
    have positive : 0 < policy.normalStreakToExitSafeMode := policy.streak
    simp [planRecovery, safeAfter_snoc, streakOf_snoc, flags.safe, positive]
  · obtain ⟨streak, safe, throttled⟩ := planRecovery_normal policy r
    refine ⟨by rw [streak, streakOf_snoc, if_pos rfl, flags.streak], ?_, fun inside => ?_⟩
    · rw [safe, safeAfter_snoc (by simp), streakOf_snoc, if_pos rfl, flags.safe, flags.streak]
    · rw [throttled inside]
      exact flags.throttled (safe.mp inside).1

/-! ## What is stored -/

def RuntimeState.SameFlags (r s : RuntimeState) : Prop :=
  r.safeMode = s.safeMode ∧ r.normalStreak = s.normalStreak ∧ r.throttled = s.throttled

/-- A restarted engine would take up the flags and the streak of this one. -/
def Stored (w : World) : Prop := ∃ r, start w.journal w.organism = .ok r ∧ r.SameFlags w.runtime

theorem validateRuntimeState_toJson (r : RuntimeState) :
    validateRuntimeState ((JsonText.loads (canonicalJson r.toJson)).getD .null) = .ok r := by
  rw [loads_canonicalJson, Option.getD_some, RuntimeState.toJson, Json.norm_dict]
  have cycleSeq : ¬((r.cycleSeq : Int) < 0) := by omega
  have normalStreak : ¬((r.normalStreak : Int) < 0) := by omega
  simp [validateRuntimeState, pyInt, Json.isObj, Json.truthy, Json.dict, Json.get?, Dict.ofPairs, Dict.insertAll,
    Dict.get?_insert, bind, Except.bind, pure, Except.pure, cycleSeq, normalStreak]

theorem stateKey_label (o : GovernedOrganism) : Text.strip (stateKey o) ≠ "" :=
  Text.strip_ne_empty (c := 'p') (by simp [stateKey]) (by decide)

theorem getState_empty (o : GovernedOrganism) : getState Journal.empty (stateKey o) = .ok none := by
  have label : validateLabel (stateKey o) "key" = .ok () := validateLabel_ok.mpr (stateKey_label o)
  simp only [getState, label]
  rfl

theorem start_eq {j : Journal} (idle : j.working = none) (o : GovernedOrganism) : start j o =
    match Dict.get? (Text.strip (stateKey o)) j.durable.runtimeState with
    | none => .ok .fresh
    | some text => validateRuntimeState ((JsonText.loads text).getD .null) := by
  have label : validateLabel (stateKey o) "key" = .ok () := validateLabel_ok.mpr (stateKey_label o)
  simp only [start, getState, label, bind, Except.bind, pure, Except.pure, Connection.view, idle, Option.getD_none]
  cases Dict.get? (Text.strip (stateKey o)) j.durable.runtimeState <;> rfl

theorem start_setState {j : Journal} (idle : j.working = none) (o : GovernedOrganism) (r : RuntimeState) :
    (setState j (stateKey o) r.toJson).1 = .ok () ∧ (setState j (stateKey o) r.toJson).2.working = none ∧
      start (setState j (stateKey o) r.toJson).2 o = .ok r := by
  have label : validateLabel (stateKey o) "key" = .ok () := validateLabel_ok.mpr (stateKey_label o)
  have idle' : (setState j (stateKey o) r.toJson).2.working = none := by
    simp [setState, label, Connection.write, idle]
  refine ⟨by simp [setState, label], idle', ?_⟩
  rw [start_eq idle']
  simp only [setState, label, Connection.write, idle, Dict.get?_insert_self]
  exact validateRuntimeState_toJson r

theorem start_congr {j k : Journal} (idle : j.working = none) (idle' : k.working = none)
    (states : j.durable.runtimeState = k.durable.runtimeState) {o p : GovernedOrganism}
    (same : o.identity.organismId = p.identity.organismId) : start j o = start k p := by
  rw [start_eq idle, start_eq idle', states, stateKey, stateKey, same]

/-! ## Programs -/

/-- What may happen after what: a plan sets safe mode as the assessments demand, and an
executor is called after a decision to pass in a plan without safe mode. -/
def allowed (policy : HomeostaticPolicy) (before : List Moment) : Moment → Prop
  | .planned safe => safe = true ↔ SafeAfter policy.normalStreakToExitSafeMode (assessments before)
  | .executed _ => ∃ earlier health, before = earlier ++ [.assessed health] ++ [.planned false] ++ [.decided .pass]
  | _ => True

/-- An engine between two writes, with its history of assessments. -/
structure Steady (policy : HomeostaticPolicy) (organismId : String) (history : List HealthState) (w : World) :
    Prop where
  alive : w.fuse = none
  idle : w.journal.working = none
  named : w.organism.identity.organismId = organismId
  assessed : assessments w.moments = history
  governed : Chronicle (allowed policy) w.moments
  flags : Flagged policy history w.runtime
  stored : Stored w

section
variable {host : Host} {policy : HomeostaticPolicy} {organismId : String} {history : List HealthState}

/-- The engine with another journal in which the same states are stored. -/
theorem Steady.journal {w : World} (steady : Steady policy organismId history w) {j : Journal}
    (idle : j.working = none) (states : j.durable.runtimeState = w.journal.durable.runtimeState) :
    Steady policy organismId history { w with journal := j } := by
  refine ⟨steady.alive, idle, steady.named, steady.assessed, steady.governed, steady.flags, ?_⟩
  obtain ⟨r, started, same⟩ := steady.stored
  exact ⟨r, (start_congr idle steady.idle states rfl).trans started, same⟩

theorem Steady.organism {w : World} (steady : Steady policy organismId history w) {o : GovernedOrganism}
    (same : o.identity = w.organism.identity) : Steady policy organismId history { w with organism := o } := by
  refine ⟨steady.alive, steady.idle, ?_, steady.assessed, steady.governed, steady.flags, ?_⟩
  · rw [← steady.named, ← same]
  obtain ⟨r, started, flags⟩ := steady.stored
  exact ⟨r, (start_congr steady.idle steady.idle rfl (congrArg _ same)).trans started, flags⟩

theorem Steady.noted {w : World} (steady : Steady policy organismId history w) {m : Moment} (silent : m.health? = none)
    (may : allowed policy w.moments m) : Steady policy organismId history (w.noted m) where
  alive := steady.alive
  idle := steady.idle
  named := steady.named
  assessed := by rw [World.noted, assessments_snoc, silent, Option.toList_none, List.append_nil, steady.assessed]
  governed := .snoc steady.governed may
  flags := steady.flags
  stored := steady.stored

/-- A steady engine whose moments and runtime state have a property. -/
def SteadyWith (policy : HomeostaticPolicy) (organismId : String) (history : List HealthState)
    (property : List Moment → RuntimeState → Prop) (w : World) : Prop :=
  Steady policy organismId history w ∧ property w.moments w.runtime

/-- At most one assessment later. -/
def Further (policy : HomeostaticPolicy) (organismId : String) (history : List HealthState) (w : World) : Prop :=
  ∃ added : Option HealthState, Steady policy organismId (history ++ added.toList) w

/-- An engine that is steady once its runtime state is stored. -/
structure Unsaved (property : World → Prop) (w : World) : Prop where
  alive : w.fuse = none
  idle : w.journal.working = none
  saved : ∀ j, j.working = none → start j w.organism = .ok w.runtime → property { w with journal := j }

theorem Steady.further {w : World} (steady : Steady policy organismId history w) :
    Further policy organismId history w :=
  ⟨none, by rwa [Option.toList_none, List.append_nil]⟩

theorem persist_unsaved (property : World → Prop) :
    Ensures (Unsaved property) persistRuntimeState (fun _ => property) property := by
  intro w unsaved
  obtain ⟨answer, idle, started⟩ := start_setState unsaved.idle w.organism w.runtime
  rw [persist_alive unsaved.alive, answer]
  exact unsaved.saved _ idle started

section
variable {property : List Moment → RuntimeState → Prop}

theorem record_steady (clock : String → TimeNs) (cycleId label eventType : String) (payload : Mapping)
    (causation : Option String) : Keeps (SteadyWith policy organismId history property)
      (record host clock cycleId label eventType payload causation) := by
  rintro w ⟨steady, holds⟩
  obtain ⟨idle, states⟩ := @append_rest host w.journal ((recordCall cycleId label eventType payload causation).timed
    (clock label)) steady.idle (created_range _ _)
  have further := steady.journal idle states
  rw [record_alive clock _ _ _ _ _ steady.alive]
  cases (append host w.journal _).1 with
  | ok event => exact ⟨further, holds⟩
  | error e => exact ⟨further, holds⟩

theorem stateRoot_steady : Keeps (SteadyWith policy organismId history property) (stateRoot host) :=
  fun _ ⟨steady, holds⟩ => ⟨steady.organism (GovernedOrganism.stateRoot_identity _), holds⟩

theorem persist_steady : Keeps (SteadyWith policy organismId history property) persistRuntimeState := by
  refine (persist_unsaved _).mono (fun w => ?_) (fun _ _ => id) fun _ => id
  rintro ⟨steady, holds⟩
  refine ⟨steady.alive, steady.idle, fun j idle started => ⟨?_, holds⟩⟩
  exact ⟨steady.alive, idle, steady.named, steady.assessed, steady.governed, steady.flags, w.runtime, started, rfl, rfl,
    rfl⟩

end

theorem openCycle_steady (clock : String → TimeNs) :
    Keeps (Steady policy organismId history) (openCycle host clock) := by
  refine .bind (q := fun _ => Steady policy organismId history) (.modify fun w steady => ?_) fun _ =>
    .get_bind fun w steady => .bind (q := fun _ => SteadyWith policy organismId history fun _ _ => True)
      (stateRoot_steady.mono (fun t same => same ▸ ⟨steady, trivial⟩) (fun _ _ => id) fun _ => And.left) fun root =>
        .bind (q := fun _ => SteadyWith policy organismId history fun _ _ => True)
          ((record_steady _ _ _ _ _ _).mono (fun _ => id) (fun _ _ => id) fun _ => And.left) fun _ => .pure fun _ =>
            And.left
  exact ⟨steady.alive, steady.idle, steady.named, steady.assessed, steady.governed,
    ⟨steady.flags.streak, steady.flags.safe, steady.flags.throttled⟩, steady.stored⟩

/-- The last moments are those of a plan. -/
def Planned (moments : List Moment) (r : RuntimeState) : Prop :=
  ∃ earlier health, moments = earlier ++ [.assessed health] ++ [.planned r.safeMode]

theorem adopt_unsaved {health : HealthState} (state : health = .critical ∨ health = .degraded ∨ health = .normal) :
    Ensures (Steady policy organismId history) (adopt policy health)
      (fun _ => Unsaved (SteadyWith policy organismId (history ++ [health]) Planned)) (fun _ => False) := by
  intro w steady
  have flags := planRecovery_flagged steady.flags state
  refine ⟨steady.alive, steady.idle, fun j idle started => ⟨⟨steady.alive, idle, steady.named, ?_, ?_, flags,
    ⟨_, started, rfl, rfl, rfl⟩⟩, ?_⟩⟩
  · show assessments (w.moments ++ [.assessed health] ++ [.planned _]) = _
    simp only [assessments_snoc, Moment.health?, Option.toList_some, Option.toList_none, List.append_nil,
      steady.assessed]
  · refine .snoc (.snoc steady.governed trivial) ?_
    show _ ↔ SafeAfter _ (assessments (w.moments ++ [.assessed health]))
    rw [assessments_snoc, steady.assessed]
    exact flags.safe
  · exact ⟨w.moments, health, rfl⟩

theorem sense_steady (stimulus : Stimulus) (clock : String → TimeNs) (cycleId tick : String) :
    Ensures (Steady policy organismId history) (sense host policy stimulus clock cycleId tick)
      (fun a => SteadyWith policy organismId (history ++ [a.1]) Planned) (Further policy organismId history) := by
  have answered : Ensures (Steady policy organismId history) (lifted (assess policy stimulus.sample stimulus.journalOk))
      (fun a w => (a.state = .critical ∨ a.state = .degraded ∨ a.state = .normal) ∧ Steady policy organismId history w)
      (Further policy organismId history) := by
    cases done : assess policy stimulus.sample stimulus.journalOk with
    | ok assessment => exact .pure fun _ steady => ⟨assess_state done, steady⟩
    | error e => exact .throw fun _ steady => steady.further
  refine .bind answered fun assessment => .given fun state =>
    .bind ((adopt_unsaved state).mono (fun _ => id) (fun _ _ => id) fun _ => False.elim) fun action =>
      .mono (q := fun a => SteadyWith policy organismId (history ++ [a.1]) Planned)
        (r := SteadyWith policy organismId (history ++ [assessment.state]) Planned) ?_ (fun _ => id) (fun _ _ => id)
        fun w steady => ⟨some assessment.state, steady.1⟩
  exact .bind (persist_unsaved _) fun _ => .bind (record_steady _ _ _ _ _ _) fun observation =>
    .get_bind fun w steady =>
    .bind ((record_steady _ _ _ _ _ _).mono (fun t same => same ▸ steady) (fun _ _ => id) fun _ => id) fun plan =>
      .pure fun _ => id

/-- The last moments are those of a plan and of a decision, and the decision passes in a
plan without safe mode only. -/
def Decided (decision : Decision) (moments : List Moment) : Prop :=
  decision = .pass →
    ∃ earlier health, moments = earlier ++ [.assessed health] ++ [.planned false] ++ [.decided .pass]

theorem decideOn_steady (stimulus : Stimulus) (clock : String → TimeNs) (cycleId plan : String) (proposal : Mapping) :
    Ensures (SteadyWith policy organismId history Planned) (decideOn host stimulus clock cycleId plan proposal)
      (fun a => SteadyWith policy organismId history fun moments _ => Decided a.1 moments)
      (Steady policy organismId history) := by
  refine .get_bind fun w ⟨steady, planned⟩ => .ite (fun safe => ?_) fun safe => ?_
  · refine .bind (q := fun _ => SteadyWith policy organismId history fun _ _ => True)
      (.modify fun t same => ⟨same ▸ steady.noted rfl trivial, trivial⟩) fun _ =>
        .bind ((record_steady _ _ _ _ _ _).mono (fun _ => id) (fun _ _ => id) fun _ => And.left) fun event =>
          .pure fun t done => ⟨done.1, nofun⟩
  · obtain ⟨earlier, health, last⟩ := planned
    rw [eq_false_of_ne_true safe] at last
    refine .bind (q := fun _ => SteadyWith policy organismId history fun moments _ =>
      moments = earlier ++ [.assessed health] ++ [.planned false]) ?_ fun result =>
        .bind (q := fun _ => SteadyWith policy organismId history fun moments _ => Decided result.decision moments)
          (.modify fun t done => ⟨done.1.noted rfl trivial, fun pass => ⟨earlier, health, ?_⟩⟩) fun _ =>
            .bind ((record_steady _ _ _ _ _ _).mono (fun _ => id) (fun _ _ => id) fun _ => And.left) fun event =>
              .pure fun _ => id
    · rintro t rfl
      unfold evaluate
      cases done : t.organism.evaluate host _ with
      | ok result => exact ⟨steady.organism (GovernedOrganism.evaluate_identity done), last⟩
      | error e => exact steady
    · rw [World.noted, done.2, pass]

theorem deliberate_steady (stimulus : Stimulus) (clock : String → TimeNs) :
    Ensures (Steady policy organismId history) (deliberate host policy stimulus clock)
      (fun a => SteadyWith policy organismId (history ++ [a.2.2.1]) fun moments _ =>
        ∀ decision event proposal, a.2.2.2.2.2 = some (decision, event, proposal) → Decided decision moments)
      (Further policy organismId history) := by
  refine .bind ((openCycle_steady clock).mono (fun _ => id) (fun _ _ => id) fun _ => Steady.further)
    fun ⟨cycleSeq, cycleId, tick⟩ => .bind (sense_steady stimulus clock cycleId tick) fun ⟨health, action, plan⟩ => ?_
  cases stimulus.proposal with
  | none => exact .pure fun w planned => ⟨planned.1, nofun⟩
  | some proposal =>
    refine .bind ((decideOn_steady _ _ _ _ _).mono (fun _ => id) (fun _ _ => id) fun w steady => ⟨some health, steady⟩)
      fun ⟨decision, event⟩ => .pure fun w done => ⟨done.1, fun d e p same => ?_⟩
    obtain ⟨rfl, _⟩ := Prod.mk.inj (Option.some.inj same)
    exact done.2

theorem remember_steady (clock : String → TimeNs) (cycleSeq : Nat) (cycleId plan : String) (health : HealthState)
    (action : RecoveryAction) (decision : Option Decision) (execution : Option (Bool × String)) :
    Keeps (Steady policy organismId history)
      (remember host clock cycleSeq cycleId plan health action decision execution) :=
  .bind (q := fun _ => SteadyWith policy organismId history fun _ _ => True)
    (stateRoot_steady.mono (fun _ steady => ⟨steady, trivial⟩) (fun _ _ => id) fun _ => And.left) fun _ =>
      .get_bind fun _ steady => .bind (q := fun _ => SteadyWith policy organismId history fun _ _ => True)
        ((record_steady _ _ _ _ _ _).mono (fun _ same => same ▸ steady) (fun _ _ => id) fun _ => And.left) fun _ =>
          .bind (persist_steady.mono (fun _ => id) (fun _ _ => id) fun _ => And.left) fun _ => .pure fun _ => And.left

theorem execute_steady (effector : Effector) (cycleId decision : String) (proposal : Json) :
    Ensures (SteadyWith policy organismId history fun moments _ => Decided .pass moments)
      (execute host effector cycleId decision proposal) (fun _ => Steady policy organismId history)
      (Steady policy organismId history) := by
  unfold execute
  cases effector.executor with
  | none => exact .throw fun _ => And.left
  | some executor =>
    refine .bind (q := fun _ => SteadyWith policy organismId history fun _ _ => True)
      (.modify fun w decided => ⟨decided.1.noted rfl (decided.2 rfl), trivial⟩) fun _ =>
        .bind (q := fun _ => SteadyWith policy organismId history fun _ _ => True) ?_ fun ⟨executed, effect⟩ =>
          .bind ((record_steady _ _ _ _ _ _).mono (fun _ => id) (fun _ _ => id) fun _ => And.left) fun execution => ?_
    · cases effectPayload (executor proposal) with
      | ok effect => exact .pure fun _ => id
      | error e => exact .throw fun _ => And.left
    · cases effect with
      | none => exact .throw fun _ => And.left
      | some payload =>
        exact .bind ((record_steady _ _ _ _ _ _).mono (fun _ => id) (fun _ _ => id) fun _ => And.left) fun _ =>
          .pure fun _ => And.left

theorem conclude_steady (effector : Effector) (cycleSeq : Nat) (cycleId : String) (health : HealthState)
    (action : RecoveryAction) (plan : String) (decided : Option (Decision × String × Json)) :
    Ensures (SteadyWith policy organismId history fun moments _ =>
        ∀ decision event proposal, decided = some (decision, event, proposal) → Decided decision moments)
      (conclude host effector cycleSeq cycleId health action plan decided) (fun _ => Steady policy organismId history)
      (Steady policy organismId history) := by
  cases decided with
  | none => exact (remember_steady _ _ _ _ _ _ _ _).mono (fun _ => And.left) (fun _ _ => id) fun _ => id
  | some decided =>
    obtain ⟨decision, event, proposal⟩ := decided
    refine .ite (fun pass => ?_) fun _ => ?_
    · subst pass
      exact .bind ((execute_steady effector cycleId event proposal).mono (fun w done => ⟨done.1, done.2 _ _ _ rfl⟩)
        (fun _ _ => id) fun _ => id) fun _ => remember_steady _ _ _ _ _ _ _ _
    · exact (remember_steady _ _ _ _ _ _ _ _).mono (fun _ => And.left) (fun _ _ => id) fun _ => id

theorem tick_steady (stimulus : Stimulus) (effector : Effector) :
    Ensures (Steady policy organismId history) (tick host policy stimulus effector)
      (fun _ => Further policy organismId history) (Further policy organismId history) :=
  .bind (deliberate_steady stimulus effector.clock) fun ⟨cycleSeq, cycleId, health, action, plan, decided⟩ =>
    (conclude_steady effector cycleSeq cycleId health action plan decided).mono (fun _ => id)
      (fun _ _ steady => ⟨some health, steady⟩) fun _ steady => ⟨some health, steady⟩

end

/-! ## Runs -/

/-- Ticks, and restarts over the same journal. -/
inductive EngineCall (organismId : String) where
  | tick (stimulus : Stimulus) (effector : Effector)
  | restart (organism : { o : GovernedOrganism // o.identity.organismId = organismId })

/-- The engine after a call: after a tick that raises, too. -/
def call (host : Host) (policy : HomeostaticPolicy) {organismId : String} (w : World) :
    EngineCall organismId → Except EngineError World
  | .tick stimulus effector => .ok (afterwards (tick host policy stimulus effector) w)
  | .restart organism => do
    let runtime ← start w.journal.reopen organism.1
    return { w with journal := w.journal.reopen, organism := organism.1, runtime := runtime }

/-- What safe mode is in every state of a run. -/
structure SafeModeLaw (policy : HomeostaticPolicy) (w : World) : Prop where
  /-- An executor is called in a tick that planned no safe mode and decided to pass. -/
  governed : Chronicle (allowed policy) w.moments
  streak : w.runtime.normalStreak = streakOf (assessments w.moments)
  safe : w.runtime.safeMode = true ↔ SafeAfter policy.normalStreakToExitSafeMode (assessments w.moments)
  throttled : w.runtime.safeMode = true → w.runtime.throttled = true

/-- How a call may change safe mode, with the assessment that it has added, if any. -/
def SafeModeStep (policy : HomeostaticPolicy) (w v : World) : Prop :=
  ∃ added : Option HealthState, assessments v.moments = assessments w.moments ++ added.toList ∧
    (added = some .critical → v.runtime.safeMode = true) ∧
    (w.runtime.safeMode = false → (v.runtime.safeMode = true ↔ added = some .critical)) ∧
    (w.runtime.safeMode = true → (v.runtime.safeMode = false ↔
      added = some .normal ∧ streakOf (assessments v.moments) = policy.normalStreakToExitSafeMode))

section
variable {host : Host} {policy : HomeostaticPolicy} {organismId : String} {history : List HealthState} {w v : World}

theorem Steady.law (steady : Steady policy organismId history w) : SafeModeLaw policy w where
  governed := steady.governed
  streak := by rw [steady.assessed, steady.flags.streak]
  safe := by rw [steady.assessed, steady.flags.safe]
  throttled := steady.flags.throttled

theorem call_steady (steady : Steady policy organismId history w) (c : EngineCall organismId) :
    ∃ v, call host policy w c = .ok v ∧ Further policy organismId history v := by
  cases c with
  | tick stimulus effector => exact ⟨_, rfl, (tick_steady stimulus effector).final steady⟩
  | restart organism =>
    obtain ⟨r, started, safe, streak, throttled⟩ := steady.stored
    have again : start w.journal.reopen organism.1 = .ok r :=
      (start_congr (j := w.journal.reopen) (k := w.journal) rfl steady.idle rfl
        (organism.2.trans steady.named.symm)).trans started
    refine ⟨{ w with journal := w.journal.reopen, organism := organism.1, runtime := r }, ?_, none, ?_⟩
    · rw [call, again]
      rfl
    · rw [Option.toList_none, List.append_nil]
      have flags : Flagged policy history r :=
        ⟨streak.trans steady.flags.streak, by rw [safe, steady.flags.safe], safe ▸ throttled ▸ steady.flags.throttled⟩
      exact ⟨steady.alive, rfl, organism.2, steady.assessed, steady.governed, flags, r, again, rfl, rfl, rfl⟩

theorem Steady.step (steady : Steady policy organismId history w) (later : Further policy organismId history v) :
    SafeModeStep policy w v := by
  obtain ⟨added, further⟩ := later
  refine ⟨added, by rw [further.assessed, steady.assessed], ?_⟩
  rw [further.assessed]
  have before := steady.flags.safe
  have after := further.flags.safe
  have positive := policy.streak
  cases added with
  | none =>
    rw [Option.toList_none, List.append_nil, ← before] at after
    refine ⟨nofun, fun outside => ?_, fun inside => ?_⟩
    · simp [after, outside]
    · simp [after.mpr inside]
  | some health =>
    rw [Option.toList_some] at after ⊢
    by_cases critical : health = .critical
    · subst critical
      have safe := after.mpr (safeAfter_critical positive history)
      exact ⟨fun _ => safe, fun _ => by simp [safe], fun _ => by simp [safe]⟩
    · rw [safeAfter_snoc critical, ← before] at after
      refine ⟨fun same => absurd (Option.some.inj same) critical, fun outside => ?_, fun inside => ?_⟩
      · simp [after, outside, critical]
      · have short := (before.mp inside).streak
        rw [← Bool.not_eq_true, after, streakOf_snoc]
        by_cases normal : health = .normal
        · simp only [inside, normal, if_true, true_and]
          omega
        · simp only [inside, normal, if_false, true_and, Option.some.injEq, false_and, iff_false]
          omega

/-- From a fresh engine every run of ticks and restarts goes through, safe mode obeys its
law in every state, and every further call changes it as it may. -/
theorem safe_mode_governs (policy : HomeostaticPolicy) {journal : Journal} (idle : journal.working = none)
    (organism : GovernedOrganism) (unstored : getState journal (stateKey organism) = .ok none)
    (calls : List (EngineCall organism.identity.organismId)) :
    ∃ w, calls.foldlM (call host policy) ⟨journal, organism, .fresh, [], none⟩ = .ok w ∧ SafeModeLaw policy w ∧
      ∀ c : EngineCall organism.identity.organismId, ∃ v, call host policy w c = .ok v ∧ SafeModeStep policy w v := by
  have fresh : Steady policy organism.identity.organismId [] ⟨journal, organism, .fresh, [], none⟩ :=
    ⟨rfl, idle, rfl, rfl, .nil, flagged_fresh policy, .fresh, by simp only [start, unstored], rfl, rfl, rfl⟩
  generalize (⟨journal, organism, .fresh, [], none⟩ : World) = w at fresh ⊢
  generalize ([] : List HealthState) = history at fresh
  induction calls generalizing w history with
  | nil =>
    refine ⟨w, rfl, fresh.law, fun c => ?_⟩
    obtain ⟨v, done, later⟩ := @call_steady host _ _ _ _ fresh c
    exact ⟨v, done, fresh.step later⟩
  | cons c rest ih =>
    obtain ⟨v, done, added, later⟩ := @call_steady host _ _ _ _ fresh c
    rw [List.foldlM_cons, done]
    exact ih v _ later

theorem safe_mode_governs_sample :
    ∃ w, [EngineCall.tick sampleStimulus ⟨some fun _ => .result (.str "OK") [], fun _ => ⟨0, by decide⟩⟩,
      .restart ⟨.sample hexHost, rfl⟩].foldlM (call hexHost samplePolicy)
        ⟨Journal.empty, .sample hexHost, .fresh, [], none⟩ = .ok w ∧
      SafeModeLaw samplePolicy w ∧ ∀ c : EngineCall (GovernedOrganism.sample hexHost).identity.organismId,
        ∃ v, call hexHost samplePolicy w c = .ok v ∧ SafeModeStep samplePolicy w v :=
  safe_mode_governs samplePolicy rfl (.sample hexHost) (getState_empty _) _

end

end MatVerse.Physiology
