import MatVerse.EventConsumers
import MatVerse.ExecutorNoninterference
import MatVerse.RecoveryTrace

/-! The first tick of a journal: what it decides and executes, what it records of the effect,
and what it keeps of the organism. -/
namespace MatVerse.Physiology

/-! ## One tick on a fresh journal -/

section
variable {host : Host} {property : GovernedOrganism → Prop} {c : Cycle} {k : Nat} {effects : List Json}

variable (host property c k effects) in
/-- An engine in the first cycle of its journal, with the effects recorded so far. -/
structure Underway (w : World) : Prop where
  counting : Counting host c k w
  alive : w.fuse = none
  calm : w.runtime.safeMode = false
  organism : property w.organism
  few : w.journal.durable.events.length ≤ k
  placed : ∀ row ∈ w.journal.durable.events, row.topic = "physiology" ∧ 0 < row.seq
  recorded : (w.journal.durable.events.filter (fun row => row.eventType == "EFFECT")).map EventRow.payload = effects

/-- An event of an effect tells the effect. -/
def told (eventType : String) (payload : Mapping) : List Json :=
  if eventType = "EFFECT" then [(Json.dict payload).norm] else []

theorem Underway.record (free : host.CollisionFree) {place : Nat × String × String} (member : place ∈ places)
    (later : k ≤ place.1) (saved : 2 ≤ place.1 → 2 ≤ k) (clock : String → TimeNs) {payload : Mapping}
    {causation : Option String} (opening : place.1 = 0 → payload = c.opening host ∧ causation = none) :
    Ensures (Underway host property c k effects) (record host clock (c.id host) place.2.1 place.2.2 payload causation)
      (fun _ => Underway host property c (place.1 + 1) (effects ++ told place.2.2 payload)) fun _ => False := by
  refine .bind (q := fun _ => Underway host property c (place.1 + 1) (effects ++ told place.2.2 payload))
    (durably_ensures (fun w underway burnt => by cases underway.alive.symm.trans burnt) fun w underway _ => ?_)
      fun _ => .pure fun _ => id
  obtain ⟨event, t, done, written, next⟩ := underway.counting.append free member payload causation later saved opening
    (clock place.2.1)
  unfold Cycle.call recordCall AppendCall.timed at done
  have few := underway.few
  have held : t.events.length ≤ place.1 + 1 ∧ (∀ row ∈ t.events, row.topic = "physiology" ∧ 0 < row.seq) ∧
      (t.events.filter (fun row => row.eventType == "EFFECT")).map EventRow.payload = effects ++
        told place.2.2 payload := by
    rcases written with rfl | ⟨zero, rfl⟩
    · have type :
          ((c.call host place payload causation (clock place.2.1)).row host
            (w.journal.durable.sequence + 1)).eventType =
          place.2.2 := (places_text member).2.2.1
      refine ⟨?_, fun row listed => ?_, ?_⟩
      · rw [Tables.added, List.length_append, List.length_singleton]
        omega
      · rcases List.mem_append.mp listed with old | new
        · exact underway.placed row old
        · rw [List.mem_singleton.mp new]
          exact ⟨show Text.strip "physiology" = "physiology" by decide, Nat.succ_pos _⟩
      · rw [Tables.added, List.filter_append, List.map_append, underway.recorded, List.filter_singleton, type, told]
        by_cases effect : place.2.2 = "EFFECT"
        · simp [effect, payload_row, Cycle.call, recordCall, AppendCall.timed]
        · simp [beq_eq_false_iff_ne.mpr effect, effect]
    · obtain rfl := place_zero member zero
      refine ⟨by omega, underway.placed, ?_⟩
      rw [told, if_neg (by decide), List.append_nil]
      exact underway.recorded
  rw [done]
  exact ⟨fun _ _ => ⟨next, by rw [World.wrote, underway.alive]; rfl, underway.calm, underway.organism, held.1, held.2.1,
    held.2.2⟩, fun e failed => by cases failed⟩

theorem Underway.silent (free : host.CollisionFree) {place : Nat × String × String} (member : place ∈ places)
    (later : k ≤ place.1) (saved : 2 ≤ place.1 → 2 ≤ k) (clock : String → TimeNs) {payload : Mapping}
    {causation : Option String} (opening : place.1 = 0 → payload = c.opening host ∧ causation = none)
    (other : place.2.2 ≠ "EFFECT") :
    Ensures (Underway host property c k effects)
    (Physiology.record host clock (c.id host) place.2.1 place.2.2 payload causation)
      (fun _ => Underway host property c (place.1 + 1) effects) fun _ => False := by
  have done : Ensures (Underway host property c k effects)
      (Physiology.record host clock (c.id host) place.2.1 place.2.2 payload causation)
      (fun _ => Underway host property c (place.1 + 1) (effects ++ told place.2.2 payload)) fun _ => False :=
    Underway.record free member later saved clock opening
  rwa [told, if_neg other, List.append_nil] at done

theorem Underway.persist {k' : Nat} (later : k ≤ k') : Ensures (Underway host property c k effects) persistRuntimeState
    (fun _ => Underway host property c k' effects) fun _ => False := by
  refine .get_bind fun w underway => .mono (p := (· = w)) (q := fun _ => Underway host property c k' effects)
    (durably_ensures (fun t same burnt => ?_) fun t same _ => ?_) (fun _ => id) (fun _ _ => id) fun _ => id
  · subst same
    cases underway.alive.symm.trans burnt
  subst same
  refine ⟨fun _ _ => ?_, fun e failed => ?_⟩
  · obtain ⟨states, saved⟩ := setState_states underway.counting.sound.idle (stateKey t.organism) t.runtime.toJson
    have counting : Counting host c k' _ := underway.counting.saved later
    rw [saved] at counting ⊢
    exact ⟨counting, by rw [World.wrote, underway.alive]; rfl, underway.calm, underway.organism,
      Nat.le_trans underway.few later, underway.placed, underway.recorded⟩
  · simp [setState, stateKey_nonempty] at failed

theorem openCycle_underway {before : World} (free : host.CollisionFree) (clock : String → TimeNs)
    (counted : Counted host before) (alive : before.fuse = none) (calm : before.runtime.safeMode = false)
    (fresh : before.journal.durable.events = []) :
    Ensures (· = before) (openCycle host clock) (fun opened w => opened.2.1 = (before.cycle host).id host ∧
      Underway host (· = (before.organism.stateRoot host).2) (before.cycle host) 1 [] w) fun _ => False := by
  refine .bind
    (q := fun _ t => t = { before with runtime := { before.runtime with cycleSeq := before.runtime.cycleSeq + 1 } })
    (.modify fun w same => by rw [same]) fun _ => .get_bind fun t same => ?_
  subst same
  refine .bind (q := fun root t => root = (before.organism.stateRoot host).1 ∧ t = before.opened host)
    (fun t same => same ▸ ⟨rfl, rfl⟩) fun root => .given fun named => ?_
  subst named
  have written : Ensures (Underway host (· = (before.organism.stateRoot host).2) (before.cycle host) 0 [])
      (Physiology.record host clock ((before.cycle host).id host) ":tick" "TICK"
        [("cycle_id", .str ((before.cycle host).id host)), ("cycle_seq", .int (before.runtime.cycleSeq + 1))] none)
      (fun _ => Underway host (· = (before.organism.stateRoot host).2) (before.cycle host) 1 []) fun _ => False :=
    Underway.silent free tick_place (Nat.le_refl 0) (fun late => by cases late) clock (fun _ => ⟨rfl, rfl⟩) (by decide)
  refine .bind (written.mono (fun t same => same ▸ ?_) (fun _ _ => id) fun _ => id) fun _ => .pure fun t underway =>
    ⟨rfl, underway⟩
  refine ⟨counted.opened, alive, calm, rfl, ?_, fun row listed => ?_, ?_⟩
  · show before.journal.durable.events.length ≤ 0
    rw [fresh]
    rfl
  · rw [show (before.opened host).journal.durable.events = [] from fresh] at listed
    cases listed
  · rw [show (before.opened host).journal.durable.events = [] from fresh]
    rfl

variable {policy : HomeostaticPolicy} {stimulus : Stimulus} {assessment : HealthAssessment}

theorem adopt_underway {health : HealthState} (normal : health = .normal) : Ensures (Underway host property c 1 effects)
    (adopt policy health) (fun action w => action = .none ∧ Underway host property c 1 effects w) fun _ => False := by
  subst normal
  intro w underway
  have counting := underway.counting.congr (v := w.adopted policy .normal) rfl rfl
    (planRecovery_cycleSeq policy w.runtime .normal)
  refine ⟨by simp [planRecovery, underway.calm], counting, underway.alive, ?_, underway.organism, underway.few,
    underway.placed, underway.recorded⟩
  show (planRecovery policy w.runtime .normal).2.safeMode = false
  simp [planRecovery, underway.calm]

theorem sense_underway (free : host.CollisionFree)
    (assessed : assess policy stimulus.sample stimulus.journalOk = .ok assessment) (normal : assessment.state = .normal)
    (clock : String → TimeNs) (tick : String) :
    Ensures (Underway host property c 1 effects) (sense host policy stimulus clock (c.id host) tick)
      (fun sensed w => (sensed.1 = .normal ∧ sensed.2.1 = .none) ∧ Underway host property c 4 effects w) fun _ =>
      False := by
  unfold sense
  rw [assessed]
  have observation : ((2, ":observation", "OBSERVATION") : Nat × String × String) ∈ places := by simp [places, writes]
  have plan : ((3, ":plan", "RECOVERY_PLAN") : Nat × String × String) ∈ places := by simp [places, writes]
  refine .bind (q := fun a w => a = assessment ∧ Underway host property c 1 effects w)
    (.pure fun _ underway => ⟨rfl, underway⟩) fun a =>
    .given fun same => ?_
  subst same
  refine .bind (adopt_underway normal) fun action => .given fun calm => ?_
  refine .bind (Underway.persist (Nat.le_succ 1)) fun _ =>
    .bind (Underway.silent free observation (Nat.le_refl 2) (fun _ => Nat.le_refl 2) clock (fun zero => by cases zero)
      (by decide))
      fun _ => .get_bind fun w underway => .bind
        ((Underway.silent free plan (Nat.le_refl 3) (fun _ => Nat.le_succ 2) clock
        (fun zero => by cases zero) (by decide)).mono (fun t same => same ▸ underway) (fun _ _ => id) fun _ => id)
        fun _ =>
          .pure fun _ underway => ⟨⟨normal, calm⟩, underway⟩

/-- What the organism is asked about a proposal in a cycle. -/
def question (host : Host) (c : Cycle) (stimulus : Stimulus) (proposal : Mapping) : GovernedOrganism.EvaluateArgs :=
  ⟨c.id host ++ ":organism-evaluation", (jsonClone (.dict proposal)).entries, stimulus.human, stimulus.ontologyOk,
    stimulus.signatureValid, stimulus.transitionValid⟩

theorem evaluate_answers (w : World) (args : GovernedOrganism.EvaluateArgs) : Ensures (· = w) (evaluate host args)
    (fun result t => ∃ o, w.organism.evaluate host args = .ok (result, o) ∧ t = { w with organism := o })
    fun _ => ∃ e, w.organism.evaluate host args = .error e := by
  intro t same
  subst same
  unfold evaluate
  cases done : t.organism.evaluate host args with
  | ok answer => exact ⟨_, rfl, rfl⟩
  | error e => exact ⟨e, rfl⟩

theorem decideOn_underway (free : host.CollisionFree) {o : GovernedOrganism} (clock : String → TimeNs) (plan : String)
    (proposal : Mapping) :
    Ensures (Underway host (· = o) c 4 effects) (decideOn host stimulus clock (c.id host) plan proposal)
      (fun decided w => (∃ done, o.evaluate host (question host c stimulus proposal) = .ok done ∧
        decided.1 = done.1.decision) ∧ Underway host (fun _ => True) c 5 effects w)
      fun _ => ∃ e, o.evaluate host (question host c stimulus proposal) = .error e := by
  have decision : ((4, ":decision", "DECISION") : Nat × String × String) ∈ places := by simp [places, writes]
  refine .get_bind fun w underway => .ite (fun safe => by cases underway.calm.symm.trans safe) fun _ => ?_
  rw [← underway.organism]
  refine .bind (q := fun result t => (∃ done, w.organism.evaluate host (question host c stimulus proposal) = .ok done ∧
      result = done.1) ∧ Underway host (fun _ => True) c 4 effects t)
    ((evaluate_answers w (question host c stimulus proposal)).mono (fun _ => id) (fun result t answered => ?_) fun _ =>
      id) fun result =>
      .given fun answered => ?_
  · obtain ⟨o', done, rfl⟩ := answered
    exact ⟨⟨_, done, rfl⟩, underway.counting.congr rfl (GovernedOrganism.evaluate_identity done) rfl, underway.alive,
      underway.calm, trivial, underway.few, underway.placed, underway.recorded⟩
  · obtain ⟨done, answered, rfl⟩ := answered
    refine .bind (q := fun _ => Underway host (fun _ => True) c 4 effects) (.modify fun t underway => ?_) fun _ =>
      .bind ((Underway.silent free decision (Nat.le_refl 4) (fun _ => by decide) clock (fun zero => by cases zero)
        (by decide)).raises
        fun _ never => never.elim) fun event => .pure fun t underway => ⟨⟨done, answered, rfl⟩, underway⟩
    exact ⟨underway.counting.congr rfl rfl rfl, underway.alive, underway.calm, trivial, underway.few, underway.placed,
      underway.recorded⟩

theorem execute_underway (free : host.CollisionFree) {effector : Effector} {executor : Json → ExecutorOutcome}
    (armed : effector.executor = some executor) (decision : String) (proposal : Json) :
    Ensures (Underway host (fun _ => True) c 5 []) (execute host effector (c.id host) decision proposal)
      (fun ran w => ∃ payload, effectPayload (executor proposal) = .ok (ran.1, some payload) ∧
        Underway host (fun _ => True) c 7 [(Json.dict payload).norm] w)
      fun _ => ¬Recordable (executor proposal) := by
  have execution : ((5, ":execution", "EXECUTION") : Nat × String × String) ∈ places := by simp [places, writes]
  have effect : ((6, ":effect", "EFFECT") : Nat × String × String) ∈ places := by simp [places, writes]
  unfold execute
  rw [armed]
  refine .bind (q := fun _ => Underway host (fun _ => True) c 5 []) (.modify fun t underway => ?_) fun _ => ?_
  · exact ⟨underway.counting.congr rfl rfl rfl, underway.alive, underway.calm, trivial, underway.few, underway.placed,
      underway.recorded⟩
  cases answer : effectPayload (executor proposal) with
  | error e =>
    refine .bind (q := fun _ _ => False) (.throw fun _ _ recordable => ?_) fun _ => fun _ never => never.elim
    obtain ⟨executed, payload, answered⟩ := recordable
    cases answer.symm.trans answered
  | ok told =>
    refine .bind (q := fun a w => a = told ∧ Underway host (fun _ => True) c 5 [] w)
      (.pure fun _ underway => ⟨rfl, underway⟩) fun a =>
      .given fun same => ?_
    subst same
    obtain ⟨executed, payload⟩ := a
    refine .bind
      ((Underway.silent free execution (Nat.le_refl 5) (fun _ => by decide) effector.clock (fun zero => by cases zero)
      (by decide)).raises fun _ never => never.elim) fun event => ?_
    cases payload with
    | none =>
      refine .throw fun _ _ recordable => ?_
      obtain ⟨executed', payload, answered⟩ := recordable
      cases answer.symm.trans answered
    | some payload =>
      exact .bind
        ((Underway.record free effect (Nat.le_refl 6)
          (fun _ => by decide) effector.clock fun zero => by cases zero).raises
        fun _ never => never.elim) fun _ => .pure fun w underway => ⟨payload, rfl, underway⟩

theorem remember_underway (free : host.CollisionFree) (early : k ≤ 7) (saved : 2 ≤ k) (clock : String → TimeNs)
    (cycleSeq : Nat) (plan : String) (health : HealthState) (action : RecoveryAction) (decision : Option Decision)
    (execution : Option (Bool × String)) :
    Ensures (Underway host (fun _ => True) c k effects)
      (remember host clock cycleSeq (c.id host) plan health action decision execution)
      (fun r w => (r.cycleId = c.id host ∧ r.health = health ∧ r.recoveryAction = action ∧ r.decision = decision ∧
        r.executed = (execution.map (·.1)).getD false) ∧ Underway host (fun _ => True) c 8 effects w) fun _ =>
        False := by
  have memory : ((7, ":memory", "MEMORY_COMMIT") : Nat × String × String) ∈ places := by simp [places, writes]
  refine .bind (q := fun _ => Underway host (fun _ => True) c k effects) (fun t underway => ?_) fun root =>
    .get_bind fun w underway => .bind
      ((Underway.silent free memory early (fun _ => saved) clock (fun zero => by cases zero)
      (by decide)).mono (fun t same => same ▸ underway) (fun _ _ => id) fun _ => id) fun _ =>
        .bind (Underway.persist (Nat.le_refl 8)) fun _ => .pure fun t underway => ⟨⟨rfl, rfl, rfl, rfl, rfl⟩, underway⟩
  exact ⟨underway.counting.congr rfl (GovernedOrganism.stateRoot_identity _) rfl, underway.alive, underway.calm,
    trivial, underway.few, underway.placed, underway.recorded⟩

/-! ## What a tick comes to -/

variable (host) in
/-- The organism's answer to the task of an engine's next cycle. -/
def verdict (before : World) (stimulus : Stimulus) (task : Mapping) : Except PyError (LoopResult × GovernedOrganism) :=
  (before.organism.stateRoot host).2.evaluate host (question host (before.cycle host) stimulus task)

variable (host) in
/-- The organism answers, and where the answer is PASS, the executor too. -/
def Answered (before : World) (stimulus : Stimulus) (task : Mapping) (executor : Json → ExecutorOutcome) : Prop :=
  ∃ done, verdict host before stimulus task = .ok done ∧
    (done.1.decision = .pass → Recordable (executor (jsonClone (.dict task))))

variable (host) in
/-- The cycle ended as the organism and the executor have it. -/
structure TickEnded (before : World) (stimulus : Stimulus) (task : Mapping) (executor : Json → ExecutorOutcome)
    (r : CycleResult) (w : World) : Prop where
  cycle : r.cycleId = (before.cycle host).id host
  health : r.health = .normal
  action : r.recoveryAction = .none
  decision : ∃ done, verdict host before stimulus task = .ok done ∧ r.decision = some done.1.decision
  passed : r.decision = some .pass → ∃ payload, effectPayload (executor (jsonClone (.dict task))) = .ok
    (r.executed, some payload) ∧
    Underway host (fun _ => True) (before.cycle host) 8 [(Json.dict payload).norm] w
  held : r.decision ≠ some .pass → r.executed = false ∧ Underway host (fun _ => True) (before.cycle host) 8 [] w

theorem deliberate_underway {before : World} {task : Mapping} (free : host.CollisionFree) (clock : String → TimeNs)
    (counted : Counted host before) (alive : before.fuse = none) (calm : before.runtime.safeMode = false)
    (fresh : before.journal.durable.events = [])
    (assessed : assess policy stimulus.sample stimulus.journalOk = .ok assessment) (normal : assessment.state = .normal)
    (proposed : stimulus.proposal = some task) :
    Ensures (· = before) (deliberate host policy stimulus clock)
      (fun (_, cycleId, health, action, _, decided) w => (cycleId = (before.cycle host).id host ∧ health = .normal ∧
        action = .none ∧
          ∃ done event, verdict host before stimulus task = .ok done ∧
            decided = some (done.1.decision, event, jsonClone (.dict task))) ∧
        Underway host (fun _ => True) (before.cycle host) 5 [] w)
      fun _ => ∃ e, verdict host before stimulus task = .error e := by
  refine .bind ((openCycle_underway free clock counted alive calm fresh).raises fun _ never => never.elim)
    fun ⟨cycleSeq, cycleId, tick⟩ => .given fun named => ?_
  subst named
  refine .bind ((sense_underway free assessed normal clock tick).raises fun _ never => never.elim)
    fun ⟨health, action, plan⟩ => .given fun sensed => ?_
  obtain ⟨rfl, rfl⟩ := sensed
  rw [proposed]
  refine .bind (decideOn_underway free clock plan task) fun ⟨decision, event⟩ => .pure fun w ⟨decided, underway⟩ => ?_
  obtain ⟨done, answered, rfl⟩ := decided
  exact ⟨⟨rfl, rfl, rfl, done, event, answered, rfl⟩, underway⟩

theorem conclude_underway {before : World} {task : Mapping} {executor : Json → ExecutorOutcome} {effector : Effector}
    {done : LoopResult × GovernedOrganism} (free : host.CollisionFree) (armed : effector.executor = some executor)
    (answered : verdict host before stimulus task = .ok done) (cycleSeq : Nat) (plan event : String) :
    Ensures (Underway host (fun _ => True) (before.cycle host) 5 [])
      (conclude host effector cycleSeq ((before.cycle host).id host) .normal .none plan
        (some (done.1.decision, event, jsonClone (.dict task))))
      (fun r w => TickEnded host before stimulus task executor r w) fun _ => ¬Answered host before stimulus task
      executor := by
  refine .ite (fun passed => ?_) fun held => ?_
  · refine .bind (q := fun ran w => ∃ payload, effectPayload (executor (jsonClone (.dict task))) = .ok
      (ran.1, some payload) ∧ Underway host (fun _ => True) (before.cycle host) 7 [(Json.dict payload).norm] w)
      ((execute_underway free armed event _).raises fun _ silent answers => ?_) fun ⟨executed, execution⟩ =>
        .start fun w ran => ?_
    · obtain ⟨done', answered', recordable⟩ := answers
      obtain rfl := Except.ok.inj (answered.symm.trans answered')
      exact silent (recordable passed)
    · obtain ⟨payload, told, underway⟩ := ran
      refine (remember_underway free (Nat.le_refl 7) (by decide) effector.clock cycleSeq plan .normal .none
        (some done.1.decision)
        (some (executed, execution))).mono (fun t same => same ▸ underway) (fun r t remembered => ?_) fun _ never =>
        never.elim
      obtain ⟨⟨cycle, health, action, decision, ran⟩, underway⟩ := remembered
      refine ⟨cycle, health, action, ⟨done, answered, decision⟩, fun _ => ⟨payload, ?_, underway⟩, fun other => ?_⟩
      · rw [ran]
        exact told
      · rw [decision, passed] at other
        exact absurd rfl other
  · refine (remember_underway free (by decide) (by decide) effector.clock cycleSeq plan .normal .none
      (some done.1.decision)
        none).mono (fun _ => id) (fun r t remembered => ?_) fun _ never => never.elim
    obtain ⟨⟨cycle, health, action, decision, ran⟩, underway⟩ := remembered
    refine ⟨cycle, health, action, ⟨done, answered, decision⟩, fun other => ?_, fun _ => ⟨ran, underway⟩⟩
    rw [decision] at other
    exact absurd (Option.some.inj other) held

theorem tick_underway {before : World} {task : Mapping} {executor : Json → ExecutorOutcome} {effector : Effector}
    (free : host.CollisionFree) (armed : effector.executor = some executor) (counted : Counted host before)
    (alive : before.fuse = none) (calm : before.runtime.safeMode = false) (fresh : before.journal.durable.events = [])
    (assessed : assess policy stimulus.sample stimulus.journalOk = .ok assessment) (normal : assessment.state = .normal)
    (proposed : stimulus.proposal = some task) :
    Ensures (· = before) (tick host policy stimulus effector)
    (fun r w => TickEnded host before stimulus task executor r w)
      fun _ => ¬Answered host before stimulus task executor := by
  refine .bind ((deliberate_underway free effector.clock counted alive calm fresh assessed normal proposed).raises
    fun _ refused answers => ?_) fun ⟨cycleSeq, cycleId, health, action, plan, decided⟩ => .given fun deliberated => ?_
  · obtain ⟨e, refused⟩ := refused
    obtain ⟨done, answered, -⟩ := answers
    cases refused.symm.trans answered
  · obtain ⟨rfl, rfl, rfl, done, event, answered, rfl⟩ := deliberated
    exact conclude_underway free armed answered cycleSeq plan event

end

/-! ## What a tick keeps of the organism -/

section
variable {host : Host} {property : GovernedOrganism → Prop}

theorem durably_keeps {α : Type} (write : Journal → Except JournalError α × Journal) :
    Keeps (fun w => property w.organism) (durably write) :=
  durably_ensures (fun _ holds _ => holds) fun _ holds _ => ⟨fun _ _ => holds, fun _ _ => holds⟩

theorem record_keeps (clock : String → TimeNs) (cycleId label eventType : String) (payload : Mapping)
    (causation : Option String) :
    Keeps (fun w => property w.organism) (record host clock cycleId label eventType payload causation) :=
  .bind (durably_keeps _) fun _ => .pure fun _ => id

theorem persist_keeps : Keeps (fun w => property w.organism) persistRuntimeState :=
  .get_bind fun _ holds => (durably_keeps _).mono (fun _ same => same ▸ holds) (fun _ _ => id) fun _ => id

theorem decideOn_keeps (evaluations : ∀ o args done, property o → o.evaluate host args = .ok done → property done.2)
    (stimulus : Stimulus) (clock : String → TimeNs) (cycleId plan : String) (proposal : Mapping) :
    Keeps (fun w => property w.organism) (decideOn host stimulus clock cycleId plan proposal) := by
  refine .get_bind fun w holds => .ite (fun _ => ?_) fun _ => ?_
  · exact .bind (q := fun _ t => property t.organism) (.modify fun t same => same ▸ holds) fun _ =>
      .bind (record_keeps _ _ _ _ _ _) fun _ => .pure fun _ => id
  · refine .bind (q := fun _ t => property t.organism) (fun t same => ?_) fun result =>
      .bind (q := fun _ t => property t.organism) (.modify fun _ => id) fun _ => .bind
        (record_keeps _ _ _ _ _ _) fun _ =>
        .pure fun _ => id
    subst same
    unfold evaluate
    cases done : t.organism.evaluate host _ with
    | ok answer => exact evaluations _ _ _ holds done
    | error e => exact holds

theorem execute_keeps (effector : Effector) (cycleId decision : String) (proposal : Json) :
    Keeps (fun w => property w.organism) (execute host effector cycleId decision proposal) := by
  unfold execute
  cases effector.executor with
  | none => exact .throw fun _ => id
  | some executor =>
    refine .bind (q := fun _ t => property t.organism) (.modify fun _ => id) fun _ =>
      .bind (q := fun _ t => property t.organism) ?_ fun ⟨executed, effect⟩ => .bind
        (record_keeps _ _ _ _ _ _) fun execution => ?_
    · cases effectPayload (executor proposal) with
      | ok answer => exact .pure fun _ => id
      | error e => exact .throw fun _ => id
    · cases effect with
      | none => exact .throw fun _ => id
      | some payload => exact .bind (record_keeps _ _ _ _ _ _) fun _ => .pure fun _ => id

/-- What state roots and evaluations keep of an organism, a tick keeps. -/
theorem tick_keeps {policy : HomeostaticPolicy} {stimulus : Stimulus} {effector : Effector}
    (roots : ∀ o, property o → property (o.stateRoot host).2)
    (evaluations : ∀ o args done, property o → o.evaluate host args = .ok done → property done.2) :
    Keeps (fun w => property w.organism) (tick host policy stimulus effector) := by
  have rooted : Keeps (fun w => property w.organism) (stateRoot host) := fun _ holds => roots _ holds
  have remembers (cycleSeq : Nat) (cycleId plan : String) (health : HealthState) (action : RecoveryAction)
      (decision : Option Decision) (execution : Option (Bool × String)) : Keeps (fun w => property w.organism)
        (remember host effector.clock cycleSeq cycleId plan health action decision execution) :=
    .bind rooted fun _ => .get_bind fun w holds =>
      .bind ((record_keeps _ _ _ _ _ _).mono (fun t same => same ▸ holds) (fun _ _ => id) fun _ => id) fun _ =>
        .bind persist_keeps fun _ => .pure fun _ => id
  have opens : Keeps (fun w => property w.organism) (openCycle host effector.clock) :=
    .bind (q := fun _ t => property t.organism) (.modify fun _ => id) fun _ => .get_bind fun w holds =>
      .bind (rooted.mono (fun t same => same ▸ holds) (fun _ _ => id) fun _ => id) fun _ =>
        .bind (record_keeps _ _ _ _ _ _) fun _ => .pure fun _ => id
  have senses (cycleId tick : String) : Keeps (fun w => property w.organism)
      (sense host policy stimulus effector.clock cycleId tick) := by
    refine .bind (q := fun _ t => property t.organism) ?_ fun assessment =>
      .bind (q := fun _ t => property t.organism) (fun _ => id) fun action => .bind persist_keeps fun _ =>
        .bind (record_keeps _ _ _ _ _ _) fun _ => .get_bind fun w holds =>
          .bind ((record_keeps _ _ _ _ _ _).mono (fun t same => same ▸ holds) (fun _ _ => id) fun _ => id) fun _ =>
            .pure fun _ => id
    cases assess policy stimulus.sample stimulus.journalOk with
    | ok assessment => exact .pure fun _ => id
    | error e => exact .throw fun _ => id
  have deliberates : Keeps (fun w => property w.organism) (deliberate host policy stimulus effector.clock) := by
    refine .bind opens fun opened => .bind (senses _ _) fun sensed => ?_
    cases stimulus.proposal with
    | none => exact .pure fun _ => id
    | some proposal => exact .bind (decideOn_keeps evaluations _ _ _ _ _) fun _ => .pure fun _ => id
  refine .bind deliberates fun deliberated => ?_
  · obtain ⟨cycleSeq, cycleId, health, action, plan, decided⟩ := deliberated
    cases decided with
    | none => exact remembers _ _ _ _ _ _ _
    | some decided =>
      obtain ⟨decision, event, proposal⟩ := decided
      exact .ite (fun _ => .bind (execute_keeps _ _ _ _) fun _ => remembers _ _ _ _ _ _ _) fun _ =>
        remembers _ _ _ _ _ _ _

end

end MatVerse.Physiology
