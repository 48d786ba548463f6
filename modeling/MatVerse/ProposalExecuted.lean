import MatVerse.EventNumbers

/-! What gets to the executor: an admissible proposal of a normal tick, when no recovery is
pending and the organism has no constraint against it. -/

/-- An organism that has not decided anything yet. -/
def MatVerse.GovernedOrganism.Unused (o : MatVerse.GovernedOrganism) : Prop := o.constraints = [] ∧ o.lineage = []

namespace MatVerse.Physiology
section
variable {host : Host} {before w : World} {property : GovernedOrganism → Prop} {c : Cycle} {k : Nat}

variable (host before property c k) in
/-- An engine in a cycle in which nothing stops a proposal. -/
structure Willing (w : World) : Prop where
  counting : Counting host c k w
  alive : w.fuse = none
  calm : w.runtime.safeMode = false
  organism : property w.organism
  later : before.moments.length ≤ w.moments.length

theorem Willing.wrote {k' : Nat} (willing : Willing host before property c k w) {j : Journal}
    (counting : Counting host c k' (w.wrote j)) : Willing host before property c k' (w.wrote j) :=
  ⟨counting, by rw [World.wrote, willing.alive]; rfl, willing.calm, willing.organism, willing.later⟩

theorem Willing.record (free : host.CollisionFree) {place : Nat × String × String} (member : place ∈ places)
    (later : k ≤ place.1) (saved : 2 ≤ place.1 → 2 ≤ k) (clock : String → TimeNs) {payload : Mapping}
    {causation : Option String} (opening : place.1 = 0 → payload = c.opening host ∧ causation = none) :
    Ensures (Willing host before property c k) (record host clock (c.id host) place.2.1 place.2.2 payload causation)
      (fun _ => Willing host before property c (place.1 + 1)) fun _ => False := by
  refine .bind (q := fun _ => Willing host before property c (place.1 + 1))
    (durably_ensures (fun w willing burnt => nomatch willing.alive.symm.trans burnt) fun w willing _ => ?_) fun _ =>
      .pure fun _ => id
  obtain ⟨event, t, done, -, next⟩ := willing.counting.append free member _ _ later saved opening (clock place.2.1)
  unfold Cycle.call recordCall AppendCall.timed at done
  rw [done]
  exact ⟨fun _ _ => willing.wrote next, nofun⟩

theorem Willing.persist {k' : Nat} (later : k ≤ k') : Ensures (Willing host before property c k) persistRuntimeState
    (fun _ => Willing host before property c k') fun _ => False := by
  refine .get_bind fun w willing => .mono (p := (· = w)) (q := fun _ => Willing host before property c k')
    (durably_ensures (fun t same burnt => ?_) fun t same _ => ?_) (fun _ => id) (fun _ _ => id) fun _ => id
  · subst same
    cases willing.alive.symm.trans burnt
  subst same
  refine ⟨fun _ _ => willing.wrote (willing.counting.saved later), fun e failed => ?_⟩
  simp [setState, stateKey_nonempty] at failed

theorem openCycle_willing (free : host.CollisionFree) (clock : String → TimeNs) (counted : Counted host before)
    (alive : before.fuse = none) (calm : before.runtime.safeMode = false) (unused : before.organism.Unused) :
     Ensures (· = before) (openCycle host clock)
    (fun opened w => opened.2.1 = (before.cycle host).id host ∧ Willing host before GovernedOrganism.Unused
      (before.cycle host) 1 w) fun _ => False := by
  refine .bind
    (q := fun _ t => t = { before with runtime := { before.runtime with cycleSeq := before.runtime.cycleSeq + 1 } })
    (.modify fun w same => by rw [same]) fun _ => .get_bind fun t same => ?_
  subst same
  refine .bind (q := fun root t => root = (before.organism.stateRoot host).1 ∧ t = before.opened host)
    (fun t same => same ▸ ⟨rfl, rfl⟩) fun root => .given fun named => ?_
  subst named
  have written : Ensures (Willing host before GovernedOrganism.Unused (before.cycle host) 0)
      (Physiology.record host clock ((before.cycle host).id host) ":tick" "TICK"
        [("cycle_id", .str ((before.cycle host).id host)), ("cycle_seq", .int (before.runtime.cycleSeq + 1))] none)
      (fun _ => Willing host before GovernedOrganism.Unused (before.cycle host) 1) fun _ => False :=
    Willing.record free tick_place (Nat.le_refl 0) nofun clock fun _ => ⟨rfl, rfl⟩
  refine .bind (written.mono (fun t same => same ▸ ?_) (fun _ _ => id) fun _ => id) fun _ => .pure fun t willing =>
    ⟨rfl, willing⟩
  exact ⟨counted.opened, alive, calm, ⟨(GovernedOrganism.stateRoot_constraints _).trans unused.1,
    (GovernedOrganism.stateRoot_lineage _).trans unused.2⟩, Nat.le_refl _⟩

section
variable {policy : HomeostaticPolicy} {stimulus : Stimulus} {assessment : HealthAssessment}

theorem adopt_willing {health : HealthState} (normal : health = .normal) :
    Ensures (Willing host before property c 1) (adopt policy health) (fun _ => Willing host before property c 1)
    fun _ => False := by
  subst normal
  intro w willing
  have counting := willing.counting.congr (v := w.adopted policy .normal) rfl rfl
    (planRecovery_cycleSeq policy w.runtime .normal)
  refine ⟨counting, willing.alive, ?_, willing.organism, ?_⟩
  · show (planRecovery policy w.runtime .normal).2.safeMode = false
    simp [planRecovery, willing.calm]
  · exact Nat.le_trans willing.later (by simp [World.noted])

theorem sense_willing (free : host.CollisionFree)
    (assessed : assess policy stimulus.sample stimulus.journalOk = .ok assessment) (normal : assessment.state = .normal)
    (clock : String → TimeNs) (tick : String) :
    Ensures (Willing host before property c 1) (sense host policy stimulus clock (c.id host) tick)
    (fun _ => Willing host before property c 4)
      fun _ => False := by
  unfold sense
  rw [assessed]
  have observation : ((2, ":observation", "OBSERVATION") : Nat × String × String) ∈ places := by simp [places, writes]
  have plan : ((3, ":plan", "RECOVERY_PLAN") : Nat × String × String) ∈ places := by simp [places, writes]
  refine .bind (q := fun a w => a = assessment ∧ Willing host before property c 1 w)
    (.pure fun _ willing => ⟨rfl, willing⟩) fun a =>
    .given fun same => ?_
  subst same
  refine .bind (adopt_willing normal) fun action => .bind (Willing.persist (Nat.le_succ 1)) fun _ =>
    .bind (Willing.record free observation (Nat.le_refl 2) (fun _ => Nat.le_refl 2) clock fun zero => by cases zero)
      fun _ => .get_bind fun w willing =>
      .bind ((Willing.record free plan (Nat.le_refl 3) (fun _ => Nat.le_succ 2) clock fun zero => by cases zero).mono
        (fun t same => same ▸ willing) (fun _ _ => id) fun _ => id) fun _ => .pure fun _ => id

theorem evaluate_unused {o : GovernedOrganism} (unused : o.Unused) {args : GovernedOrganism.EvaluateArgs}
    (named : args.eventId ≠ "") (unasked : args.human = none) (ontology : args.ontologyOk = true)
    (signature : args.signatureValid = true) (transition : args.transitionValid = true) :
    ∃ result o', o.evaluate host args = .ok (result, o') ∧ result.decision = .pass := by
  obtain ⟨unconstrained, unevaluated⟩ := unused
  have done := @GovernedOrganism.evaluate_record host o args none named (by simp [unevaluated])
    (by simp [unconstrained, GovernedOrganism.firstMatch])
  refine ⟨_, _, done, ?_⟩
  show (GovernedOrganism.gateDecision host none args.proposalJson args.humanJson args).1 = .pass
  simp [GovernedOrganism.gateDecision, GovernedOrganism.EvaluateArgs.humanJson, omegaGate, evaluateHdb, unasked,
    ontology, signature, transition]

variable (stimulus) in
/-- What the organism asks of a proposal apart from its constraints. -/
structure Admissible : Prop where
  unasked : stimulus.human = none
  ontology : stimulus.ontologyOk = true
  signature : stimulus.signatureValid = true
  transition : stimulus.transitionValid = true

theorem decideOn_willing (free : host.CollisionFree) (admissible : Admissible stimulus) (clock : String → TimeNs)
    (plan : String) (proposal : Mapping) :
    Ensures (Willing host before GovernedOrganism.Unused c 4) (decideOn host stimulus clock (c.id host) plan proposal)
      (fun decided w => decided.1 = .pass ∧ before.moments.length ≤ w.moments.length) fun _ => False := by
  have decision : ((4, ":decision", "DECISION") : Nat × String × String) ∈ places := by simp [places, writes]
  refine .get_bind fun w willing => .ite (fun safe => by cases willing.calm.symm.trans safe) fun _ => ?_
  have named : c.id host ++ ":organism-evaluation" ≠ "" := by
    intro empty
    have lists := congrArg String.toList empty
    rw [String.toList_append] at lists
    cases (List.append_eq_nil_iff.mp lists).2
  obtain ⟨result, o, done, passed⟩ := @evaluate_unused host _ willing.organism
    ⟨c.id host ++ ":organism-evaluation", (jsonClone (.dict proposal)).entries, stimulus.human, stimulus.ontologyOk,
      stimulus.signatureValid, stimulus.transitionValid⟩ named admissible.unasked admissible.ontology
      admissible.signature
    admissible.transition
  have same := GovernedOrganism.evaluate_identity done
  refine .bind (q := fun r t => r = result ∧ Willing host before (fun _ => True) c 4 t) (fun t again => ?_) fun r =>
    .given fun again => ?_
  · subst again
    simp only [evaluate, done]
    exact ⟨trivial, willing.counting.congr rfl same rfl, willing.alive, willing.calm, trivial, willing.later⟩
  · subst again
    refine .bind (q := fun _ => Willing host before (fun _ => True) c 4) (.modify fun t willing => ?_) fun _ =>
      .bind (Willing.record free decision (Nat.le_refl 4) (fun _ => by decide) clock fun zero => by cases zero)
        fun event => .pure fun t willing =>
        ⟨passed, willing.later⟩
    exact ⟨willing.counting.congr rfl rfl rfl, willing.alive, willing.calm, trivial,
      Nat.le_trans willing.later (by simp [World.noted])⟩

theorem durably_moments {α : Type} (moments : List Moment) (write : Journal → Except JournalError α × Journal) :
    Keeps (fun w => w.moments = moments) (durably write) :=
  durably_ensures (fun _ same _ => same) fun _ same _ => ⟨fun _ _ => same, fun _ _ => same⟩

theorem record_moments (moments : List Moment) (clock : String → TimeNs) (cycleId label eventType : String)
    (payload : Mapping) (causation : Option String) :
    Keeps (fun w => w.moments = moments) (record host clock cycleId label eventType payload causation) :=
  .bind (durably_moments moments _) fun _ => .pure fun _ => id

theorem execute_moments {effector : Effector} {executor : Json → ExecutorOutcome}
    (armed : effector.executor = some executor) (moments : List Moment) (cycleId decision : String) (proposal : Json) :
    Ensures (fun w => w.moments = moments) (execute host effector cycleId decision proposal)
      (fun _ w => w.moments = moments ++ [.executed proposal]) fun w => w.moments = moments ++
      [.executed proposal] := by
  unfold execute
  rw [armed]
  refine .bind (q := fun _ w => w.moments = moments ++ [.executed proposal])
    (.modify fun w same => by rw [World.noted, same])
    fun _ => .bind (q := fun _ w => w.moments = moments ++ [.executed proposal]) ?_ fun ⟨executed, effect⟩ =>
      .bind (record_moments _ _ _ _ _ _ _) fun execution => ?_
  · cases effectPayload (executor proposal) with
    | ok answer => exact .pure fun _ => id
    | error e => exact .throw fun _ => id
  · cases effect with
    | none => exact .throw fun _ => id
    | some payload => exact .bind (record_moments _ _ _ _ _ _ _) fun _ => .pure fun _ => id

theorem remember_moments (moments : List Moment) (clock : String → TimeNs) (cycleSeq : Nat) (cycleId plan : String)
    (health : HealthState) (action : RecoveryAction) (decision : Option Decision) (execution : Option (Bool × String)) :
    Keeps (fun w => w.moments = moments) (remember host clock cycleSeq cycleId plan health action decision execution) :=
  .bind (q := fun _ (w : World) => w.moments = moments) (fun _ same => same) fun _ => .get_bind fun _ same =>
    .bind ((record_moments moments _ _ _ _ _ _).mono (fun _ again => again ▸ same) (fun _ _ => id) fun _ => id) fun _ =>
      .bind (.get_bind fun _ same => (durably_moments moments _).mono (fun _ again => again ▸ same)
        (fun _ _ => id) fun _ => id)
        fun _ => .pure fun _ => id

/-- From an engine whose records go through, an admissible proposal of a normal tick gets to
the executor, whatever comes of it. -/
theorem tick_executes (free : host.CollisionFree) (admissible : Admissible stimulus)
    (assessed : assess policy stimulus.sample stimulus.journalOk = .ok assessment) (normal : assessment.state = .normal)
    {given : Mapping} (proposed : stimulus.proposal = some given) {effector : Effector}
    {executor : Json → ExecutorOutcome} (armed : effector.executor = some executor) (counted : Counted host before)
    (alive : before.fuse = none) (calm : before.runtime.safeMode = false) (unused : before.organism.Unused) :
    Ensures (· = before) (tick host policy stimulus effector)
      (fun _ w => .executed (jsonClone (.dict given)) ∈ w.moments.drop before.moments.length)
      fun w => .executed (jsonClone (.dict given)) ∈ w.moments.drop before.moments.length := by
  have asked {w : World} (later : before.moments.length ≤ w.moments.length) {v : World}
      (moments : v.moments = w.moments ++ [.executed (jsonClone (.dict given))]) :
      .executed (jsonClone (.dict given)) ∈ v.moments.drop before.moments.length := by
    rw [moments, List.drop_append_of_le_length later]
    simp
  refine .bind (q := fun opened w => (∃ event, opened.2.2.2.2.2 = some (.pass, event, jsonClone (.dict given))) ∧
    before.moments.length ≤ w.moments.length) ?_ fun ⟨cycleSeq, cycleId, health, action, plan, decided⟩ => .given ?_
  · refine .mono (.bind (openCycle_willing free effector.clock counted alive calm unused)
      fun ⟨cycleSeq, cycleId, tick⟩ => .given fun named => ?_) (fun _ => id) (fun _ _ => id) fun _ => False.elim
    subst named
    refine .bind (sense_willing free assessed normal effector.clock tick) fun ⟨health, action, plan⟩ => ?_
    rw [proposed]
    refine .bind (decideOn_willing free admissible effector.clock plan given) fun ⟨decision, event⟩ =>
      .pure fun w ⟨passed, later⟩ => ⟨⟨event, ?_⟩, later⟩
    rw [show decision = .pass from passed]
  · rintro ⟨event, rfl⟩
    intro w later
    refine Ensures.bind (q := fun _ v => v.moments = w.moments ++ [.executed (jsonClone (.dict given))])
      ((execute_moments armed w.moments cycleId event _).mono (fun _ => id) (fun _ _ => id) fun _ => asked later)
        (fun execution =>
        (remember_moments _ _ _ _ _ _ _ _ _).mono (fun _ => id) (fun _ _ => asked later) fun _ => asked later) w rfl
theorem recordEffectFeedback_moments {upper : String → String} {feedbackPolicy : EffectFeedbackPolicy upper}
    {secret : String} {input : LoopInput} (moments : List Moment) (cycle : CycleResult) (attempt : Bool)
    (outcome : Option ExecutorOutcome) : Keeps (fun v : Loop => v.world.moments = moments)
      (recordEffectFeedback host policy feedbackPolicy secret input cycle attempt outcome) := by
  refine .get_bind fun l same => .modify_bind fun t again => ?_
  subst again
  refine .bind (q := fun _ (v : Loop) => v.world.moments = moments) (.get_bind fun v stored => ?_) fun _ =>
    .bind (inner_world (record_moments moments _ _ _ _ _ _)) fun _ => .pure fun _ => id
  exact (inner_world (durably_moments moments _)).mono (fun u last => by rw [last, stored]; exact same)
    (fun _ _ => id) fun _ => id

/-- The same of a tick of the loop that no recovery holds back. -/
theorem loopTick_executes (free : host.CollisionFree) {upper : String → String}
    (feedbackPolicy : EffectFeedbackPolicy upper) (secret : String) {input : LoopInput}
    (admissible : Admissible input.stimulus)
    (assessed : assess policy input.stimulus.sample input.stimulus.journalOk = .ok assessment)
    (normal : assessment.state = .normal) {given : Mapping} (proposed : input.stimulus.proposal = some given)
    {executor : Json → ExecutorOutcome} (armed : input.effector.executor = some executor) {l : Loop}
    (counted : Counted host l.world) (alive : l.world.fuse = none) (calm : l.world.runtime.safeMode = false)
    (unused : l.world.organism.Unused) (closed : l.feedback.recoveryForCycleId = none) :
    .executed (jsonClone (.dict given)) ∈
      (afterwards (loopTick host policy feedbackPolicy secret input) l).world.moments.drop l.world.moments.length := by
  suffices done : Ensures (· = l) (loopTick host policy feedbackPolicy secret input)
      (fun _ v => .executed (jsonClone (.dict given)) ∈ v.world.moments.drop l.world.moments.length)
      fun v => .executed (jsonClone (.dict given)) ∈ v.world.moments.drop l.world.moments.length from done.final rfl
  refine .get_bind fun v same => ?_
  subst same
  have passed : recoveryGate v.feedback (input.stimulus.proposal.map fun proposal => jsonClone (.dict proposal)) =
      none := by
    simp [recoveryGate, closed]
  dsimp only
  rw [passed]
  have ticked :=
    @tick_executes host v.world policy { input.stimulus with proposal := some (jsonClone (.dict given)).entries } _ free
    ⟨admissible.unasked, admissible.ontology, admissible.signature, admissible.transition⟩ assessed normal _ rfl
      input.effector.wrapped _
    (show input.effector.wrapped.executor = some (executeAndCapture executor) by simp [Effector.wrapped, armed]) counted
      alive
    calm unused
  rw [clone_entries] at ticked
  have given' : (input.stimulus.proposal.map fun proposal => jsonClone (.dict proposal)).map Json.entries =
      some (jsonClone (.dict given)).entries := by rw [proposed]; rfl
  rw [given']
  refine .bind (inner_world ticked |>.mono (fun u same => congrArg Loop.world same) (fun _ _ => id) fun _ => id)
    fun cycle => ?_
  intro u executed
  refine Ensures.ite (fun pass => ?_) (fun _ => .pure fun t same => same ▸ executed) u rfl
  refine .mono (q := fun _ t => t.world.moments = u.world.moments) (r := fun t => t.world.moments = u.world.moments)
    (.get_bind fun t same => .bind ?_ fun answer => .get_bind fun s kept => .pure fun r last => last ▸ kept)
    (fun _ => id) (fun _ _ kept => kept ▸ executed) fun _ kept => kept ▸ executed
  exact (recordEffectFeedback_moments u.world.moments cycle _ _).mono (fun r again => by rw [again, same])
    (fun _ _ => id)
    fun _ => id

end

end

end MatVerse.Physiology
