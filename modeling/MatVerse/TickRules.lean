import MatVerse.OrganismProvenance
import MatVerse.PhysiologyEngine

/-! What a tick can do, said once: the writes of its cycle in their order, and where it
may stop. A property of engines that obeys these rules holds after every tick. -/
namespace MatVerse.Physiology

/-- What a cycle is named after. -/
structure Cycle where
  organismId : String
  seq : Nat
  root : String

def Cycle.core (c : Cycle) : Json :=
  .dict [("schema", .str schemaVersion), ("organism_id", .str c.organismId), ("cycle_seq", .int c.seq),
    ("previous_state_root", .str c.root)]

def Cycle.id (host : Host) (c : Cycle) : String := stableHash host c.core

/-- The payload of its TICK event. -/
def Cycle.opening (host : Host) (c : Cycle) : Mapping := [("cycle_id", .str (c.id host)), ("cycle_seq", .int c.seq)]

/-- The events of a cycle with their places among its writes; the runtime state is saved
at the places 1 and 8. -/
def writes : List (Nat × String × String) :=
  [(0, ":tick", "TICK"), (2, ":observation", "OBSERVATION"), (3, ":plan", "RECOVERY_PLAN"),
    (4, ":decision", "DECISION"),
    (5, ":execution", "EXECUTION"), (6, ":effect", "EFFECT"), (7, ":memory", "MEMORY_COMMIT")]

def World.cycle (host : Host) (w : World) : Cycle :=
  ⟨w.organism.identity.organismId, w.runtime.cycleSeq + 1, (w.organism.stateRoot host).1⟩

def World.opened (host : Host) (w : World) : World :=
  { w with
    organism := (w.organism.stateRoot host).2
    runtime := { w.runtime with cycleSeq := w.runtime.cycleSeq + 1 } }

def World.adopted (policy : HomeostaticPolicy) (w : World) (health : HealthState) : World :=
  ({ w with runtime := (planRecovery policy w.runtime health).2 }.noted (.assessed health)).noted
    (.planned (planRecovery policy w.runtime health).2.safeMode)

def World.wrote (w : World) (journal : Journal) : World := { w with journal := journal, fuse := w.fuse.map (· - 1) }

section
variable (host : Host)

/-- The receipt in a payload is that of a decision in safe mode, if there is one. -/
def Receipted (payload : Mapping) : Prop :=
  Dict.get? "receipt" (Dict.ofPairs payload) = none ∨ ∃ inputs outputs, Dict.get? "receipt" (Dict.ofPairs payload) =
    some (evidenceReceipt host "PHYSIOLOGY_SAFE_MODE_DECISION" inputs outputs).toJson

/-- The write at place `i` may come next: all but the TICK event are behind the first save. -/
structure Due (c : Cycle) (k i : Nat) (payload : Mapping) (causation : Option String) : Prop where
  later : k ≤ i
  saved : 2 ≤ i → 2 ≤ k
  opening : i = 0 → payload = c.opening host ∧ causation = none
  receipted : Receipted host payload

/-- The answer of an executor lets the tick go on. -/
def Recordable (outcome : ExecutorOutcome) : Prop :=
  ∃ executed payload, effectPayload outcome = .ok (executed, some payload)

/-- The rules for a property of engines in a tick: `At cycle ran place` before the write at
that place, when the executor has got the proposal `ran` or none, `Fail` where the tick raises. -/
structure TickRules (policy : HomeostaticPolicy) (stimulus : Stimulus) (effector : Effector) (Ready : World → Prop)
    (At : Cycle → Option Json → Nat → World → Prop) (Fail : World → Prop) : Prop where
  opened : ∀ {w}, Ready w → At (w.cycle host) none 0 (w.opened host)
  adopted : ∀ {c w} health, At c none 1 w → At c none 1 (w.adopted policy health)
  organism : ∀ {c ran k w o}, At c ran k w → o.identity = w.organism.identity → At c ran k { w with organism := o }
  decided : ∀ {c k w} decision, At c none k w → At c none k (w.noted (.decided decision))
  executed : ∀ {c w given executor}, At c none 5 w → stimulus.proposal = some given →
    effector.executor = some executor →
    At c (some (jsonClone (.dict given))) 5 (w.noted (.executed (jsonClone (.dict given))))
  /-- The journal takes the event or refuses it. -/
  recorded : ∀ {c ran k w i label eventType payload} causation time, At c ran k w → Due host c k i payload causation →
    (i, label, eventType) ∈ writes → w.fuse ≠ some 0 →
    let answer := append host w.journal ((recordCall (c.id host) label eventType payload causation).timed time)
    (∀ event, answer.1 = .ok event → At c ran (i + 1) (w.wrote answer.2)) ∧
      ∀ e, answer.1 = .error e → Fail (w.wrote answer.2)
  saved : ∀ {c ran k w i}, At c ran k w → k ≤ i → i = 1 ∨ i = 8 → w.fuse ≠ some 0 →
    At c ran (i + 1) (w.wrote (setState w.journal (stateKey w.organism) w.runtime.toJson).2)
  crashed : ∀ {c ran k w}, At c ran k w → w.fuse = some 0 → Fail w
  /-- Before anything was executed the assessment and the organism may raise. -/
  early : ∀ {c k w}, At c none k w → k ≤ 5 → Fail w
  answered : ∀ {c p k w}, At c (some p) k w →
    (∀ executor, effector.executor = some executor → ¬Recordable (executor p)) → Fail w

end

/-- A durable write happens unless the process ends first. -/
theorem durably_ensures {α : Type} {pre : World → Prop} {post : α → World → Prop} {fails : World → Prop}
    {write : Journal → Except JournalError α × Journal} (crashed : ∀ w, pre w → w.fuse = some 0 → fails w)
    (written : ∀ w, pre w → w.fuse ≠ some 0 →
      (∀ a, (write w.journal).1 = .ok a → post a (w.wrote (write w.journal).2)) ∧
      ∀ e, (write w.journal).1 = .error e → fails (w.wrote (write w.journal).2)) :
    Ensures pre (durably write) post fails := by
  rintro ⟨journal, organism, runtime, moments, fuse⟩ holds
  have answers (fuse : Option Nat) (burning : fuse ≠ some 0) (holds : pre ⟨journal, organism, runtime, moments, fuse⟩) :
      Ensures (· = ⟨(write journal).2, organism, runtime, moments, fuse.map (· - 1)⟩) (answered · (write journal).1)
        post fails := by
    rintro w rfl
    obtain ⟨ok, error⟩ := written _ holds burning
    cases done : (write journal).1 with
    | ok a => exact ok a done
    | error e => exact error e done
  match fuse with
  | none => exact answers none (by simp) holds _ rfl
  | some 0 => exact crashed _ holds rfl
  | some (n + 1) => exact answers (some (n + 1)) (by simp) holds _ rfl

theorem stateKey_nonempty (o : GovernedOrganism) : validateLabel (stateKey o) "key" = .ok () := by
  refine validateLabel_ok.mpr (Text.strip_ne_empty (c := 'p') ?_ (by decide))
  simp [stateKey]

theorem Due.behind {host : Host} {c : Cycle} {k i : Nat} {payload : Mapping} (causation : Option String) (later : k ≤ i)
    (saved : 2 ≤ k) (receipted : Receipted host payload) : Due host c k i payload causation :=
  ⟨later, fun _ => saved, fun first => by omega, receipted⟩

section
variable {host : Host} {policy : HomeostaticPolicy} {stimulus : Stimulus} {effector : Effector} {Ready : World → Prop}
  {At : Cycle → Option Json → Nat → World → Prop} {Fail : World → Prop}

namespace TickRules

theorem and {Ready' : World → Prop} {At' : Cycle → Option Json → Nat → World → Prop} {Fail' : World → Prop}
    (rules : TickRules host policy stimulus effector Ready At Fail)
    (rules' : TickRules host policy stimulus effector Ready' At' Fail') :
    TickRules host policy stimulus effector (fun w => Ready w ∧ Ready' w) (fun c ran k w => At c ran k w ∧
      At' c ran k w) (fun w => Fail w ∧ Fail' w) where
  opened := fun ⟨ready, ready'⟩ => ⟨rules.opened ready, rules'.opened ready'⟩
  adopted := fun health ⟨holds, holds'⟩ => ⟨rules.adopted health holds, rules'.adopted health holds'⟩
  organism := fun ⟨holds, holds'⟩ same => ⟨rules.organism holds same, rules'.organism holds' same⟩
  decided := fun decision ⟨holds, holds'⟩ => ⟨rules.decided decision holds, rules'.decided decision holds'⟩
  executed := fun ⟨holds, holds'⟩ proposed armed => ⟨rules.executed holds proposed armed,
    rules'.executed holds' proposed armed⟩
  recorded := fun causation time ⟨holds, holds'⟩ due member burning =>
    ⟨fun event done => ⟨(rules.recorded causation time holds due member burning).1 event done,
      (rules'.recorded causation time holds' due member burning).1 event done⟩,
    fun e failed => ⟨(rules.recorded causation time holds due member burning).2 e failed,
      (rules'.recorded causation time holds' due member burning).2 e failed⟩⟩
  saved := fun ⟨holds, holds'⟩ later place burning =>
    ⟨rules.saved holds later place burning, rules'.saved holds' later place burning⟩
  crashed := fun ⟨holds, holds'⟩ burnt => ⟨rules.crashed holds burnt, rules'.crashed holds' burnt⟩
  early := fun ⟨holds, holds'⟩ before => ⟨rules.early holds before, rules'.early holds' before⟩
  answered := fun ⟨holds, holds'⟩ unfit => ⟨rules.answered holds unfit, rules'.answered holds' unfit⟩

section
variable (rules : TickRules host policy stimulus effector Ready At Fail) {c : Cycle} {ran : Option Json} {k : Nat}

include rules

theorem record {i : Nat} {label eventType : String} {payload : Mapping} (clock : String → TimeNs)
    (causation : Option String) (due : Due host c k i payload causation) (member : (i, label, eventType) ∈ writes) :
    Ensures (At c ran k) (Physiology.record host clock (c.id host) label eventType payload causation)
      (fun _ => At c ran (i + 1)) Fail := by
  refine .bind (q := fun _ => At c ran (i + 1)) (durably_ensures (fun w holds => rules.crashed holds)
    fun w holds burning => ?_) fun _ => .pure fun _ => id
  exact rules.recorded causation (clock label) holds due member burning

theorem persist {i : Nat} (later : k ≤ i) (place : i = 1 ∨ i = 8) :
    Ensures (At c ran k) persistRuntimeState (fun _ => At c ran (i + 1)) Fail := by
  refine .get_bind fun w holds => .mono (p := (· = w)) (q := fun _ => At c ran (i + 1)) (durably_ensures
    (fun t same burnt => rules.crashed (same ▸ holds) burnt) fun t same burning => ?_) (fun _ => id)
    (fun _ _ => id) fun _ => id
  subst same
  refine ⟨fun _ _ => rules.saved holds later place burning, fun e failed => ?_⟩
  simp [setState, stateKey_nonempty] at failed

theorem root : Ensures (At c ran k) (stateRoot host) (fun _ => At c ran k) Fail :=
  fun _ holds => rules.organism holds (GovernedOrganism.stateRoot_identity _)

theorem openCycle (clock : String → TimeNs) : Ensures Ready (openCycle host clock)
    (fun opened w => ∃ c, opened.1 = c.seq ∧ opened.2.1 = c.id host ∧ At c none 1 w) Fail := by
  refine .bind (q := fun _ t => ∃ w, Ready w ∧
    t = { w with runtime := { w.runtime with cycleSeq := w.runtime.cycleSeq + 1 } })
    (.modify fun w ready => ⟨w, ready, rfl⟩) fun _ => .get_bind fun t ⟨w, ready, same⟩ => ?_
  subst same
  refine .bind (q := fun root t => root = (w.organism.stateRoot host).1 ∧ t = w.opened host)
    (fun t same => same ▸ ⟨rfl, rfl⟩) fun root => .given fun named => ?_
  subst named
  have written : Ensures (At (w.cycle host) none 0)
      (Physiology.record host clock ((w.cycle host).id host) ":tick" "TICK"
        [("cycle_id", .str ((w.cycle host).id host)), ("cycle_seq", .int (w.runtime.cycleSeq + 1))] none)
      (fun _ => At (w.cycle host) none 1) Fail :=
    rules.record clock none ⟨Nat.le_refl 0, nofun, fun _ => ⟨rfl, rfl⟩, .inl (by simp)⟩ (by simp [writes])
  exact .bind (written.mono (fun t same => same ▸ rules.opened ready) (fun _ _ => id) fun _ => id)
    fun _ => .pure fun t kept => ⟨w.cycle host, rfl, rfl, kept⟩

theorem adopt (health : HealthState) :
    Ensures (At c none 1) (Physiology.adopt policy health) (fun _ => At c none 1) Fail :=
  fun _ holds => rules.adopted health holds

theorem lifted {α : Type} (answer : Except EngineError α) (early : k ≤ 5) :
    Ensures (At c none k) (Physiology.lifted answer) (fun a w => answer = .ok a ∧ At c none k w) Fail := by
  cases answer with
  | ok a => exact .pure fun _ holds => ⟨rfl, holds⟩
  | error e => exact .throw fun _ holds => rules.early holds early

theorem sense (clock : String → TimeNs) (tick : String) :
    Ensures (At c none 1) (Physiology.sense host policy stimulus clock (c.id host) tick)
    (fun _ => At c none 4) Fail := by
  refine .bind (rules.lifted _ (by decide)) fun assessment => .given fun _ => .bind (rules.adopt _) fun action =>
    .bind (rules.persist (Nat.le_refl 1) (.inl rfl)) fun _ =>
      .bind (rules.record clock _ (.behind _ (Nat.le_refl 2) (by decide) (.inl (by simp))) (by simp [writes]))
        fun observation =>
        .get_bind fun w holds => .bind
          ((rules.record clock _ (.behind _ (Nat.le_refl 3) (by decide) (.inl (by simp))) (by simp [writes])).mono
          (fun t same => same ▸ holds) (fun _ _ => id) fun _ => id) fun _ => .pure fun _ => id

theorem decideOn (clock : String → TimeNs) (plan : String) (proposal : Mapping) :
    Ensures (At c none 4) (Physiology.decideOn host stimulus clock (c.id host) plan proposal)
    (fun _ => At c none 5) Fail := by
  refine .get_bind fun w holds => .ite (fun _ => ?_) fun _ => ?_
  · exact .bind (q := fun _ => At c none 4) (.modify fun t same => same ▸ rules.decided .hold holds) fun _ =>
      .bind (rules.record clock _ (.behind _ (Nat.le_refl 4) (by decide) (.inr ⟨_, _, by simp; rfl⟩))
        (by simp [writes])) fun _ => .pure fun _ => id
  · refine .bind (q := fun _ => At c none 4) (fun t same => ?_) fun result =>
      .bind (q := fun _ => At c none 4) (.modify fun t holds => rules.decided result.decision holds) fun _ =>
        .bind (rules.record clock _ (.behind _ (Nat.le_refl 4) (by decide) (.inl (by simp))) (by simp [writes]))
          fun _ => .pure fun _ => id
    subst same
    unfold evaluate
    cases done : t.organism.evaluate host _ with
    | ok result => exact rules.organism holds (GovernedOrganism.evaluate_identity done)
    | error e => exact rules.early holds (by decide)

/-- Once a proposal was handed to the executor, an answer that cannot be recorded raises. -/
theorem execute {given : Mapping} (proposed : stimulus.proposal = some given) (decision : String) :
    Ensures (At c none 5) (Physiology.execute host effector (c.id host) decision (jsonClone (.dict given)))
      (fun _ w => (∃ executor, effector.executor = some executor ∧ Recordable (executor (jsonClone (.dict given)))) ∧
        At c (some (jsonClone (.dict given))) 7 w) Fail := by
  unfold Physiology.execute
  cases executing : effector.executor with
  | none => exact .throw fun _ holds => rules.early holds (Nat.le_refl 5)
  | some executor =>
    refine .bind (q := fun _ => At c (some (jsonClone (.dict given))) 5)
      (.modify fun w holds => rules.executed holds proposed executing) fun _ => ?_
    have refused (unfit : ¬Recordable (executor (jsonClone (.dict given)))) {k : Nat} {w : World}
        (holds : At c (some (jsonClone (.dict given))) k w) : Fail w :=
      rules.answered holds fun other same => Option.some.inj (executing.symm.trans same) ▸ unfit
    refine .bind (q := fun answer w => effectPayload (executor (jsonClone (.dict given))) = .ok answer ∧
      At c (some (jsonClone (.dict given))) 5 w) ?_ fun ⟨executed, effect⟩ => .given fun answered =>
        .bind (rules.record effector.clock _ (.behind _ (Nat.le_refl 5) (by decide) (.inl (by simp)))
          (by simp [writes])) fun execution => ?_
    · cases answered : effectPayload (executor (jsonClone (.dict given))) with
      | ok answer => exact .pure fun _ holds => ⟨rfl, holds⟩
      | error e =>
        refine .throw fun _ holds => refused ?_ holds
        rintro ⟨executed, payload, same⟩
        cases answered.symm.trans same
    · cases effect with
      | none =>
        refine .throw fun _ holds => refused ?_ holds
        rintro ⟨other, payload, same⟩
        cases answered.symm.trans same
      | some payload =>
        refine .bind (rules.record effector.clock _ (.behind _ (Nat.le_refl 6) (by decide) (.inl ?_))
          (by simp [writes])) fun _ =>
          .pure fun _ holds => ⟨⟨executor, rfl, executed, payload, answered⟩, holds⟩
        unfold effectPayload at answered
        split at answered
        · cases answered
          simp
        · cases answered
          simp
        · cases answered
        · split at answered <;> cases answered

theorem remember (clock : String → TimeNs) (cycleSeq : Nat) (plan : String) (health : HealthState)
    (action : RecoveryAction) (decision : Option Decision) (execution : Option (Bool × String)) (later : k ≤ 7)
    (saved : 2 ≤ k) :
    Ensures (At c ran k) (Physiology.remember host clock cycleSeq (c.id host) plan health action decision execution)
      (fun r w => (r.cycleId = c.id host ∧ r.cycleSeq = cycleSeq ∧ r.decision = decision) ∧ At c ran 9 w) Fail := by
  refine .bind rules.root fun root => .get_bind fun w holds =>
    .bind ((rules.record clock _ (.behind _ later saved (.inl ?_)) (by simp [writes])).mono (fun t same => same ▸ holds)
      (fun _ _ => id)
      fun _ => id) fun _ => .bind (rules.persist (Nat.le_refl 8) (.inr rfl)) fun _ => .pure fun t kept =>
      ⟨⟨rfl, rfl, rfl⟩, kept⟩
  simp [cycleCore]

/-- The cycle, and the place after the decision, if there was one. -/
theorem deliberate (clock : String → TimeNs) : Ensures Ready (Physiology.deliberate host policy stimulus clock)
    (fun opened w => ∃ c, opened.1 = c.seq ∧ opened.2.1 = c.id host ∧
      match opened.2.2.2.2.2 with
      | none => At c none 4 w
      | some (_, _, proposal) =>
        (∃ given, stimulus.proposal = some given ∧ proposal = jsonClone (.dict given)) ∧ At c none 5 w) Fail := by
  refine .bind (rules.openCycle clock) fun ⟨cycleSeq, cycleId, tick⟩ => ?_
  intro w ⟨c, seq, id, holds⟩
  obtain rfl : cycleSeq = c.seq := seq
  obtain rfl : cycleId = c.id host := id
  refine Ensures.bind (rules.sense clock tick) (fun ⟨health, action, plan⟩ => ?_) w holds
  cases proposed : stimulus.proposal with
  | none => exact .pure fun t kept => ⟨c, rfl, rfl, kept⟩
  | some proposal =>
    exact .bind (rules.decideOn clock plan proposal) fun ⟨decision, event⟩ => .pure fun t kept =>
      ⟨c, rfl, rfl, ⟨proposal, rfl, rfl⟩, kept⟩

/-- After every tick: the place behind the last write, with what was executed. -/
theorem tick : Ensures Ready (Physiology.tick host policy stimulus effector)
    (fun r w => ∃ c ran, r.cycleId = c.id host ∧ r.cycleSeq = c.seq ∧ (r.decision = some .pass ↔ ran.isSome = true) ∧
      (∀ p, ran = some p → ∃ executor, effector.executor = some executor ∧ Recordable (executor p)) ∧
      At c ran 9 w) Fail := by
  refine .bind (rules.deliberate effector.clock) fun ⟨cycleSeq, cycleId, health, action, plan, decided⟩ => ?_
  intro w ⟨c, seq, id, holds⟩
  obtain rfl : cycleSeq = c.seq := seq
  obtain rfl : cycleId = c.id host := id
  have last {ran : Option Json} {k : Nat} (later : k ≤ 7) (saved : 2 ≤ k) (decision : Option Decision)
      (execution : Option (Bool × String)) (passed : decision = some .pass ↔ ran.isSome = true)
      (answered : ∀ p, ran = some p → ∃ executor, effector.executor = some executor ∧ Recordable (executor p)) :
      Ensures (At c ran k)
        (Physiology.remember host effector.clock c.seq (c.id host) plan health action decision execution)
        (fun r w => ∃ c ran, r.cycleId = c.id host ∧ r.cycleSeq = c.seq ∧ (r.decision = some .pass ↔
          ran.isSome = true) ∧
          (∀ p, ran = some p → ∃ executor, effector.executor = some executor ∧ Recordable (executor p)) ∧
          At c ran 9 w) Fail :=
    (rules.remember effector.clock c.seq plan health action decision execution later saved).mono (fun _ => id)
      (fun r t ⟨⟨id, seq, same⟩, kept⟩ => ⟨c, ran, id, seq, same ▸ passed, answered, kept⟩) fun _ => id
  cases decided with
  | none => exact @last none 4 (by decide) (by decide) none none (by simp) nofun w holds
  | some decided =>
    obtain ⟨decision, event, proposal⟩ := decided
    obtain ⟨⟨given, proposed, rfl⟩, holds⟩ := holds
    refine Ensures.ite (fun pass => ?_) (fun other => ?_) w holds
    · refine .bind (rules.execute proposed event) fun execution => .given fun answered =>
        last (by decide : 7 ≤ 7) (by decide) _ _ (by simp [pass]) fun p same => ?_
      exact Option.some.inj same ▸ answered
    · exact @last none 5 (by decide) (by decide) _ _ (by simp [other]) nofun

end

end TickRules

end

end MatVerse.Physiology
