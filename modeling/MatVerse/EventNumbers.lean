import MatVerse.CycleSealing
import MatVerse.RecoveryGate

/-! The numbers of the events: the stored cycle number bounds what cycles have written, so
that every event of the next one is new, whatever has crashed or raised before. -/
namespace MatVerse.Physiology

open Fallible

/-! ## Ids -/

/-- The events of a cycle in the loop, with their places. -/
def places : List (Nat × String × String) :=
  writes ++ [(9, ":effect-recovery-gate", "EFFECT_RECOVERY_GATE"), (10, ":effect-feedback", "EFFECT_FEEDBACK")]

theorem places_label {place place' : Nat × String × String} (member : place ∈ places) (member' : place' ∈ places)
    (same : place.2.1 = place'.2.1) : place = place' := by
  have apart : ∀ a ∈ places, ∀ b ∈ places, a.2.1 = b.2.1 → a = b := by decide
  exact apart place member place' member' same

theorem places_text {place : Nat × String × String} (member : place ∈ places) :
    place.2.1.toList.head? = some ':' ∧ (∃ last, place.2.1.toList.getLast? = some last ∧ Text.isSpace last = false) ∧
      Text.strip place.2.2 = place.2.2 ∧ place.2.2 ≠ "" := by
  simp only [places, writes, List.cons_append, List.nil_append, List.mem_cons, List.not_mem_nil, or_false] at member
  rcases member with rfl | rfl | rfl | rfl | rfl | rfl | rfl | rfl | rfl
  all_goals exact ⟨rfl, ⟨_, rfl, rfl⟩, by decide, by decide⟩

section
variable {host : Host} {c d : Cycle}

theorem Cycle.digits (host : Host) (c : Cycle) : Hex.Digits (c.id host) := host.sha256Digits _

theorem Cycle.id_injective (free : host.CollisionFree) (same : c.id host = d.id host) : c = d := by
  have cores : c.core.norm = d.core.norm := stableHash_injective free same
  have organism := congrArg (Json.get? "organism_id") cores
  have seq := congrArg (Json.get? "cycle_seq") cores
  have root := congrArg (Json.get? "previous_state_root") cores
  simp [Cycle.core] at organism seq root
  cases c
  cases d
  simp_all

theorem Cycle.event_injective (free : host.CollisionFree) {place place' : Nat × String × String}
    (member : place ∈ places) (member' : place' ∈ places) (same : c.id host ++ place.2.1 = d.id host ++ place'.2.1) :
    c = d ∧ place = place' := by
  obtain ⟨ids, labels⟩ := (c.digits host).append_inj (d.digits host) (places_text member).1 (places_text member').1
    ⟨rfl, rfl⟩ same
  exact ⟨Cycle.id_injective free ids, places_label member member' labels⟩

def Cycle.call (host : Host) (c : Cycle) (place : Nat × String × String) (payload : Mapping) (causation : Option String)
    (time : TimeNs) : AppendCall := (recordCall (c.id host) place.2.1 place.2.2 payload causation).timed time

variable (host c) in
theorem Cycle.id_call {place : Nat × String × String} (member : place ∈ places) (payload : Mapping)
    (causation : Option String) (time : TimeNs) : (c.call host place payload causation time).id = c.id host ++
    place.2.1 := by
  obtain ⟨starts, ⟨last, ends, mark⟩, -, -⟩ := places_text member
  exact (c.digits host).strip_append starts ends ⟨rfl, mark⟩

variable (host c) in
theorem Cycle.accepted_call {place : Nat × String × String} (member : place ∈ places) (payload : Mapping)
    (causation : Option String) (time : TimeNs) : Accepted (c.call host place payload causation time) where
  eventId := by
    have named := Cycle.id_call host c member payload causation time
    show AppendCall.id _ ≠ ""
    rw [named]
    intro empty
    have starts := (places_text member).1
    have lists := congrArg String.toList empty
    rw [String.toList_append] at lists
    rw [(List.append_eq_nil_iff.mp lists).2] at starts
    cases starts
  topic := by
    show Text.strip "physiology" ≠ ""
    decide
  eventType := by
    obtain ⟨-, -, type, nonempty⟩ := places_text member
    show Text.strip place.2.2 ≠ ""
    rwa [type]
  created := time.2.1

/-! ## The numbers of a journal -/

/-- The events of cycles are before place `k` of number `s`, the TICK events apart: such an
event may be written again, which changes nothing. -/
structure Numbered (host : Host) (s k : Nat) (t : Tables) : Prop where
  early : ∀ row ∈ t.events, ∀ c : Cycle, ∀ place ∈ places, row.eventId = c.id host ++ place.2.1 →
    place.1 = 0 ∨ c.seq < s ∨ c.seq = s ∧ place.1 < k
  opened : ∀ row ∈ t.events, ∀ c : Cycle, row.eventId = c.id host ++ ":tick" → ∀ time,
    SameContent row (c.call host (0, ":tick", "TICK") (c.opening host) none time)

variable {t : Tables} {s k : Nat}

theorem Numbered.mono (numbered : Numbered host s k t) {s' k' : Nat} (later : s < s' ∨ s = s' ∧ k ≤ k') :
    Numbered host s' k' t := by
  refine ⟨fun row member c place listed named => ?_, numbered.opened⟩
  have before := numbered.early row member c place listed named
  omega

theorem tick_place : ((0, ":tick", "TICK") : Nat × String × String) ∈ places := by simp [places, writes]

/-- A journal with an event more, of a cycle at its place. -/
theorem Numbered.added (numbered : Numbered host s k t) (free : host.CollisionFree) {place : Nat × String × String}
    (member : place ∈ places) {payload : Mapping} {causation : Option String} (time : TimeNs)
    (opening : place.1 = 0 → payload = c.opening host ∧ causation = none)
    (here : place.1 = 0 ∨ c.seq < s ∨ c.seq = s ∧ place.1 < k) :
    Numbered host s k (t.added host (c.call host place payload causation time)) := by
  have named := Cycle.id_call host c member payload causation time
  constructor
  · intro row listed d other placed same
    rcases List.mem_append.mp listed with earlier | last
    · exact numbered.early row earlier d other placed same
    · obtain rfl := List.mem_singleton.mp last
      obtain ⟨rfl, rfl⟩ := Cycle.event_injective free member placed (named.symm.trans same)
      exact here
  · intro row listed d same instant
    rcases List.mem_append.mp listed with earlier | last
    · exact numbered.opened row earlier d same instant
    · obtain rfl := List.mem_singleton.mp last
      obtain ⟨rfl, rfl⟩ := Cycle.event_injective free member tick_place (named.symm.trans same)
      obtain ⟨rfl, rfl⟩ := opening rfl
      exact ⟨rfl, rfl, row_payload host _ _, rfl, rfl⟩

theorem Numbered.new (numbered : Numbered host c.seq k t) {place : Nat × String × String} (member : place ∈ places)
    (positive : place.1 ≠ 0) (later : k ≤ place.1) (payload : Mapping) (causation : Option String) (time : TimeNs) :
    New (.connect t) (c.call host place payload causation time) := by
  intro row listed same
  rw [Cycle.id_call _ _ member] at same
  have before := numbered.early row listed c place member same
  omega

/-- An engine in a cycle, before the write at place `k`: the number is stored from the first save on. -/
structure Counting (host : Host) (c : Cycle) (k : Nat) (w : World) : Prop where
  sound : Sound host w.journal
  current : w.runtime.cycleSeq = c.seq
  stored : ∃ r, start w.journal w.organism = .ok r ∧
    (r.cycleSeq < c.seq ∧ k ≤ 1 ∧ Numbered host (r.cycleSeq + 1) 0 w.journal.durable ∨
      r.cycleSeq = c.seq ∧ Numbered host c.seq k w.journal.durable)

/-- An engine between cycles. -/
structure Counted (host : Host) (w : World) : Prop where
  sound : Sound host w.journal
  stored : ∃ r, start w.journal w.organism = .ok r ∧ r.cycleSeq ≤ w.runtime.cycleSeq ∧
    Numbered host (r.cycleSeq + 1) 0 w.journal.durable

variable {w : World}

theorem Counting.counted (counting : Counting host c k w) : Counted host w := by
  obtain ⟨r, started, ⟨below, -, numbered⟩ | ⟨same, numbered⟩⟩ := counting.stored
  · exact ⟨counting.sound, r, started, by rw [counting.current]; omega, numbered⟩
  · exact ⟨counting.sound, r, started, by rw [counting.current]; omega, numbered.mono (by omega)⟩

theorem Counted.opened (counted : Counted host w) : Counting host (w.cycle host) 0 (w.opened host) := by
  obtain ⟨r, started, below, numbered⟩ := counted.stored
  have same := @GovernedOrganism.stateRoot_identity host w.organism
  refine ⟨counted.sound, rfl, r, ?_, .inl ⟨Nat.lt_succ_of_le below, by omega, numbered⟩⟩
  exact (start_congr counted.sound.idle counted.sound.idle rfl (congrArg _ same)).trans started

theorem Counting.congr (counting : Counting host c k w) {v : World} (journal : v.journal = w.journal)
    (identity : v.organism.identity = w.organism.identity) (runtime : v.runtime.cycleSeq = w.runtime.cycleSeq) :
    Counting host c k v := by
  obtain ⟨r, started, stored⟩ := counting.stored
  refine ⟨journal ▸ counting.sound, runtime.trans counting.current, r, ?_, journal ▸ stored⟩
  rw [journal]
  exact (start_congr counting.sound.idle counting.sound.idle rfl (congrArg _ identity)).trans started

theorem place_zero {place : Nat × String × String} (member : place ∈ places) (zero : place.1 = 0) :
    place = (0, ":tick", "TICK") := by
  have only : ∀ a ∈ places, a.1 = 0 → a = (0, ":tick", "TICK") := by decide
  exact only place member zero

theorem place_one {place : Nat × String × String} (member : place ∈ places) : place.1 ≠ 1 := by
  have none : ∀ a ∈ places, a.1 ≠ 1 := by decide
  exact none place member

/-- The next write of a cycle is taken: its event is new, or the TICK event is written again. -/
theorem Counting.append (counting : Counting host c k w) (free : host.CollisionFree) {place : Nat × String × String}
    (member : place ∈ places) (payload : Mapping) (causation : Option String) (later : k ≤ place.1)
    (saved : 2 ≤ place.1 → 2 ≤ k) (opening : place.1 = 0 → payload = c.opening host ∧ causation = none)
    (time : TimeNs) :
    ∃ event t, append host w.journal (c.call host place payload causation time) = (.ok event, ⟨t, none⟩) ∧
      (t = w.journal.durable.added host (c.call host place payload causation time) ∨ place.1 = 0 ∧
        t = w.journal.durable) ∧
      Counting host c (place.1 + 1) (w.wrote ⟨t, none⟩) := by
  have accepted := Cycle.accepted_call host c member payload causation time
  have range := created_range (recordCall (c.id host) place.2.1 place.2.2 payload causation) time
  obtain ⟨r, started, stored⟩ := counting.stored
  have again {t : Tables} (states : t.runtimeState = w.journal.durable.runtimeState) : start ⟨t, none⟩ w.organism =
      .ok r :=
    (start_congr (j := ⟨t, none⟩) rfl counting.sound.idle states rfl).trans started
  by_cases new : New w.journal (c.call host place payload causation time)
  · refine ⟨_, _, counting.sound.append_new free accepted range new, .inl rfl, counting.sound.added new,
      counting.current, r, again rfl, ?_⟩
    rcases stored with ⟨below, early, numbered⟩ | ⟨same, numbered⟩
    · have zero : place.1 = 0 := by
        have other := place_one member
        omega
      exact .inl ⟨below, by omega, numbered.added free member time opening (.inl zero)⟩
    · exact .inr ⟨same, (numbered.mono (by omega)).added free member time opening
        (.inr (.inr ⟨rfl, Nat.lt_succ_self _⟩))⟩
  · have zero : place.1 = 0 := by
      by_contra positive
      have other := place_one member
      rcases stored with ⟨-, early, -⟩ | ⟨-, numbered⟩
      · omega
      · exact new (numbered.new member positive later payload causation time)
    obtain rfl := place_zero member zero
    obtain ⟨rfl, rfl⟩ := opening rfl
    simp only [New, not_forall, not_not] at new
    obtain ⟨row, listed, named⟩ := new
    have content : SameContent row (c.call host (0, ":tick", "TICK") (c.opening host) none time) := by
      rw [Cycle.id_call _ _ member] at named
      rcases stored with ⟨-, -, numbered⟩ | ⟨-, numbered⟩ <;> exact numbered.opened row listed c named time
    have known := counting.sound.append_known accepted range listed named
    rw [(differs_iff fun _ => content.payload).mpr content] at known
    refine ⟨_, _, known, .inr ⟨rfl, rfl⟩, counting.sound.closed, counting.current, r, again rfl, ?_⟩
    exact stored.imp (fun held => ⟨held.1, Nat.le_refl 1, held.2.2⟩) fun held => ⟨held.1, held.2.mono (by omega)⟩

theorem setState_states {j : Journal} (idle : j.working = none) (key : String) (value : Json) :
    ∃ states, (setState j key value).2 = ⟨{ j.durable with runtimeState := states }, none⟩ := by
  obtain ⟨durable, working⟩ := j
  obtain rfl : working = none := idle
  unfold setState
  split
  · exact ⟨durable.runtimeState, rfl⟩
  · exact ⟨_, rfl⟩

theorem Sound.states (sound : Sound host w.journal) (states : List (String × String)) :
    Sound host ⟨{ w.journal.durable with runtimeState := states }, none⟩ :=
  ⟨rfl, sound.written, sound.ordered, sound.unique⟩

theorem Numbered.states (numbered : Numbered host s k t) (states : List (String × String)) :
    Numbered host s k { t with runtimeState := states } := ⟨numbered.early, numbered.opened⟩

/-- Every save of the runtime state stores the number of the cycle. -/
theorem Counting.saved (counting : Counting host c k w) {k' : Nat} (later : k ≤ k') :
    Counting host c k' (w.wrote (setState w.journal (stateKey w.organism) w.runtime.toJson).2) := by
  obtain ⟨-, -, started⟩ := start_setState counting.sound.idle w.organism w.runtime
  obtain ⟨states, saved⟩ := setState_states counting.sound.idle (stateKey w.organism) w.runtime.toJson
  rw [saved] at started ⊢
  refine ⟨counting.sound.states states, counting.current, w.runtime, started,
    .inr ⟨counting.current, .states ?_ states⟩⟩
  obtain ⟨r, -, ⟨below, -, numbered⟩ | ⟨-, numbered⟩⟩ := counting.stored
  · exact numbered.mono (by omega)
  · exact numbered.mono (by omega)

/-- A save under another key leaves the number that is stored. -/
theorem Counting.savedOther (counting : Counting host c k w) {key : String}
    (apart : Text.strip (stateKey w.organism) ≠ Text.strip key) (value : Json) :
    Counting host c k (w.wrote (setState w.journal key value).2) := by
  obtain ⟨states, saved⟩ := setState_states counting.sound.idle key value
  obtain ⟨r, started, stored⟩ := counting.stored
  have other := start_setState_other counting.sound.idle w.organism apart value (by rw [saved])
  rw [saved] at other ⊢
  refine ⟨counting.sound.states states, counting.current, r, other.trans started, ?_⟩
  exact stored.imp (fun ⟨below, early, numbered⟩ => ⟨below, early, numbered.states states⟩)
    fun ⟨same, numbered⟩ => ⟨same, numbered.states states⟩

theorem planRecovery_cycleSeq (policy : HomeostaticPolicy) (r : RuntimeState) (health : HealthState) :
    (planRecovery policy r health).2.cycleSeq = r.cycleSeq := by
  unfold planRecovery
  split
  · rfl
  · rfl
  · split
    · split <;> rfl
    · rfl

/-! ## Where a tick stops -/

/-- A tick raises before it has executed anything, when its process ends, or when it cannot
record what the executor answers. -/
def Stopped (effector : Effector) (ran : Option Json) (w : World) : Prop :=
  ran = none ∨ w.fuse = some 0 ∨
    ∃ p, ran = some p ∧ ∀ executor, effector.executor = some executor → ¬Recordable (executor p)

variable (host) in
/-- Every event of a tick is recorded, up to where it stops. -/
theorem count_rules (free : host.CollisionFree) (policy : HomeostaticPolicy) (stimulus : Stimulus) (effector : Effector)
    (before : World) :
    TickRules host policy stimulus effector (fun w => Counted host w ∧ w = before)
      (fun c ran k w => Counting host c k w ∧ Ran before stimulus.proposal effector.executor ran w)
      (fun w => Counted host w ∧ ∃ ran, Ran before stimulus.proposal effector.executor ran w ∧
        Stopped effector ran w) where
  opened := fun ⟨counted, same⟩ => ⟨counted.opened, same ▸ .start rfl rfl⟩
  adopted := by
    rintro c w health ⟨counting, ran⟩
    have planned : Ran before stimulus.proposal effector.executor none
        { w with runtime := (planRecovery policy w.runtime health).2 } := ran.congr rfl rfl
    exact ⟨counting.congr rfl rfl (planRecovery_cycleSeq policy w.runtime health), (planned.quiet rfl).quiet rfl⟩
  organism := fun ⟨counting, ran⟩ same => ⟨counting.congr rfl same rfl, ran.congr rfl rfl⟩
  decided := fun _ ⟨counting, ran⟩ => ⟨counting.congr rfl rfl rfl, ran.quiet rfl⟩
  executed := fun ⟨counting, ran⟩ proposed armed => ⟨counting.congr rfl rfl rfl, ran.execute proposed (by simp [armed])⟩
  recorded := by
    intro c ran k w i label eventType payload causation time ⟨counting, held⟩ due member _
    obtain ⟨event, t, done, -, later⟩ :=
      counting.append free (List.mem_append_left _ member) _ _ due.later due.saved due.opening time
    unfold Cycle.call at done
    rw [done]
    exact ⟨fun _ _ => ⟨later, held.wrote _⟩, nofun⟩
  saved := fun ⟨counting, ran⟩ later _ _ => ⟨counting.saved (by omega), ran.wrote _⟩
  crashed := fun ⟨counting, ran⟩ burnt => ⟨counting.counted, _, ran, .inr (.inl burnt)⟩
  early := fun ⟨counting, ran⟩ _ => ⟨counting.counted, _, ran, .inl rfl⟩
  answered := fun ⟨counting, ran⟩ unfit => ⟨counting.counted, _, ran, .inr (.inr ⟨_, rfl, unfit⟩)⟩

/-! ## A tick of the loop -/

section
variable {stimulus : Stimulus} {effector : Effector} {before : World} {ran : Option Json}

variable (host stimulus effector before ran) in
/-- An engine in a cycle, with what it has executed. -/
def InCycle (c : Cycle) (k : Nat) (w : World) : Prop :=
  Counting host c k w ∧ Ran before stimulus.proposal effector.executor ran w

variable (host stimulus effector before) in
/-- An engine whose tick has stopped. -/
def Halted (w : World) : Prop :=
  Counted host w ∧ ∃ ran, Ran before stimulus.proposal effector.executor ran w ∧ Stopped effector ran w

theorem record_inCycle (free : host.CollisionFree) {place : Nat × String × String} (member : place ∈ places)
    (later : k ≤ place.1) (saved : 2 ≤ k) (clock : String → TimeNs) (payload : Mapping) (causation : Option String) :
    Ensures (InCycle host stimulus effector before ran c k)
      (record host clock (c.id host) place.2.1 place.2.2 payload causation)
      (fun _ => InCycle host stimulus effector before ran c (place.1 + 1)) (Halted host stimulus effector before) := by
  refine .bind (q := fun _ => InCycle host stimulus effector before ran c (place.1 + 1))
    (durably_ensures (fun w ⟨counting, held⟩ burnt => ?_) fun w ⟨counting, held⟩ _ => ?_) fun _ => .pure fun _ => id
  · exact ⟨counting.counted, ran, held, .inr (.inl burnt)⟩
  · obtain ⟨event, t, done, -, next⟩ := counting.append free member payload causation later (fun _ => saved)
      (fun zero => by omega)
      (clock place.2.1)
    show (∀ a, (append host w.journal (c.call host place payload causation (clock place.2.1))).1 = .ok a →
        InCycle host stimulus effector before ran c (place.1 + 1)
          (w.wrote (append host w.journal (c.call host place payload causation (clock place.2.1))).2)) ∧
      ∀ e, (append host w.journal (c.call host place payload causation (clock place.2.1))).1 = .error e →
        Halted host stimulus effector before
          (w.wrote (append host w.journal (c.call host place payload causation (clock place.2.1))).2)
    rw [done]
    exact ⟨fun _ _ => ⟨next, held.wrote _⟩, nofun⟩

theorem inner_world {α : Type} {pre : World → Prop} {post : α → World → Prop} {fails : World → Prop}
    {m : Physiological α} (ensures : Ensures pre m post fails) :
    Ensures (fun l => pre l.world) (inner m) (fun a l => post a l.world) fun l => fails l.world :=
  inner_ensures fun _ holds => ensures.mono (fun _ same => same ▸ holds) (fun _ _ => id) fun _ => id

theorem persist_inCycle (secret : String) : Ensures (fun l => InCycle host stimulus effector before ran c k l.world)
    (persistFeedback host secret) (fun _ l => InCycle host stimulus effector before ran c k l.world)
    fun l => Halted host stimulus effector before l.world := by
  refine .get_bind fun l ⟨counting, held⟩ => inner_ensures fun u again => durably_ensures (fun w same burnt => ?_)
    fun w same _ => ?_
  · subst same again
    exact ⟨counting.counted, ran, held, .inr (.inl burnt)⟩
  · subst same again
    have done := (@holds_setState host secret u.world.journal counting.sound.idle u.world.organism u.feedback).1
    have next := counting.savedOther (feedbackKey_ne u.world.organism u.world.organism).symm
      (envelope host secret u.feedback)
    have taken (e : JournalError) : (setState u.world.journal (feedbackKey u.world.organism)
        (envelope host secret u.feedback)).1 ≠ .error e := by rw [done]; nofun
    refine ⟨fun _ _ => ?_, fun e failed => absurd failed (taken e)⟩
    generalize setState u.world.journal _ _ = stored at next ⊢
    exact ⟨next, held.wrote _⟩

theorem recordGateHold_counted (free : host.CollisionFree) (clock : String → TimeNs) (f : FeedbackState)
    {cycle : CycleResult} (named : cycle.cycleId = c.id host) (reason : String) :
    Ensures (fun l => InCycle host stimulus effector before ran c 9 l.world) (recordGateHold host clock f cycle reason)
      (fun _ l => Counted host l.world) fun l => Halted host stimulus effector before l.world := by
  unfold recordGateHold
  rw [named]
  have member : ((9, ":effect-recovery-gate", "EFFECT_RECOVERY_GATE") : Nat × String × String) ∈ places := by
    simp [places]
  exact .bind (inner_world (record_inCycle free member (Nat.le_refl 9) (by decide) clock _ _)) fun _ =>
    .pure fun _ held => held.1.counted

theorem recordEffectFeedback_counted (free : host.CollisionFree) (policy : HomeostaticPolicy) {upper : String → String}
    (feedbackPolicy : EffectFeedbackPolicy upper) (secret : String) (input : LoopInput) {cycle : CycleResult}
    (named : cycle.cycleId = c.id host) (attempt : Bool) (outcome : Option ExecutorOutcome) {l : Loop}
    (held : InCycle host stimulus effector before ran c 9 l.world) :
    Ensures (· = l) (recordEffectFeedback host policy feedbackPolicy secret input cycle attempt outcome)
      (fun _ v => Counted host v.world) fun v => Halted host stimulus effector before v.world := by
  unfold recordEffectFeedback
  rw [named]
  refine .get_bind fun v same => .modify_bind fun t again => ?_
  subst same again
  have member : ((10, ":effect-feedback", "EFFECT_FEEDBACK") : Nat × String × String) ∈ places := by simp [places]
  refine .bind ((@persist_inCycle host c 9 stimulus effector before ran secret).mono (fun u same => ?_)
    (fun _ _ => id) fun _ => id) fun _ =>
    .bind (inner_world (record_inCycle free (k := 9) member (by decide)
      (by decide) input.effector.clock _ _)) fun _ => .pure fun _ held => held.1.counted
  rw [same]
  exact held

end

/-- Every event of a tick of the loop is recorded, up to where it stops. -/
theorem loopTick_counted (free : host.CollisionFree) (policy : HomeostaticPolicy) {upper : String → String}
    (feedbackPolicy : EffectFeedbackPolicy upper) (secret : String) {l : Loop} (counted : Counted host l.world)
    (input : LoopInput) : Ensures (· = l) (loopTick host policy feedbackPolicy secret input)
      (fun _ v => Counted host v.world)
      fun v => ∃ stimulus, Halted host stimulus input.effector.wrapped l.world v.world := by
  refine .get_bind fun v same => ?_
  subst same
  have ticked (stimulus : Stimulus) : Ensures (· = v) (inner (tick host policy stimulus input.effector.wrapped))
      (fun r u => ∃ c ran, r.cycleId = c.id host ∧ InCycle host stimulus input.effector.wrapped v.world ran c 9 u.world)
      fun u => ∃ stimulus, Halted host stimulus input.effector.wrapped v.world u.world := by
    refine (inner_world (count_rules host free policy stimulus input.effector.wrapped v.world).tick).mono
      (fun u same => ⟨same ▸ counted, congrArg Loop.world same⟩) (fun r u done => ?_) fun u halted => ⟨stimulus, halted⟩
    obtain ⟨c, ran, named, -, -, -, held⟩ := done
    exact ⟨c, ran, named, held⟩
  dsimp only
  split
  · refine .bind (ticked _) fun cycle => ?_
    rintro u ⟨c, ran, named, held⟩
    exact Ensures.bind ((recordGateHold_counted free _ _ named _).mono (fun _ => id) (fun _ _ => id) fun _ halted =>
      ⟨_, halted⟩)
      (fun _ => .pure fun _ => id) u held
  · refine .bind (ticked _) fun cycle => ?_
    rintro u ⟨c, ran, named, held⟩
    refine Ensures.ite (fun pass => ?_) (fun other => ?_) u rfl
    · refine .get_bind fun t same => ?_
      subst same
      refine .bind ((recordEffectFeedback_counted free policy feedbackPolicy secret input named _ _ held).mono
        (fun _ => id) (fun _ _ => id) fun _ halted => ⟨_, halted⟩) fun answer => .get_bind fun s counted =>
        .pure fun t same => ?_
      rw [same]
      exact counted
    · exact .pure fun t same => same ▸ held.1.counted

end

end MatVerse.Physiology
