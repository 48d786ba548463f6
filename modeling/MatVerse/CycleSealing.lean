import MatVerse.CycleRecovery
import MatVerse.EventDelivery
import MatVerse.HomeostaticSupervisor

/-! Sealing after any history: engines that tick or die in a tick, other writers of the
same file, and sealings that were interrupted. -/
namespace MatVerse.Physiology

open Fallible

/-! ## Histories of a journal -/

/-- The events of a tick, also of a closed loop, by the ends of their ids. -/
def stages : List (String × String) :=
  [(":tick", "TICK"), (":observation", "OBSERVATION"), (":plan", "RECOVERY_PLAN"), (":decision", "DECISION"),
    (":execution", "EXECUTION"), (":effect", "EFFECT"), (":memory", "MEMORY_COMMIT"),
    (":effect-recovery-gate", "EFFECT_RECOVERY_GATE"), (":effect-feedback", "EFFECT_FEEDBACK")]

inductive Move where
  /-- A tick of an engine on the file, to its end or to that of its process. -/
  | tick (policy : HomeostaticPolicy) (stimulus : Stimulus) (effector : Effector) (w : World)
  /-- One event of a cycle, from an engine whose ticks run beside others. -/
  | record (core : Json) (stage : String × String) (payload : Mapping) (causation : Option String) (time : TimeNs)
  /-- The proposal of a recovery of a cycle, by a supervisor. -/
  | propose (core : Json) (attempt : RecoveryAttempt) (time : TimeNs)
  /-- What came of the proposal. -/
  | outcome (core : Json) (attempt : RecoveryAttempt) (cycle : ClosedLoopCycleResult) (time : TimeNs)
  /-- An append to another topic. -/
  | other (c : AppendCall)
  /-- A sealing that ends after so many appends. -/
  | interrupted (clock : String → TimeNs) (reason : String) (appends : Nat)

/-- Ids that end in `:aborted` are those of sealings. -/
def Move.Allowed : Move → Prop
  | .record _ stage _ _ _ => stage ∈ stages
  | .other c => Text.strip c.topic ≠ "physiology" ∧ ∀ cycleId, c.id ≠ cycleId ++ ":aborted"
  | _ => True

section
variable (host : Host)

/-- The first appends of a sealing. -/
def sealSome (clock : String → TimeNs) (reason : String) (appends : Nat) (t : Tables) : Tables :=
  if Text.strip reason = "" then t
  else
    match findIncompleteCycles t with
    | .error _ => t
    | .ok cycles => (sealEach host clock reason (cycles.take appends) (.connect t)).2.durable

/-- The attempt to recover a cycle. -/
def recoveryOf (core : Json) (attempt : RecoveryAttempt) : RecoveryAttempt :=
  { attempt with origin := stableHash host core }

def attemptEventId (a : RecoveryAttempt) : String :=
  recoveryEventId host a.origin a.number (String.ofList ((a.id host).toList.take 16))

/-- The file after a move, each on a connection of its own. -/
def Move.next (t : Tables) : Move → Tables
  | .tick policy stimulus effector w =>
    (afterwards (Physiology.tick host policy stimulus effector) { w with journal := .connect t }).journal.durable
  | .record core stage payload causation time =>
    (append host (.connect t)
      ((recordCall (stableHash host core) stage.1 stage.2 payload causation).timed time)).2.durable
  | .propose core attempt time => (append host (.connect t) ((recoveryOf host core attempt).call host time)).2.durable
  | .outcome core attempt cycle time =>
    let a := recoveryOf host core attempt
    (append host (.connect t) (a.outcomeCall host (attemptEventId host a) cycle time)).2.durable
  | .other c => (append host (.connect t) c).2.durable
  | .interrupted clock reason appends => sealSome host clock reason appends t

def history (moves : List Move) : Tables := moves.foldl (Move.next host) Journal.empty.durable

end

/-- What a sealing adds: one terminal event for every incomplete cycle, and nothing else. -/
structure Seals (t t' : Tables) (ids : List String) : Prop where
  appended : ∃ rows, t'.events = t.events ++ rows ∧ rows.map EventRow.eventId = ids ∧
    (∀ row ∈ rows, row.topic = "physiology" ∧ row.eventType = "CYCLE_ABORTED") ∧
    (rows.map EventRow.correlationId).Nodup ∧
    ∀ cycleId, some cycleId ∈ rows.map EventRow.correlationId ↔ Incomplete t cycleId
  states : t'.runtimeState = t.runtimeState
  /-- No cycle has two such events, whatever was sealed before. -/
  once : ∀ row ∈ t'.events, ∀ row' ∈ t'.events, row.topic = "physiology" → row'.topic = "physiology" →
    row.eventType = "CYCLE_ABORTED" → row'.eventType = "CYCLE_ABORTED" → row.correlationId = row'.correlationId →
    row = row'

/-- The scan gives every event of the physiology once; a sealing is exact, leaves no
incomplete cycle, and after it another one appends nothing. -/
structure SealsExactly (host : Host) (t : Tables) : Prop where
  scan : allEvents t (some "physiology") 0 =
    .ok ((t.events.filter fun row => row.topic == "physiology").map rowToEvent)
  sealing : ∀ clock reason, Text.strip reason ≠ "" → ∃ ids t',
    sealIncompleteCycles host clock reason (.connect t) = (.ok ids, .connect t') ∧ Seals t t' ids ∧
      findIncompleteCycles t' = .ok [] ∧
      ∀ clock' reason', Text.strip reason' ≠ "" →
        sealIncompleteCycles host clock' reason' (.connect t') = (.ok [], .connect t')

/-! ## What a history keeps -/

/-- A row of the physiology belongs to a cycle, and an id ends in `:aborted` exactly when
its row ends the cycle in this way. -/
structure Shaped (host : Host) (row : EventRow) : Prop where
  cycle : row.topic = "physiology" → ∃ core, row.correlationId = some (stableHash host core)
  aborted : ∀ cycleId, row.eventId = cycleId ++ ":aborted" ↔
    row.topic = "physiology" ∧ row.eventType = "CYCLE_ABORTED" ∧ row.correlationId = some cycleId

structure Recorded (host : Host) (t : Tables) : Prop where
  sound : Sound host (.connect t)
  ordered : Ordered t
  shaped : ∀ row ∈ t.events, Shaped host row

section
variable {host : Host} {t : Tables} {c : AppendCall}

theorem Recorded.empty : Recorded host Journal.empty.durable := by
  refine ⟨.empty, ⟨?_, ?_⟩, ?_⟩ <;> simp [Journal.empty, Connection.connect]

theorem Recorded.added (recorded : Recorded host t) (new : New (.connect t) c)
    (shaped : ∀ seq, Shaped host (c.row host seq)) : Recorded host (t.added host c) where
  sound := recorded.sound.added new
  ordered := recorded.ordered.added
  shaped := by
    intro row member
    rcases List.mem_append.mp member with earlier | last
    · exact recorded.shaped row earlier
    · obtain rfl := List.mem_singleton.mp last
      exact shaped _

theorem Sound.append_grows {j : Journal} (sound : Sound host j) :
    (append host j c).2.durable = j.durable ∨ New j c ∧ (append host j c).2.durable = j.durable.added host c := by
  by_cases new : New j c
  · exact (append_durable sound.idle).imp_right (⟨new, ·⟩)
  · left
    by_cases accepted : Accepted c
    · simp only [New, not_forall, not_not] at new
      obtain ⟨row, member, named⟩ := new
      by_cases range : c.created < 2 ^ 63
      · rw [sound.append_known accepted range member named]
      · rw [sound.append_large accepted (not_lt.mp range)]
    · obtain ⟨e, refused⟩ := @append_refused host j c accepted
      rw [refused]

theorem Recorded.grow (recorded : Recorded host t) (shaped : ∀ seq, Shaped host (c.row host seq)) :
    Recorded host (append host (.connect t) c).2.durable := by
  rcases recorded.sound.append_grows (c := c) with same | ⟨new, grown⟩
  · rw [same]
    exact recorded
  · rw [grown]
    exact recorded.added new shaped

/-! ## The rows that moves write -/

theorem stages_text {stage : String × String} (member : stage ∈ stages) :
    stage.1.toList.head? = some ':' ∧ (∃ last, stage.1.toList.getLast? = some last ∧ Text.isSpace last = false ∧
      last ≠ 'd') ∧ Text.strip stage.2 = stage.2 ∧ stage.2 ≠ "CYCLE_ABORTED" := by
  simp only [stages, List.mem_cons, List.not_mem_nil, or_false] at member
  rcases member with rfl | rfl | rfl | rfl | rfl | rfl | rfl | rfl | rfl
  all_goals exact ⟨rfl, ⟨_, rfl, rfl, by decide⟩, by decide, by decide⟩

theorem aborted_injective {a b : String} (same : a ++ ":aborted" = b ++ ":aborted") : a = b :=
  String.toList_inj.mp (by simpa using congrArg String.toList same)

/-- A text that ends otherwise does not end in `:aborted`. -/
theorem not_aborted {text cycleId : String} {last : Char} (ends : text.toList.getLast? = some last)
    (other : last ≠ 'd') : text ≠ cycleId ++ ":aborted" := by
  rintro rfl
  rw [String.toList_append, List.getLast?_append] at ends
  exact other (Option.some.inj ends).symm

theorem shaped_record {core : Json} {stage : String × String} (member : stage ∈ stages) (payload : Mapping)
    (causation : Option String) (time : TimeNs) (seq : Nat) :
    Shaped host (((recordCall (stableHash host core) stage.1 stage.2 payload causation).timed time).row host seq) := by
  obtain ⟨starts, ⟨last, ends, mark, other⟩, type, going⟩ := stages_text member
  have named : ((recordCall (stableHash host core) stage.1 stage.2 payload causation).timed time).id =
      stableHash host core ++ stage.1 := (host.sha256Digits _).strip_append starts ends ⟨rfl, mark⟩
  refine ⟨fun _ => ⟨core, rfl⟩, fun cycleId => iff_of_false ?_ ?_⟩
  · show AppendCall.id _ ≠ _
    rw [named]
    exact not_aborted (by rw [String.toList_append, List.getLast?_append, ends]; rfl) other
  · rintro ⟨-, aborted, -⟩
    exact going (type.symm.trans aborted)

/-- An id whose last part is of digits does not end in `:aborted`. -/
theorem digits_not_aborted {head digits cycleId : String} (hex : Hex.Digits digits) :
    head ++ (":" ++ digits) ≠ cycleId ++ ":aborted" := by
  intro same
  have plain : ∀ c ∈ digits.toList.reverse, (c != ':') = true := by
    intro c member
    have digit := List.all_eq_true.mp hex c (List.mem_reverse.mp member)
    exact bne_iff_ne.mpr fun colon => by simp [colon, Hex.isDigit] at digit
  have parts := congrArg (fun s : String => s.toList.reverse.takeWhile (· != ':')) same
  simp only [String.toList_append, List.reverse_append, List.append_assoc] at parts
  rw [List.takeWhile_append_of_pos plain] at parts
  have last : digits.toList.reverse = ":aborted".toList.reverse.takeWhile (· != ':') := by
    simpa using parts
  have letter : 't' ∈ digits.toList.reverse := by
    rw [last]
    decide
  have digit := List.all_eq_true.mp hex 't' (List.mem_reverse.mp letter)
  simp [Hex.isDigit] at digit

theorem shaped_other {c : AppendCall} (topic : Text.strip c.topic ≠ "physiology")
    (named : ∀ cycleId, c.id ≠ cycleId ++ ":aborted") (seq : Nat) : Shaped host (c.row host seq) :=
  ⟨fun same => absurd same topic, fun cycleId => iff_of_false (named cycleId) fun same => topic same.1⟩

theorem shaped_propose (core : Json) (attempt : RecoveryAttempt) (time : TimeNs) (seq : Nat) :
    Shaped host (((recoveryOf host core attempt).call host time).row host seq) := by
  have type : Text.strip "BOUNDED_AUTONOMOUS_RECOVERY_PROPOSED" ≠ "CYCLE_ABORTED" := by decide
  refine ⟨fun _ => ⟨core, rfl⟩, fun cycleId => iff_of_false ?_ fun same => type same.2.1⟩
  show AppendCall.id _ ≠ _
  rw [RecoveryAttempt.id_call (host.sha256Digits _), recoveryEventId, ← String.append_assoc, ← String.append_assoc]
  exact digits_not_aborted (RecoveryAttempt.digest_digits host _)

theorem shaped_outcome (core : Json) (attempt : RecoveryAttempt) (cycle : ClosedLoopCycleResult) (time : TimeNs)
    (seq : Nat) :
    Shaped host (((recoveryOf host core attempt).outcomeCall host (attemptEventId host (recoveryOf host core attempt))
      cycle time).row host seq) := by
  have type : Text.strip "BOUNDED_AUTONOMOUS_RECOVERY_OUTCOME" ≠ "CYCLE_ABORTED" := by decide
  refine ⟨fun _ => ⟨core, rfl⟩, fun cycleId => iff_of_false ?_ fun same => type same.2.1⟩
  show AppendCall.id _ ≠ _
  rw [attemptEventId, RecoveryAttempt.id_outcomeCall (host.sha256Digits _)]
  have ends : ":outcome".toList.getLast? = some 'e' := by decide
  exact not_aborted (by rw [String.toList_append, List.getLast?_append, ends]; rfl) (by decide)

theorem id_abortCall {reason : String} {cycle : IncompleteCycle} {core : Json}
    (named : cycle.cycleId = stableHash host core) (time : TimeNs) :
    ((abortCall reason cycle).timed time).id = cycle.cycleId ++ ":aborted" := by
  have ends : ":aborted".toList.getLast? = some 'd' := by decide
  show Text.strip (cycle.cycleId ++ ":aborted") = _
  rw [named]
  exact (host.sha256Digits _).strip_append rfl ends ⟨rfl, rfl⟩

theorem shaped_abort (reason : String) {cycle : IncompleteCycle} {core : Json}
    (named : cycle.cycleId = stableHash host core) (time : TimeNs) (seq : Nat) :
    Shaped host (((abortCall reason cycle).timed time).row host seq) := by
  have topic : Text.strip "physiology" = "physiology" := by decide
  have type : Text.strip "CYCLE_ABORTED" = "CYCLE_ABORTED" := by decide
  refine ⟨fun _ => ⟨core, congrArg some named⟩, fun cycleId => ?_⟩
  show AppendCall.id _ = _ ↔ _
  rw [id_abortCall named]
  constructor
  · intro same
    exact ⟨topic, type, congrArg some (aborted_injective same)⟩
  · rintro ⟨-, -, same⟩
    rw [Option.some.inj (show some cycle.cycleId = some cycleId from same)]

/-! ## Moves -/

/-- A world whose journal is at rest and has the shape of a history. -/
def Journaled (host : Host) (w : World) : Prop := w.journal.working = none ∧ Recorded host w.journal.durable

theorem durably_journaled {α : Type} {write : Journal → Except JournalError α × Journal}
    (keeps : ∀ j : Journal, j.working = none → Recorded host j.durable →
      (write j).2.working = none ∧ Recorded host (write j).2.durable) : Keeps (Journaled host) (durably write) := by
  rintro ⟨journal, organism, runtime, moments, fuse⟩ ⟨idle, recorded⟩
  have written := keeps journal idle recorded
  have answers (fuse : Option Nat) (result : Except JournalError α) :
      Ensures (· = ⟨(write journal).2, organism, runtime, moments, fuse⟩) (answered · result) (fun _ => Journaled host)
        (Journaled host) := by
    rintro w rfl
    cases result <;> exact written
  match fuse with
  | none => exact answers none _ _ rfl
  | some 0 => exact ⟨idle, recorded⟩
  | some (n + 1) => exact answers (some n) _ _ rfl

theorem idle_eq {j : Journal} (idle : j.working = none) : j = .connect j.durable := by
  obtain ⟨durable, working⟩ := j
  obtain rfl : working = none := idle
  rfl

theorem record_journaled {clock : String → TimeNs} {core : Json} {label eventType : String}
    (member : (label, eventType) ∈ stages) (payload : Mapping) (causation : Option String) :
    Keeps (Journaled host) (record host clock (stableHash host core) label eventType payload causation) := by
  refine .bind (durably_journaled fun j idle recorded => ?_) fun _ => .pure fun _ => id
  have range := created_range (recordCall (stableHash host core) label eventType payload causation) (clock label)
  refine ⟨append_working idle fun _ => range, ?_⟩
  rw [idle_eq idle]
  exact recorded.grow fun seq => shaped_record member payload causation (clock label) seq

theorem persist_journaled : Keeps (Journaled host) persistRuntimeState := by
  refine .get_bind fun w holds => .mono (durably_journaled fun j idle recorded => ?_) (fun t same => same ▸ holds)
    (fun _ _ => id) fun _ => id
  unfold setState
  split
  · exact ⟨idle, recorded⟩
  · obtain ⟨durable, working⟩ := j
    obtain rfl : working = none := idle
    exact ⟨rfl, ⟨rfl, recorded.sound.written, recorded.sound.ordered, recorded.sound.unique⟩,
      ⟨recorded.ordered.increasing, recorded.ordered.given⟩, recorded.shaped⟩

theorem lifted_journaled {α : Type} (a : Except EngineError α) : Keeps (Journaled host) (lifted a) := by
  cases a with
  | ok a => exact .pure fun _ => id
  | error e => exact .throw fun _ => id

theorem openCycle_journaled (clock : String → TimeNs) : Ensures (Journaled host) (openCycle host clock)
    (fun opened w => (∃ core, opened.2.1 = stableHash host core) ∧ Journaled host w) (Journaled host) := by
  refine .bind (q := fun _ => Journaled host) (.modify fun _ => id) fun _ => .get_bind fun w holds =>
    .bind (q := fun _ => Journaled host) (fun t same => same ▸ holds) fun root =>
      .bind (record_journaled (by simp [stages]) _ _) fun tick => .pure fun t kept => ⟨⟨_, rfl⟩, kept⟩

theorem sense_journaled (policy : HomeostaticPolicy) (stimulus : Stimulus) (clock : String → TimeNs) (core : Json)
    (tick : String) : Keeps (Journaled host) (sense host policy stimulus clock (stableHash host core) tick) :=
  .bind (lifted_journaled _) fun _ => .bind (q := fun _ => Journaled host) (fun _ => id) fun _ =>
    .bind persist_journaled fun _ => .bind (record_journaled (by simp [stages]) _ _) fun _ => .get_bind fun w holds =>
      .bind ((record_journaled (by simp [stages]) _ _).mono (fun t same => same ▸ holds) (fun _ _ => id) fun _ => id)
        fun _ => .pure fun _ => id

theorem decideOn_journaled (stimulus : Stimulus) (clock : String → TimeNs) (core : Json) (plan : String)
    (proposal : Mapping) :
    Keeps (Journaled host) (decideOn host stimulus clock (stableHash host core) plan proposal) := by
  refine .get_bind fun w holds => .ite (fun _ => ?_) fun _ => ?_
  · exact .bind (q := fun _ => Journaled host) (.modify fun t same => same ▸ holds) fun _ =>
      .bind (record_journaled (by simp [stages]) _ _) fun _ => .pure fun _ => id
  · refine .bind (q := fun _ => Journaled host) (fun t same => ?_) fun result =>
      .bind (q := fun _ => Journaled host) (.modify fun _ => id) fun _ =>
        .bind (record_journaled (by simp [stages]) _ _) fun _ => .pure fun _ => id
    subst same
    unfold evaluate
    cases t.organism.evaluate host _ <;> exact holds

theorem remember_journaled (clock : String → TimeNs) (cycleSeq : Nat) (core : Json) (plan : String)
    (health : HealthState) (action : RecoveryAction) (decision : Option Decision) (execution : Option (Bool × String)) :
    Keeps (Journaled host)
      (remember host clock cycleSeq (stableHash host core) plan health action decision execution) :=
  .bind (q := fun _ => Journaled host) (fun _ => id) fun root => .get_bind fun w holds =>
    .bind ((record_journaled (by simp [stages]) _ _).mono (fun t same => same ▸ holds) (fun _ _ => id) fun _ => id)
      fun _ => .bind persist_journaled fun _ => .pure fun _ => id

theorem execute_journaled (effector : Effector) (core : Json) (decision : String) (proposal : Json) :
    Keeps (Journaled host) (execute host effector (stableHash host core) decision proposal) := by
  unfold execute
  split
  · exact .throw fun _ => id
  · refine .bind (q := fun _ => Journaled host) (.modify fun _ => id) fun _ => .bind (lifted_journaled _) fun outcome =>
      .bind (record_journaled (by simp [stages]) _ _) fun execution => ?_
    split
    · exact .throw fun _ => id
    · exact .bind (record_journaled (by simp [stages]) _ _) fun _ => .pure fun _ => id

theorem conclude_journaled (effector : Effector) (cycleSeq : Nat) (core : Json) (health : HealthState)
    (action : RecoveryAction) (plan : String) (decided : Option (Decision × String × Json)) :
    Keeps (Journaled host) (conclude host effector cycleSeq (stableHash host core) health action plan decided) := by
  cases decided with
  | none => exact remember_journaled _ _ _ _ _ _ _ _
  | some decided =>
    obtain ⟨decision, event, proposal⟩ := decided
    refine .ite (fun _ => ?_) fun _ => remember_journaled _ _ _ _ _ _ _ _
    exact .bind (execute_journaled effector core event proposal) fun _ => remember_journaled _ _ _ _ _ _ _ _

theorem deliberate_journaled (policy : HomeostaticPolicy) (stimulus : Stimulus) (clock : String → TimeNs) :
    Ensures (Journaled host) (deliberate host policy stimulus clock)
      (fun opened w => (∃ core, opened.2.1 = stableHash host core) ∧ Journaled host w) (Journaled host) := by
  refine .bind (openCycle_journaled clock) fun ⟨cycleSeq, cycleId, tick⟩ => .given fun ⟨core, named⟩ => ?_
  obtain rfl : cycleId = stableHash host core := named
  refine .bind (sense_journaled policy stimulus clock core tick) fun ⟨health, action, plan⟩ => ?_
  cases stimulus.proposal with
  | none => exact .pure fun _ kept => ⟨⟨core, rfl⟩, kept⟩
  | some proposal =>
    exact .bind (decideOn_journaled stimulus clock core plan proposal) fun _ => .pure fun _ kept => ⟨⟨core, rfl⟩, kept⟩

/-- A tick writes the events of one cycle, however it ends. -/
theorem tick_journaled (policy : HomeostaticPolicy) (stimulus : Stimulus) (effector : Effector) :
    Keeps (Journaled host) (tick host policy stimulus effector) := by
  refine .bind (deliberate_journaled policy stimulus effector.clock)
    fun ⟨cycleSeq, cycleId, health, action, plan, decided⟩ => .given fun ⟨core, named⟩ => ?_
  obtain rfl : cycleId = stableHash host core := named
  exact conclude_journaled effector cycleSeq core health action plan decided

/-- The rows after some appends. -/
def Tables.sealed (host : Host) (clock : String → TimeNs) (reason : String) (t : Tables)
    (cycles : List IncompleteCycle) : Tables :=
  cycles.foldl (fun t cycle => t.added host ((abortCall reason cycle).timed (clock cycle.cycleId))) t

/-- A cycle that has begun keeps to the shape of a history. -/
theorem Recorded.digest (recorded : Recorded host t) {cycleId : String} (incomplete : Incomplete t cycleId) :
    ∃ core, cycleId = stableHash host core := by
  obtain ⟨-, ⟨row, member, named, correlated, -⟩, -⟩ := incomplete
  obtain ⟨core, same⟩ := (recorded.shaped row member).cycle named
  exact ⟨core, Option.some.inj (correlated.symm.trans same)⟩

theorem Recorded.unended (recorded : Recorded host t) (reason : String) {cycle : IncompleteCycle} {core : Json}
    (incomplete : Incomplete t cycle.cycleId) (named : cycle.cycleId = stableHash host core) (time : TimeNs) :
    New (.connect t) ((abortCall reason cycle).timed time) := by
  intro row member same
  rw [id_abortCall named] at same
  obtain ⟨topic, type, correlated⟩ := ((recorded.shaped row member).aborted cycle.cycleId).mp same
  exact incomplete.2.2 row member topic correlated (by simp [type, terminalEventTypes])

theorem abort_row (host : Host) (reason : String) (cycle : IncompleteCycle) (time : TimeNs) (seq : Nat) :
    (((abortCall reason cycle).timed time).row host seq).topic = "physiology" ∧
      (((abortCall reason cycle).timed time).row host seq).eventType = "CYCLE_ABORTED" ∧
      (((abortCall reason cycle).timed time).row host seq).correlationId = some cycle.cycleId := by
  have topic : Text.strip "physiology" = "physiology" := by decide
  have type : Text.strip "CYCLE_ABORTED" = "CYCLE_ABORTED" := by decide
  exact ⟨topic, type, rfl⟩

/-- The terminal event of a cycle ends it, and no other. -/
theorem incomplete_added (reason : String) (cycle : IncompleteCycle) (time : TimeNs) (cycleId : String) :
    Incomplete (t.added host ((abortCall reason cycle).timed time)) cycleId ↔
    cycleId ≠ cycle.cycleId ∧ Incomplete t cycleId := by
  obtain ⟨topic, type, own⟩ := abort_row host reason cycle time (t.sequence + 1)
  constructor
  · rintro ⟨filled, ⟨row, member, named, correlated, ticked⟩, unended⟩
    refine ⟨?_, filled, ⟨row, ?_, named, correlated, ticked⟩,
      fun other held => unended other (List.mem_append_left _ held)⟩
    · rintro rfl
      exact unended _ (List.mem_append_right _ (List.mem_singleton.mpr rfl)) topic own
        (by simp [type, terminalEventTypes])
    · refine (List.mem_append.mp member).resolve_right fun last => ?_
      obtain rfl := List.mem_singleton.mp last
      exact absurd (type.symm.trans ticked) (by decide)
  · rintro ⟨apart, filled, ⟨row, member, rest⟩, unended⟩
    refine ⟨filled, ⟨row, List.mem_append_left _ member, rest⟩, fun other held named correlated => ?_⟩
    rcases List.mem_append.mp held with earlier | last
    · exact unended other earlier named correlated
    · obtain rfl := List.mem_singleton.mp last
      exact absurd (Option.some.inj (correlated.symm.trans own)) apart

section
variable {clock : String → TimeNs} {reason : String} {cycles : List IncompleteCycle}

theorem incomplete_sealed (cycleId : String) : Incomplete (t.sealed host clock reason cycles) cycleId ↔
    cycleId ∉ cycles.map IncompleteCycle.cycleId ∧ Incomplete t cycleId := by
  induction cycles generalizing t with
  | nil => simp [Tables.sealed]
  | cons cycle rest ih =>
    rw [Tables.sealed, List.foldl_cons, ← Tables.sealed, ih, incomplete_added, List.map_cons, List.mem_cons, not_or]
    tauto

theorem sealed_rows (digests : ∀ cycle ∈ cycles, ∃ core, cycle.cycleId = stableHash host core) :
    ∃ rows, (t.sealed host clock reason cycles).events = t.events ++ rows ∧
      rows.map EventRow.eventId = cycles.map (fun cycle => cycle.cycleId ++ ":aborted") ∧
      (∀ row ∈ rows, row.topic = "physiology" ∧ row.eventType = "CYCLE_ABORTED") ∧
      rows.map EventRow.correlationId = (cycles.map IncompleteCycle.cycleId).map some := by
  induction cycles generalizing t with
  | nil => exact ⟨[], by simp [Tables.sealed]⟩
  | cons cycle rest ih =>
    obtain ⟨core, named⟩ := digests cycle List.mem_cons_self
    obtain ⟨topic, type, own⟩ := abort_row host reason cycle (clock cycle.cycleId) (t.sequence + 1)
    obtain ⟨rows, grown, ids, types, cors⟩ := @ih (t.added host ((abortCall reason cycle).timed (clock cycle.cycleId)))
      fun other member => digests other (List.mem_cons_of_mem _ member)
    refine ⟨((abortCall reason cycle).timed (clock cycle.cycleId)).row host (t.sequence + 1) :: rows, ?_, ?_, ?_, ?_⟩
    · rw [Tables.sealed, List.foldl_cons, ← Tables.sealed, grown]
      exact List.append_assoc ..
    · rw [List.map_cons, ids]
      exact congrArg (· :: _) (id_abortCall named _)
    · exact List.forall_mem_cons.mpr ⟨⟨topic, type⟩, types⟩
    · rw [List.map_cons, cors, own]
      rfl

theorem sealed_runtimeState : (t.sealed host clock reason cycles).runtimeState = t.runtimeState := by
  induction cycles generalizing t with
  | nil => rfl
  | cons cycle rest ih => exact ih

/-- Sealing different incomplete cycles appends the terminal event of each. -/
theorem sealEach_exact (free : host.CollisionFree) (recorded : Recorded host t)
    (distinct : (cycles.map IncompleteCycle.cycleId).Nodup)
    (incomplete : ∀ cycle ∈ cycles, Incomplete t cycle.cycleId) :
    sealEach host clock reason cycles (.connect t) = (.ok (cycles.map fun cycle => cycle.cycleId ++ ":aborted"),
      .connect (t.sealed host clock reason cycles)) ∧ Recorded host (t.sealed host clock reason cycles) := by
  induction cycles generalizing t with
  | nil => exact ⟨rfl, recorded⟩
  | cons cycle rest ih =>
    obtain ⟨fresh, others⟩ := List.nodup_cons.mp distinct
    have begun := incomplete cycle List.mem_cons_self
    obtain ⟨core, named⟩ := recorded.digest begun
    have new := recorded.unended reason begun named (clock cycle.cycleId)
    have accepted : Accepted ((abortCall reason cycle).timed (clock cycle.cycleId)) := by
      have topic : Text.strip "physiology" ≠ "" := by decide
      have type : Text.strip "CYCLE_ABORTED" ≠ "" := by decide
      refine ⟨?_, topic, type, (clock cycle.cycleId).2.1⟩
      show ((abortCall reason cycle).timed (clock cycle.cycleId)).id ≠ ""
      rw [id_abortCall named]
      simp
    have done := recorded.sound.append_new free accepted (created_range _ _) new
    have next := recorded.added new (shaped_abort reason named (clock cycle.cycleId))
    obtain ⟨rest_sealed, kept⟩ := ih next others fun other member => (incomplete_added ..).mpr
      ⟨fun same => fresh (List.mem_map.mpr ⟨other, member, same⟩), incomplete other (List.mem_cons_of_mem _ member)⟩
    refine ⟨?_, kept⟩
    rw [sealEach, done]
    show (Except.map _ (sealEach host clock reason rest (.connect (t.added host _))).1,
      (sealEach host clock reason rest (.connect (t.added host _))).2) = _
    rw [rest_sealed]
    show (Except.ok (((abortCall reason cycle).timed (clock cycle.cycleId)).id :: _), _) = _
    rw [id_abortCall named]
    rfl

end

/-- The first appends of a sealing keep the shape of a history. -/
theorem Recorded.sealSome (recorded : Recorded host t) (free : host.CollisionFree) (clock : String → TimeNs)
    (reason : String) (appends : Nat) : Recorded host (sealSome host clock reason appends t) := by
  obtain ⟨cycles, found, distinct, exactly⟩ := findIncompleteCycles_exact recorded.ordered
  rw [Physiology.sealSome, found]
  split
  · exact recorded
  · obtain ⟨done, kept⟩ := @sealEach_exact host t clock reason (cycles.take appends) free recorded
      (distinct.sublist ((List.take_sublist _ _).map _))
      fun cycle member => (exactly _).mp (List.mem_map_of_mem (List.mem_of_mem_take member))
    simp only [done]
    exact kept

theorem Recorded.next (recorded : Recorded host t) (free : host.CollisionFree) {m : Move} (allowed : m.Allowed) :
    Recorded host (m.next host t) := by
  cases m with
  | tick policy stimulus effector w =>
    exact ((tick_journaled policy stimulus effector).final (s := { w with journal := .connect t }) ⟨rfl, recorded⟩).2
  | record core stage payload causation time => exact recorded.grow (shaped_record allowed payload causation time)
  | propose core attempt time => exact recorded.grow (shaped_propose core attempt time)
  | outcome core attempt cycle time => exact recorded.grow (shaped_outcome core attempt cycle time)
  | other c => exact recorded.grow (shaped_other allowed.1 allowed.2)
  | interrupted clock reason appends => exact recorded.sealSome free clock reason appends

theorem recorded_history (free : host.CollisionFree) {moves : List Move} (allowed : ∀ m ∈ moves, m.Allowed) {t : Tables}
    (recorded : Recorded host t) : Recorded host (moves.foldl (Move.next host) t) := by
  induction moves generalizing t with
  | nil => exact recorded
  | cons m rest ih =>
    exact ih (fun other member => allowed other (List.mem_cons_of_mem _ member))
      (recorded.next free (allowed m List.mem_cons_self))

/-- Rows that end cycles in this way have the ids of their cycles. -/
theorem Recorded.once (recorded : Recorded host t) {row row' : EventRow} (member : row ∈ t.events)
    (member' : row' ∈ t.events) (topic : row.topic = "physiology") (topic' : row'.topic = "physiology")
    (type : row.eventType = "CYCLE_ABORTED") (type' : row'.eventType = "CYCLE_ABORTED")
    (same : row.correlationId = row'.correlationId) : row = row' := by
  obtain ⟨core, correlated⟩ := (recorded.shaped row member).cycle topic
  have id := ((recorded.shaped row member).aborted _).mpr ⟨topic, type, correlated⟩
  have id' := ((recorded.shaped row' member').aborted _).mpr ⟨topic', type', same.symm.trans correlated⟩
  exact recorded.sound.unique row member row' member' (id.trans id'.symm)

theorem Recorded.sealsExactly (recorded : Recorded host t) (free : host.CollisionFree) : SealsExactly host t := by
  constructor
  · rw [allEvents_topic recorded.ordered, topicRows]
    simp only [Option.all_some, Bool.beq_comm]
  · intro clock reason filled
    obtain ⟨cycles, found, distinct, exactly⟩ := findIncompleteCycles_exact recorded.ordered
    have incomplete (cycle) (member : cycle ∈ cycles) : Incomplete t cycle.cycleId :=
      (exactly _).mp (List.mem_map_of_mem member)
    obtain ⟨done, kept⟩ := @sealEach_exact host t clock reason cycles free recorded distinct incomplete
    obtain ⟨rows, grown, ids, types, cors⟩ := @sealed_rows host t clock reason cycles
      fun cycle member => recorded.digest (incomplete cycle member)
    have none : findIncompleteCycles (t.sealed host clock reason cycles) = .ok [] := by
      obtain ⟨left, again, -, leftovers⟩ := findIncompleteCycles_exact kept.ordered
      rw [again]
      refine congrArg Except.ok (List.eq_nil_iff_forall_not_mem.mpr fun cycle member => ?_)
      have remaining := (leftovers cycle.cycleId).mp (List.mem_map_of_mem member)
      obtain ⟨unlisted, begun⟩ := (incomplete_sealed cycle.cycleId).mp remaining
      exact unlisted ((exactly _).mpr begun)
    refine ⟨_, _, ?_, ⟨⟨rows, grown, ids, types, ?_, fun cycleId => ?_⟩, sealed_runtimeState, fun _ member _ member' =>
      kept.once member member'⟩, none, fun clock' reason' filled' => ?_⟩
    · simp only [sealIncompleteCycles, if_neg filled, Connection.view_connect, found, done]
    · rw [cors]
      exact distinct.map (Option.some_injective _)
    · rw [cors, List.mem_map_of_injective (Option.some_injective _), exactly]
    · simp only [sealIncompleteCycles, if_neg filled', Connection.view_connect, none, sealEach]

end

/-- After any history of ticks, interleaved cycles, recoveries, other topics and interrupted sealings,
the scan gives every event once and a sealing is exact and idempotent. -/
theorem sealing_exact {host : Host} (free : host.CollisionFree) (moves : List Move) (allowed : ∀ m ∈ moves, m.Allowed) :
    SealsExactly host (history host moves) :=
  (recorded_history free allowed .empty).sealsExactly free

/-- A cycle that was left after its feedback, an event of another topic, and a sealing that
ended before its first append. -/
theorem sealing_exact_sample : SealsExactly hexHost (history hexHost
    [.record (.int 1) (":tick", "TICK") [] none ⟨0, by decide⟩,
      .record (.int 1) (":effect-feedback", "EFFECT_FEEDBACK") [] none ⟨0, by decide⟩,
      .other (sampleAppend (.int 1) 1), .interrupted (fun _ => ⟨0, by decide⟩) "restart" 0]) := by
  refine sealing_exact hexHost_collisionFree _ fun m member => ?_
  simp only [List.mem_cons, List.not_mem_nil, or_false] at member
  rcases member with rfl | rfl | rfl | rfl
  · exact List.mem_cons_self
  · simp [Move.Allowed, stages]
  · have topic : Text.strip "t" ≠ "physiology" := by decide
    have ends : (Text.strip "e1").toList.getLast? = some '1' := by decide
    exact ⟨topic, fun cycleId => not_aborted ends (by decide)⟩
  · trivial

end MatVerse.Physiology
