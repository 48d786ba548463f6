import MatVerse.EventConsumers

/-! Delivery of a topic to one consumer, which reads from its offset, acknowledges the
last event it received, and may fail in between, while producers append. -/
namespace MatVerse.Physiology

open Fallible

/-- The consumer with its process, and what has happened so far. -/
structure Delivery where
  db : Connection Spine
  /-- The offset that `consume` has read, before it reads the events. -/
  offset : Option Nat
  /-- The batch in hand. -/
  received : Option (List JournalEvent)
  /-- The reads since the last acknowledgement, with their limits. -/
  reads : List (Int × List JournalEvent)
  /-- The acknowledged batches, one after the other. -/
  acked : List JournalEvent

inductive DeliveryEvent where
  /-- An append through the journal that the consumer uses. -/
  | produce (c : AppendCall)
  /-- An append of another process on the same file. -/
  | produceElsewhere (c : AppendCall)
  | readOffset
  | readEvents (limit : Int)
  | ack
  /-- The consumer loses what it has received. -/
  | crash
  /-- The process ends, and its transaction with it. -/
  | restart

/-- `append` on a journal, whose transaction covers all its tables. -/
def appendTo (host : Host) (j : Connection Spine) (c : AppendCall) :
    Except JournalError JournalEvent × Connection Spine :=
  let answered := append host ⟨j.durable.tables, j.working.map Spine.tables⟩ c
  (answered.1, ⟨{ j.durable with tables := answered.2.durable },
    answered.2.working.map fun t => { j.view with tables := t }⟩)

/-- The file after an append of another process, which has to wait for an open transaction. -/
def appendElsewhere (host : Host) (j : Connection Spine) (c : AppendCall) : Connection Spine :=
  match j.working with
  | none => ⟨{ j.durable with tables := (append host (.connect j.durable.tables) c).2.durable }, none⟩
  | some _ => j

namespace Delivery

def start : Delivery := ⟨.connect ⟨Journal.empty.durable, []⟩, none, none, [], []⟩

section
variable (host : Host) (consumerId : String) (topic : Option String)

def next (w : Delivery) : DeliveryEvent → Delivery
  | .produce c => { w with db := (appendTo host w.db c).2 }
  | .produceElsewhere c => { w with db := appendElsewhere host w.db c }
  | .readOffset => { w with offset := (consumerOffset w.db.view consumerId).toOption, received := none }
  | .readEvents limit =>
    match w.offset with
    | none => w
    | some offset =>
      match Physiology.readEvents w.db.view.tables offset limit topic with
      | .error _ => { w with offset := none }
      | .ok batch => { w with offset := none, received := some batch, reads := w.reads ++ [(limit, batch)] }
  | .ack =>
    match w.received.bind List.getLast? with
    | none => { w with received := none }
    | some last =>
      match Physiology.ack w.db ⟨consumerId, last.seq⟩ with
      | (.error _, db) => { w with db := db, offset := none, received := none }
      | (.ok (), db) => ⟨db, none, none, [], w.acked ++ w.received.getD []⟩
  | .crash => { w with offset := none, received := none }
  | .restart => { w with db := w.db.reopen, offset := none, received := none }

def after (events : List DeliveryEvent) : Delivery := events.foldl (next host consumerId topic) start

end

/-- The events of the topic in the file, in the order of their sequence numbers. -/
def topicEvents (t : Tables) (topic : Option String) : List JournalEvent :=
  (rowsAfter t (-1) topic).map rowToEvent

def lastAck (w : Delivery) : Nat := (w.acked.getLast?.map JournalEvent.seq).getD 0

structure Delivered (consumerId : String) (topic : Option String) (w : Delivery) : Prop where
  exact : w.acked = (topicEvents w.db.durable.tables topic).filter fun e => e.seq ≤ w.lastAck
  once : (w.acked.map JournalEvent.seq).Pairwise (· < ·)
  reread : w.reads.Pairwise fun read read' => read.1 ≤ read'.1 → read.2 <+: read'.2
  offset : w.db.durable.storedOffset consumerId ≤ maxSeq w.db.durable.tables

/-- An append in the range of the column. -/
def InRange : DeliveryEvent → Prop
  | .produce c => Accepted c → c.created < 2 ^ 63
  | _ => True

end Delivery

/-! ## Appends -/

section
variable {host : Host} {c : AppendCall}

theorem insertEvent_ok {t u : Tables} (inserted : insertEvent host c t = .ok u) : u = t.added host c := by
  unfold insertEvent at inserted
  split at inserted
  · cases inserted
  split at inserted
  · cases inserted
  split at inserted
  · cases inserted
  · exact (Except.ok.inj inserted).symm

/-- An append outside a transaction adds one row or none. -/
theorem append_durable {j : Journal} (idle : j.working = none) :
    (append host j c).2.durable = j.durable ∨ (append host j c).2.durable = j.durable.added host c := by
  have opened : j.start = .ok ⟨j.durable, some j.durable⟩ := by simp [Connection.start, idle]
  unfold append
  split
  · exact .inl rfl
  simp only [opened, Connection.view_mk_some]
  split
  next u inserted =>
    obtain rfl := insertEvent_ok inserted
    split <;> exact .inr rfl
  next =>
    split
    · exact .inl rfl
    · split <;> exact .inl rfl
  next => exact .inl rfl

/-- In the range of the column it ends its transaction. -/
theorem append_working {j : Journal} (idle : j.working = none) (range : Accepted c → c.created < 2 ^ 63) :
    (append host j c).2.working = none := by
  by_cases accepted : Accepted c
  · exact (append_rest idle (range accepted)).1
  · obtain ⟨e, refused⟩ := @append_refused host j c accepted
    rw [refused]
    exact idle

/-- The file, with the rows that one append adds to it. -/
def Spine.added (host : Host) (s : Spine) (c : AppendCall) : Spine := { s with tables := s.tables.added host c }

theorem appendElsewhere_idle {j : Connection Spine} (idle : j.working = none) :
    (appendElsewhere host j c).working = none ∧
      ((appendElsewhere host j c).durable = j.durable ∨
        (appendElsewhere host j c).durable = j.durable.added host c) := by
  have grown := @append_durable host c (.connect j.durable.tables) rfl
  simp only [appendElsewhere, idle]
  refine ⟨trivial, grown.imp (fun same => ?_) fun added => ?_⟩
  · rw [same]
    rfl
  · rw [added]
    rfl

theorem appendTo_idle {j : Connection Spine} (idle : j.working = none) (range : Accepted c → c.created < 2 ^ 63) :
    (appendTo host j c).2.working = none ∧
      ((appendTo host j c).2.durable = j.durable ∨ (appendTo host j c).2.durable = j.durable.added host c) := by
  have none : (⟨j.durable.tables, j.working.map Spine.tables⟩ : Journal).working = none := by rw [idle]; rfl
  have grown := @append_durable host c _ none
  have ended := @append_working host c _ none range
  simp only [appendTo, ended]
  refine ⟨rfl, grown.imp (fun same => ?_) fun added => ?_⟩
  · rw [same]
  · rw [added]
    rfl

theorem topicRows_added (t : Tables) (topic : Option String) :
    ∃ more, topicRows (t.added host c) topic = topicRows t topic ++ more ∧ ∀ row ∈ more, row.seq = t.sequence + 1 := by
  refine ⟨[c.row host (t.sequence + 1)].filter fun row => topic.all (· == row.topic), List.filter_append ..,
    fun row member => ?_⟩
  obtain rfl := List.mem_singleton.mp (List.mem_filter.mp member).1
  rfl

end

/-! ## What a run keeps -/

namespace Delivery

/-- The rows that the consumer has not acknowledged. -/
def ahead (s : Spine) (consumerId : String) (topic : Option String) : List EventRow :=
  (topicRows s.tables topic).filter fun row => decide (s.storedOffset consumerId < row.seq)

structure Tracked (consumerId : String) (topic : Option String) (w : Delivery) : Prop where
  idle : w.db.working = none
  ordered : Ordered w.db.durable.tables
  stored : w.db.durable.storedOffset consumerId = 0 ∨
    ∃ row ∈ topicRows w.db.durable.tables topic, row.seq = w.db.durable.storedOffset consumerId
  last : w.lastAck = w.db.durable.storedOffset consumerId
  acked : w.acked = ((topicRows w.db.durable.tables topic).filter fun row =>
    decide (row.seq ≤ w.db.durable.storedOffset consumerId)).map rowToEvent
  offset : ∀ offset, w.offset = some offset → offset = w.db.durable.storedOffset consumerId
  received : ∀ batch, w.received = some batch →
    ∃ rows, batch = rows.map rowToEvent ∧ rows <+: ahead w.db.durable consumerId topic
  reads : ∀ read ∈ w.reads, ∃ rows, read.2 = rows.map rowToEvent ∧
    rows <+: (ahead w.db.durable consumerId topic).take read.1.toNat
  reread : w.reads.Pairwise fun read read' => read.1 ≤ read'.1 → read.2 <+: read'.2

section
variable {host : Host} {consumerId : String} {topic : Option String} {w : Delivery}

theorem Tracked.start : Tracked consumerId topic start := by
  constructor <;> simp [Delivery.start, Connection.connect, Journal.empty, Spine.storedOffset, lastAck, topicRows,
    Ordered.mk]

theorem Tracked.view (tracked : w.Tracked consumerId topic) : w.db.view = w.db.durable := by
  rw [Connection.view, tracked.idle]
  rfl

theorem Tracked.offset_le (tracked : w.Tracked consumerId topic) :
    w.db.durable.storedOffset consumerId ≤ w.db.durable.tables.sequence ∧
      w.db.durable.storedOffset consumerId ≤ maxSeq w.db.durable.tables := by
  rcases tracked.stored with none | ⟨row, member, same⟩
  · rw [none]
    exact ⟨Nat.zero_le _, Nat.zero_le _⟩
  · have held := (List.mem_filter.mp member).1
    rw [← same]
    exact ⟨(tracked.ordered.given row held).2, le_maxSeq held⟩

theorem Tracked.grow (tracked : w.Tracked consumerId topic) {c : AppendCall} {db : Connection Spine}
    (idle : db.working = none) (grown : db.durable = w.db.durable ∨ db.durable = w.db.durable.added host c) :
    Tracked consumerId topic { w with db := db } := by
  rcases grown with same | added
  · obtain ⟨durable, working⟩ := db
    obtain rfl : durable = w.db.durable := same
    obtain rfl : working = none := idle
    exact ⟨rfl, tracked.ordered, tracked.stored, tracked.last, tracked.acked, tracked.offset, tracked.received,
      tracked.reads, tracked.reread⟩
  · obtain ⟨more, appended, numbered⟩ := @topicRows_added host c w.db.durable.tables topic
    have offset : db.durable.storedOffset consumerId = w.db.durable.storedOffset consumerId := by rw [added]; rfl
    have tables : db.durable.tables = w.db.durable.tables.added host c := by rw [added]; rfl
    have below := tracked.offset_le.1
    have low : more.filter (fun row => decide (row.seq ≤ w.db.durable.storedOffset consumerId)) = [] := by
      refine List.filter_eq_nil_iff.mpr fun row member => ?_
      have := numbered row member
      simp
      omega
    have extended : ahead w.db.durable consumerId topic <+: ahead db.durable consumerId topic := by
      rw [ahead, ahead, offset, tables, appended, List.filter_append]
      exact List.prefix_append ..
    refine ⟨idle, tables ▸ tracked.ordered.added, ?_, ?_, ?_, ?_, ?_, ?_, tracked.reread⟩
    · rw [offset, tables, appended]
      exact tracked.stored.imp_right fun ⟨row, member, same⟩ => ⟨row, List.mem_append_left _ member, same⟩
    · rw [offset]
      exact tracked.last
    · rw [offset, tables, appended, List.filter_append, low, List.append_nil]
      exact tracked.acked
    · rw [offset]
      exact tracked.offset
    · intro batch held
      obtain ⟨rows, same, front⟩ := tracked.received batch held
      exact ⟨rows, same, front.trans extended⟩
    · intro read member
      obtain ⟨rows, same, front⟩ := tracked.reads read member
      exact ⟨rows, same, front.trans (extended.take _)⟩

/-- What the consumer forgets takes nothing from what it has acknowledged. -/
theorem Tracked.forget (tracked : w.Tracked consumerId topic) {offset : Option Nat}
    (known : ∀ value, offset = some value → value = w.db.durable.storedOffset consumerId) :
    Tracked consumerId topic { w with offset := offset, received := none } :=
  ⟨tracked.idle, tracked.ordered, tracked.stored, tracked.last, tracked.acked, known, nofun, tracked.reads,
    tracked.reread⟩

theorem Tracked.readEvents_ok (tracked : w.Tracked consumerId topic) {limit : Int} {batch : List JournalEvent}
    (read : Physiology.readEvents w.db.view.tables (w.db.durable.storedOffset consumerId) limit topic = .ok batch) :
    batch = ((ahead w.db.durable consumerId topic).take limit.toNat).map rowToEvent := by
  unfold Physiology.readEvents at read
  split at read
  · cases read
  split at read
  · cases read
  rw [tracked.view, rowsAfter_ordered tracked.ordered] at read
  rw [← Except.ok.inj read, ahead]
  simp only [Nat.cast_lt]

theorem Tracked.read (tracked : w.Tracked consumerId topic) {limit : Int} {batch : List JournalEvent}
    (same : batch = ((ahead w.db.durable consumerId topic).take limit.toNat).map rowToEvent) :
    Tracked consumerId topic
    { w with offset := none, received := some batch, reads := w.reads ++ [(limit, batch)] } := by
  refine ⟨tracked.idle, tracked.ordered, tracked.stored, tracked.last, tracked.acked, nofun, ?_, ?_, ?_⟩
  · intro other held
    obtain rfl := Option.some.inj held
    exact ⟨_, same, List.take_prefix ..⟩
  · intro read member
    rcases List.mem_append.mp member with earlier | last
    · exact tracked.reads read earlier
    · obtain rfl := List.mem_singleton.mp last
      exact ⟨_, same, List.prefix_refl _⟩
  · refine List.pairwise_append.mpr ⟨tracked.reread, List.pairwise_singleton _ _, fun read member last own => ?_⟩
    obtain rfl := List.mem_singleton.mp own
    obtain ⟨rows, first, front⟩ := tracked.reads read member
    intro larger
    rw [first, same]
    exact (front.trans (List.take_prefix_take_left (Int.toNat_le_toNat larger))).map rowToEvent

theorem Tracked.ack (tracked : w.Tracked consumerId topic) {batch : List JournalEvent} {last : JournalEvent}
    {db : Connection Spine} (received : w.received = some batch) (ends : batch.getLast? = some last)
    (acked : Physiology.ack w.db ⟨consumerId, last.seq⟩ = (.ok (), db)) :
    Tracked consumerId topic ⟨db, none, none, [], w.acked ++ batch⟩ := by
  obtain ⟨rows, same, rest, split⟩ := tracked.received batch received
  obtain ⟨row, endsWith, rfl⟩ : ∃ row, rows.getLast? = some row ∧ rowToEvent row = last := by
    rw [same, List.getLast?_map] at ends
    exact Option.map_eq_some_iff.mp ends
  have written : db = w.db.write (upsertOffset w.db.view ⟨consumerId, (rowToEvent row).seq⟩) := by
    unfold Physiology.ack at acked
    split at acked
    · cases acked
    · exact (Prod.mk.inj acked).2.symm
  have durable : db = ⟨upsertOffset w.db.durable ⟨consumerId, row.seq⟩, none⟩ := by
    rw [written, tracked.view, Connection.write, tracked.idle]
    rfl
  have offset : (upsertOffset w.db.durable ⟨consumerId, row.seq⟩).storedOffset consumerId = row.seq := by
    rw [storedOffset_upsert, if_pos rfl]
    exact Int.toNat_natCast _
  have member : row ∈ topicRows w.db.durable.tables topic :=
    (List.mem_filter.mp (split ▸ List.mem_append_left rest (List.mem_of_getLast? endsWith))).1
  have extended := filter_extend (tracked.ordered.topic topic) split.symm endsWith
  subst durable
  refine ⟨rfl, tracked.ordered, .inr ⟨row, member, offset.symm⟩, ?_, ?_, nofun, nofun, nofun, .nil⟩
  · rw [lastAck, List.getLast?_append, ends]
    exact offset.symm
  · change w.acked ++ batch = ((topicRows w.db.durable.tables topic).filter fun other => decide (other.seq ≤ _)).map
      rowToEvent
    rw [offset, extended, List.map_append, ← tracked.acked, same]

/-- Every event keeps what is known of the deliveries. -/
theorem Tracked.next (tracked : w.Tracked consumerId topic) {e : DeliveryEvent} (range : InRange e) :
    Tracked consumerId topic (w.next host consumerId topic e) := by
  cases e with
  | produce c => exact tracked.grow (appendTo_idle tracked.idle range).1 (appendTo_idle tracked.idle range).2
  | produceElsewhere c => exact tracked.grow (appendElsewhere_idle tracked.idle).1 (appendElsewhere_idle tracked.idle).2
  | readOffset =>
    refine tracked.forget fun value known => ?_
    cases named : validateLabel consumerId "consumer_id" with
    | error e => simp [consumerOffset, named, bind, Except.bind, Except.toOption] at known
    | ok u =>
      simp only [consumerOffset, named, ok_bind] at known
      exact (Option.some.inj known).symm.trans (by rw [tracked.view])
  | readEvents limit =>
    rw [Delivery.next]
    split
    next => exact tracked
    next offset known =>
      obtain rfl := tracked.offset offset known
      split
      next =>
        exact ⟨tracked.idle, tracked.ordered, tracked.stored, tracked.last, tracked.acked, nofun, tracked.received,
          tracked.reads, tracked.reread⟩
      next batch read => exact tracked.read (tracked.readEvents_ok read)
  | ack =>
    rw [Delivery.next]
    split
    next =>
      exact ⟨tracked.idle, tracked.ordered, tracked.stored, tracked.last, tracked.acked, tracked.offset, nofun,
        tracked.reads, tracked.reread⟩
    next last ends =>
      obtain ⟨batch, received, ends⟩ := Option.bind_eq_some_iff.mp ends
      split
      next e db refused =>
        have same : db = w.db := by
          unfold Physiology.ack at refused
          split at refused
          · exact (Prod.mk.inj refused).2.symm
          · cases refused
        rw [same]
        exact tracked.forget nofun
      next db acked =>
        rw [received]
        exact tracked.ack received ends acked
  | crash => exact tracked.forget nofun
  | restart =>
    have forgotten : Tracked consumerId topic { w with offset := none, received := none } := tracked.forget nofun
    exact @Tracked.grow host consumerId topic _ forgotten ⟨"", "", "", [], none, none, none, 0⟩ _ rfl (.inl rfl)

/-- What is known of the deliveries is what the consumer is owed. -/
theorem Tracked.delivered (tracked : w.Tracked consumerId topic) : Delivered consumerId topic w where
  exact := by
    have all : (topicRows w.db.durable.tables topic).filter (fun row => decide ((-1 : Int) < row.seq)) =
        topicRows w.db.durable.tables topic := List.filter_eq_self.mpr fun row _ => by simp; omega
    rw [topicEvents, rowsAfter_ordered tracked.ordered, all, List.filter_map, tracked.last]
    exact tracked.acked
  once := by
    rw [tracked.acked, List.map_map]
    exact List.pairwise_map.mpr ((tracked.ordered.topic topic).filter _)
  reread := tracked.reread
  offset := tracked.offset_le.2

theorem tracked_after (host : Host) (consumerId : String) (topic : Option String) {events : List DeliveryEvent}
    (range : ∀ e ∈ events, InRange e) {w : Delivery} (tracked : w.Tracked consumerId topic) :
    Tracked consumerId topic (events.foldl (next host consumerId topic) w) := by
  induction events generalizing w with
  | nil => exact tracked
  | cons e rest ih =>
    exact ih (fun other member => range other (List.mem_cons_of_mem _ member)) (tracked.next (range e (by simp)))

end

/-- However appends, reads, acknowledgements and crashes interleave, the acknowledged
batches are the events of the topic up to the last acknowledgement, each once, a batch
that is read again begins with the same events, and the offset is at most the largest
number, as long as every append through the journal is in the range of its column. -/
theorem deliveries_exact (host : Host) (consumerId : String) (topic : Option String) (events : List DeliveryEvent)
    (range : ∀ e ∈ events, InRange e) : Delivered consumerId topic (after host consumerId topic events) :=
  (tracked_after host consumerId topic range .start).delivered

theorem deliveries_exact_sample : Delivered "c" (some "t") (after zeroHost "c" (some "t")
    [.produce (sampleAppend (.int 1) 1), .readOffset, .readEvents 10, .ack, .restart, .readOffset,
      .readEvents 10]) := by
  refine deliveries_exact zeroHost "c" (some "t") _ fun e member => ?_
  simp only [List.mem_cons, List.not_mem_nil, or_false] at member
  rcases member with rfl | rfl | rfl | rfl | rfl | rfl | rfl
  · intro _
    simp [AppendCall.created, sampleAppend]
  all_goals trivial

/-- An append out of the range leaves its transaction open, the acknowledgement that
follows is lost with the process, and its event is delivered again. -/
theorem ack_lost_redelivered :
    ¬Delivered "c" (some "t") (after zeroHost "c" (some "t")
      [.produce (sampleAppend (.int 1) 1), .produce { sampleAppend (.int 1) (2 ^ 63) with eventId := "e2" },
        .readOffset, .readEvents 10, .ack, .restart, .readOffset, .readEvents 10, .ack]) := by
  intro delivered
  have twice : (after zeroHost "c" (some "t")
      [.produce (sampleAppend (.int 1) 1), .produce { sampleAppend (.int 1) (2 ^ 63) with eventId := "e2" },
        .readOffset,
        .readEvents 10, .ack, .restart, .readOffset, .readEvents 10, .ack]).acked.map JournalEvent.seq = [1, 1] := by
    decide +kernel
  have once := delivered.once
  rw [twice] at once
  simp at once

end Delivery

end MatVerse.Physiology
