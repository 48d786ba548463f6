import MatVerse.EventConsumers
import MatVerse.PhysiologyEngine

/-! Recovery of the physiology after a restart: a scan of the journal page by page, the
cycles in it that have begun and not ended, and one terminal event for each of them. -/
namespace MatVerse.Physiology

def terminalEventTypes : List String := ["MEMORY_COMMIT", "CYCLE_ABORTED"]

structure IncompleteCycle where
  cycleId : String
  firstSeq : Nat
  lastSeq : Nat
  lastEventId : String
  eventTypes : List String

/-! ## The scan -/

theorem readEvents_page (t : Tables) (after : Nat) (topic : Option String) :
    readEvents t after 10000 topic = .ok (((rowsAfter t after topic).take 10000).map rowToEvent) := by
  rw [readEvents, if_neg (by omega), if_neg (by decide)]
  rfl

theorem mem_rowsAfter {t : Tables} {after : Int} {topic : Option String} {row : EventRow} :
    row ∈ rowsAfter t after topic ↔ row ∈ t.events ∧ after < row.seq ∧ topic.all (· == row.topic) = true := by
  simp [rowsAfter, List.mem_mergeSort]

theorem rowsAfter_fewer {t : Tables} {after : Nat} {topic : Option String} {batch : List JournalEvent}
    {last : JournalEvent} (read : readEvents t after 10000 topic = .ok batch) (ends : batch.getLast? = some last) :
    (rowsAfter t last.seq topic).length < (rowsAfter t after topic).length := by
  obtain rfl := Except.ok.inj ((readEvents_page t after topic).symm.trans read)
  rw [List.getLast?_map] at ends
  obtain ⟨row, found, rfl⟩ := Option.map_eq_some_iff.mp ends
  obtain ⟨member, above, named⟩ := mem_rowsAfter.mp (List.mem_of_mem_take (List.mem_of_getLast? found))
  have later : (t.events.filter fun other => decide ((row.seq : Int) < other.seq) && topic.all (· == other.topic)) =
      (t.events.filter fun other => decide ((after : Int) < other.seq) && topic.all (· == other.topic)).filter
        fun other =>
        decide ((row.seq : Int) < other.seq) := by
    rw [List.filter_filter]
    refine List.filter_congr fun other _ => Bool.eq_iff_iff.mpr ?_
    simp only [Bool.and_eq_true, decide_eq_true_eq]
    exact ⟨fun ⟨large, same⟩ => ⟨large, above.trans large, same⟩, fun ⟨large, _, same⟩ => ⟨large, same⟩⟩
  rw [rowsAfter, rowsAfter, List.length_mergeSort, List.length_mergeSort]
  show (t.events.filter fun other => decide ((row.seq : Int) < other.seq) && topic.all (· == other.topic)).length < _
  rw [later, List.length_filter_lt_length_iff_exists]
  exact ⟨row, List.mem_filter.mpr ⟨member, by simp [above, named]⟩, by simp⟩

def allEvents (t : Tables) (topic : Option String) (after : Nat) : Except JournalError (List JournalEvent) :=
  match _read : readEvents t after 10000 topic with
  | .error e => .error e
  | .ok batch =>
    match _ends : batch.getLast? with
    | none => .ok []
    | some last => (allEvents t topic last.seq).map (batch ++ ·)
termination_by (rowsAfter t after topic).length
decreasing_by exact rowsAfter_fewer _read _ends

/-! ## Incomplete cycles -/

/-- `grouped.setdefault(cycle_id, []).append(event)`, the groups in the order of their
first events. -/
def addToGroup (cycleId : String) (event : JournalEvent) :
    List (String × List JournalEvent) → List (String × List JournalEvent)
  | [] => [(cycleId, [event])]
  | (other, events) :: rest =>
    if other = cycleId then (other, events ++ [event]) :: rest else (other, events) :: addToGroup cycleId event rest

def groupCycles (events : List JournalEvent) : List (String × List JournalEvent) :=
  events.foldl (fun grouped event =>
    match event.correlationId with
    | none => grouped
    | some cycleId => if cycleId = "" then grouped else addToGroup cycleId event grouped) []

/-- The cycle of a group, if it has begun and not ended. -/
def incompleteOf (group : String × List JournalEvent) : Option IncompleteCycle :=
  let ordered := group.2.mergeSort fun event event' => event.seq ≤ event'.seq
  let types := ordered.map JournalEvent.eventType
  if "TICK" ∉ types then none
  else if ordered.any (fun event => terminalEventTypes.contains event.eventType) then none
  else
    match ordered.head?, ordered.getLast? with
    | some first, some last => some ⟨group.1, first.seq, last.seq, last.eventId, types⟩
    | _, _ => none

def findIncompleteCycles (t : Tables) : Except JournalError (List IncompleteCycle) :=
  (allEvents t (some "physiology") 0).map fun events =>
    ((groupCycles events).filterMap incompleteOf).mergeSort fun cycle cycle' => cycle.firstSeq ≤ cycle'.firstSeq

/-! ## Sealing -/

/-- The terminal event of a cycle. -/
def abortCall (reason : String) (cycle : IncompleteCycle) : AppendCall where
  eventId := cycle.cycleId ++ ":aborted"
  topic := "physiology"
  eventType := "CYCLE_ABORTED"
  payload := [("cycle_id", .str cycle.cycleId), ("reason", .str reason), ("first_seq", .int cycle.firstSeq),
    ("last_seq", .int cycle.lastSeq), ("observed_event_types", .arr (cycle.eventTypes.map .str)),
    ("closed", .bool false), ("terminal", .bool true)]
  causationId := some cycle.lastEventId
  correlationId := some cycle.cycleId
  createdNs := none
  timeNs := 0

section
variable (host : Host) (clock : String → TimeNs) (reason : String)

/-- The loop of `seal_incomplete_cycles`. -/
def sealEach : List IncompleteCycle → Journal → Except JournalError (List String) × Journal
  | [], j => (.ok [], j)
  | cycle :: rest, j =>
    match append host j ((abortCall reason cycle).timed (clock cycle.cycleId)) with
    | (.error e, j) => (.error e, j)
    | (.ok event, j) => ((sealEach rest j).1.map (event.eventId :: ·), (sealEach rest j).2)

def sealIncompleteCycles (j : Journal) : Except JournalError (List String) × Journal :=
  if Text.strip reason = "" then (.error (.valueError "reason must be non-empty"), j)
  else
    match findIncompleteCycles j.view with
    | .error e => (.error e, j)
    | .ok cycles => sealEach host clock reason cycles j

end

/-! ## What the scan finds -/

theorem allEvents_last {t : Tables} {topic : Option String} {after : Nat} (empty : rowsAfter t after topic = []) :
    allEvents t topic after = .ok [] := by
  have page := readEvents_page t after topic
  rw [empty] at page
  rw [allEvents]
  split
  next e failed => cases failed.symm.trans page
  next batch read =>
    obtain rfl := Except.ok.inj (page.symm.trans read)
    rfl

theorem allEvents_page {t : Tables} {topic : Option String} {after : Nat} {row : EventRow}
    (ends : ((rowsAfter t after topic).take 10000).getLast? = some row) :
    allEvents t topic after =
      (allEvents t topic row.seq).map ((((rowsAfter t after topic).take 10000).map rowToEvent) ++ ·) := by
  have page := readEvents_page t after topic
  have last : (((rowsAfter t after topic).take 10000).map rowToEvent).getLast? = some (rowToEvent row) := by
    rw [List.getLast?_map, ends]
    rfl
  conv_lhs => rw [allEvents]
  split
  next e failed => cases failed.symm.trans page
  next batch read =>
    obtain rfl := Except.ok.inj (page.symm.trans read)
    split
    next none => cases none.symm.trans last
    next other found =>
      obtain rfl := Option.some.inj (last.symm.trans found)
      rfl

/-- What is left after a page is what the page leaves. -/
theorem rowsAfter_page {t : Tables} (ordered : Ordered t) {topic : Option String} {after : Nat} {row : EventRow}
    (ends : ((rowsAfter t after topic).take 10000).getLast? = some row) :
    (rowsAfter t after topic).take 10000 ++ rowsAfter t row.seq topic = rowsAfter t after topic := by
  have parts : (rowsAfter t after topic).take 10000 ++ (rowsAfter t after topic).drop 10000 = rowsAfter t after topic :=
    List.take_append_drop ..
  simp only [rowsAfter_ordered ordered, Nat.cast_lt] at parts ends ⊢
  have increasing := ordered.topic topic
  have split := filter_split increasing row.seq
  rw [filter_extend increasing parts.symm ends, List.append_assoc] at split
  exact List.append_cancel_left (split.trans (filter_split increasing after).symm)

/-- The scan gives the rows that are left, each once. -/
theorem allEvents_rows {t : Tables} (ordered : Ordered t) (topic : Option String) (after : Nat) :
    allEvents t topic after = .ok ((rowsAfter t after topic).map rowToEvent) := by
  induction after using allEvents.induct t topic with
  | case1 after e read => cases (readEvents_page t after topic).symm.trans read
  | case2 after batch read none =>
    obtain rfl := Except.ok.inj ((readEvents_page t after topic).symm.trans read)
    rw [List.getLast?_eq_none_iff, List.map_eq_nil_iff] at none
    have empty : rowsAfter t after topic = [] := (List.take_eq_nil_iff.mp none).resolve_left (by decide)
    rw [allEvents_last empty, empty]
    rfl
  | case3 after batch read last found ih =>
    obtain rfl := Except.ok.inj ((readEvents_page t after topic).symm.trans read)
    rw [List.getLast?_map] at found
    obtain ⟨row, ends, rfl⟩ := Option.map_eq_some_iff.mp found
    rw [allEvents_page ends, show allEvents t topic row.seq = _ from ih, Except.map, ← List.map_append]
    exact congrArg (fun rows => Except.ok (rows.map rowToEvent)) (rowsAfter_page ordered ends)

/-- From the start the scan gives every row of the topic. -/
theorem allEvents_topic {t : Tables} (ordered : Ordered t) (topic : Option String) :
    allEvents t topic 0 = .ok ((topicRows t topic).map rowToEvent) := by
  rw [allEvents_rows ordered, rowsAfter_ordered ordered]
  have all : (topicRows t topic).filter (fun row => decide (((0 : Nat) : Int) < row.seq)) = topicRows t topic :=
    List.filter_eq_self.mpr fun row member => by
      simpa using (ordered.given row (List.mem_filter.mp member).1).1
  rw [all]

def cycleEvents (events : List JournalEvent) (cycleId : String) : List JournalEvent :=
  events.filter fun event => event.correlationId == some cycleId

/-- Every cycle has one group, with all its events. -/
structure Grouped (events : List JournalEvent) (groups : List (String × List JournalEvent)) : Prop where
  distinct : (groups.map Prod.fst).Nodup
  whole : ∀ group ∈ groups, group.1 ≠ "" ∧ group.2 ≠ [] ∧ group.2 = cycleEvents events group.1
  complete : ∀ event ∈ events, ∀ cycleId, event.correlationId = some cycleId → cycleId ≠ "" →
    cycleId ∈ groups.map Prod.fst

theorem map_addToGroup (cycleId : String) (event : JournalEvent) (groups : List (String × List JournalEvent)) :
    (addToGroup cycleId event groups).map Prod.fst =
      if cycleId ∈ groups.map Prod.fst then groups.map Prod.fst else groups.map Prod.fst ++ [cycleId] := by
  induction groups with
  | nil => rfl
  | cons group rest ih =>
    obtain ⟨other, events⟩ := group
    rw [addToGroup]
    split
    next same => simp [same]
    next apart =>
      have listed : cycleId ∈ other :: rest.map Prod.fst ↔ cycleId ∈ rest.map Prod.fst := by simp [Ne.symm apart]
      simp only [List.map_cons, ih, listed]
      split <;> rfl

theorem mem_addToGroup {cycleId : String} {event : JournalEvent} {groups : List (String × List JournalEvent)}
    (distinct : (groups.map Prod.fst).Nodup) {group : String × List JournalEvent}
    (member : group ∈ addToGroup cycleId event groups) :
    group.1 ≠ cycleId ∧ group ∈ groups ∨
      group.1 = cycleId ∧ (group.2 = [event] ∧ cycleId ∉ groups.map Prod.fst ∨
        ∃ events, (cycleId, events) ∈ groups ∧ group.2 = events ++ [event]) := by
  induction groups with
  | nil =>
    obtain rfl := List.mem_singleton.mp member
    exact .inr ⟨rfl, .inl ⟨rfl, List.not_mem_nil⟩⟩
  | cons first rest ih =>
    obtain ⟨other, events⟩ := first
    obtain ⟨fresh, others⟩ := List.nodup_cons.mp distinct
    rw [addToGroup] at member
    split at member
    next same =>
      obtain rfl : other = cycleId := same
      rcases List.mem_cons.mp member with rfl | later
      · exact .inr ⟨rfl, .inr ⟨events, List.mem_cons_self, rfl⟩⟩
      · refine .inl ⟨fun named => fresh (List.mem_map.mpr ⟨group, later, named⟩), List.mem_cons_of_mem _ later⟩
    next apart =>
      rcases List.mem_cons.mp member with rfl | later
      · exact .inl ⟨apart, List.mem_cons_self⟩
      · rcases ih others later with ⟨named, held⟩ | ⟨named, ⟨single, absent⟩ | ⟨earlier, held, grown⟩⟩
        · exact .inl ⟨named, List.mem_cons_of_mem _ held⟩
        · exact .inr ⟨named, .inl ⟨single, fun listed => (List.mem_cons.mp listed).elim (apart ·.symm) absent⟩⟩
        · exact .inr ⟨named, .inr ⟨earlier, List.mem_cons_of_mem _ held, grown⟩⟩

theorem Grouped.add {events : List JournalEvent} {groups : List (String × List JournalEvent)}
    (grouped : Grouped events groups) {event : JournalEvent} {cycleId : String}
    (named : event.correlationId = some cycleId) (nonempty : cycleId ≠ "") :
    Grouped (events ++ [event]) (addToGroup cycleId event groups) := by
  have keys := map_addToGroup cycleId event groups
  refine ⟨?_, fun group member => ?_, fun other member otherId correlated filled => ?_⟩
  · rw [keys]
    split
    next => exact grouped.distinct
    next absent => exact List.Nodup.append grouped.distinct (List.nodup_singleton _) (by simpa using absent)
  · rcases mem_addToGroup grouped.distinct member with ⟨apart, held⟩ | ⟨same, ⟨single, absent⟩ | ⟨earlier, held, grown⟩⟩
    · obtain ⟨filled, some, whole⟩ := grouped.whole group held
      have foreign : (event.correlationId == Option.some group.1) = false := by simpa [named] using Ne.symm apart
      exact ⟨filled, some, by rw [whole, cycleEvents, cycleEvents, List.filter_append]; simp [foreign]⟩
    · have none : cycleEvents events cycleId = [] := by
        refine List.filter_eq_nil_iff.mpr fun other member correlated => absent ?_
        exact grouped.complete other member cycleId (by simpa using correlated) nonempty
      refine ⟨same ▸ nonempty, by simp [single], ?_⟩
      rw [same, single, cycleEvents, List.filter_append, ← cycleEvents, none]
      simp [named]
    · obtain ⟨_, _, whole⟩ := grouped.whole _ held
      refine ⟨same ▸ nonempty, by simp [grown], ?_⟩
      rw [same, grown, cycleEvents, List.filter_append, ← cycleEvents, ← whole]
      simp [named]
  · rw [keys]
    rcases List.mem_append.mp member with earlier | last
    · have listed := grouped.complete other earlier otherId correlated filled
      split
      · exact listed
      · exact List.mem_append_left _ listed
    · obtain rfl := List.mem_singleton.mp last
      obtain rfl := Option.some.inj (named.symm.trans correlated)
      split
      · assumption
      · simp

theorem Grouped.skip {events : List JournalEvent} {groups : List (String × List JournalEvent)}
    (grouped : Grouped events groups) {event : JournalEvent} (unnamed : ∀ cycleId, event.correlationId = some cycleId →
      cycleId = "") :
    Grouped (events ++ [event]) groups := by
  refine ⟨grouped.distinct, fun group member => ?_, fun other member cycleId correlated filled => ?_⟩
  · obtain ⟨filled, some, whole⟩ := grouped.whole group member
    have foreign : (event.correlationId == Option.some group.1) = false := by
      simpa using fun named => filled (unnamed group.1 named)
    exact ⟨filled, some, by rw [whole, cycleEvents, cycleEvents, List.filter_append]; simp [foreign]⟩
  · rcases List.mem_append.mp member with earlier | last
    · exact grouped.complete other earlier cycleId correlated filled
    · obtain rfl := List.mem_singleton.mp last
      exact absurd (unnamed cycleId correlated) filled

theorem grouped_groupCycles (events : List JournalEvent) : Grouped events (groupCycles events) := by
  induction events using List.reverseRecOn with
  | nil => exact ⟨.nil, by simp [groupCycles], by simp⟩
  | append_singleton events event ih =>
    rw [groupCycles, List.foldl_append, ← groupCycles, List.foldl_cons, List.foldl_nil]
    split
    next none => exact ih.skip (by simp [none])
    next cycleId named =>
      split
      next empty => exact ih.skip fun other same => (Option.some.inj (named.symm.trans same)).symm.trans empty
      next filled => exact ih.add named filled

/-- A cycle that has begun and not ended. -/
def Incomplete (t : Tables) (cycleId : String) : Prop :=
  cycleId ≠ "" ∧
    (∃ row ∈ t.events, row.topic = "physiology" ∧ row.correlationId = some cycleId ∧ row.eventType = "TICK") ∧
    ∀ row ∈ t.events, row.topic = "physiology" → row.correlationId = some cycleId → row.eventType ∉ terminalEventTypes

/-- A group gives its cycle exactly when its events have a tick and no terminal event. -/
theorem incompleteOf_isSome {group : String × List JournalEvent} : (incompleteOf group).isSome = true ↔
    (∃ event ∈ group.2, event.eventType = "TICK") ∧ ∀ event ∈ group.2, event.eventType ∉ terminalEventTypes := by
  have perm := List.mergeSort_perm group.2 fun event event' => decide (event.seq ≤ event'.seq)
  unfold incompleteOf
  generalize group.2.mergeSort (fun event event' => decide (event.seq ≤ event'.seq)) = ordered at perm
  simp only [← perm.mem_iff]
  split
  next absent =>
    refine iff_of_false nofun fun ⟨⟨event, member, ticked⟩, _⟩ => absent ?_
    exact List.mem_map.mpr ⟨event, member, ticked⟩
  next present =>
    obtain ⟨event, member, ticked⟩ := List.mem_map.mp (not_not.mp present)
    split
    next ended =>
      obtain ⟨other, held, terminal⟩ := List.any_eq_true.mp ended
      exact iff_of_false nofun fun ⟨_, unended⟩ => unended other held (List.contains_iff_mem.mp terminal)
    next going =>
      have first := List.head?_eq_some_head (List.ne_nil_of_mem member)
      have last := List.getLast?_eq_some_getLast (List.ne_nil_of_mem member)
      simp only [first, last]
      refine iff_of_true rfl ⟨⟨event, member, ticked⟩, fun other held terminal => going ?_⟩
      exact List.any_eq_true.mpr ⟨other, held, List.contains_iff_mem.mpr terminal⟩

theorem incompleteOf_named {group : String × List JournalEvent} {cycle : IncompleteCycle}
    (found : incompleteOf group = some cycle) : cycle.cycleId = group.1 := by
  simp only [incompleteOf] at found
  split at found
  · cases found
  split at found
  · cases found
  split at found
  · obtain rfl := Option.some.inj found
    rfl
  · cases found

theorem cycleIds_sublist (groups : List (String × List JournalEvent)) :
    ((groups.filterMap incompleteOf).map IncompleteCycle.cycleId).Sublist (groups.map Prod.fst) := by
  induction groups with
  | nil => exact .slnil
  | cons group rest ih =>
    cases found : incompleteOf group with
    | none =>
      rw [List.filterMap_cons_none found]
      exact ih.cons _
    | some cycle =>
      rw [List.filterMap_cons_some found, List.map_cons, List.map_cons, incompleteOf_named found]
      exact ih.cons_cons _

theorem mem_cycleIds {groups : List (String × List JournalEvent)} {cycleId : String} :
    cycleId ∈ (groups.filterMap incompleteOf).map IncompleteCycle.cycleId ↔
      ∃ group ∈ groups, group.1 = cycleId ∧ (incompleteOf group).isSome = true := by
  constructor
  · intro listed
    obtain ⟨cycle, member, rfl⟩ := List.mem_map.mp listed
    obtain ⟨group, held, found⟩ := List.mem_filterMap.mp member
    exact ⟨group, held, (incompleteOf_named found).symm, by rw [found]; rfl⟩
  · rintro ⟨group, held, rfl, some⟩
    obtain ⟨cycle, found⟩ := Option.isSome_iff_exists.mp some
    exact List.mem_map.mpr ⟨cycle, List.mem_filterMap.mpr ⟨group, held, found⟩, incompleteOf_named found⟩

theorem mem_cycleEvents {t : Tables} {cycleId : String} {event : JournalEvent} :
    event ∈ cycleEvents ((topicRows t (some "physiology")).map rowToEvent) cycleId ↔
      ∃ row ∈ t.events, row.topic = "physiology" ∧ row.correlationId = some cycleId ∧ rowToEvent row = event := by
  simp only [cycleEvents, topicRows, List.mem_filter, List.mem_map, Option.all_some, beq_iff_eq]
  constructor
  · rintro ⟨⟨row, ⟨member, named⟩, rfl⟩, correlated⟩
    exact ⟨row, member, named.symm, correlated, rfl⟩
  · rintro ⟨row, member, named, correlated, rfl⟩
    exact ⟨⟨row, ⟨member, named.symm⟩, rfl⟩, correlated⟩

/-- The groups of a journal that give a cycle are those of its incomplete cycles. -/
theorem Grouped.incomplete {t : Tables} {groups : List (String × List JournalEvent)}
    (grouped : Grouped ((topicRows t (some "physiology")).map rowToEvent) groups) (cycleId : String) :
    (∃ group ∈ groups, group.1 = cycleId ∧ (incompleteOf group).isSome = true) ↔ Incomplete t cycleId := by
  constructor
  · rintro ⟨group, member, rfl, found⟩
    obtain ⟨filled, -, whole⟩ := grouped.whole group member
    obtain ⟨⟨event, held, ticked⟩, unended⟩ := incompleteOf_isSome.mp found
    rw [whole] at held unended
    obtain ⟨row, written, named, correlated, rfl⟩ := mem_cycleEvents.mp held
    refine ⟨filled, ⟨row, written, named, correlated, ticked⟩, fun other written named correlated => ?_⟩
    exact unended (rowToEvent other) (mem_cycleEvents.mpr ⟨other, written, named, correlated, rfl⟩)
  · rintro ⟨filled, ⟨row, written, named, correlated, ticked⟩, unended⟩
    have own : rowToEvent row ∈ cycleEvents ((topicRows t (some "physiology")).map rowToEvent) cycleId :=
      mem_cycleEvents.mpr ⟨row, written, named, correlated, rfl⟩
    obtain ⟨group, member, rfl⟩ := List.mem_map.mp
      (grouped.complete _ (List.mem_filter.mp own).1 cycleId correlated filled)
    obtain ⟨-, -, whole⟩ := grouped.whole group member
    refine ⟨group, member, rfl, incompleteOf_isSome.mpr ⟨⟨rowToEvent row, whole ▸ own, ticked⟩, fun event held => ?_⟩⟩
    rw [whole] at held
    obtain ⟨other, written, named, correlated, rfl⟩ := mem_cycleEvents.mp held
    exact unended other written named correlated

/-- The scan finds every incomplete cycle once, and no other. -/
theorem findIncompleteCycles_exact {t : Tables} (ordered : Ordered t) : ∃ cycles, findIncompleteCycles t = .ok cycles ∧
    (cycles.map IncompleteCycle.cycleId).Nodup ∧ ∀ cycleId, cycleId ∈ cycles.map IncompleteCycle.cycleId ↔
    Incomplete t cycleId := by
  rw [findIncompleteCycles, allEvents_topic ordered]
  have grouped := grouped_groupCycles ((topicRows t (some "physiology")).map rowToEvent)
  have perm := (List.mergeSort_perm
    ((groupCycles ((topicRows t (some "physiology")).map rowToEvent)).filterMap incompleteOf)
    fun cycle cycle' => decide (cycle.firstSeq ≤ cycle'.firstSeq)).map IncompleteCycle.cycleId
  refine ⟨_, rfl, perm.nodup_iff.mpr (grouped.distinct.sublist (cycleIds_sublist _)), fun cycleId => ?_⟩
  rw [perm.mem_iff, mem_cycleIds, grouped.incomplete]

end MatVerse.Physiology
