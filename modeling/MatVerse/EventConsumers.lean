import MatVerse.EventJournal
import Mathlib.Data.List.Sort
import Mathlib.Logic.Function.Basic

/-! Consumers of the durable journal: limited reads of its events in order, and one
stored offset for each consumer. The check of an offset and its update are statements
of their own, so that other processes may come between them. -/
namespace MatVerse.Physiology

open Fallible

/-- The tables of a journal, with `consumer_offsets`. -/
structure Spine where
  tables : Tables
  consumerOffsets : List (String × Nat)
  deriving DecidableEq

/-! ## Reads -/

/-- The rows after a sequence number, of one topic or of all, in order. -/
def rowsAfter (t : Tables) (afterSeq : Int) (topic : Option String) : List EventRow :=
  (t.events.filter fun row => decide (afterSeq < row.seq) && topic.all (· == row.topic)).mergeSort fun row row' =>
    row.seq ≤ row'.seq

def readEvents (t : Tables) (afterSeq limit : Int) (topic : Option String) : Except JournalError (List JournalEvent) :=
  if afterSeq < 0 then .error (.valueError "after_seq must be >= 0")
  else if limit < 1 ∨ 10000 < limit then .error (.valueError "limit must be between 1 and 10000")
  else .ok (((rowsAfter t afterSeq topic).take limit.toNat).map rowToEvent)

/-- The offset in the table, zero when there is none. -/
def Spine.storedOffset (s : Spine) (consumerId : String) : Nat :=
  (Dict.get? (Text.strip consumerId) s.consumerOffsets).getD 0

def consumerOffset (s : Spine) (consumerId : String) : Except JournalError Nat := do
  validateLabel consumerId "consumer_id"
  return s.storedOffset consumerId

/-! ## Rows in order -/

/-- The rows have increasing numbers, up to the last one given. -/
structure Ordered (t : Tables) : Prop where
  increasing : t.events.Pairwise fun row row' => row.seq < row'.seq
  given : ∀ row ∈ t.events, 0 < row.seq ∧ row.seq ≤ t.sequence

def topicRows (t : Tables) (topic : Option String) : List EventRow :=
  t.events.filter fun row => topic.all (· == row.topic)

theorem rowsAfter_ordered {t : Tables} (ordered : Ordered t) (afterSeq : Int) (topic : Option String) :
    rowsAfter t afterSeq topic = (topicRows t topic).filter fun row => decide (afterSeq < row.seq) := by
  rw [rowsAfter, topicRows, List.filter_filter]
  refine List.mergeSort_of_pairwise ((ordered.increasing.filter _).imp fun less => ?_)
  simpa using less.le

theorem Ordered.topic {t : Tables} (ordered : Ordered t) (topic : Option String) :
    (topicRows t topic).Pairwise fun row row' => row.seq < row'.seq := ordered.increasing.filter _

section
variable {α : Type} {key : α → Nat} {items : List α}

theorem filter_split (increasing : items.Pairwise fun a b => key a < key b) (bound : Nat) :
    (items.filter fun a => decide (key a ≤ bound)) ++ (items.filter fun a => decide (bound < key a)) = items := by
  induction items with
  | nil => rfl
  | cons a rest ih =>
    obtain ⟨above, others⟩ := List.pairwise_cons.mp increasing
    by_cases within : key a ≤ bound
    · rw [List.filter_cons_of_pos (by simpa using within), List.filter_cons_of_neg (by simpa using within),
        List.cons_append, ih others]
    · have none : rest.filter (fun b => decide (key b ≤ bound)) = [] :=
        List.filter_eq_nil_iff.mpr fun b member => by have := above b member; simp; omega
      rw [List.filter_cons_of_neg (by simpa using within), List.filter_cons_of_pos (by simpa using within), none,
        List.nil_append]
      refine congrArg (a :: ·) (List.filter_eq_self.mpr fun b member => ?_)
      have := above b member
      simp
      omega

/-- What comes after a bound begins with a batch, so the items up to its last one are
those up to the bound and the batch. -/
theorem filter_extend (increasing : items.Pairwise fun a b => key a < key b) {bound : Nat} {batch rest : List α}
    {last : α} (split : (items.filter fun a => decide (bound < key a)) = batch ++ rest)
    (ends : batch.getLast? = some last) :
    (items.filter fun a => decide (key a ≤ key last)) = (items.filter fun a => decide (key a ≤ bound)) ++ batch := by
  obtain ⟨front, rfl⟩ := List.getLast?_eq_some_iff.mp ends
  have above : bound < key last := by
    have member : last ∈ items.filter fun a => decide (bound < key a) := by simp [split]
    simpa using (List.mem_filter.mp member).2
  have sorted := increasing.filter fun a => decide (bound < key a)
  rw [split, List.append_assoc, List.pairwise_append] at sorted
  obtain ⟨-, others, across⟩ := sorted
  have later : rest.filter (fun a => decide (key a ≤ key last)) = [] := by
    refine List.filter_eq_nil_iff.mpr fun a member => ?_
    have := (List.pairwise_cons.mp others).1 a member
    simp
    omega
  have earlier : (front ++ [last]).filter (fun a => decide (key a ≤ key last)) = front ++ [last] := by
    refine List.filter_eq_self.mpr fun a member => ?_
    rcases List.mem_append.mp member with before | own
    · have := across a before last (by simp)
      simp
      omega
    · obtain rfl := List.mem_singleton.mp own
      simp
  have low : (items.filter fun a => decide (key a ≤ bound)).filter (fun a => decide (key a ≤ key last)) =
      items.filter fun a => decide (key a ≤ bound) := by
    refine List.filter_eq_self.mpr fun a member => ?_
    have := (List.mem_filter.mp member).2
    simp at this ⊢
    omega
  conv_lhs => rw [← filter_split increasing bound, split, List.filter_append, List.filter_append, low, earlier, later,
    List.append_nil]

end

theorem Ordered.added {host : Host} {c : AppendCall} {t : Tables} (ordered : Ordered t) : Ordered (t.added host c) where
  increasing := by
    refine List.pairwise_append.mpr ⟨ordered.increasing, List.pairwise_singleton _ _, fun row member last own => ?_⟩
    obtain rfl := List.mem_singleton.mp own
    exact Nat.lt_succ_of_le (ordered.given row member).2
  given := by
    intro row member
    rcases List.mem_append.mp member with earlier | last
    · exact ⟨(ordered.given row earlier).1, (ordered.given row earlier).2.trans (Nat.le_succ _)⟩
    · obtain rfl := List.mem_singleton.mp last
      exact ⟨Nat.succ_pos _, Nat.le_refl _⟩

/-! ## Acknowledgements -/

structure AckCall where
  consumerId : String
  seq : Int
  deriving DecidableEq

def validateAck (c : AckCall) : Except JournalError Unit := do
  validateLabel c.consumerId "consumer_id"
  if c.seq < 0 then .error (.valueError "seq must be >= 0") else .ok ()

/-- `COALESCE(MAX(seq), 0)`. -/
def maxSeq (t : Tables) : Nat := (t.events.map EventRow.seq).foldl max 0

/-- The first statement of `ack`, and its check. -/
def checkMax (s : Spine) (c : AckCall) : Except JournalError Unit :=
  if (maxSeq s.tables : Int) < c.seq then .error (.valueError "cannot ack a sequence that does not exist") else .ok ()

/-- The second statement, and its check. -/
def checkOffset (s : Spine) (c : AckCall) : Except JournalError Unit :=
  if c.seq < s.storedOffset c.consumerId then .error (.valueError "consumer offsets are monotonic") else .ok ()

/-- The third statement, an upsert. -/
def upsertOffset (s : Spine) (c : AckCall) : Spine :=
  { s with consumerOffsets := Dict.insert (Text.strip c.consumerId) c.seq.toNat s.consumerOffsets }

/-- `ack` with no other process between its statements. -/
def ack (j : Connection Spine) (c : AckCall) : Except JournalError Unit × Connection Spine :=
  match (do validateAck c; checkMax j.view c; checkOffset j.view c : Except JournalError Unit) with
  | .error e => (.error e, j)
  | .ok () => (.ok (), j.write (upsertOffset j.view c))

theorem le_maxSeq {t : Tables} {row : EventRow} (member : row ∈ t.events) : row.seq ≤ maxSeq t := by
  have bound (seqs : List Nat) (start : Nat) : start ≤ seqs.foldl max start ∧ ∀ n ∈ seqs, n ≤ seqs.foldl max start := by
    induction seqs generalizing start with
    | nil => simp
    | cons n rest ih =>
      obtain ⟨first, others⟩ := ih (max start n)
      refine ⟨(le_max_left start n).trans first, fun m listed => ?_⟩
      rcases List.mem_cons.mp listed with rfl | listed
      · exact (le_max_right start m).trans first
      · exact others m listed
  exact (bound _ 0).2 _ (List.mem_map_of_mem member)

theorem storedOffset_upsert (s : Spine) (c : AckCall) (consumerId : String) :
    (upsertOffset s c).storedOffset consumerId =
      if Text.strip consumerId = Text.strip c.consumerId then c.seq.toNat else s.storedOffset consumerId := by
  rw [Spine.storedOffset, upsertOffset, Dict.get?_insert]
  split <;> rfl

theorem validateAck_ok {c : AckCall} : validateAck c = .ok () ↔ Text.strip c.consumerId ≠ "" ∧ 0 ≤ c.seq := by
  simp only [validateAck, check_ok, validateLabel_ok]
  refine and_congr_right fun _ => ?_
  split
  next negative => exact iff_of_false nofun (not_le.mpr negative)
  next nonneg => exact iff_of_true rfl (not_lt.mp nonneg)

theorem checkOffset_ok {s : Spine} {c : AckCall} : checkOffset s c = .ok () ↔
    (s.storedOffset c.consumerId : Int) ≤ c.seq := by
  unfold checkOffset
  split
  next below => exact iff_of_false nofun (not_le.mpr below)
  next above => exact iff_of_true rfl (not_lt.mp above)

/-! ## Processes that acknowledge on one file -/

/-- How far the call of a process has come. -/
inductive Progress where
  | idle
  | called (c : AckCall)
  | bounded (c : AckCall)
  | checked (c : AckCall)
  | written (c : AckCall)

def Progress.number : Progress → Option Int
  | .idle => none
  | .called c | .bounded c | .checked c | .written c => some c.seq

structure Processes where
  spine : Spine
  progress : Nat → Progress
  /-- Since the call of the process read the offset, a larger one was written. -/
  overtaken : Nat → Bool

inductive AckEvent where
  | call (process : Nat) (c : AckCall)
  /-- The next statement of the process, or its return. -/
  | statement (process : Nat)
  /-- A statement that is refused because the file is locked, or the end of the process. -/
  | fail (process : Nat)

def overtakes (c : AckCall) : Progress → Bool
  | .checked d => Text.strip d.consumerId == Text.strip c.consumerId && decide (d.seq < c.seq)
  | _ => false

namespace Processes

def start (s : Spine) : Processes := ⟨s, fun _ => .idle, fun _ => false⟩

def moved (w : Processes) (process : Nat) (p : Progress) : Processes :=
  { w with progress := Function.update w.progress process p }

/-- A statement and its check; a call whose check fails raises. -/
def passes (w : Processes) (process : Nat) (check : Except JournalError Unit) (p : Progress) : Processes :=
  match check with
  | .ok () => w.moved process p
  | .error _ => w.moved process .idle

def next (w : Processes) : AckEvent → Processes
  | .call process c =>
    match w.progress process with
    | .idle => w.passes process (validateAck c) (.called c)
    | _ => w
  | .statement process =>
    match w.progress process with
    | .idle => w
    | .called c => w.passes process (checkMax w.spine c) (.bounded c)
    | .bounded c =>
      { w.passes process (checkOffset w.spine c) (.checked c) with
        overtaken := Function.update w.overtaken process false }
    | .checked c =>
      { w.moved process (.written c) with
        spine := upsertOffset w.spine c
        overtaken := fun other => w.overtaken other || overtakes c (w.progress other) }
    | .written _ => w.moved process .idle
  | .fail process => w.moved process .idle

/-- What an event must do: no offset decreases, and a call that returns leaves at least
its own number. -/
structure Lawful (w : Processes) (e : AckEvent) : Prop where
  monotone : ∀ consumerId, w.spine.storedOffset consumerId ≤ (w.next e).spine.storedOffset consumerId
  returned : ∀ process c, e = .statement process → w.progress process = .written c →
    c.seq ≤ (w.next e).spine.storedOffset c.consumerId

def LawfulRun (w : Processes) : List AckEvent → Prop
  | [] => True
  | e :: rest => w.Lawful e ∧ (w.next e).LawfulRun rest

/-- No call writes after it was overtaken. -/
def Undisturbed (w : Processes) (e : AckEvent) : Prop :=
  ∀ process c, e = .statement process → w.progress process = .checked c → w.overtaken process = false

def UndisturbedRun (w : Processes) : List AckEvent → Prop
  | [] => True
  | e :: rest => w.Undisturbed e ∧ (w.next e).UndisturbedRun rest

/-- What the calls in progress know of the stored offsets. -/
structure Paced (w : Processes) : Prop where
  nonneg : ∀ process seq, (w.progress process).number = some seq → 0 ≤ seq
  fresh : ∀ process c, w.progress process = .checked c → w.overtaken process = false →
    (w.spine.storedOffset c.consumerId : Int) ≤ c.seq
  stale : ∀ process c, w.progress process = .checked c → w.overtaken process = true →
    c.seq < w.spine.storedOffset c.consumerId
  returned : ∀ process c, w.progress process = .written c → c.seq ≤ w.spine.storedOffset c.consumerId

theorem Paced.start (s : Spine) : (start s).Paced := by
  constructor <;> intro _ _ at_start <;> cases at_start

theorem progress_moved (w : Processes) (process : Nat) (p : Progress) (other : Nat) :
    (w.moved process p).progress other = if other = process then p else w.progress other :=
  Function.update_apply ..

/-- A process moves on, the others and the offsets stay. -/
theorem Paced.moved {w : Processes} (paced : w.Paced) (process : Nat) {p : Progress} {overtaken : Nat → Bool}
    (others : ∀ other, other ≠ process → overtaken other = w.overtaken other)
    (nonneg : ∀ seq, p.number = some seq → 0 ≤ seq)
    (fresh : ∀ c, p = .checked c → overtaken process = false ∧ (w.spine.storedOffset c.consumerId : Int) ≤ c.seq)
    (returned : ∀ c, p = .written c → c.seq ≤ w.spine.storedOffset c.consumerId) :
    Paced { w.moved process p with overtaken := overtaken } := by
  have place {other : Nat} {q : Progress} (reached : (w.moved process p).progress other = q) :
      other = process ∧ p = q ∨ other ≠ process ∧ w.progress other = q := by
    rw [progress_moved] at reached
    split at reached
    next same => exact .inl ⟨same, reached⟩
    next apart => exact .inr ⟨apart, reached⟩
  refine ⟨fun other seq number => ?_, fun other c reached unmarked => ?_, fun other c reached marked => ?_,
    fun other c reached => ?_⟩
  · rcases place rfl with ⟨-, same⟩ | ⟨-, same⟩
    · exact nonneg seq (same ▸ number)
    · exact paced.nonneg other seq (same ▸ number)
  · rcases place reached with ⟨-, same⟩ | ⟨apart, same⟩
    · exact (fresh c same).2
    · exact paced.fresh other c same ((others other apart).symm.trans unmarked)
  · rcases place reached with ⟨rfl, same⟩ | ⟨apart, same⟩
    · exact absurd ((fresh c same).1.symm.trans marked) (by simp)
    · exact paced.stale other c same ((others other apart).symm.trans marked)
  · rcases place reached with ⟨-, same⟩ | ⟨-, same⟩
    · exact returned c same
    · exact paced.returned other c same

theorem Paced.idle {w : Processes} (paced : w.Paced) (process : Nat) : Paced (w.moved process .idle) :=
  paced.moved process (fun _ _ => rfl) nofun nofun nofun

theorem Paced.passes {w : Processes} (paced : w.Paced) (process : Nat) {check : Except JournalError Unit} {p : Progress}
    (passed : check = .ok () → Paced (w.moved process p)) : Paced (w.passes process check p) := by
  unfold Processes.passes
  split
  · exact passed rfl
  · exact paced.idle process

theorem spine_passes (w : Processes) (process : Nat) (check : Except JournalError Unit) (p : Progress) :
    (w.passes process check p).spine = w.spine := by
  unfold Processes.passes
  split <;> rfl

theorem spine_next (w : Processes) (e : AckEvent) : (w.next e).spine = w.spine ∨
    ∃ process c, e = .statement process ∧ w.progress process = .checked c ∧
    (w.next e).spine = upsertOffset w.spine c := by
  cases e with
  | call process c =>
    rw [next]
    split
    · exact .inl (spine_passes ..)
    · exact .inl rfl
  | statement process =>
    rw [next]
    split
    next => exact .inl rfl
    next => exact .inl (spine_passes ..)
    next => exact .inl (spine_passes ..)
    next c at_checked => exact .inr ⟨process, c, rfl, at_checked, rfl⟩
    next => exact .inl rfl
  | fail => exact .inl rfl

/-- An event is lawful exactly when it is not the write of an overtaken call. -/
theorem Paced.lawful_iff {w : Processes} (paced : w.Paced) (e : AckEvent) : w.Lawful e ↔ w.Undisturbed e := by
  constructor
  · rintro lawful process c rfl at_checked
    cases marked : w.overtaken process with
    | false => rfl
    | true =>
      have below := paced.stale process c at_checked marked
      have kept := lawful.monotone c.consumerId
      have nonneg := paced.nonneg process c.seq (by rw [at_checked]; rfl)
      have written : (w.next (.statement process)).spine = upsertOffset w.spine c := by simp only [next, at_checked]
      rw [written, storedOffset_upsert, if_pos rfl] at kept
      omega
  · intro undisturbed
    constructor
    · intro consumerId
      rcases spine_next w e with same | ⟨process, c, rfl, at_checked, written⟩
      · rw [same]
      · have above := paced.fresh process c at_checked (undisturbed process c rfl at_checked)
        rw [written, storedOffset_upsert]
        split
        next named =>
          have shared : w.spine.storedOffset consumerId = w.spine.storedOffset c.consumerId := by
            rw [Spine.storedOffset, Spine.storedOffset, named]
          omega
        next => exact Nat.le_refl _
    · rintro process c rfl at_written
      have same : (w.next (.statement process)).spine = w.spine := by simp only [next, at_written]; rfl
      rw [same]
      exact paced.returned process c at_written

theorem Paced.write {w : Processes} (paced : w.Paced) {process : Nat} {c : AckCall}
    (at_checked : w.progress process = .checked c) (lawful : w.Lawful (.statement process)) :
    Paced (w.next (.statement process)) := by
  have nonneg := paced.nonneg process c.seq (by rw [at_checked]; rfl)
  have kept := lawful.monotone
  have after : w.next (.statement process) = { w.moved process (.written c) with
      spine := upsertOffset w.spine c
      overtaken := fun other => w.overtaken other || overtakes c (w.progress other) } := by
    simp only [next, at_checked]
  rw [after] at kept ⊢
  have place {other : Nat} {q : Progress} (reached : (w.moved process (.written c)).progress other = q) :
      .written c = q ∨ w.progress other = q := by
    rw [progress_moved] at reached
    split at reached
    · exact .inl reached
    · exact .inr reached
  have own : (upsertOffset w.spine c).storedOffset c.consumerId = c.seq.toNat := by
    rw [storedOffset_upsert, if_pos rfl]
  refine ⟨fun other seq number => ?_, fun other d reached unmarked => ?_, fun other d reached marked => ?_,
    fun other d reached => ?_⟩
  · rcases place rfl with same | same
    · obtain rfl := Option.some.inj ((congrArg Progress.number same).trans number)
      exact nonneg
    · exact paced.nonneg other seq (same ▸ number)
  · rcases place reached with same | same
    · cases same
    · obtain ⟨before, alone⟩ := Bool.or_eq_false_iff.mp unmarked
      have above := paced.fresh other d same before
      simp only [overtakes, same, Bool.and_eq_false_imp, beq_iff_eq, decide_eq_false_iff_not] at alone
      simp only [storedOffset_upsert]
      split
      next named =>
        have larger := alone named
        omega
      next => exact above
  · rcases place reached with same | same
    · cases same
    · rcases Bool.or_eq_true_iff.mp marked with before | now
      · have below := paced.stale other d same before
        have grown := kept d.consumerId
        simp only at grown ⊢
        omega
      · simp only [overtakes, same, Bool.and_eq_true, beq_iff_eq, decide_eq_true_eq] at now
        simp only [storedOffset_upsert, now.1, if_true]
        omega
  · rcases place reached with same | same
    · obtain rfl := Progress.written.inj same
      simp only [own]
      omega
    · have below := paced.returned other d same
      have grown := kept d.consumerId
      simp only at grown ⊢
      omega

/-- A lawful event leaves calls that know of the offsets. -/
theorem Paced.next {w : Processes} (paced : w.Paced) {e : AckEvent} (lawful : w.Lawful e) : Paced (w.next e) := by
  cases e with
  | call process c =>
    rw [Processes.next]
    split
    next =>
      refine paced.passes process fun valid => paced.moved process (fun _ _ => rfl) (fun seq number => ?_) nofun nofun
      obtain rfl := Option.some.inj number
      exact (validateAck_ok.mp valid).2
    next => exact paced
  | statement process =>
    cases reached : w.progress process with
    | idle => simpa only [Processes.next, reached] using paced
    | called c =>
      simp only [Processes.next, reached]
      refine paced.passes process fun _ => paced.moved process (fun _ _ => rfl) (fun seq number => ?_) nofun nofun
      exact paced.nonneg process seq (by rw [reached]; exact number)
    | bounded c =>
      have others (other : Nat) (apart : other ≠ process) :
          Function.update w.overtaken process false other = w.overtaken other := Function.update_of_ne apart ..
      simp only [Processes.next, reached, Processes.passes]
      split
      next passed =>
        refine paced.moved process others (fun seq number => ?_) (fun d same => ?_) nofun
        · exact paced.nonneg process seq (by rw [reached]; exact number)
        · obtain rfl := Progress.checked.inj same
          exact ⟨Function.update_self .., checkOffset_ok.mp passed⟩
      next => exact paced.moved process others nofun nofun nofun
    | checked c => exact paced.write reached lawful
    | written c =>
      simp only [Processes.next, reached]
      exact paced.idle process
  | fail process => exact paced.idle process

theorem Paced.run_iff (events : List AckEvent) {w : Processes} (paced : w.Paced) :
    w.LawfulRun events ↔ w.UndisturbedRun events := by
  induction events generalizing w with
  | nil => exact .rfl
  | cons e rest ih =>
    rw [LawfulRun, UndisturbedRun, paced.lawful_iff]
    exact and_congr_right fun undisturbed => ih (paced.next ((paced.lawful_iff e).mpr undisturbed))

end Processes

/-- On one file, however the statements of several processes interleave, offsets never
decrease and calls that return leave at least their own number, exactly when no call
writes after a larger offset was written since it read the stored one. -/
theorem offsets_monotone_iff (s : Spine) (events : List AckEvent) :
    (Processes.start s).LawfulRun events ↔ (Processes.start s).UndisturbedRun events :=
  (Processes.Paced.start s).run_iff events

def raceRow (seq : Nat) : EventRow := ⟨seq, toString seq, "t", "OBS", "{}", 0, none, none, toString seq⟩

def raceSpine : Spine := ⟨⟨[raceRow 1, raceRow 2], 2, []⟩, []⟩

/-- The second process acknowledges both events between the check and the write of the
first. -/
theorem overtaken_ack_decreases :
    ¬(Processes.start raceSpine).LawfulRun
      [.call 0 ⟨"c", 1⟩, .statement 0, .statement 0, .call 1 ⟨"c", 2⟩, .statement 1, .statement 1, .statement 1,
        .statement 0] := by
  rintro ⟨-, -, -, -, -, -, -, last, -⟩
  exact absurd (last.monotone "c") (by decide +kernel)

end MatVerse.Physiology
