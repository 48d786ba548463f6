import MatVerse.Core
import MatVerse.Lib.Connection
import MatVerse.Lib.Fallible
import MatVerse.Lib.Text

/-! The durable event journal of the physiology: an append-only table of events with
idempotent ids, and the runtime state kept beside it. -/
namespace MatVerse.Physiology

open Fallible

def schemaVersion : String := "matverse.physiology.v1"

/-- A row of `events`. -/
structure EventRow where
  seq : Nat
  eventId : String
  topic : String
  eventType : String
  payloadJson : String
  createdNs : Int
  causationId : Option String
  correlationId : Option String
  receiptHash : String
  deriving DecidableEq

structure Tables where
  events : List EventRow
  /-- The last sequence number given, in `sqlite_sequence`. -/
  sequence : Nat
  runtimeState : List (String × String)
  deriving DecidableEq

/-- A connection in autocommit mode: the code opens its transactions by hand. -/
abbrev Journal := Connection Tables

def Journal.empty : Journal := Connection.connect ⟨[], 0, []⟩

structure JournalEvent where
  seq : Nat
  eventId : String
  topic : String
  eventType : String
  payload : Json
  createdNs : Int
  causationId : Option String
  correlationId : Option String
  receiptHash : String

inductive JournalError where
  | valueError (message : String)
  | runtimeError (message : String)
  | sql (error : SqlError)
  deriving DecidableEq

def rowToEvent (row : EventRow) : JournalEvent :=
  ⟨row.seq, row.eventId, row.topic, row.eventType, (JsonText.loads row.payloadJson).getD .null, row.createdNs,
    row.causationId, row.correlationId, row.receiptHash⟩

/-- The arguments of `append`, with the reading of `time.time_ns`. -/
structure AppendCall where
  eventId : String
  topic : String
  eventType : String
  payload : Mapping
  causationId : Option String
  correlationId : Option String
  createdNs : Option Int
  timeNs : Int

def optText : Option String → Json
  | none => .null
  | some s => .str s

namespace AppendCall

/-- The event id as it is stored. -/
def id (c : AppendCall) : String := Text.strip c.eventId

def payloadCopy (c : AppendCall) : Json := jsonClone (.dict c.payload)

def created (c : AppendCall) : Int := c.createdNs.getD c.timeNs

def core (c : AppendCall) : Mapping :=
  [("schema", .str schemaVersion), ("event_id", .str c.id), ("topic", .str (Text.strip c.topic)),
    ("event_type", .str (Text.strip c.eventType)), ("payload", c.payloadCopy), ("created_ns", .int c.created),
    ("causation_id", optText c.causationId), ("correlation_id", optText c.correlationId)]

def receipt (host : Host) (c : AppendCall) : EvidenceReceipt :=
  evidenceReceipt host "PHYSIOLOGY_EVENT" (.dict c.core) (.dict [("accepted", .bool true)])

/-- The row that the call writes under a sequence number. -/
def row (host : Host) (c : AppendCall) (seq : Nat) : EventRow :=
  ⟨seq, c.id, Text.strip c.topic, Text.strip c.eventType, canonicalJson c.payloadCopy, c.created, c.causationId,
    c.correlationId, (c.receipt host).receiptHash⟩

end AppendCall

def validateLabel (value name : String) : Except JournalError Unit :=
  if Text.strip value = "" then .error (.valueError (name ++ " must be a non-empty string")) else .ok ()

def validate (c : AppendCall) : Except JournalError Unit := do
  validateLabel c.eventId "event_id"
  validateLabel c.topic "topic"
  validateLabel c.eventType "event_type"
  if c.created < 0 then .error (.valueError "created_ns must be non-negative") else .ok ()

def selectEvent (t : Tables) (eventId : String) : Option EventRow := t.events.find? (fun r => r.eventId == eventId)

/-- `INSERT INTO events`: what a 64-bit column cannot take is refused before the table is
looked at. -/
def insertEvent (host : Host) (c : AppendCall) (t : Tables) : Except SqlError Tables :=
  if 2 ^ 63 ≤ c.created then .error (.overflow "Python int too large to convert to SQLite INTEGER")
  else if (selectEvent t c.id).isSome then .error (.integrity "UNIQUE constraint failed: events.event_id")
  else if t.events.any (fun r => r.receiptHash == (c.receipt host).receiptHash) then
    .error (.integrity "UNIQUE constraint failed: events.receipt_hash")
  else .ok { t with events := t.events ++ [c.row host (t.sequence + 1)], sequence := t.sequence + 1 }

/-- An event of the stored id differs: `!=` compares the decoded payloads. -/
def differs (row : EventRow) (c : AppendCall) : Bool :=
  row.topic != Text.strip c.topic || row.eventType != Text.strip c.eventType ||
    !((JsonText.loads row.payloadJson).getD .null).pyEq c.payloadCopy || row.causationId != c.causationId ||
    row.correlationId != c.correlationId

/-- An `INSERT` that fails in another way than by a constraint leaves the transaction open. -/
def append (host : Host) (j : Journal) (c : AppendCall) : Except JournalError JournalEvent × Journal :=
  match validate c with
  | .error e => (.error e, j)
  | .ok () =>
    match j.start with
    | .error e => (.error (.sql e), j)
    | .ok opened =>
      match insertEvent host c opened.view with
      | .ok t =>
        match selectEvent t c.id with
        | some row => (.ok (rowToEvent row), (opened.write t).commit)
        | none => (.error (.runtimeError "journal append failed without a row"), (opened.write t).commit)
      | .error (.integrity message) =>
        match selectEvent opened.rollback.view c.id with
        | none => (.error (.sql (.integrity message)), opened.rollback)
        | some row =>
          if differs row c then
            (.error (.valueError "event_id collision with different event content"), opened.rollback)
          else (.ok (rowToEvent row), opened.rollback)
      | .error e => (.error (.sql e), opened)

/-- An upsert of `runtime_state`. -/
def setState (j : Journal) (key : String) (value : Json) : Except JournalError Unit × Journal :=
  match validateLabel key "key" with
  | .error e => (.error e, j)
  | .ok () =>
    (.ok (), j.write { j.view with
      runtimeState := Dict.insert (Text.strip key) (canonicalJson value) j.view.runtimeState })

/-- The stored value, if there is one. -/
def getState (j : Journal) (key : String) : Except JournalError (Option Json) := do
  validateLabel key "key"
  return (Dict.get? (Text.strip key) j.view.runtimeState).map (fun text => (JsonText.loads text).getD .null)

/-! ## The law of append -/

/-- Arguments that `append` takes. -/
structure Accepted (c : AppendCall) : Prop where
  eventId : Text.strip c.eventId ≠ ""
  topic : Text.strip c.topic ≠ ""
  eventType : Text.strip c.eventType ≠ ""
  created : 0 ≤ c.created

/-- An event with the content of a stored one, its payload as canonical JSON. -/
structure SameContent (row : EventRow) (c : AppendCall) : Prop where
  topic : row.topic = Text.strip c.topic
  eventType : row.eventType = Text.strip c.eventType
  payload : row.payloadJson = canonicalJson (.dict c.payload)
  causationId : row.causationId = c.causationId
  correlationId : row.correlationId = c.correlationId

def New (j : Journal) (c : AppendCall) : Prop := ∀ row ∈ j.durable.events, row.eventId ≠ c.id

/-- The call adds its row, after all others, and nothing else. -/
def Adds (host : Host) (j : Journal) (c : AppendCall) : Prop :=
  ∃ seq, (append host j c).1 = .ok (rowToEvent (c.row host seq)) ∧ (∀ row ∈ j.durable.events, row.seq < seq) ∧
    (append host j c).2.durable.events = j.durable.events ++ [c.row host seq]

/-- The next valid append succeeds and is durable. -/
def Usable (host : Host) (j : Journal) : Prop := ∀ c, Accepted c → c.created < 2 ^ 63 → New j c → Adds host j c

/-- What a call must do: a new id adds a row; a known id returns the stored event, if the
content is the same, and raises if not; a call that raises leaves a usable journal. -/
structure LawfulAppend (host : Host) (j : Journal) (c : AppendCall) : Prop where
  new : Accepted c → New j c → Adds host j c
  known : Accepted c → ∀ row ∈ j.durable.events, row.eventId = c.id →
    ((append host j c).1 = .ok (rowToEvent row) ↔ SameContent row c) ∧
    (¬SameContent row c → ∃ e, (append host j c).1 = .error e) ∧
    (append host j c).2.durable.events = j.durable.events
  raised : ∀ e, (append host j c).1 = .error e →
    (append host j c).2.durable.events = j.durable.events ∧ Usable host (append host j c).2

def LawfulRun (host : Host) (j : Journal) : List AppendCall → Prop
  | [] => True
  | c :: rest => LawfulAppend host j c ∧ LawfulRun host (append host j c).2 rest

/-- Arguments in the range of the column, and no payload that is equal to a stored one in
memory without being so as canonical JSON. -/
structure Unambiguous (j : Journal) (c : AppendCall) : Prop where
  range : c.created < 2 ^ 63
  payload : ∀ row ∈ j.durable.events, row.eventId = c.id → differs row c = false →
    row.payloadJson = canonicalJson (.dict c.payload)

def UnambiguousRun (host : Host) (j : Journal) : List AppendCall → Prop
  | [] => True
  | c :: rest => (Accepted c → Unambiguous j c) ∧ UnambiguousRun host (append host j c).2 rest

/-- A journal at rest, whose rows were written by appends. -/
structure Sound (host : Host) (j : Journal) : Prop where
  idle : j.working = none
  written : ∀ row ∈ j.durable.events, ∃ c : AppendCall, row = c.row host row.seq
  ordered : ∀ row ∈ j.durable.events, row.seq ≤ j.durable.sequence
  unique : ∀ row ∈ j.durable.events, ∀ other ∈ j.durable.events, row.eventId = other.eventId → row = other

/-! ## What append does -/

section
variable {host : Host} {j : Journal} {c : AppendCall}

@[simp] theorem payloadCopy_eq (c : AppendCall) : c.payloadCopy = (Json.dict c.payload).norm := by
  simp [AppendCall.payloadCopy]

theorem row_payload (host : Host) (c : AppendCall) (seq : Nat) :
    (c.row host seq).payloadJson = canonicalJson (.dict c.payload) := by
  rw [AppendCall.row, payloadCopy_eq, canonicalJson_norm]

theorem validateLabel_ok {value name : String} : validateLabel value name = .ok () ↔ Text.strip value ≠ "" := by
  unfold validateLabel
  split <;> simp_all

theorem validate_ok : validate c = .ok () ↔ Accepted c := by
  simp only [validate, check_ok, validateLabel_ok]
  constructor
  · rintro ⟨eventId, topic, eventType, created⟩
    split at created
    · cases created
    · exact ⟨eventId, topic, eventType, by omega⟩
  · rintro ⟨eventId, topic, eventType, created⟩
    exact ⟨eventId, topic, eventType, by rw [if_neg (by omega)]⟩

theorem select_none : selectEvent j.durable c.id = none ↔ New j c := by
  simp [selectEvent, New]

theorem Sound.select (sound : Sound host j) {row : EventRow} (member : row ∈ j.durable.events) {eventId : String}
    (named : row.eventId = eventId) : selectEvent j.durable eventId = some row := by
  unfold selectEvent
  cases found : j.durable.events.find? (fun r => r.eventId == eventId) with
  | none => exact absurd named (by simpa using List.find?_eq_none.mp found row member)
  | some other =>
    have same : other.eventId = eventId := by simpa using List.find?_some found
    rw [sound.unique other (List.mem_of_find?_eq_some found) row member (same.trans named.symm)]

theorem Sound.receipt_new (sound : Sound host j) (free : host.CollisionFree) (new : New j c) :
    j.durable.events.any (fun r => r.receiptHash == (c.receipt host).receiptHash) = false := by
  refine List.any_eq_false.mpr fun row member => ?_
  obtain ⟨d, written⟩ := sound.written row member
  intro same
  rw [written, beq_iff_eq] at same
  obtain ⟨_, cores, _⟩ := evidenceReceipt_injective free same
  have named := congrArg (Json.get? "event_id") cores
  simp [AppendCall.core] at named
  exact new row member (by rw [written]; exact named)

theorem append_refused (refused : ¬Accepted c) : ∃ e, append host j c = (.error e, j) := by
  cases done : validate c with
  | ok _ => exact absurd (validate_ok.mp done) refused
  | error e => exact ⟨e, by simp [append, done]⟩

/-- An insertion in the range of the column adds a row or meets a constraint. -/
theorem insertEvent_range (range : c.created < 2 ^ 63) (t : Tables) :
    (∃ u, insertEvent host c t = .ok u ∧ u.runtimeState = t.runtimeState) ∨
      ∃ message, insertEvent host c t = .error (.integrity message) := by
  simp only [insertEvent, not_le.mpr range, if_false]
  split
  · exact .inr ⟨_, rfl⟩
  · split
    · exact .inr ⟨_, rfl⟩
    · exact .inl ⟨_, rfl, rfl⟩

/-- Such an append ends its transaction and leaves the stored states. -/
theorem append_rest (idle : j.working = none) (range : c.created < 2 ^ 63) :
    (append host j c).2.working = none ∧ (append host j c).2.durable.runtimeState = j.durable.runtimeState := by
  have opened : j.start = .ok ⟨j.durable, some j.durable⟩ := by simp [Connection.start, idle]
  unfold append
  cases validate c with
  | error e => exact ⟨idle, rfl⟩
  | ok _ =>
    simp only [opened, Connection.view_mk_some]
    rcases @insertEvent_range host c range j.durable with ⟨u, inserted, states⟩ | ⟨message, inserted⟩
    · simp only [inserted]
      split <;> exact ⟨rfl, states⟩
    · simp only [inserted]
      split
      · exact ⟨rfl, rfl⟩
      · split <;> exact ⟨rfl, rfl⟩

theorem Sound.start (sound : Sound host j) : j.start = .ok ⟨j.durable, some j.durable⟩ := by
  simp [Connection.start, sound.idle]

theorem Sound.append_large (sound : Sound host j) (accepted : Accepted c) (large : 2 ^ 63 ≤ c.created) :
    append host j c = (.error (.sql (.overflow "Python int too large to convert to SQLite INTEGER")),
      ⟨j.durable, some j.durable⟩) := by
  simp only [append, validate_ok.mpr accepted, sound.start, insertEvent, large, if_true]

theorem Sound.append_known (sound : Sound host j) (accepted : Accepted c) (range : c.created < 2 ^ 63)
    {row : EventRow} (member : row ∈ j.durable.events) (named : row.eventId = c.id) :
    append host j c = (if differs row c then .error (.valueError "event_id collision with different event content")
      else .ok (rowToEvent row), ⟨j.durable, none⟩) := by
  have found := sound.select member named
  simp only [append, validate_ok.mpr accepted, sound.start, insertEvent, Connection.view_mk_some, not_le.mpr range,
    if_false, found, Option.isSome_some, if_true, Connection.rollback, Connection.view_mk_none]
  split <;> rfl

def Tables.added (host : Host) (t : Tables) (c : AppendCall) : Tables :=
  { t with events := t.events ++ [c.row host (t.sequence + 1)], sequence := t.sequence + 1 }

theorem Sound.append_new (sound : Sound host j) (free : host.CollisionFree) (accepted : Accepted c)
    (range : c.created < 2 ^ 63) (new : New j c) :
    append host j c =
      (.ok (rowToEvent (c.row host (j.durable.sequence + 1))), ⟨j.durable.added host c, none⟩) := by
  have absent := select_none.mpr new
  have found : selectEvent (j.durable.added host c) c.id = some (c.row host (j.durable.sequence + 1)) := by
    unfold selectEvent at absent ⊢
    simp [Tables.added, absent, AppendCall.row]
  simp only [append, validate_ok.mpr accepted, sound.start, insertEvent, Connection.view_mk_some, not_le.mpr range,
    if_false, absent, Option.isSome_none, sound.receipt_new free new, Bool.false_eq_true]
  rw [show { j.durable with
    events := j.durable.events ++ [c.row host (j.durable.sequence + 1)], sequence := j.durable.sequence + 1 } =
      j.durable.added host c from rfl, found]
  rfl

theorem Sound.added (sound : Sound host j) (new : New j c) : Sound host ⟨j.durable.added host c, none⟩ where
  idle := rfl
  written := by
    intro row member
    rcases List.mem_append.mp member with earlier | last
    · exact sound.written row earlier
    · obtain rfl := List.mem_singleton.mp last
      exact ⟨c, rfl⟩
  ordered := by
    intro row member
    rcases List.mem_append.mp member with earlier | last
    · exact (sound.ordered row earlier).trans (Nat.le_succ _)
    · obtain rfl := List.mem_singleton.mp last
      exact Nat.le_refl _
  unique := by
    intro row member other member' same
    rcases List.mem_append.mp member with earlier | last
    · rcases List.mem_append.mp member' with earlier' | last'
      · exact sound.unique row earlier other earlier' same
      · obtain rfl := List.mem_singleton.mp last'
        exact absurd same (new row earlier)
    · obtain rfl := List.mem_singleton.mp last
      rcases List.mem_append.mp member' with earlier' | last'
      · exact absurd same.symm (new other earlier')
      · exact (List.mem_singleton.mp last').symm

theorem Sound.closed (sound : Sound host j) : Sound host ⟨j.durable, none⟩ :=
  ⟨rfl, sound.written, sound.ordered, sound.unique⟩

theorem Sound.empty : Sound host Journal.empty := by
  constructor <;> simp [Journal.empty, Connection.connect]

theorem Sound.usable (sound : Sound host j) (free : host.CollisionFree) : Usable host j := by
  intro c accepted range new
  have done := sound.append_new free accepted range new
  exact ⟨j.durable.sequence + 1, by rw [done], fun row member => Nat.lt_succ_of_le (sound.ordered row member),
    by rw [done]; rfl⟩

/-- The decoded payloads of one canonical text are equal. -/
theorem differs_iff {row : EventRow}
    (same : differs row c = false → row.payloadJson = canonicalJson (.dict c.payload)) :
    differs row c = false ↔ SameContent row c := by
  constructor
  · intro equal
    have payload := same equal
    simp only [differs, Bool.or_eq_false_iff, bne_eq_false_iff_eq] at equal
    exact ⟨equal.1.1.1.1, equal.1.1.1.2, payload, equal.1.2, equal.2⟩
  · rintro ⟨topic, eventType, payload, causationId, correlationId⟩
    have stored : (JsonText.loads row.payloadJson).getD .null = c.payloadCopy := by
      rw [payload, loads_canonicalJson, payloadCopy_eq, Option.getD_some]
    have reflexive : c.payloadCopy.pyEq c.payloadCopy = true := by
      refine Json.pyEq_refl ?_
      rw [payloadCopy_eq, Json.norm_dict]
      rfl
    simp only [differs, topic, eventType, stored, reflexive, causationId, correlationId, bne_self_eq_false,
      Bool.not_true, Bool.or_false]

theorem exists_new (j : Journal) : ∃ c, Accepted c ∧ c.created < 2 ^ 63 ∧ New j c := by
  have longer : ∀ row ∈ j.durable.events, row.eventId.length ≤ (j.durable.events.map (·.eventId.length)).sum :=
    fun row member => List.le_sum_of_mem (List.mem_map_of_mem member)
  generalize (j.durable.events.map (·.eventId.length)).sum = n at longer
  have ends : Text.strip (String.ofList (List.replicate (n + 1) 'e')) = String.ofList (List.replicate (n + 1) 'e') := by
    apply Text.strip_of_ends
    · intro c member
      rw [String.toList_ofList] at member
      rw [List.eq_of_mem_replicate (List.mem_of_mem_head? member)]
      decide
    · intro c member
      rw [String.toList_ofList] at member
      rw [List.eq_of_mem_replicate (List.mem_of_mem_getLast? member)]
      decide
  have topic : Text.strip "t" ≠ "" := by decide
  have eventType : Text.strip "OBS" ≠ "" := by decide
  refine ⟨⟨String.ofList (List.replicate (n + 1) 'e'), "t", "OBS", [], none, none, some 0, 0⟩,
    ⟨?_, topic, eventType, le_refl (0 : Int)⟩, (by decide : (0 : Int) < 2 ^ 63), fun row member named => ?_⟩
  · rw [ends]
    intro empty
    have := congrArg String.length empty
    simp at this
  · have short := longer row member
    rw [named, AppendCall.id, ends] at short
    simp at short

/-- Inside a transaction left open no append succeeds. -/
theorem not_usable (t : Tables) : ¬Usable host ⟨t, some t⟩ := by
  intro usable
  obtain ⟨c, accepted, range, new⟩ := exists_new ⟨t, some t⟩
  obtain ⟨seq, done, _⟩ := usable c accepted range new
  simp [append, validate_ok.mpr accepted, Connection.start] at done

/-- A call meets the law in a journal at rest exactly when its arguments are in range and its
payload is not mistaken for a stored one. -/
theorem Sound.lawful_iff (sound : Sound host j) (free : host.CollisionFree) :
    LawfulAppend host j c ↔ (Accepted c → Unambiguous j c) := by
  constructor
  · intro lawful accepted
    have range : c.created < 2 ^ 63 := by
      by_contra large
      have refused := sound.append_large accepted (not_lt.mp large)
      obtain ⟨_, usable⟩ := lawful.raised _ (by rw [refused])
      rw [refused] at usable
      exact not_usable _ usable
    refine ⟨range, fun row member named equal => ?_⟩
    have done := sound.append_known accepted range member named
    rw [equal, if_neg Bool.false_ne_true] at done
    exact ((lawful.known accepted row member named).1.mp (by rw [done])).payload
  · intro unambiguous
    by_cases accepted : Accepted c
    · obtain ⟨range, payload⟩ := unambiguous accepted
      refine ⟨fun _ new => sound.usable free c accepted range new, fun _ row member named => ?_, fun e raised => ?_⟩
      · have done := sound.append_known accepted range member named
        have content := differs_iff (payload row member named)
        cases equal : differs row c with
        | false => simp [done, equal, content.mp equal]
        | true => simp [done, equal, ← content]
      · by_cases new : New j c
        · simp [sound.append_new free accepted range new] at raised
        · simp only [New, not_forall, not_not] at new
          obtain ⟨row, member, named⟩ := new
          rw [sound.append_known accepted range member named]
          exact ⟨rfl, sound.closed.usable free⟩
    · obtain ⟨e, refused⟩ := @append_refused host j c accepted
      exact ⟨fun taken => absurd taken accepted, fun taken => absurd taken accepted,
        fun _ _ => by rw [refused]; exact ⟨rfl, sound.usable free⟩⟩

theorem Sound.next (sound : Sound host j) (free : host.CollisionFree) (range : Accepted c → c.created < 2 ^ 63) :
    Sound host (append host j c).2 := by
  by_cases accepted : Accepted c
  · by_cases new : New j c
    · rw [sound.append_new free accepted (range accepted) new]
      exact sound.added new
    · simp only [New, not_forall, not_not] at new
      obtain ⟨row, member, named⟩ := new
      rw [sound.append_known accepted (range accepted) member named]
      exact sound.closed
  · obtain ⟨e, refused⟩ := @append_refused host j c accepted
    rw [refused]
    exact sound

theorem Sound.run_iff (sound : Sound host j) (free : host.CollisionFree) (calls : List AppendCall) :
    LawfulRun host j calls ↔ UnambiguousRun host j calls := by
  induction calls generalizing j with
  | nil => exact .rfl
  | cons c rest ih =>
    rw [LawfulRun, UnambiguousRun, sound.lawful_iff free]
    refine and_congr_right fun unambiguous => ih (sound.next free fun accepted => (unambiguous accepted).range)

/-- Every call of a run meets the law exactly when all are in range and unambiguous. -/
theorem append_lawful_iff (free : host.CollisionFree) (calls : List AppendCall) :
    LawfulRun host Journal.empty calls ↔ UnambiguousRun host Journal.empty calls :=
  Sound.empty.run_iff free calls

end

def sampleAppend (value : Json) (createdNs : Int) : AppendCall :=
  ⟨"e1", "t", "OBS", [("x", value)], none, none, some createdNs, 0⟩

theorem accepted_sample (value : Json) {createdNs : Int} (positive : 0 ≤ createdNs) :
    Accepted (sampleAppend value createdNs) := by
  have eventId : Text.strip "e1" ≠ "" := by decide
  have topic : Text.strip "t" ≠ "" := by decide
  have eventType : Text.strip "OBS" ≠ "" := by decide
  exact ⟨eventId, topic, eventType, positive⟩

/-- The first append of a sample, and the journal after it. -/
theorem append_sample (value : Json) : append hexHost Journal.empty (sampleAppend value 1) =
    (.ok (rowToEvent ((sampleAppend value 1).row hexHost 1)),
      ⟨Journal.empty.durable.added hexHost (sampleAppend value 1), none⟩) :=
  Sound.empty.append_new hexHost_collisionFree (accepted_sample value (by decide))
    (by simp [AppendCall.created, sampleAppend])
    (by simp [New, Journal.empty, Connection.connect])

theorem append_lawful_sample : LawfulRun hexHost Journal.empty [sampleAppend (.int 1) 1, sampleAppend (.int 1) 1] := by
  refine (append_lawful_iff hexHost_collisionFree _).mpr ⟨fun _ => ⟨?_, ?_⟩, fun _ => ⟨?_, ?_⟩, trivial⟩
  · simp [AppendCall.created, sampleAppend]
  · simp [Journal.empty, Connection.connect]
  · simp [AppendCall.created, sampleAppend]
  · intro row member _ _
    rw [append_sample] at member
    obtain rfl : row = (sampleAppend (.int 1) 1).row hexHost 1 := by
      simpa [Tables.added, Journal.empty, Connection.connect] using member
    exact row_payload _ _ _

/-- A time that the column cannot take, and a payload that is equal to the stored one in
memory only. -/
theorem append_unlawful : ¬LawfulRun hexHost Journal.empty [sampleAppend (.int 1) (2 ^ 63)] ∧
    ¬LawfulRun hexHost Journal.empty [sampleAppend (.int 1) 1, sampleAppend (.bool true) 1] := by
  constructor
  · intro lawful
    have unambiguous := (Sound.empty.lawful_iff hexHost_collisionFree).mp lawful.1 (accepted_sample _ (by decide))
    exact absurd unambiguous.range (by simp [AppendCall.created, sampleAppend])
  · intro lawful
    have second := lawful.2.1
    rw [append_sample] at second
    have sound : Sound hexHost ⟨Journal.empty.durable.added hexHost (sampleAppend (.int 1) 1), none⟩ :=
      Sound.empty.added (by simp [New, Journal.empty, Connection.connect])
    have unambiguous := (sound.lawful_iff hexHost_collisionFree).mp second (accepted_sample _ (by decide))
    have numbers : (Json.dict [("x", .int 1)]).pyEq (Json.dict [("x", .bool true)]) = true := by decide +kernel
    have texts := unambiguous.payload ((sampleAppend (.int 1) 1).row hexHost 1)
      (by simp [Tables.added, Journal.empty, Connection.connect]) rfl
      (by simp [differs, AppendCall.row, sampleAppend, numbers])
    rw [row_payload] at texts
    have values := congrArg (Json.get? "x") (canonicalJson_injective texts)
    simp [sampleAppend] at values

end MatVerse.Physiology
