import MatVerse.StateStore
import MatVerse.Lib.HashChain
import MatVerse.Lib.Fallible

/-! The hash-chained ledger: what an append stores, and what a verified chain
commits to. The hashed text joins the event and its decision without a separator. -/
namespace MatVerse

open Fallible

structure LedgerReceipt where
  seq : Nat
  prevHash : String
  eventHash : String
  decision : String
  deriving DecidableEq

def LedgerReceipt.toJson (r : LedgerReceipt) : Json :=
  .dict [("seq", .int r.seq), ("prev_hash", .str r.prevHash), ("event_hash", .str r.eventHash),
    ("decision", .str r.decision)]

/-- `event_to_store.setdefault("ledger_at", _now())`. -/
def withLedgerAt (env : Surroundings) (event : Mapping) : Mapping :=
  match Dict.get? "ledger_at" event with
  | some _ => event
  | none => Dict.insert "ledger_at" (.str env.ledgerAt) event

/-- A supplied commit must be a Git object id; a missing one is the build's, when
that is one. -/
def withSourceCommit (env : Surroundings) (event : Mapping) : Except PyError Mapping :=
  match Dict.get? "source_commit" event with
  | none | some .null =>
    if isGitObjectId env.buildCommit.toLower then
      .ok (Dict.insert "source_commit" (.str env.buildCommit.toLower) event)
    else .ok event
  | some (.str commit) =>
    if isGitObjectId commit.toLower then
      .ok (Dict.insert "source_commit" (.str commit.toLower) event)
    else .error (.valueError "event source_commit must be a 40- or 64-character Git object id")
  | some _ => .error (.valueError "event source_commit must be a 40- or 64-character Git object id")

def storedEvent (env : Surroundings) (event : Mapping) : Except PyError Mapping :=
  withSourceCommit env (withLedgerAt env (Dict.ofPairs event))

def genesis : String := "GENESIS"

def ledgerHead (rows : List LedgerRow) : String :=
  match rows.getLast? with
  | some last => last.eventHash
  | none => genesis

def nextSeq (rows : List LedgerRow) : Nat :=
  match rows.getLast? with
  | some last => last.seq + 1
  | none => 1

section
variable (host : Host)

def eventHashOf (prevHash eventJson decision : String) : String :=
  sha256Text host (prevHash ++ eventJson ++ decision)

def appendLedgerTx (env : Surroundings) (db : Database) (event : Mapping) (decision : String) :
    Except PyError (LedgerReceipt × Database) := do
  let stored ← storedEvent env event
  let prevHash := ledgerHead db.ledger
  let payload := canonicalJson (.obj stored)
  let eventHash := eventHashOf host prevHash payload decision
  if db.ledger.any (fun row => row.eventHash == eventHash) then
    throw (.integrityError "UNIQUE constraint failed: ledger.event_hash")
  let row : LedgerRow := ⟨nextSeq db.ledger, prevHash, eventHash, payload, decision⟩
  return (⟨row.seq, prevHash, eventHash, decision⟩, { db with ledger := db.ledger ++ [row] })

def appendEvent (env : Surroundings) (db : Database) (event : Mapping) (decision : String) :
    Except PyError (LedgerReceipt × Database) :=
  appendLedgerTx host env db event decision

inductive ChainReport where
  | ok (events : Nat) (head : String)
  | failed (seq : Nat)
  deriving DecidableEq

/-- The loop of `verify_chain`, from the hash before the rows. -/
def checkRows (prev : String) : List LedgerRow → Except Nat String
  | [] => .ok prev
  | row :: rest =>
    if row.prevHash != prev || row.eventHash != eventHashOf host prev row.eventJson row.decision then
      .error row.seq
    else checkRows row.eventHash rest

def chainReport (rows : List LedgerRow) : ChainReport :=
  match checkRows host genesis rows with
  | .ok head => .ok rows.length head
  | .error seq => .failed seq

/-- `verify_chain`, on the rows that `read_ledger` returns. -/
def verifyChain (rows : List LedgerRow) : ChainReport := chainReport host rows

/-- `_verify_ledger_rows` of the institutional projection. -/
def verifyLedgerRows (rows : List LedgerRow) : ChainReport := chainReport host rows

end

/-! ## Appending -/

variable {host : Host}

theorem appendLedgerTx_ok {env : Surroundings} {db db' : Database} {event : Mapping} {decision : String}
    {receipt : LedgerReceipt} (done : appendLedgerTx host env db event decision = .ok (receipt, db')) :
    ∃ stored row, storedEvent env event = .ok stored ∧
      row = ⟨nextSeq db.ledger, ledgerHead db.ledger,
        eventHashOf host (ledgerHead db.ledger) (canonicalJson (.obj stored)) decision,
        canonicalJson (.obj stored), decision⟩ ∧
      db' = { db with ledger := db.ledger ++ [row] } ∧
      receipt = ⟨row.seq, row.prevHash, row.eventHash, row.decision⟩ := by
  simp only [appendLedgerTx, bind_ok, guard_ok, pure_ok] at done
  obtain ⟨stored, store, _, same⟩ := done
  obtain ⟨rfl, rfl⟩ := Prod.mk.inj same
  exact ⟨stored, _, store, rfl, rfl, rfl⟩

theorem checkRows_append (prev : String) (rows more : List LedgerRow) {head : String}
    (first : checkRows host prev rows = .ok head) :
    checkRows host prev (rows ++ more) = checkRows host head more := by
  induction rows generalizing prev with
  | nil =>
    cases first
    rfl
  | cons row rest ih =>
    rw [checkRows] at first
    split at first
    · cases first
    next linked =>
      rw [List.cons_append, checkRows, if_neg linked]
      exact ih _ first

theorem checkRows_split {prev head : String} {rows more : List LedgerRow}
    (checked : checkRows host prev (rows ++ more) = .ok head) :
    ∃ middle, checkRows host prev rows = .ok middle ∧ checkRows host middle more = .ok head := by
  induction rows generalizing prev with
  | nil => exact ⟨prev, rfl, checked⟩
  | cons row rest ih =>
    rw [List.cons_append, checkRows] at checked
    split at checked
    · cases checked
    next linked =>
      obtain ⟨middle, first, second⟩ := ih checked
      exact ⟨middle, by rw [checkRows, if_neg linked, first], second⟩

theorem checkRows_last {prev head : String} {rows : List LedgerRow}
    (checked : checkRows host prev rows = .ok head) :
    head = (rows.getLast?.map LedgerRow.eventHash).getD prev := by
  induction rows generalizing prev with
  | nil =>
    cases checked
    rfl
  | cons row rest ih =>
    rw [checkRows] at checked
    split at checked
    · cases checked
    next linked =>
      rw [ih checked, List.getLast?_cons]
      cases rest.getLast? <;> rfl

theorem checkRows_head {rows : List LedgerRow} {head : String}
    (checked : checkRows host genesis rows = .ok head) : ledgerHead rows = head := by
  rw [checkRows_last checked, ledgerHead]
  cases rows.getLast? <;> rfl

theorem chainReport_ok {rows : List LedgerRow} {events : Nat} {head : String} :
    chainReport host rows = .ok events head ↔
      events = rows.length ∧ checkRows host genesis rows = .ok head := by
  unfold chainReport
  cases checkRows host genesis rows with
  | error seq => simp
  | ok found => simp [eq_comm]

/-! ## What the head commits to -/

/-- The text whose digest links a row to the chain. -/
def LedgerRow.hashed (row : LedgerRow) : String := row.prevHash ++ row.eventJson ++ row.decision

/-- What a row records besides its links. -/
def LedgerRow.record (row : LedgerRow) : String × String := (row.eventJson, row.decision)

def LedgerRow.body (row : LedgerRow) : String := row.eventJson ++ row.decision

section
variable (host)

def linkHash (prev body : String) : String := sha256Text host (prev ++ body)

end

theorem checkRows_inputs {prev head : String} {rows : List LedgerRow}
    (checked : checkRows host prev rows = .ok head) :
    HashChain.inputs (linkHash host) prev (rows.map LedgerRow.body) =
        rows.map (fun row => (row.prevHash, row.body)) ∧
      HashChain.head (linkHash host) prev (rows.map LedgerRow.body) = head := by
  induction rows generalizing prev with
  | nil =>
    cases checked
    exact ⟨rfl, rfl⟩
  | cons row rest ih =>
    rw [checkRows] at checked
    split at checked
    · cases checked
    next linked =>
      simp only [Bool.or_eq_true, bne_iff_ne, ne_eq, not_or, not_not] at linked
      obtain ⟨same, hash⟩ := linked
      have step : linkHash host prev row.body = row.eventHash := by
        rw [hash, linkHash, eventHashOf, LedgerRow.body, String.append_assoc]
      obtain ⟨inputs, last⟩ := ih checked
      constructor
      · simp [HashChain.inputs, step, inputs, same]
      · simpa [HashChain.head, step] using last

theorem hashed_eq (row : LedgerRow) : row.hashed = row.prevHash ++ row.body := by
  simp [LedgerRow.hashed, LedgerRow.body, String.append_assoc]

/-- A previous hash of a checked chain is the genesis word or a digest. -/
theorem checkRows_prevHash {prev head : String} {rows : List LedgerRow}
    (checked : checkRows host prev rows = .ok head) :
    ∀ row ∈ rows, row.prevHash = prev ∨ ∃ text, row.prevHash = sha256Text host text := by
  induction rows generalizing prev with
  | nil => simp
  | cons row rest ih =>
    rw [checkRows] at checked
    split at checked
    · cases checked
    next linked =>
      simp only [Bool.or_eq_true, bne_iff_ne, ne_eq, not_or, not_not] at linked
      intro other member
      rcases List.mem_cons.mp member with rfl | member
      · exact .inl linked.1
      · rcases ih checked other member with same | digest
        · exact .inr ⟨_, same.trans linked.2⟩
        · exact .inr digest

/-- An event hash of a checked chain is the digest of its row's text. -/
theorem checkRows_eventHash {prev head : String} {rows : List LedgerRow}
    (checked : checkRows host prev rows = .ok head) : ∀ row ∈ rows, row.eventHash = sha256Text host row.hashed := by
  intro row member
  obtain ⟨before, after, rfl⟩ := List.append_of_mem member
  obtain ⟨middle, _, rest⟩ := checkRows_split checked
  rw [checkRows] at rest
  split at rest
  · cases rest
  next linked =>
    simp only [Bool.or_eq_true, bne_iff_ne, ne_eq, not_or, not_not] at linked
    rw [linked.2, eventHashOf, LedgerRow.hashed, linked.1]

theorem sha256Text_head (long : host.Sha256Length) (text : String) :
    ∃ c tail, (sha256Text host text).toList = c :: tail ∧ Hex.isDigit c = true := by
  have digits : (sha256Text host text).toList.all Hex.isDigit = true := host.sha256Digits _
  have length : (sha256Text host text).toList.length = 64 := long _
  cases chars : (sha256Text host text).toList with
  | nil => simp [chars] at length
  | cons c tail =>
    rw [chars, List.all_cons, Bool.and_eq_true] at digits
    exact ⟨c, tail, rfl, digits.1⟩

/-- A digest does not start as the genesis word does. -/
theorem genesis_append_ne {text rest more : String} (long : host.Sha256Length) :
    genesis ++ rest ≠ sha256Text host text ++ more := by
  intro same
  have lists := congrArg String.toList same
  obtain ⟨c, tail, chars, digit⟩ := sha256Text_head long text
  rw [String.toList_append, String.toList_append, chars, List.cons_append] at lists
  have first : 'G' = c := by
    have heads := congrArg List.head? lists
    simpa [genesis] using heads
  subst first
  simp [Hex.isDigit, Char.isDigit] at digit

theorem prevHash_append_inj (long : host.Sha256Length) {p q b c : String}
    (left : p = genesis ∨ ∃ text, p = sha256Text host text)
    (right : q = genesis ∨ ∃ text, q = sha256Text host text)
    (same : p ++ b = q ++ c) : p = q ∧ b = c := by
  rcases left with rfl | ⟨text, rfl⟩ <;> rcases right with rfl | ⟨other, rfl⟩
  · exact ⟨rfl, String.append_right_inj _ |>.mp same⟩
  · exact absurd same (genesis_append_ne long)
  · exact absurd same.symm (genesis_append_ne long)
  · have lists := congrArg String.toList same
    rw [String.toList_append, String.toList_append] at lists
    have lengths : (sha256Text host text).toList.length = (sha256Text host other).toList.length :=
      (long _).trans (long _).symm
    obtain ⟨heads, tails⟩ := List.append_inj lists lengths
    exact ⟨String.toList_inj.mp heads, String.toList_inj.mp tails⟩

theorem linkHash_ne_genesis (long : host.Sha256Length) (prev body : String) :
    linkHash host prev body ≠ genesis := by
  intro same
  have length := long (prev ++ body).toUTF8
  rw [← sha256Text, ← linkHash, same] at length
  exact absurd length (by decide)

/-- One head, one sequence of bodies: event and decision of each row read together. -/
theorem bodies_eq_of_head (long : host.Sha256Length) {xs ys : List LedgerRow} {head : String}
    (free : host.CollisionFreeOn (fun text => ∃ row ∈ xs ++ ys, text = row.hashed))
    (first : checkRows host genesis xs = .ok head) (second : checkRows host genesis ys = .ok head) :
    xs.map LedgerRow.body = ys.map LedgerRow.body := by
  obtain ⟨inputsX, headX⟩ := checkRows_inputs first
  obtain ⟨inputsY, headY⟩ := checkRows_inputs second
  apply HashChain.bodies_eq (linkHash host) genesis
  · intro p left q right same
    rw [inputsX] at left
    rw [inputsY] at right
    obtain ⟨row, memberX, rfl⟩ := List.mem_map.mp left
    obtain ⟨other, memberY, rfl⟩ := List.mem_map.mp right
    have texts : row.hashed = other.hashed := by
      apply free _ _ ⟨row, List.mem_append_left _ memberX, rfl⟩ ⟨other, List.mem_append_right _ memberY, rfl⟩
      rw [hashed_eq, hashed_eq]
      exact same
    rw [hashed_eq, hashed_eq] at texts
    obtain ⟨links, bodies⟩ := prevHash_append_inj long (checkRows_prevHash first row memberX)
      (checkRows_prevHash second other memberY) texts
    exact Prod.ext links bodies
  · exact fun p _ => linkHash_ne_genesis long p.1 p.2
  · exact fun p _ => linkHash_ne_genesis long p.1 p.2
  · exact headX.trans headY.symm

/-- The head of a checked chain is the genesis word, or the digest of a row's text. -/
theorem ledgerHead_cases {rows : List LedgerRow} {head : String} (checked : checkRows host genesis rows = .ok head) :
    (rows = [] ∧ ledgerHead rows = genesis) ∨ ∃ row ∈ rows, ledgerHead rows = sha256Text host row.hashed := by
  cases last : rows.getLast? with
  | none => exact .inl ⟨List.getLast?_eq_none_iff.mp last, by rw [ledgerHead, last]⟩
  | some row =>
    have member := List.mem_of_getLast? last
    refine .inr ⟨row, member, ?_⟩
    rw [ledgerHead, last]
    exact checkRows_eventHash checked row member

/-- The head of a chain is the head of no part of it before the end. -/
theorem head_of_part (long : host.Sha256Length) {before : List LedgerRow} {row : LedgerRow} {after : List LedgerRow}
    {head : String} (checked : checkRows host genesis (before ++ row :: after) = .ok head)
    (free : host.CollisionFreeOn (fun text => ∃ r ∈ before ++ row :: after, text = r.hashed)) :
    row.prevHash ≠ head := by
  intro same
  obtain ⟨middle, first, rest⟩ := checkRows_split checked
  rw [checkRows] at rest
  split at rest
  · cases rest
  next linked =>
    simp only [Bool.or_eq_true, bne_iff_ne, ne_eq, not_or, not_not] at linked
    rw [linked.1] at same
    have listed {text : String} (known : ∃ r ∈ before ++ (before ++ row :: after), text = r.hashed) :
        ∃ r ∈ before ++ row :: after, text = r.hashed := by
      obtain ⟨r, member, equal⟩ := known
      rcases List.mem_append.mp member with early | whole
      · exact ⟨r, List.mem_append_left _ early, equal⟩
      · exact ⟨r, whole, equal⟩
    have bodies := bodies_eq_of_head long (fun a b left right => free a b (listed left) (listed right))
      (same ▸ first) checked
    have lengths := congrArg List.length bodies
    simp at lengths

/-- No row of a checked chain has the hash of one that would follow it. -/
theorem unused_of_head (long : host.Sha256Length) {rows : List LedgerRow} {head body : String}
    (checked : checkRows host genesis rows = .ok head)
    (free : host.CollisionFreeOn (fun text => text = ledgerHead rows ++ body ∨ ∃ row ∈ rows, text = row.hashed)) :
    ∀ row ∈ rows, row.eventHash ≠ sha256Text host (ledgerHead rows ++ body) := by
  intro row member same
  rw [checkRows_eventHash checked row member] at same
  have texts := free _ _ (.inr ⟨row, member, rfl⟩) (.inl rfl) same
  rw [hashed_eq] at texts
  have start : ledgerHead rows = genesis ∨ ∃ text, ledgerHead rows = sha256Text host text := by
    rcases ledgerHead_cases checked with ⟨_, head⟩ | ⟨last, _, head⟩
    · exact .inl head
    · exact .inr ⟨_, head⟩
  obtain ⟨prevs, _⟩ := prevHash_append_inj long (checkRows_prevHash checked row member) start texts
  obtain ⟨before, after, rfl⟩ := List.append_of_mem member
  exact head_of_part long checked (fun a b left right => free a b (.inr left) (.inr right))
    (prevs.trans (checkRows_head checked))

/-- Where the decisions are as long, a body splits one way. -/
theorem records_eq_of_bodies {xs ys : List LedgerRow} (bodies : xs.map LedgerRow.body = ys.map LedgerRow.body)
    (lengths : ∀ p ∈ xs.zip ys, p.1.decision.length = p.2.decision.length) :
    xs.map LedgerRow.record = ys.map LedgerRow.record := by
  induction xs generalizing ys with
  | nil =>
    cases ys with
    | nil => rfl
    | cons y ys => cases bodies
  | cons x xs ih =>
    cases ys with
    | nil => cases bodies
    | cons y ys =>
      obtain ⟨head, tail⟩ := List.cons.inj bodies
      have length := lengths (x, y) (by simp)
      have lists := congrArg String.toList head
      simp only [LedgerRow.body, String.toList_append] at lists
      obtain ⟨events, decisions⟩ := List.append_inj' lists length
      have first : x.record = y.record :=
        Prod.ext (String.toList_inj.mp events) (String.toList_inj.mp decisions)
      have rest := ih tail (fun p member => lengths p (List.mem_cons_of_mem _ member))
      rw [List.map_cons, List.map_cons, first, rest]

theorem lengths_of_records_eq {xs ys : List LedgerRow}
    (records : xs.map LedgerRow.record = ys.map LedgerRow.record) :
    ∀ p ∈ xs.zip ys, p.1.decision.length = p.2.decision.length := by
  induction xs generalizing ys with
  | nil => simp
  | cons x xs ih =>
    cases ys with
    | nil => cases records
    | cons y ys =>
      obtain ⟨head, tail⟩ := List.cons.inj records
      intro p member
      rcases List.mem_cons.mp member with rfl | member
      · exact congrArg (fun record => record.2.length) head
      · exact ih tail p member

theorem head_of_last {xs ys : List LedgerRow} {first second : String}
    (left : checkRows host genesis xs = .ok first) (right : checkRows host genesis ys = .ok second)
    (last : xs.getLast?.map LedgerRow.eventHash = ys.getLast?.map LedgerRow.eventHash) :
    first = second := by
  rw [checkRows_last left, checkRows_last right, last]

/-- Two verified ledgers with one last hash record the same events and decisions in
the same places exactly when their decisions are as long, place by place. -/
theorem same_head_same_records_iff {verify : List LedgerRow → ChainReport}
    (which : verify = verifyChain host ∨ verify = verifyLedgerRows host)
    (long : host.Sha256Length) {xs ys : List LedgerRow} {m n : Nat} {first second : String}
    (free : host.CollisionFreeOn (fun text => ∃ row ∈ xs ++ ys, text = row.hashed))
    (left : verify xs = .ok m first) (right : verify ys = .ok n second)
    (last : xs.getLast?.map LedgerRow.eventHash = ys.getLast?.map LedgerRow.eventHash) :
    (xs.length = ys.length ∧ xs.map LedgerRow.record = ys.map LedgerRow.record) ↔
      ∀ p ∈ xs.zip ys, p.1.decision.length = p.2.decision.length := by
  have report : verify = chainReport host := by
    rcases which with rfl | rfl <;> rfl
  subst report
  obtain ⟨_, left⟩ := chainReport_ok.mp left
  obtain ⟨_, right⟩ := chainReport_ok.mp right
  obtain rfl := head_of_last left right last
  have bodies := bodies_eq_of_head long free left right
  constructor
  · rintro ⟨_, records⟩
    exact lengths_of_records_eq records
  · intro lengths
    exact ⟨by simpa using congrArg List.length bodies, records_eq_of_bodies bodies lengths⟩

/-- One event, and the same text split one word later: both verify, with one head. -/
def passedRow : LedgerRow := ⟨1, genesis, zeroDigest, "\x7b\x7d", "PASS"⟩

def resplitRow : LedgerRow := { passedRow with eventJson := "\x7b\x7dPA", decision := "SS" }

theorem hashed_passed_resplit : ∀ row ∈ [passedRow, resplitRow], row.hashed = passedRow.hashed := by decide

/-- A row that continues a chain. -/
def linkedRow (seq : Nat) (prev eventJson decision : String) : LedgerRow :=
  ⟨seq, prev, sha256Text wordHost (prev ++ eventJson ++ decision), eventJson, decision⟩

def sampleRows (seq : Nat) : List LedgerRow :=
  let first := linkedRow seq genesis "\x7b\x7d" "PASS"
  let second := linkedRow (seq + 1) first.eventHash "\x7b\x22a\x22:1\x7d" "BLOCK"
  [first, second, linkedRow (seq + 2) second.eventHash "\x7b\x7d" "PASS"]

theorem same_head_same_records_passed :
    ((sampleRows 1).length = (sampleRows 7).length ∧
      (sampleRows 1).map LedgerRow.record = (sampleRows 7).map LedgerRow.record) ↔
      ∀ p ∈ (sampleRows 1).zip (sampleRows 7), p.1.decision.length = p.2.decision.length := by
  have apart : ∀ a ∈ sampleRows 1 ++ sampleRows 7, ∀ b ∈ sampleRows 1 ++ sampleRows 7,
      sha256Text wordHost a.hashed = sha256Text wordHost b.hashed → a.hashed = b.hashed := by decide +kernel
  refine @same_head_same_records_iff wordHost _ (.inl rfl) wordHost_sha256Length (sampleRows 1) (sampleRows 7) 3 3
    (ledgerHead (sampleRows 1)) (ledgerHead (sampleRows 1)) ?_ ?_ ?_ ?_
  · rintro _ _ ⟨row, member, rfl⟩ ⟨other, listed, rfl⟩
    exact apart row member other listed
  · decide +kernel
  · decide +kernel
  · decide +kernel

theorem resplit_accepted :
    ∃ host : Host, host.Sha256Length ∧
      host.CollisionFreeOn (fun text => ∃ row ∈ [passedRow] ++ [resplitRow], text = row.hashed) ∧
      verifyChain host [passedRow] = .ok 1 passedRow.eventHash ∧
      verifyChain host [resplitRow] = .ok 1 passedRow.eventHash ∧
      verifyLedgerRows host [passedRow] = .ok 1 passedRow.eventHash ∧
      verifyLedgerRows host [resplitRow] = .ok 1 passedRow.eventHash ∧
      [passedRow].getLast?.map LedgerRow.eventHash = [resplitRow].getLast?.map LedgerRow.eventHash ∧
      [passedRow].map LedgerRow.record ≠ [resplitRow].map LedgerRow.record := by
  refine ⟨zeroHost, zeroHost_sha256Length, ?_, rfl, rfl, rfl, rfl, rfl, by decide⟩
  rintro a b ⟨row, member, rfl⟩ ⟨other, memberB, rfl⟩ _
  exact (hashed_passed_resplit row member).trans (hashed_passed_resplit other memberB).symm

end MatVerse
