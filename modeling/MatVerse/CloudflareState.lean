import MatVerse.InstitutionalStore

/-! The durable institutional state service. It accepts an intent when the head of its
ledger is the one its client has seen; the client compares the projection first. -/
namespace MatVerse

open Fallible

structure StateHttpError where
  status : Nat
  message : String
  deriving DecidableEq

namespace Cloudflare

def objectValue (value : Option Json) (name : String) : Except StateHttpError Json :=
  match value with
  | some (.obj entries) => .ok (.obj entries)
  | _ => .error ⟨400, name ++ " must be an object"⟩

def stringValue (value : Option Json) (name : String) : Except StateHttpError String :=
  match value with
  | some (.str s) => if s == "" then .error ⟨400, name ++ " must be a non-empty string"⟩ else .ok s
  | _ => .error ⟨400, name ++ " must be a non-empty string"⟩

/-- `jcs`. A number is not a safe integer before it was rounded exactly when it is none after. -/
def jcs (value : Json) : Except StateHttpError String :=
  if Jcs.isPlainable value then .ok (Jcs.text value)
  else .error ⟨400, "JCS numbers must be safe integers"⟩

/-- `parseJson`: a number with an integral value is that integer. -/
def parseJson (text : String) : Except StateHttpError Json :=
  match JsonText.loads text with
  | some body => objectValue (some (Jcs.plain body)) "request body"
  | none => .error ⟨400, "request body must be valid JSON"⟩

def decodeJsonObject (value name : String) : Except StateHttpError Json :=
  match JsonText.loads value with
  | some (.obj entries) => .ok (Jcs.plain (.obj entries))
  | some _ => .error ⟨400, name ++ " must be an object"⟩
  | none => .error ⟨500, name ++ " contains invalid JSON"⟩

def rowToIntent (row : IntentRow) : Except StateHttpError StoredIntent := do
  let principalId ← stringValue (some (.str row.principalId)) "principal_id"
  let source ← decodeJsonObject row.sourceJson "source_json"
  let receipt ← decodeJsonObject row.receiptJson "receipt_json"
  return ⟨row.intentId, row.intentHash, row.status, principalId, row.actor, row.requestedOperation,
    .dict [("kind", .str row.targetKind), ("id", .str row.targetId)], row.parametersHash, source,
    row.createdAt, receipt⟩

/-- `new Date().toISOString()`, at the acceptance and at the append. -/
structure Clock where
  acceptedAt : String
  ledgerAt : String

structure AcceptRequest where
  commitment : IntentCommitment
  principalId : String
  expectedLedgerHead : String

section
variable (host : Host)

/-- The checks of `acceptIntent` before its transaction. -/
def readRequest (text : String) : Except StateHttpError AcceptRequest := do
  let body ← parseJson text
  let intent ← objectValue (body.get? "intent") "intent"
  let principalId ← stringValue (body.get? "principal_id") "principal_id"
  let allowDelegatedActor := isTrue (body.get? "allow_delegated_actor")
  let expectedLedgerHead ← stringValue (body.get? "expected_ledger_head") "expected_ledger_head"
  let intentId ← stringValue (intent.get? "intent_id") "intent.intent_id"
  let intentHash ← stringValue (intent.get? "intent_hash") "intent.intent_hash"
  let actorId ← stringValue (intent.get? "actor_id") "intent.actor_id"
  let operation ← stringValue (intent.get? "requested_operation") "intent.requested_operation"
  let target ← objectValue (intent.get? "target") "intent.target"
  let targetKind ← stringValue (target.get? "kind") "intent.target.kind"
  let targetId ← stringValue (target.get? "id") "intent.target.id"
  let parameters ← objectValue (nullish (intent.get? "parameters")) "intent.parameters"
  let source ← objectValue (intent.get? "source") "intent.source"
  let createdAt ← stringValue (intent.get? "created_at") "intent.created_at"
  if actorId != principalId && !allowDelegatedActor then
    throw ⟨409, "intent actor_id must match authenticated principal unless delegated submit is authorized"⟩
  let computed ← jcs (canonicalIntent intent)
  if sha256Text host computed != intentHash then throw ⟨409, "intent_hash mismatch"⟩
  let parametersText ← jcs parameters
  return ⟨⟨intentId, intentHash, actorId, operation, targetKind, targetId, target, source, createdAt,
    sha256Text host parametersText⟩, principalId, expectedLedgerHead⟩
where
  /-- `value ?? {}`. -/
  nullish : Option Json → Option Json
    | none | some .null => some (.obj [])
    | value => value

def currentProjectionReceipt (db : Database) : String :=
  match db.ledger.getLast? with
  | some last => last.eventHash
  | none => genesisCommitment host

def durableFailure : StateHttpError := ⟨500, "durable institutional state failure"⟩

def appendLedgerEvent (db : Database) (event : Json) (decision : String) :
    Except StateHttpError (LedgerReceipt × Database) := do
  let prevHash := ledgerHead db.ledger
  let eventJson ← jcs event
  let eventHash := eventHashOf host prevHash eventJson decision
  if db.ledger.any (fun row => row.eventHash == eventHash) then throw durableFailure
  let row : LedgerRow := ⟨nextSeq db.ledger, prevHash, eventHash, eventJson, decision⟩
  if !Jcs.isSafe row.seq || row.seq < 1 then throw ⟨500, "ledger sequence unavailable"⟩
  return (⟨row.seq, prevHash, eventHash, decision⟩, { db with ledger := db.ledger ++ [row] })

def staleHead (currentHead : String) : StateHttpError :=
  ⟨409, "intent source binding became stale before persistence; current_ledger_head=" ++ currentHead⟩

def acceptNew (clock : Clock) (request : AcceptRequest) (db : Database) :
    Except StateHttpError (IntentAnswer × Database) := do
  let c := request.commitment
  if db.institutionalIntents.any (fun row => row.intentHash == c.intentHash) then
    throw ⟨409, "intent_hash already registered under a different intent_id"⟩
  let currentHead := currentProjectionReceipt host db
  if currentHead != request.expectedLedgerHead then throw (staleHead currentHead)
  let projectionHash ← stringValue (c.source.get? "projection_hash") "intent.source.projection_hash"
  let sourceCommit ← stringValue (c.source.get? "commit_sha") "intent.source.commit_sha"
  let event := intentAcceptedEvent c request.principalId projectionHash sourceCommit clock.acceptedAt ++
    [("ledger_at", .str clock.ledgerAt)]
  let (receipt, ledgered) ← appendLedgerEvent host db (.dict event) "PASS"
  let sourceJson ← jcs c.source
  let receiptJson ← jcs receipt.toJson
  let row : IntentRow := { c.row request.principalId receiptJson with sourceJson := sourceJson }
  return (⟨⟨c.intentId, c.intentHash, intentStatus, request.principalId, c.actorId, c.requestedOperation,
    .dict [("kind", .str c.targetKind), ("id", .str c.targetId)], c.parametersHash, c.source, c.createdAt,
    receipt.toJson⟩, false⟩, { ledgered with institutionalIntents := ledgered.institutionalIntents ++ [row] })

def collision : StateHttpError := ⟨409, "intent_id collision or principal/actor mismatch"⟩

/-- The transaction of `acceptIntent`. -/
def acceptTx (clock : Clock) (request : AcceptRequest) (db : Database) :
    Except StateHttpError (IntentAnswer × Database) :=
  match findIntent db request.commitment.intentId with
  | some existing =>
    if existing.intentHash != request.commitment.intentHash || existing.principalId != request.principalId ||
        existing.actor != request.commitment.actorId then
      .error collision
    else do
      let stored ← rowToIntent existing
      return (⟨stored, true⟩, db)
  | none => acceptNew host clock request db

/-- `acceptIntent`: what a transaction that raises wrote is rolled back. -/
def acceptIntent (clock : Clock) (text : String) (db : Database) : Except StateHttpError IntentAnswer × Database :=
  match readRequest host text with
  | .error e => (.error e, db)
  | .ok request =>
    match acceptTx host clock request db with
    | .error e => (.error e, db)
    | .ok (answer, db') => (.ok answer, db')

end

end Cloudflare

/-! ## What a request does -/

namespace Cloudflare

variable {host : Host} {clock : Clock} {db db' : Database}

theorem stringValue_ok {value : Option Json} {name s : String} (read : stringValue value name = .ok s) :
    value = some (.str s) ∧ s ≠ "" := by
  unfold stringValue at read
  split at read
  · split at read <;> cases read
    next filled => exact ⟨rfl, by simpa using filled⟩
  · cases read

theorem stringValue_of {value : Option Json} {s : String} (name : String) (held : value = some (.str s))
    (filled : s ≠ "") : stringValue value name = .ok s := by
  subst held
  simp [stringValue, filled]

theorem jcs_ok {value : Json} {text : String} (read : jcs value = .ok text) :
    text = Jcs.text value ∧ Jcs.isPlainable value = true := by
  unfold jcs at read
  split at read
  next plainable => exact ⟨(Except.ok.inj read).symm, plainable⟩
  · cases read

theorem jcs_of {value : Json} (plainable : Jcs.isPlainable value = true) : jcs value = .ok (Jcs.text value) := by
  rw [jcs, if_pos plainable]

/-- The event of an acceptance, as the service builds it. -/
def acceptedEvent (clock : Clock) (request : AcceptRequest) (projectionHash sourceCommit : String) : Mapping :=
  intentAcceptedEvent request.commitment request.principalId projectionHash sourceCommit clock.acceptedAt ++
    [("ledger_at", .str clock.ledgerAt)]

/-- Everything the acceptance of a new intent reads and writes. -/
structure Takes (host : Host) (clock : Clock) (request : AcceptRequest) (db : Database) (row : LedgerRow)
    (db' : Database) : Prop where
  fresh : findIntent db request.commitment.intentId = none
  freshHash : ∀ r ∈ db.institutionalIntents, r.intentHash ≠ request.commitment.intentHash
  head : currentProjectionReceipt host db = request.expectedLedgerHead
  event : ∃ projectionHash sourceCommit,
    request.commitment.source.get? "projection_hash" = some (.str projectionHash) ∧ projectionHash ≠ "" ∧
    request.commitment.source.get? "commit_sha" = some (.str sourceCommit) ∧ sourceCommit ≠ "" ∧
    row = ⟨nextSeq db.ledger, ledgerHead db.ledger, row.eventHash,
      Jcs.text (.dict (acceptedEvent clock request projectionHash sourceCommit)), "PASS"⟩
  hashed : row.eventHash = eventHashOf host (ledgerHead db.ledger) row.eventJson row.decision
  unused : ∀ r ∈ db.ledger, r.eventHash ≠ row.eventHash
  safe : Jcs.isSafe row.seq = true ∧ 1 ≤ row.seq
  plainable : Jcs.isPlainable request.commitment.source = true
  stored : db' = { db with
    ledger := db.ledger ++ [row]
    institutionalIntents := db.institutionalIntents ++ [{ request.commitment.row request.principalId
      (Jcs.text (LedgerReceipt.mk row.seq row.prevHash row.eventHash row.decision).toJson) with
        sourceJson := Jcs.text request.commitment.source }] }

theorem acceptNew_ok {request : AcceptRequest} {answer : IntentAnswer}
    (fresh : findIntent db request.commitment.intentId = none)
    (accepted : acceptNew host clock request db = .ok (answer, db')) :
    answer.idempotent = false ∧ ∃ row, Takes host clock request db row db' := by
  simp only [acceptNew, appendLedgerEvent, bind_ok, guard_ok, pure_ok, Prod.mk.injEq, Bool.not_eq_true,
    bne_eq_false_iff_eq] at accepted
  obtain ⟨freshHash, head, projectionHash, projected, sourceCommit, committed, ⟨receipt, ledgered⟩,
    ⟨eventJson, event, unused, safe, rfl, rfl⟩, sourceJson, source, receiptJson, receipted, rfl, rfl⟩ := accepted
  obtain ⟨rfl, _⟩ := jcs_ok event
  obtain ⟨rfl, plainable⟩ := jcs_ok source
  obtain ⟨rfl, _⟩ := jcs_ok receipted
  obtain ⟨hashField, hashFilled⟩ := stringValue_ok projected
  obtain ⟨commitField, commitFilled⟩ := stringValue_ok committed
  simp only [Bool.or_eq_false_iff, Bool.not_eq_false', decide_eq_false_iff_not, not_lt] at safe
  refine ⟨rfl, _, fresh, ?_, by simpa using head, ⟨projectionHash, sourceCommit, hashField, hashFilled, commitField,
    commitFilled, rfl⟩, rfl, ?_, safe, plainable, rfl⟩
  · intro row member same
    have := List.any_eq_false.mp freshHash row member
    simp [same] at this
  · intro row member same
    have := List.any_eq_false.mp unused row member
    simp [same] at this

/-- A request leaves the database, or is accepted as a new one. -/
theorem acceptIntent_cases (host : Host) (clock : Clock) (text : String) (db : Database) :
    ((acceptIntent host clock text db).2 = db ∧
      ∀ answer, (acceptIntent host clock text db).1 = .ok answer → answer.idempotent = true) ∨
      ∃ request row, readRequest host text = .ok request ∧
        Takes host clock request db row (acceptIntent host clock text db).2 := by
  unfold acceptIntent
  split
  · exact .inl ⟨rfl, nofun⟩
  next request read =>
    split
    · exact .inl ⟨rfl, nofun⟩
    next answer db' done =>
      unfold acceptTx at done
      split at done
      · split at done
        · cases done
        · simp only [bind_ok, pure_ok, Prod.mk.injEq] at done
          obtain ⟨stored, _, rfl, rfl⟩ := done
          refine .inl ⟨rfl, fun answer same => ?_⟩
          cases same
          rfl
      next fresh =>
        obtain ⟨_, row, takes⟩ := acceptNew_ok fresh done
        exact .inr ⟨request, row, read, takes⟩

end Cloudflare

/-! ## The client -/

section
variable (host : Host) (isIsoFormat : String → Bool)

/-- The body that `accept_remote_intent` sends. -/
def acceptBody (intent : Json) (principalId : String) (allowDelegatedActor : Bool) (expectedLedgerHead : String) :
    String :=
  canonicalJson (.dict [("intent", intent), ("principal_id", .str principalId),
    ("allow_delegated_actor", .bool allowDelegatedActor), ("expected_ledger_head", .str expectedLedgerHead)])

/-- What the client establishes from a snapshot: the head its request will name. -/
def expectedHead (build : BuildConfiguration) (c : IntentCommitment) (snapshot : Database) :
    Except PyError String := do
  let current ← projectionOf host isIsoFormat build snapshot
  if !c.source.pyEq current.expectedSource then throw (staleSource current.projectionHash)
  return current.sourceReceipt

/-- `_persist_intent_remote`, with no other writer between the snapshot and the request. -/
def persistIntentRemote (build : BuildConfiguration) (clock : Cloudflare.Clock) (intent : Json) (principalId : String)
    (allowDelegatedActor : Bool) (db : Database) : Except PyError IntentAnswer × Database :=
  match verifyInternalBoundary host intent principalId allowDelegatedActor with
  | .error e => (.error e, db)
  | .ok c =>
    match expectedHead host isIsoFormat build c db with
    | .error e => (.error e, db)
    | .ok head =>
      match Cloudflare.acceptIntent host clock (acceptBody intent principalId allowDelegatedActor head) db with
      | (.ok answer, db') => (.ok answer, db')
      | (.error e, db') => (.error (.valueError e.message), db')

end

/-! ## What the service reads of a client's body -/

namespace Cloudflare

variable {host : Host}

/-- What the service asks of an intent that the client has let through. -/
structure Sendable (c : IntentCommitment) (principalId head : String) : Prop where
  principal : principalId ≠ ""
  head : head ≠ ""
  intentHash : c.intentHash ≠ ""
  targetKind : c.targetKind ≠ ""
  targetId : c.targetId ≠ ""
  createdAt : c.createdAt ≠ ""

/-- The request that the service reads from a client's body. -/
def requestOf (c : IntentCommitment) (principalId head : String) : AcceptRequest :=
  ⟨{ c with target := Jcs.plain c.target, source := Jcs.plain c.source }, principalId, head⟩

theorem canonicalIntent_plain {intent : Json} (shaped : intent.norm.isObj = true) :
    (canonicalIntent intent).Normal ∧ canonicalIntent (Jcs.plain intent.norm) = Jcs.plain (canonicalIntent intent) := by
  have normal : (Jcs.plain intent.norm).norm = Jcs.plain intent.norm := Jcs.normal_plain (Json.normal_norm intent)
  unfold canonicalIntent
  rw [normal]
  cases fields : intent.norm with
  | obj entries =>
    obtain ⟨sorted, values⟩ := Json.normal_obj.mp (fields ▸ Json.normal_norm intent)
    refine ⟨Json.normal_obj.mpr ⟨Dict.sorted_erase _ sorted, fun p member => values p ?_⟩, ?_⟩
    · exact (Dict.erase_sublist _ _).mem member
    · simp only [Jcs.plain, Jcs.plainEntries_eq, Dict.erase_map]
  | _ => simp [fields, Json.isObj] at shaped

theorem parseJson_acceptBody (intent : Json) (principalId : String) (allow : Bool) (head : String) :
    ∃ body, parseJson (acceptBody intent principalId allow head) = .ok body ∧
      body.get? "intent" = some (Jcs.plain intent.norm) ∧ body.get? "principal_id" = some (.str principalId) ∧
      body.get? "allow_delegated_actor" = some (.bool allow) ∧
      body.get? "expected_ledger_head" = some (.str head) := by
  refine ⟨Jcs.plain (Json.dict [("intent", intent), ("principal_id", .str principalId),
    ("allow_delegated_actor", .bool allow), ("expected_ledger_head", .str head)]).norm, ?_, ?_, ?_, ?_, ?_⟩
  · rw [parseJson, acceptBody, loads_canonicalJson]
    rfl
  all_goals
    rw [Jcs.get?_plain]
    simp [Jcs.plain]

theorem stringValue_iff {value : Option Json} {name s t : String} (held : value = some (.str s)) :
    stringValue value name = .ok t ↔ s ≠ "" ∧ t = s := by
  subst held
  by_cases empty : s = ""
  · simp [stringValue, empty]
  · simp only [stringValue, beq_iff_eq, empty, if_false, Except.ok.injEq, ne_eq, not_false_eq_true, true_and]
    exact eq_comm

theorem objectValue_iff {value : Option Json} {name : String} {v w : Json} (held : value = some v)
    (shaped : v.isObj = true) : objectValue value name = .ok w ↔ w = v := by
  subst held
  cases v with
  | obj entries => simp [objectValue, eq_comm]
  | _ => cases shaped

theorem isObj_plain {v : Json} (shaped : v.isObj = true) : (Jcs.plain v).isObj = true := by
  cases v with
  | obj entries => rfl
  | _ => cases shaped

theorem isObj_of_get {v w : Json} {key : String} (held : v.get? key = some w) : v.isObj = true := by
  cases v with
  | obj entries => rfl
  | _ => cases held

theorem nullish_plain {fields parameters : Json}
    (present : (fields.get? "parameters").or (some (.obj [])) = some parameters) (shaped : parameters.isObj = true) :
    readRequest.nullish ((Jcs.plain fields).get? "parameters") = some (Jcs.plain parameters) := by
  rw [Jcs.get?_plain]
  cases held : fields.get? "parameters" with
  | none =>
    rw [held] at present
    obtain rfl := Option.some.inj present
    rfl
  | some v =>
    rw [held] at present
    obtain rfl := Option.some.inj present
    cases v with
    | obj entries => rfl
    | _ => cases shaped

theorem jcs_plain {v : Json} {hash : String} (normal : v.Normal) (hashed : jcsSubsetHash host v = .ok hash) :
    jcs (Jcs.plain v) = .ok (Jcs.text v) := by
  have inner : v.norm = v := normal
  have safe := jcsSubsetHash_safe hashed
  rw [inner] at safe
  rw [jcs_of (Jcs.isPlainable_plain safe), Jcs.text_plain normal]

/-- The service reads a body exactly when the texts it stores are not empty. -/
theorem readRequest_acceptBody {intent : Json} {principalId : String} {allow : Bool} {c : IntentCommitment}
    (verified : verifyInternalBoundary host intent principalId allow = .ok c) (head : String) (r : AcceptRequest) :
    readRequest host (acceptBody intent principalId allow head) = .ok r ↔
      Sendable c principalId head ∧ r = requestOf c principalId head := by
  have b := verifyInternalBoundary_ok verified
  obtain ⟨body, parsed, bodyIntent, bodyPrincipal, bodyAllow, bodyHead⟩ :=
    parseJson_acceptBody intent principalId allow head
  have shaped : intent.norm.isObj = true := isObj_of_get b.actor.1
  have text {key s : String} (held : intent.norm.get? key = some (.str s)) :
      (Jcs.plain intent.norm).get? key = some (.str s) := by
    rw [Jcs.get?_plain, held]
    rfl
  have object {key : String} {v : Json} (held : intent.norm.get? key = some v) :
      (Jcs.plain intent.norm).get? key = some (Jcs.plain v) := by
    rw [Jcs.get?_plain, held]
    rfl
  have targetShaped : c.target.isObj = true := isObj_of_get b.targetKind
  have targetText {key s : String} (held : c.target.get? key = some (.str s)) :
      (Jcs.plain c.target).get? key = some (.str s) := by
    rw [Jcs.get?_plain, held]
    rfl
  obtain ⟨parameters, present, parametersShaped, _, parametersHash⟩ := b.parameters
  have parametersRead : readRequest.nullish ((Jcs.plain intent.norm).get? "parameters") =
      some (Jcs.plain parameters) := nullish_plain present parametersShaped
  have parametersNormal : parameters.Normal := by
    cases field : intent.norm.get? "parameters" with
    | none =>
      rw [field] at present
      obtain rfl := Option.some.inj present
      rfl
    | some v =>
      rw [field] at present
      obtain rfl := Option.some.inj present
      exact (Json.normal_norm intent).get? field
  have parametersText := jcs_plain parametersNormal parametersHash
  obtain ⟨canonicalNormal, canonicalPlain⟩ := canonicalIntent_plain shaped
  have canonicalText := jcs_plain canonicalNormal b.hashed
  rw [← canonicalPlain] at canonicalText
  have canonicalHash := jcsSubsetHash_ok b.hashed
  have parametersDigest := jcsSubsetHash_ok parametersHash
  have delegated : (c.actorId != principalId && !isTrue (some (.bool allow))) = false := by
    rcases b.delegated with own | allowed
    · simp [own]
    · simp [allowed, isTrue]
  have shapedPlain := isObj_plain shaped
  simp only [readRequest, bind_ok, guard_ok, pure_ok]
  constructor
  · rintro ⟨body', same, fields, fieldsRead, principal, principalRead, head', headRead, intentId, idRead, intentHash,
      hashRead, actorId, actorRead, operation, operationRead, target, targetRead, kind, kindRead, id, targetIdRead,
      parameters', parametersIs, source, sourceRead, createdAt, createdRead, _, computed, computedIs, _,
      parametersText', parametersTextIs, rfl⟩
    obtain rfl := Except.ok.inj (parsed.symm.trans same)
    obtain rfl := (objectValue_iff bodyIntent shapedPlain).mp fieldsRead
    obtain ⟨principalFilled, rfl⟩ := (stringValue_iff bodyPrincipal).mp principalRead
    obtain ⟨headFilled, rfl⟩ := (stringValue_iff bodyHead).mp headRead
    obtain ⟨_, rfl⟩ := (stringValue_iff (text b.intentId.1)).mp idRead
    obtain ⟨hashFilled, rfl⟩ := (stringValue_iff (text b.intentHash)).mp hashRead
    obtain ⟨_, rfl⟩ := (stringValue_iff (text b.actor.1)).mp actorRead
    obtain ⟨_, rfl⟩ := (stringValue_iff (text b.operation.1)).mp operationRead
    obtain rfl := (objectValue_iff (object b.target) (isObj_plain targetShaped)).mp targetRead
    obtain ⟨kindFilled, rfl⟩ := (stringValue_iff (targetText b.targetKind)).mp kindRead
    obtain ⟨idFilled, rfl⟩ := (stringValue_iff (targetText b.targetId)).mp targetIdRead
    obtain rfl := (objectValue_iff parametersRead (isObj_plain parametersShaped)).mp parametersIs
    obtain rfl := (objectValue_iff (object b.source.1) (isObj_plain b.source.2)).mp sourceRead
    obtain ⟨createdFilled, rfl⟩ := (stringValue_iff (text b.createdAt)).mp createdRead
    obtain rfl := Except.ok.inj (parametersText.symm.trans parametersTextIs)
    refine ⟨⟨principalFilled, headFilled, hashFilled, kindFilled, idFilled, createdFilled⟩, ?_⟩
    rw [← parametersDigest]
    rfl
  · rintro ⟨sendable, rfl⟩
    refine ⟨body, parsed, _, (objectValue_iff bodyIntent shapedPlain).mpr rfl,
      _, (stringValue_iff bodyPrincipal).mpr ⟨sendable.principal, rfl⟩,
      _, (stringValue_iff bodyHead).mpr ⟨sendable.head, rfl⟩,
      _, (stringValue_iff (text b.intentId.1)).mpr ⟨b.intentId.2, rfl⟩,
      _, (stringValue_iff (text b.intentHash)).mpr ⟨sendable.intentHash, rfl⟩,
      _, (stringValue_iff (text b.actor.1)).mpr ⟨b.actor.2, rfl⟩,
      _, (stringValue_iff (text b.operation.1)).mpr ⟨b.operation.2, rfl⟩,
      _, (objectValue_iff (object b.target) (isObj_plain targetShaped)).mpr rfl,
      _, (stringValue_iff (targetText b.targetKind)).mpr ⟨sendable.targetKind, rfl⟩,
      _, (stringValue_iff (targetText b.targetId)).mpr ⟨sendable.targetId, rfl⟩,
      _, (objectValue_iff parametersRead (isObj_plain parametersShaped)).mpr rfl,
      _, (objectValue_iff (object b.source.1) (isObj_plain b.source.2)).mpr rfl,
      _, (stringValue_iff (text b.createdAt)).mpr ⟨sendable.createdAt, rfl⟩, ?_,
      _, canonicalText, ?_, _, parametersText, ?_⟩
    · rw [bodyAllow, delegated]
      simp
    · simp [canonicalHash]
    · rw [← parametersDigest]
      rfl

end Cloudflare

end MatVerse
