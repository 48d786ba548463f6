import MatVerse.InstitutionalProjection
import MatVerse.ModelBridge
import MatVerse.Lib.Run

/-! The institutional intent store. An intent is checked against its own hash, then
accepted in one transaction that compares its source with the projection of the
database as it stands. -/
namespace MatVerse

open Fallible

def intentStatus : String := "PENDING_EVALUATION"
def parameterPersistence : String := "HASH_ONLY"

/-- What one call of the store reads of its surroundings. -/
structure Runtime where
  build : BuildConfiguration
  acceptedAt : String
  ledgerAt : String

def Runtime.surroundings (r : Runtime) : Surroundings := ⟨r.build.buildCommit, r.acceptedAt, r.ledgerAt⟩

/-- What the store keeps of an intent: of its parameters only their hash. -/
structure IntentCommitment where
  intentId : String
  intentHash : String
  actorId : String
  requestedOperation : String
  targetKind : String
  targetId : String
  target : Json
  source : Json
  createdAt : String
  parametersHash : String

structure StoredIntent where
  intentId : String
  intentHash : String
  status : String
  principalId : String
  actorId : String
  requestedOperation : String
  target : Json
  parametersHash : String
  source : Json
  createdAt : String
  receipt : Json

structure IntentAnswer extends StoredIntent where
  idempotent : Bool

def IntentAnswer.toJson (a : IntentAnswer) : Json :=
  .dict [("intent_id", .str a.intentId), ("intent_hash", .str a.intentHash), ("status", .str a.status),
    ("principal_id", .str a.principalId), ("actor_id", .str a.actorId),
    ("requested_operation", .str a.requestedOperation), ("target", a.target),
    ("parameters_hash", .str a.parametersHash), ("parameter_persistence", .str parameterPersistence),
    ("source", a.source), ("created_at", .str a.createdAt), ("receipt", a.receipt),
    ("idempotent", .bool a.idempotent), ("execution_decision", .str "HOLD")]

/-- A text field; an absent or other value raises. -/
def requireStr (field : Option Json) (message : String) : Except PyError String :=
  match field with
  | some (.str s) => .ok s
  | _ => .error (.valueError message)

def requireNonEmpty (field : Option Json) (message : String) : Except PyError String :=
  match field with
  | some (.str s) => if s == "" then .error (.valueError message) else .ok s
  | _ => .error (.valueError message)

def requireDict (field : Option Json) (message : String) : Except PyError Json :=
  match field with
  | some (.obj entries) => .ok (.obj entries)
  | _ => .error (.valueError message)

/-- The document whose hash is the intent's. -/
def canonicalIntent (intent : Json) : Json :=
  match intent.norm with
  | .obj entries => .obj (Dict.erase "intent_hash" entries)
  | v => v

section
variable (host : Host)

def verifyInternalBoundary (intent : Json) (principalId : String) (allowDelegatedActor : Bool) :
    Except PyError IntentCommitment := do
  let fields := intent.norm
  let actorId ← requireNonEmpty (fields.get? "actor_id") "intent actor_id missing"
  if actorId != principalId && !allowDelegatedActor then
    throw (.valueError
      "intent actor_id must match authenticated principal unless delegated submit is authorized")
  let intentId ← requireNonEmpty (fields.get? "intent_id") "intent_id missing"
  let intentHash ← requireStr (fields.get? "intent_hash") "intent_hash missing"
  let operation ← requireNonEmpty (fields.get? "requested_operation") "requested_operation missing"
  let target ← requireDict (fields.get? "target") "target invalid"
  let targetKind ← requireStr (target.get? "kind") "target invalid"
  let targetId ← requireStr (target.get? "id") "target invalid"
  let parameters ← requireDict ((fields.get? "parameters").or (some (.obj []))) "parameters invalid"
  let source ← requireDict (fields.get? "source") "source binding invalid"
  let createdAt ← requireStr (fields.get? "created_at") "created_at invalid"
  ModelBridge.assertTransferableState (.obj [("metadata", parameters)])
  let parametersHash ← jcsSubsetHash host parameters
  let computed ← jcsSubsetHash host (canonicalIntent intent)
  if computed != intentHash then throw (.valueError "intent_hash mismatch")
  return ⟨intentId, intentHash, actorId, operation, targetKind, targetId, target, source, createdAt,
    parametersHash⟩

end

def IntentRow.actor (row : IntentRow) : String := if row.actorId == "" then row.principalId else row.actorId

def loadColumn (text : String) : Except PyError Json :=
  match JsonText.loads text with
  | some v => .ok v
  | none => .error .jsonDecodeError

def rowToIntent (row : IntentRow) : Except PyError StoredIntent := do
  let source ← loadColumn row.sourceJson
  let receipt ← loadColumn row.receiptJson
  return ⟨row.intentId, row.intentHash, row.status, row.principalId, row.actor, row.requestedOperation,
    .dict [("kind", .str row.targetKind), ("id", .str row.targetId)], row.parametersHash, source,
    row.createdAt, receipt⟩

def insertIntent (db : Database) (row : IntentRow) : Except PyError Database := do
  if db.institutionalIntents.any (fun r => r.intentId == row.intentId) then
    throw (.integrityError "UNIQUE constraint failed: institutional_intents.intent_id")
  if db.institutionalIntents.any (fun r => r.intentHash == row.intentHash) then
    throw (.integrityError "UNIQUE constraint failed: institutional_intents.intent_hash")
  return { db with institutionalIntents := db.institutionalIntents ++ [row] }

def findIntent (db : Database) (intentId : String) : Option IntentRow :=
  db.institutionalIntents.find? (fun row => row.intentId == intentId)

def strField? (v : Json) (key : String) : Except PyError String :=
  match v.get? key with
  | some (.str s) => .ok s
  | _ => .error (.keyError key)

def intentAcceptedEvent (c : IntentCommitment) (principalId projectionHash sourceCommit acceptedAt : String) :
    Mapping :=
  [("event_type", .str "INSTITUTIONAL_INTENT_ACCEPTED"), ("intent_id", .str c.intentId),
    ("intent_hash", .str c.intentHash), ("requested_operation", .str c.requestedOperation),
    ("target_kind", .str c.targetKind), ("target_id", .str c.targetId),
    ("parameters_hash", .str c.parametersHash), ("parameter_persistence", .str parameterPersistence),
    ("principal_id", .str principalId), ("actor_id", .str c.actorId),
    ("projection_hash", .str projectionHash), ("source_commit", .str sourceCommit),
    ("created_at", .str c.createdAt), ("accepted_at", .str acceptedAt), ("execution_decision", .str "HOLD"),
    ("execution_reason", .str
      "intent commitment accepted; raw parameters require later authorized resubmission and evaluation")]

def IntentCommitment.row (c : IntentCommitment) (principalId receiptJson : String) : IntentRow :=
  ⟨c.intentId, principalId, c.actorId, c.requestedOperation, c.targetKind, c.targetId, c.parametersHash,
    canonicalJson c.source, c.intentHash, intentStatus, c.createdAt, receiptJson⟩

def staleSource (projectionHash : String) : PyError :=
  .valueError ("intent source binding became stale before persistence; current_projection_hash=" ++ projectionHash)

section
variable (host : Host) (isIsoFormat : String → Bool)

def acceptNewIntent (runtime : Runtime) (principalId : String) (c : IntentCommitment) (db : Database) :
    Except PyError (IntentAnswer × Database) := do
  if db.institutionalIntents.any (fun row => row.intentHash == c.intentHash) then
    throw (.valueError "intent_hash already registered under a different intent_id")
  let current ← projectionOf host isIsoFormat runtime.build db
  if !c.source.pyEq current.expectedSource then throw (staleSource current.projectionHash)
  let projectionHash ← strField? c.source "projection_hash"
  let sourceCommit ← strField? c.source "commit_sha"
  let (receipt, ledgered) ← appendLedgerTx host runtime.surroundings db
    (intentAcceptedEvent c principalId projectionHash sourceCommit runtime.acceptedAt) "PASS"
  let stored ← insertIntent ledgered (c.row principalId (canonicalJson receipt.toJson))
  return (⟨⟨c.intentId, c.intentHash, intentStatus, principalId, c.actorId, c.requestedOperation, c.target,
    c.parametersHash, c.source, c.createdAt, receipt.toJson⟩, false⟩, stored)

/-- The transaction of `persist_intent`. -/
def persistCommitment (runtime : Runtime) (principalId : String) (c : IntentCommitment) (db : Database) :
    Except PyError (IntentAnswer × Database) :=
  match findIntent db c.intentId with
  | some existing =>
    if existing.intentHash != c.intentHash || existing.principalId != principalId ||
        existing.actor != c.actorId then
      .error (.valueError "intent_id collision or principal/actor mismatch")
    else do
      let stored ← rowToIntent existing
      return (⟨stored, true⟩, db)
  | none => acceptNewIntent host isIsoFormat runtime principalId c db

/-- `persist_intent` on the local store. -/
def persistIntent (runtime : Runtime) (intent : Json) (principalId : String) (allowDelegatedActor : Bool)
    (db : Database) : Except PyError IntentAnswer × Database :=
  match verifyInternalBoundary host intent principalId allowDelegatedActor with
  | .error e => (.error e, db)
  | .ok c => transaction (persistCommitment host isIsoFormat runtime principalId c) db

end

/-! ## What a call does -/

variable {host : Host} {isIsoFormat : String → Bool}

theorem requireStr_ok {field : Option Json} {message s : String} (read : requireStr field message = .ok s) :
    field = some (.str s) := by
  unfold requireStr at read
  split at read <;> cases read
  rfl

theorem requireNonEmpty_ok {field : Option Json} {message s : String}
    (read : requireNonEmpty field message = .ok s) : field = some (.str s) ∧ s ≠ "" := by
  unfold requireNonEmpty at read
  split at read
  · split at read <;> cases read
    next filled => exact ⟨rfl, by simpa using filled⟩
  · cases read

theorem requireDict_ok {field : Option Json} {message : String} {v : Json}
    (read : requireDict field message = .ok v) : field = some v ∧ v.isObj = true := by
  unfold requireDict at read
  split at read <;> cases read
  exact ⟨rfl, rfl⟩

/-- Everything the boundary has established of an intent it lets through. -/
structure Bounded (host : Host) (intent : Json) (principalId : String) (allowDelegatedActor : Bool)
    (c : IntentCommitment) : Prop where
  actor : intent.norm.get? "actor_id" = some (.str c.actorId) ∧ c.actorId ≠ ""
  delegated : c.actorId = principalId ∨ allowDelegatedActor = true
  intentId : intent.norm.get? "intent_id" = some (.str c.intentId) ∧ c.intentId ≠ ""
  intentHash : intent.norm.get? "intent_hash" = some (.str c.intentHash)
  operation : intent.norm.get? "requested_operation" = some (.str c.requestedOperation) ∧
    c.requestedOperation ≠ ""
  target : intent.norm.get? "target" = some c.target
  targetKind : c.target.get? "kind" = some (.str c.targetKind)
  targetId : c.target.get? "id" = some (.str c.targetId)
  parameters : ∃ parameters, (intent.norm.get? "parameters").or (some (.obj [])) = some parameters ∧
    parameters.isObj = true ∧ ModelBridge.assertTransferableState (.obj [("metadata", parameters)]) = .ok () ∧
    jcsSubsetHash host parameters = .ok c.parametersHash
  source : intent.norm.get? "source" = some c.source ∧ c.source.isObj = true
  createdAt : intent.norm.get? "created_at" = some (.str c.createdAt)
  hashed : jcsSubsetHash host (canonicalIntent intent) = .ok c.intentHash

theorem verifyInternalBoundary_ok {intent : Json} {principalId : String} {allowDelegatedActor : Bool}
    {c : IntentCommitment}
    (verified : verifyInternalBoundary host intent principalId allowDelegatedActor = .ok c) :
    Bounded host intent principalId allowDelegatedActor c := by
  simp only [verifyInternalBoundary, bind_ok, guard_ok, pure_ok, Bool.and_eq_true, bne_iff_ne, ne_eq,
    Bool.not_eq_true', not_and, Bool.not_eq_false, not_not] at verified
  obtain ⟨actorId, actor, delegated, intentId, identified, intentHash, hash, operation, requested, target,
    targeted, kind, kinded, id, ided, parameters, parametrised, source, sourced, createdAt, created, _,
    transferable, parametersHash, committed, computed, hashed, same, rfl⟩ := verified
  obtain rfl := same
  refine ⟨requireNonEmpty_ok actor, ?_, requireNonEmpty_ok identified, requireStr_ok hash,
    requireNonEmpty_ok requested, (requireDict_ok targeted).1, requireStr_ok kinded, requireStr_ok ided,
    ⟨parameters, (requireDict_ok parametrised).1, (requireDict_ok parametrised).2, transferable, committed⟩,
    requireDict_ok sourced, requireStr_ok created, hashed⟩
  by_cases own : actorId = principalId
  · exact .inl own
  · exact .inr (delegated own)

/-- Everything the acceptance of a new intent does. -/
structure Accepts (host : Host) (isIsoFormat : String → Bool) (runtime : Runtime) (principalId : String)
    (c : IntentCommitment) (db : Database) (p : Projection) (receipt : LedgerReceipt) (ledgered : Database)
    (answer : IntentAnswer) (db' : Database) : Prop where
  fresh : findIntent db c.intentId = none
  freshHash : ∀ row ∈ db.institutionalIntents, row.intentHash ≠ c.intentHash
  current : projectionOf host isIsoFormat runtime.build db = .ok p
  source : c.source = p.expectedSource
  appended : appendLedgerTx host runtime.surroundings db
    (intentAcceptedEvent c principalId p.projectionHash p.source.commitSha runtime.acceptedAt) "PASS" =
      .ok (receipt, ledgered)
  stored : db' = { ledgered with
    institutionalIntents := db.institutionalIntents ++ [c.row principalId (canonicalJson receipt.toJson)] }
  answered : answer = ⟨⟨c.intentId, c.intentHash, intentStatus, principalId, c.actorId, c.requestedOperation,
    c.target, c.parametersHash, c.source, c.createdAt, receipt.toJson⟩, false⟩

theorem insertIntent_ok {db db' : Database} {row : IntentRow} (inserted : insertIntent db row = .ok db') :
    db' = { db with institutionalIntents := db.institutionalIntents ++ [row] } := by
  simp only [insertIntent, guard_ok, pure_ok] at inserted
  exact inserted.2.2.symm

theorem expectedSource_strs (p : Projection) :
    ∃ entries, p.expectedSource = .obj entries ∧ ∀ q ∈ entries, ∃ s, q.2 = Json.str s := by
  refine ⟨_, rfl, ?_⟩
  intro q member
  have listed := Dict.mem_ofPairs member
  simp only [SourceBinding.toMapping, List.cons_append, List.nil_append, List.mem_cons, List.not_mem_nil,
    or_false] at listed
  rcases listed with rfl | rfl | rfl | rfl | rfl | rfl | rfl <;> exact ⟨_, rfl⟩

theorem expectedSource_fields (p : Projection) :
    p.expectedSource.get? "projection_hash" = some (.str p.projectionHash) ∧
      p.expectedSource.get? "commit_sha" = some (.str p.source.commitSha) := by
  simp [Projection.expectedSource, SourceBinding.toMapping]

theorem normal_expectedSource (p : Projection) : p.expectedSource.Normal := by
  apply Json.normal_dict
  intro q member
  simp only [SourceBinding.toMapping, List.cons_append, List.nil_append, List.mem_cons, List.not_mem_nil,
    or_false] at member
  rcases member with rfl | rfl | rfl | rfl | rfl | rfl | rfl <;> rfl

theorem acceptNewIntent_ok {runtime : Runtime} {principalId : String} {c : IntentCommitment} {db db' : Database}
    {answer : IntentAnswer} (fresh : findIntent db c.intentId = none)
    (accepted : acceptNewIntent host isIsoFormat runtime principalId c db = .ok (answer, db')) :
    ∃ p receipt ledgered,
      Accepts host isIsoFormat runtime principalId c db p receipt ledgered answer db' := by
  simp only [acceptNewIntent, bind_ok, guard_ok, pure_ok, Bool.not_eq_true, Bool.not_eq_false',
    Prod.mk.injEq] at accepted
  obtain ⟨freshHash, p, current, equal, projectionHash, hashField, sourceCommit, commitField,
    ⟨receipt, ledgered⟩, appended, stored, inserted, rfl, rfl⟩ := accepted
  obtain ⟨entries, shape, strs⟩ := expectedSource_strs p
  have source : c.source = p.expectedSource := by
    rw [shape] at equal ⊢
    exact Json.pyEq_strs strs equal
  obtain ⟨hashed, committed⟩ := expectedSource_fields p
  simp only [strField?, source, hashed, committed, Except.ok.injEq] at hashField commitField
  subst hashField commitField
  refine ⟨p, receipt, ledgered, fresh, ?_, current, source, appended, ?_, rfl⟩
  · intro row member same
    have := List.any_eq_false.mp freshHash row member
    simp [same] at this
  · obtain ⟨_, _, _, _, kept, _⟩ := appendLedgerTx_ok appended
    rw [insertIntent_ok inserted, kept]

/-- A call raises and leaves the database, answers from a stored row, or accepts. -/
theorem persistIntent_cases (host : Host) (isIsoFormat : String → Bool) (runtime : Runtime) (intent : Json)
    (principalId : String) (allowDelegatedActor : Bool) (db : Database) :
    (∃ e, persistIntent host isIsoFormat runtime intent principalId allowDelegatedActor db = (.error e, db)) ∨
      ∃ c, verifyInternalBoundary host intent principalId allowDelegatedActor = .ok c ∧
        ((∃ row stored, findIntent db c.intentId = some row ∧ row.intentHash = c.intentHash ∧
            row.principalId = principalId ∧ row.actor = c.actorId ∧ rowToIntent row = .ok stored ∧
            persistIntent host isIsoFormat runtime intent principalId allowDelegatedActor db =
              (.ok ⟨stored, true⟩, db)) ∨
          ∃ p receipt ledgered answer db',
            Accepts host isIsoFormat runtime principalId c db p receipt ledgered answer db' ∧
            persistIntent host isIsoFormat runtime intent principalId allowDelegatedActor db =
              (.ok answer, db')) := by
  unfold persistIntent
  cases verified : verifyInternalBoundary host intent principalId allowDelegatedActor with
  | error e => exact .inl ⟨e, rfl⟩
  | ok c =>
    dsimp only
    cases ended : transaction (persistCommitment host isIsoFormat runtime principalId c) db with
    | mk result db' =>
      cases result with
      | error e =>
        obtain ⟨_, rfl⟩ := transaction_error.mp ended
        exact .inl ⟨e, rfl⟩
      | ok answer =>
        have done := transaction_ok.mp ended
        unfold persistCommitment at done
        refine .inr ⟨c, rfl, ?_⟩
        split at done
        next row found =>
          split at done
          · cases done
          next same =>
            simp only [bind_ok, pure_ok, Prod.mk.injEq] at done
            obtain ⟨stored, loaded, rfl, rfl⟩ := done
            simp only [Bool.or_eq_true, bne_iff_ne, ne_eq, not_or, not_not] at same
            exact .inl ⟨row, stored, found, same.1.1, same.1.2, same.2, loaded, rfl⟩
        next fresh =>
          obtain ⟨p, receipt, ledgered, accepts⟩ := acceptNewIntent_ok fresh done
          exact .inr ⟨p, receipt, ledgered, answer, db', accepts, rfl⟩

end MatVerse
