import MatVerse.FederationRelation
import MatVerse.Ledger

/-! The federation authority-key registry: registration, rotation and revocation of
keys, and the binding of a relation to the two keys that witness it. -/
namespace MatVerse

open Fallible

def ed25519Algorithm : String := "Ed25519"

/-- `_KEY_ID_RE.fullmatch`. -/
def isKeyId (value : String) : Bool :=
  value.length == 72 && value.toList.take 8 == "ed25519:".toList && (value.toList.drop 8).all Hex.isDigit

def authorityKeyId (host : Host) (publicKeyHex : String) : Except PyError String :=
  if isLowerSha256 publicKeyHex then .ok ("ed25519:" ++ host.sha256 (Hex.bytes publicKeyHex))
  else .error (.valueError "public_key_hex must be 32-byte lowercase Ed25519 raw hex")

/-! ## Keys -/

structure AuthorityKeyFields where
  authorityId : String
  keyId : String
  publicKeyHex : String
  validFrom : Int
  validUntil : Int
  previousKeyId : Option String
  algorithm : String
  revokedAt : Option Int
  revocationReason : Option String
  deriving DecidableEq

namespace AuthorityKeyFields

def checkPrevious (k : AuthorityKeyFields) : Except PyError Unit :=
  match k.previousKeyId with
  | none => .ok ()
  | some previous =>
    if !isKeyId previous then .error (.valueError "previous_key_id must be a canonical Ed25519 key id")
    else if previous == k.keyId then .error (.valueError "key cannot rotate from itself")
    else .ok ()

def checkRevocation (k : AuthorityKeyFields) : Except PyError Unit :=
  match k.revokedAt with
  | some revokedAt =>
    if revokedAt < k.validFrom || k.validUntil ≤ revokedAt then
      .error (.valueError "revoked_at must fall inside the key validity window")
    else requireText (k.revocationReason.getD "") "revocation_reason"
  | none =>
    if k.revocationReason.isSome then .error (.valueError "revocation_reason requires revoked_at")
    else .ok ()

def postInit (host : Host) (k : AuthorityKeyFields) : Except PyError Unit := do
  requireText k.authorityId "authority_id"
  if !isKeyId k.keyId then throw (.valueError "key_id must be ed25519:<sha256-public-key>")
  let own ← authorityKeyId host k.publicKeyHex
  if k.keyId != own then throw (.valueError "key_id does not match public_key_hex")
  if k.algorithm != ed25519Algorithm then throw (.valueError "algorithm must be Ed25519")
  if k.validUntil ≤ k.validFrom then throw (.valueError "key valid_until must be greater than valid_from")
  k.checkPrevious
  k.checkRevocation

def registrationPayload (k : AuthorityKeyFields) : Mapping :=
  [("schema", .str "matverse.federation-authority-key.v1"), ("authority_id", .str k.authorityId),
    ("key_id", .str k.keyId), ("algorithm", .str k.algorithm), ("public_key_hex", .str k.publicKeyHex),
    ("valid_from", .int k.validFrom), ("valid_until", .int k.validUntil),
    ("previous_key_id", k.previousKeyId.elim .null .str)]

def registrationSha256 (host : Host) (k : AuthorityKeyFields) : String :=
  stableHash host (.dict k.registrationPayload)

def effectiveAt (k : AuthorityKeyFields) (timestamp : Int) : Bool :=
  k.validFrom ≤ timestamp && timestamp < k.validUntil && k.revokedAt.all (fun revokedAt => timestamp < revokedAt)

end AuthorityKeyFields

/-- A key record that passed its checks. -/
structure AuthorityKeyRecord (host : Host) extends AuthorityKeyFields where
  valid : toAuthorityKeyFields.postInit host = .ok ()

def AuthorityKeyFields.build (host : Host) (k : AuthorityKeyFields) : Except PyError (AuthorityKeyRecord host) :=
  match valid : k.postInit host with
  | .ok () => .ok ⟨k, valid⟩
  | .error e => .error e

/-! ## Bindings -/

structure RelationKeyBindingFields where
  relationId : String
  relationSha256 : String
  sourceAuthority : String
  sourceKeyId : String
  targetAuthority : String
  targetKeyId : String
  deriving DecidableEq

namespace RelationKeyBindingFields

def postInit (b : RelationKeyBindingFields) : Except PyError Unit := do
  requireText b.relationId "relation_id"
  requireSha256 b.relationSha256 "relation_sha256"
  requireText b.sourceAuthority "source_authority"
  requireText b.targetAuthority "target_authority"
  if b.sourceAuthority == b.targetAuthority then throw (.valueError "binding requires distinct authorities")
  if !isKeyId b.sourceKeyId then throw (.valueError "source_key_id must be a canonical Ed25519 key id")
  if !isKeyId b.targetKeyId then throw (.valueError "target_key_id must be a canonical Ed25519 key id")
  if b.sourceKeyId == b.targetKeyId then throw (.valueError "binding requires distinct authority keys")

def canonicalPayload (b : RelationKeyBindingFields) : Mapping :=
  [("schema", .str "matverse.federation-relation-key-binding.v1"), ("relation_id", .str b.relationId),
    ("relation_sha256", .str b.relationSha256), ("source_authority", .str b.sourceAuthority),
    ("source_key_id", .str b.sourceKeyId), ("target_authority", .str b.targetAuthority),
    ("target_key_id", .str b.targetKeyId)]

def bindingSha256 (host : Host) (b : RelationKeyBindingFields) : String :=
  stableHash host (.dict b.canonicalPayload)

end RelationKeyBindingFields

/-- `FederationRelationKeyBinding`. -/
structure RelationKeyBinding extends RelationKeyBindingFields where
  valid : toRelationKeyBindingFields.postInit = .ok ()

def RelationKeyBindingFields.build (b : RelationKeyBindingFields) : Except PyError RelationKeyBinding :=
  match valid : b.postInit with
  | .ok () => .ok ⟨b, valid⟩
  | .error e => .error e

/-! ## Rows -/

def AuthorityKeyRow.fields (row : AuthorityKeyRow) : AuthorityKeyFields :=
  ⟨row.authorityId, row.keyId, row.publicKeyHex, row.validFrom, row.validUntil, row.previousKeyId,
    row.algorithm, row.revokedAt, row.revocationReason⟩

/-- The row of a key that is not revoked. -/
def AuthorityKeyFields.row (host : Host) (k : AuthorityKeyFields) (registeredBy registeredAt receiptJson : String) :
    AuthorityKeyRow :=
  ⟨k.keyId, k.authorityId, k.algorithm, k.publicKeyHex, k.validFrom, k.validUntil, k.previousKeyId,
    k.registrationSha256 host, registeredBy, registeredAt, receiptJson, none, none, none, none⟩

def rowToKey (host : Host) (row : AuthorityKeyRow) : Except PyError (AuthorityKeyRecord host) :=
  row.fields.build host

def RelationKeyBindingRow.fields (row : RelationKeyBindingRow) : RelationKeyBindingFields :=
  ⟨row.relationId, row.relationSha256, row.sourceAuthority, row.sourceKeyId, row.targetAuthority,
    row.targetKeyId⟩

def RelationKeyBindingFields.row (host : Host) (b : RelationKeyBindingFields) (boundBy boundAt receiptJson : String) :
    RelationKeyBindingRow :=
  ⟨b.relationId, b.relationSha256, b.sourceAuthority, b.sourceKeyId, b.targetAuthority, b.targetKeyId,
    b.bindingSha256 host, boundBy, boundAt, receiptJson⟩

def rowToBinding (row : RelationKeyBindingRow) : Except PyError RelationKeyBinding := row.fields.build

def findKey (db : Database) (keyId : String) : Option AuthorityKeyRow :=
  db.authorityKeys.find? (fun row => row.keyId == keyId)

def findBinding (db : Database) (relationId : String) : Option RelationKeyBindingRow :=
  db.relationKeyBindings.find? (fun row => row.relationId == relationId)

/-- The insertion of a key, with the constraints of its table. -/
def insertKey (db : Database) (row : AuthorityKeyRow) : Except PyError Database := do
  if !sqliteInt row.validFrom || !sqliteInt row.validUntil then throw sqliteOverflow
  if db.authorityKeys.any (fun k => k.keyId == row.keyId) then
    throw (unique "federation_authority_keys.key_id")
  if db.authorityKeys.any (fun k => k.publicKeyHex == row.publicKeyHex) then
    throw (unique "federation_authority_keys.public_key_hex")
  if db.authorityKeys.any (fun k => k.registrationSha256 == row.registrationSha256) then
    throw (unique "federation_authority_keys.registration_sha256")
  if row.previousKeyId.isSome && db.authorityKeys.any (fun k => k.previousKeyId == row.previousKeyId) then
    throw (unique "federation_authority_keys.previous_key_id")
  if !row.previousKeyId.all (fun previous => db.authorityKeys.any (fun k => k.keyId == previous)) then
    throw foreignKey
  return { db with authorityKeys := db.authorityKeys ++ [row] }

def insertBinding (db : Database) (row : RelationKeyBindingRow) : Except PyError Database := do
  if db.relationKeyBindings.any (fun b => b.relationId == row.relationId) then
    throw (unique "federation_relation_key_bindings.relation_id")
  if db.relationKeyBindings.any (fun b => b.relationSha256 == row.relationSha256) then
    throw (unique "federation_relation_key_bindings.relation_sha256")
  if db.relationKeyBindings.any (fun b => b.bindingSha256 == row.bindingSha256) then
    throw (unique "federation_relation_key_bindings.binding_sha256")
  if !db.authorityKeys.any (fun k => k.keyId == row.sourceKeyId) ||
      !db.authorityKeys.any (fun k => k.keyId == row.targetKeyId) then
    throw foreignKey
  return { db with relationKeyBindings := db.relationKeyBindings ++ [row] }

def loadReceipt (text : Option String) : Except PyError Json :=
  match text with
  | none => .error (.typeError "the JSON object must be str, bytes or bytearray, not NoneType")
  | some text =>
    match JsonText.loads text with
    | some receipt => .ok receipt
    | none => .error .jsonDecodeError

/-! ## Registration -/

section
variable (host : Host)

structure KeyAnswer where
  record : AuthorityKeyRecord host
  registrationSha256 : String
  receipt : Json
  idempotent : Bool

/-- The first key of an authority has no predecessor; a later one continues exactly
where a registered key without successor ends. -/
def checkRotation (db : Database) (record : AuthorityKeyFields) : Except PyError Unit :=
  if !db.authorityKeys.any (fun k => k.authorityId == record.authorityId) then
    if record.previousKeyId.isSome then
      .error (.valueError "genesis authority key cannot declare previous_key_id")
    else .ok ()
  else
    match record.previousKeyId with
    | none => .error (.valueError "non-genesis authority key requires previous_key_id")
    | some previousKeyId =>
      match findKey db previousKeyId with
      | none => .error (.valueError "previous_key_id is not registered")
      | some previous =>
        if previous.authorityId != record.authorityId then
          .error (.valueError "previous_key_id belongs to a different authority")
        else if previous.validUntil != record.validFrom then
          .error (.valueError "rotation must continue exactly at previous valid_until")
        else if db.authorityKeys.any (fun k => k.previousKeyId == some previousKeyId) then
          .error (.valueError "previous_key_id already has a rotation successor")
        else .ok ()

def keyRegisteredEvent (record : AuthorityKeyFields) (actorId registeredAt : String) : Mapping :=
  [("event_type", .str "FEDERATION_AUTHORITY_KEY_REGISTERED")] ++ record.registrationPayload ++
    [("registration_sha256", .str (record.registrationSha256 host)), ("registered_by", .str actorId),
      ("registered_at", .str registeredAt)]

def registerNewKey (env : Surroundings) (record : AuthorityKeyRecord host) (actorId : String) (db : Database) :
    Except PyError (KeyAnswer host × Database) := do
  let fields := record.toAuthorityKeyFields
  checkRotation db fields
  if db.authorityKeys.any (fun k => k.publicKeyHex == fields.publicKeyHex) then
    throw (.valueError "public key is already registered")
  let (receipt, ledgered) ← appendLedgerTx host env db (keyRegisteredEvent host fields actorId env.now) "PASS"
  let stored ← insertKey ledgered (fields.row host actorId env.now (canonicalJson receipt.toJson))
  return (⟨record, fields.registrationSha256 host, receipt.toJson, false⟩, stored)

def registerKeyTx (env : Surroundings) (record : AuthorityKeyRecord host) (actorId : String) (db : Database) :
    Except PyError (KeyAnswer host × Database) := do
  if record.revokedAt.isSome then throw (.valueError "new key registration cannot start revoked")
  requireText actorId "actor_id"
  match findKey db record.keyId with
  | some existing =>
    let stored ← rowToKey host existing
    if !(Json.dict stored.registrationPayload).pyEq (.dict record.registrationPayload) then
      throw (.valueError "key_id collision or registration mismatch")
    let receipt ← loadReceipt (some existing.registrationReceiptJson)
    return (⟨stored, stored.registrationSha256 host, receipt, true⟩, db)
  | none => registerNewKey host env record actorId db

def registerKey (env : Surroundings) (record : AuthorityKeyRecord host) (actorId : String) (db : Database) :
    Except PyError (KeyAnswer host) × Database :=
  transaction (registerKeyTx host env record actorId) db

/-! ## Revocation -/

structure RevocationAnswer where
  record : AuthorityKeyRecord host
  receipt : Json
  idempotent : Bool

def keyRevokedEvent (row : AuthorityKeyRow) (effectiveAt : Int) (reason actorId recordedAt : String) : Mapping :=
  [("event_type", .str "FEDERATION_AUTHORITY_KEY_REVOKED"), ("authority_id", .str row.authorityId),
    ("key_id", .str row.keyId), ("registration_sha256", .str row.registrationSha256),
    ("effective_at", .int effectiveAt), ("reason", .str reason), ("revoked_by", .str actorId),
    ("revoked_at_recorded", .str recordedAt)]

def AuthorityKeyRow.revoke (row : AuthorityKeyRow) (effectiveAt : Int) (reason actorId receiptJson : String) :
    AuthorityKeyRow :=
  { row with
    revokedAt := some effectiveAt
    revocationReason := some reason
    revokedBy := some actorId
    revocationReceiptJson := some receiptJson }

def revokeRow (keyId : String) (effectiveAt : Int) (reason actorId receiptJson : String) (row : AuthorityKeyRow) :
    AuthorityKeyRow :=
  if row.keyId == keyId then row.revoke effectiveAt reason actorId receiptJson else row

/-- The `UPDATE` of one key's revocation columns. -/
def updateRevocation (db : Database) (keyId : String) (effectiveAt : Int) (reason actorId receiptJson : String) :
    Database :=
  { db with authorityKeys := db.authorityKeys.map (revokeRow keyId effectiveAt reason actorId receiptJson) }

/-- The transaction of `revoke_key`: an idempotent answer, or the receipt of the
revocation it recorded. -/
def revokeKeyTx (env : Surroundings) (authorityId keyId : String) (effectiveAt : Int) (reason actorId : String)
    (db : Database) : Except PyError ((RevocationAnswer host ⊕ LedgerReceipt) × Database) := do
  requireText authorityId "authority_id"
  requireText reason "reason"
  requireText actorId "actor_id"
  match findKey db keyId with
  | none => throw (.lookupError "authority key not found")
  | some row =>
    if row.authorityId != authorityId then throw (.permissionError "key does not belong to authority")
    if effectiveAt < row.validFrom || row.validUntil ≤ effectiveAt then
      throw (.valueError "revocation effective_at must fall inside key validity window")
    match row.revokedAt with
    | some revokedAt =>
      if revokedAt != effectiveAt || row.revocationReason != some reason then
        throw (.valueError "key is already revoked with different revocation state")
      let record ← rowToKey host row
      let receipt ← loadReceipt row.revocationReceiptJson
      return (.inl ⟨record, receipt, true⟩, db)
    | none =>
      let (receipt, ledgered) ←
        appendLedgerTx host env db (keyRevokedEvent row effectiveAt reason actorId env.now) "PASS"
      return (.inr receipt,
        updateRevocation ledgered keyId effectiveAt reason actorId (canonicalJson receipt.toJson))

def getKey (db : Database) (keyId : String) : Except PyError (Option (AuthorityKeyRecord host)) :=
  match findKey db keyId with
  | none => .ok none
  | some row => (rowToKey host row).map some

/-- The answer of a recorded revocation, from the key read again. -/
def revocationAnswer (receipt : LedgerReceipt) (read : Except PyError (Option (AuthorityKeyRecord host))) :
    Except PyError (RevocationAnswer host) :=
  match read with
  | .error e => .error e
  | .ok none => .error .assertionError
  | .ok (some updated) => .ok ⟨updated, receipt.toJson, false⟩

/-- The revoked key is read again after the commit. -/
def revokeKey (env : Surroundings) (authorityId keyId : String) (effectiveAt : Int) (reason actorId : String)
    (db : Database) : Except PyError (RevocationAnswer host) × Database :=
  match transaction (revokeKeyTx host env authorityId keyId effectiveAt reason actorId) db with
  | (.error e, db') => (.error e, db')
  | (.ok (.inl answer), db') => (.ok answer, db')
  | (.ok (.inr receipt), db') => (revocationAnswer host receipt (getKey host db' keyId), db')

/-! ## Relation bindings -/

structure BindingAnswer where
  binding : RelationKeyBinding
  bindingSha256 : String
  receipt : Json
  idempotent : Bool

/-- The relation lies inside the key's validity, and ends before its revocation. -/
def checkKeyCovers (relation : FederationRelation) (key : AuthorityKeyFields) (role : String) :
    Except PyError Unit := do
  if relation.validFrom < key.validFrom || key.validUntil < relation.validUntil then
    throw (.permissionError ("relation validity exceeds " ++ role ++ " key validity"))
  if key.revokedAt.any (fun revokedAt => revokedAt < relation.validUntil) then
    throw (.permissionError ("relation validity exceeds " ++ role ++ " key revocation"))

/-- The relation's own witness, checked under the two keys at the relation's start. -/
def checkWitness (verify : Ed25519Verify) (relation : FederationRelation) (sourceKey targetKey : String) :
    Except PyError Unit := do
  let publicKeys ← ed25519PublicKeys
    [(relation.sourceAuthority, sourceKey), (relation.targetAuthority, targetKey)]
  let request ← RelationRequestFields.build
    ⟨relation.sourceDomain, relation.targetDomain, relation.contractHash, relation.capabilities.head?.getD ""⟩
  let verification := ed25519Evaluate host verify publicKeys relation.validFrom relation request
  if !verification.admissible then
    throw (.permissionError ("relation witness does not verify under bound keys: " ++
      ",".intercalate verification.reasons))

def relationBoundEvent (binding : RelationKeyBindingFields) (actorId boundAt : String) : Mapping :=
  [("event_type", .str "FEDERATION_RELATION_KEY_BOUND")] ++ binding.canonicalPayload ++
    [("binding_sha256", .str (binding.bindingSha256 host)), ("bound_by", .str actorId),
      ("bound_at", .str boundAt)]

def bindNewRelation (verify : Ed25519Verify) (env : Surroundings) (relation : FederationRelation)
    (binding : RelationKeyBinding) (actorId : String) (db : Database) :
    Except PyError (BindingAnswer × Database) := do
  match findKey db binding.sourceKeyId, findKey db binding.targetKeyId with
  | none, _ => throw (.lookupError "source authority key not found")
  | some _, none => throw (.lookupError "target authority key not found")
  | some sourceRow, some targetRow =>
    let sourceKey ← rowToKey host sourceRow
    let targetKey ← rowToKey host targetRow
    if sourceKey.authorityId != relation.sourceAuthority then
      throw (.permissionError "source key authority does not match relation")
    if targetKey.authorityId != relation.targetAuthority then
      throw (.permissionError "target key authority does not match relation")
    if sourceKey.publicKeyHex == targetKey.publicKeyHex then
      throw (.permissionError "source and target authorities cannot share one public key")
    checkKeyCovers relation sourceKey.toAuthorityKeyFields "source"
    checkKeyCovers relation targetKey.toAuthorityKeyFields "target"
    checkWitness host verify relation sourceKey.publicKeyHex targetKey.publicKeyHex
    let fields := binding.toRelationKeyBindingFields
    let (receipt, ledgered) ← appendLedgerTx host env db (relationBoundEvent host fields actorId env.now) "PASS"
    let stored ← insertBinding ledgered (fields.row host actorId env.now (canonicalJson receipt.toJson))
    return (⟨binding, fields.bindingSha256 host, receipt.toJson, false⟩, stored)

def registerRelationBindingTx (verify : Ed25519Verify) (env : Surroundings) (relation : FederationRelation)
    (sourceKeyId targetKeyId actorId : String) (db : Database) :
    Except PyError (BindingAnswer × Database) := do
  requireText actorId "actor_id"
  if relation.witnessScheme != ed25519PublicKeyScheme then
    throw (.valueError "relation key binding requires ED25519-PUBLIC-KEY-V1")
  let binding ← RelationKeyBindingFields.build
    ⟨relation.relationId, relation.payloadSha256 host, relation.sourceAuthority, sourceKeyId,
      relation.targetAuthority, targetKeyId⟩
  match findBinding db relation.relationId with
  | some existing =>
    let stored ← rowToBinding existing
    if stored.toRelationKeyBindingFields != binding.toRelationKeyBindingFields then
      throw (.valueError "relation_id is already bound to different key material")
    let receipt ← loadReceipt (some existing.receiptJson)
    return (⟨stored, stored.bindingSha256 host, receipt, true⟩, db)
  | none => bindNewRelation host verify env relation binding actorId db

def registerRelationBinding (verify : Ed25519Verify) (env : Surroundings) (relation : FederationRelation)
    (sourceKeyId targetKeyId actorId : String) (db : Database) : Except PyError BindingAnswer × Database :=
  transaction (registerRelationBindingTx host verify env relation sourceKeyId targetKeyId actorId) db

def getRelationBinding (db : Database) (relationId : String) : Except PyError (Option RelationKeyBinding) :=
  match findBinding db relationId with
  | none => .ok none
  | some row => (rowToBinding row).map some

end

/-! ## What a call does -/

variable {host : Host} {verify : Ed25519Verify} {env : Surroundings} {db db' : Database}

theorem build_ok {k : AuthorityKeyFields} {record : AuthorityKeyRecord host} (built : k.build host = .ok record) :
    record.toAuthorityKeyFields = k := by
  unfold AuthorityKeyFields.build at built
  split at built
  · cases built
    rfl
  · cases built

theorem build_of_valid {k : AuthorityKeyFields} (valid : k.postInit host = .ok ()) :
    k.build host = .ok ⟨k, valid⟩ := by
  unfold AuthorityKeyFields.build
  split
  · rfl
  next failed =>
    rw [valid] at failed
    cases failed

theorem binding_build_ok {b : RelationKeyBindingFields} {binding : RelationKeyBinding}
    (built : b.build = .ok binding) : binding.toRelationKeyBindingFields = b := by
  unfold RelationKeyBindingFields.build at built
  split at built
  · cases built
    rfl
  · cases built

theorem insertKey_ok {row : AuthorityKeyRow} (inserted : insertKey db row = .ok db') :
    (∀ k ∈ db.authorityKeys, k.keyId ≠ row.keyId ∧ k.publicKeyHex ≠ row.publicKeyHex) ∧
      db' = { db with authorityKeys := db.authorityKeys ++ [row] } := by
  simp only [insertKey, guard_ok, pure_ok] at inserted
  obtain ⟨_, keyIds, publicKeys, _, _, _, rfl⟩ := inserted
  simp only [List.any_eq_true, beq_iff_eq, not_exists, not_and] at keyIds publicKeys
  exact ⟨fun k member => ⟨keyIds k member, publicKeys k member⟩, rfl⟩

theorem insertBinding_ok {row : RelationKeyBindingRow} (inserted : insertBinding db row = .ok db') :
    (∀ b ∈ db.relationKeyBindings, b.relationId ≠ row.relationId) ∧
      db' = { db with relationKeyBindings := db.relationKeyBindings ++ [row] } := by
  simp only [insertBinding, guard_ok, pure_ok] at inserted
  obtain ⟨relationIds, _, _, _, rfl⟩ := inserted
  simp only [List.any_eq_true, beq_iff_eq, not_exists, not_and] at relationIds
  exact ⟨relationIds, rfl⟩

/-- A registration is an idempotent answer, or one event and one row. -/
theorem registerKey_ok {record : AuthorityKeyRecord host} {actorId : String} {answer : KeyAnswer host}
    (done : registerKey host env record actorId db = (.ok answer, db')) :
    (answer.idempotent = true ∧ db' = db) ∨
      ∃ receipt ledgered, answer.idempotent = false ∧
        checkRotation db record.toAuthorityKeyFields = .ok () ∧
        appendLedgerTx host env db (keyRegisteredEvent host record.toAuthorityKeyFields actorId env.now) "PASS" =
          .ok (receipt, ledgered) ∧
        insertKey ledgered (record.row host actorId env.now (canonicalJson receipt.toJson)) = .ok db' ∧
        record.revokedAt = none := by
  have done := transaction_ok.mp done
  simp only [registerKeyTx, guard_ok, bind_ok] at done
  obtain ⟨fresh, _, _, done⟩ := done
  have active : record.revokedAt = none := by simpa using fresh
  cases found : findKey db record.keyId with
  | some existing =>
    rw [found] at done
    simp only [bind_ok, guard_ok, pure_ok] at done
    obtain ⟨stored, _, _, receipt, _, same⟩ := done
    obtain ⟨rfl, rfl⟩ := Prod.mk.inj same
    exact .inl ⟨rfl, rfl⟩
  | none =>
    rw [found] at done
    simp only [registerNewKey, bind_ok, guard_ok, pure_ok] at done
    obtain ⟨_, rotation, _, ⟨receipt, ledgered⟩, appended, stored, inserted, same⟩ := done
    obtain ⟨rfl, rfl⟩ := Prod.mk.inj same
    exact .inr ⟨receipt, ledgered, rfl, rotation, appended, inserted, active⟩

/-- What a revocation that is recorded reads and writes. -/
structure Revokes (host : Host) (env : Surroundings) (authorityId keyId : String) (effectiveAt : Int)
    (reason actorId : String) (db : Database) (row : AuthorityKeyRow) (receipt : LedgerReceipt)
    (ledgered db' : Database) : Prop where
  found : findKey db keyId = some row
  authority : row.authorityId = authorityId
  starts : row.validFrom ≤ effectiveAt
  ends : effectiveAt < row.validUntil
  active : row.revokedAt = none
  reasoned : requireText reason "reason" = .ok ()
  appended : appendLedgerTx host env db (keyRevokedEvent row effectiveAt reason actorId env.now) "PASS" =
    .ok (receipt, ledgered)
  updated : db' = updateRevocation ledgered keyId effectiveAt reason actorId (canonicalJson receipt.toJson)

theorem revokeKeyTx_ok {authorityId keyId reason actorId : String} {effectiveAt : Int}
    {answer : RevocationAnswer host ⊕ LedgerReceipt}
    (done : revokeKeyTx host env authorityId keyId effectiveAt reason actorId db = .ok (answer, db')) :
    (db' = db ∧ ∃ a, answer = .inl a ∧ a.idempotent = true) ∨
      ∃ row receipt ledgered, answer = .inr receipt ∧
        Revokes host env authorityId keyId effectiveAt reason actorId db row receipt ledgered db' := by
  simp only [revokeKeyTx, bind_ok] at done
  obtain ⟨_, _, _, reasoned, _, _, done⟩ := done
  cases found : findKey db keyId with
  | none =>
    rw [found] at done
    simp [throw_ok] at done
  | some row =>
    rw [found] at done
    simp only [guard_ok] at done
    obtain ⟨authority, window, done⟩ := done
    simp only [bne_iff_ne, ne_eq, not_not, Bool.or_eq_true, decide_eq_true_eq, not_or, not_lt, not_le]
      at authority window
    cases revoked : row.revokedAt with
    | some revokedAt =>
      rw [revoked] at done
      simp only [guard_ok, bind_ok, pure_ok] at done
      obtain ⟨_, record, _, receipt, _, same⟩ := done
      obtain ⟨rfl, rfl⟩ := Prod.mk.inj same
      exact .inl ⟨rfl, _, rfl, rfl⟩
    | none =>
      rw [revoked] at done
      simp only [bind_ok, pure_ok] at done
      obtain ⟨⟨receipt, ledgered⟩, appended, same⟩ := done
      obtain ⟨rfl, rfl⟩ := Prod.mk.inj same
      exact .inr ⟨row, receipt, ledgered, rfl, found, authority, window.1, window.2, revoked, reasoned,
        appended, rfl⟩

/-- A revocation leaves the database, or records itself. -/
theorem revokeKey_cases (host : Host) (env : Surroundings) (db : Database) (authorityId keyId : String)
    (effectiveAt : Int) (reason actorId : String) :
    ((revokeKey host env authorityId keyId effectiveAt reason actorId db).2 = db ∧
      ∀ a, (revokeKey host env authorityId keyId effectiveAt reason actorId db).1 = .ok a → a.idempotent = true) ∨
      ∃ row receipt ledgered,
        Revokes host env authorityId keyId effectiveAt reason actorId db row receipt ledgered
          (revokeKey host env authorityId keyId effectiveAt reason actorId db).2 ∧
        (revokeKey host env authorityId keyId effectiveAt reason actorId db).1 =
          revocationAnswer host receipt
            (getKey host (revokeKey host env authorityId keyId effectiveAt reason actorId db).2 keyId) := by
  unfold revokeKey
  cases result : transaction (revokeKeyTx host env authorityId keyId effectiveAt reason actorId) db with
  | mk answer db' =>
    cases answer with
    | error e => exact .inl ⟨(transaction_error.mp result).2, fun a => nofun⟩
    | ok answer =>
      rcases revokeKeyTx_ok (transaction_ok.mp result) with
        ⟨rfl, a, rfl, idempotent⟩ | ⟨row, receipt, ledgered, rfl, revokes⟩
      · refine .inl ⟨rfl, fun other same => ?_⟩
        cases same
        exact idempotent
      · exact .inr ⟨row, receipt, ledgered, revokes, rfl⟩

/-- What a binding that is recorded reads and writes. -/
structure Binds (host : Host) (verify : Ed25519Verify) (env : Surroundings) (relation : FederationRelation)
    (sourceKeyId targetKeyId actorId : String) (db : Database) (binding : RelationKeyBindingFields)
    (source target : AuthorityKeyRow) (receipt : LedgerReceipt) (ledgered db' : Database) : Prop where
  fields : binding = ⟨relation.relationId, relation.payloadSha256 host, relation.sourceAuthority, sourceKeyId,
    relation.targetAuthority, targetKeyId⟩
  valid : binding.postInit = .ok ()
  fresh : findBinding db relation.relationId = none
  sourceKey : findKey db sourceKeyId = some source
  targetKey : findKey db targetKeyId = some target
  sourceAuthority : source.authorityId = relation.sourceAuthority
  targetAuthority : target.authorityId = relation.targetAuthority
  sourceCovers : checkKeyCovers relation source.fields "source" = .ok ()
  targetCovers : checkKeyCovers relation target.fields "target" = .ok ()
  witnessed : checkWitness host verify relation source.publicKeyHex target.publicKeyHex = .ok ()
  appended : appendLedgerTx host env db (relationBoundEvent host binding actorId env.now) "PASS" =
    .ok (receipt, ledgered)
  inserted : insertBinding ledgered (binding.row host actorId env.now (canonicalJson receipt.toJson)) = .ok db'

theorem registerRelationBinding_ok {relation : FederationRelation} {sourceKeyId targetKeyId actorId : String}
    {answer : BindingAnswer}
    (done : registerRelationBinding host verify env relation sourceKeyId targetKeyId actorId db =
      (.ok answer, db')) :
    (answer.idempotent = true ∧ db' = db) ∨
      ∃ binding source target receipt ledgered, answer.idempotent = false ∧
        Binds host verify env relation sourceKeyId targetKeyId actorId db binding source target receipt
          ledgered db' := by
  have done := transaction_ok.mp done
  simp only [registerRelationBindingTx, guard_ok, bind_ok] at done
  obtain ⟨_, _, _, binding, built, done⟩ := done
  have fields := binding_build_ok built
  cases found : findBinding db relation.relationId with
  | some existing =>
    rw [found] at done
    simp only [guard_ok, bind_ok, pure_ok] at done
    obtain ⟨stored, _, _, receipt, _, same⟩ := done
    obtain ⟨rfl, rfl⟩ := Prod.mk.inj same
    exact .inl ⟨rfl, rfl⟩
  | none =>
    rw [found] at done
    simp only [bindNewRelation] at done
    split at done
    · simp [throw_ok] at done
    · simp [throw_ok] at done
    next sourceRow targetRow sourceFound targetFound =>
      simp only [guard_ok, bind_ok, pure_ok] at done
      obtain ⟨source, sourceBuilt, target, targetBuilt, sourceAuthority, targetAuthority, _, _, sourceCovers, _,
        targetCovers, _, witnessed, ⟨receipt, ledgered⟩, appended, stored, inserted, same⟩ := done
      obtain ⟨rfl, rfl⟩ := Prod.mk.inj same
      have sourceFields := build_ok sourceBuilt
      have targetFields := build_ok targetBuilt
      simp only [bne_iff_ne, ne_eq, not_not] at sourceAuthority targetAuthority
      refine .inr ⟨binding.toRelationKeyBindingFields, sourceRow, targetRow, receipt, ledgered, rfl, ?_⟩
      rw [sourceFields] at sourceAuthority sourceCovers witnessed
      rw [targetFields] at targetAuthority targetCovers witnessed
      rw [fields] at sourceFound targetFound
      exact ⟨fields, binding.valid, found, sourceFound, targetFound, sourceAuthority, targetAuthority,
        sourceCovers, targetCovers, witnessed, appended, inserted⟩

end MatVerse
