import MatVerse.Core
import MatVerse.Lib.Text

/-! The tables of the transactional state store. A transaction reads a database
and returns one, or raises and leaves it: `BEGIN IMMEDIATE`, then `COMMIT` or
`ROLLBACK`. -/
namespace MatVerse

structure LedgerRow where
  seq : Nat
  prevHash : String
  eventHash : String
  eventJson : String
  decision : String
  deriving DecidableEq

structure AuthNonce where
  principalId : String
  nonce : String
  expiresAt : Int
  deriving DecidableEq

structure ContractArtifact where
  artifactHash : String
  kind : String
  version : String
  contentJson : String
  createdBy : String
  createdAt : String
  deriving DecidableEq

structure ModelSession where
  sessionId : String
  protocolVersion : String
  contractJson : String
  contractHash : String
  participantsJson : String
  createdBy : String
  createdAt : String
  deriving DecidableEq

inductive HandoffStatus where
  | pending
  | acked
  deriving DecidableEq

def HandoffStatus.value : HandoffStatus → String
  | .pending => "PENDING"
  | .acked => "ACKED"

structure ModelHandoff where
  handoffId : String
  sessionId : String
  sessionSeq : Nat
  fromParticipant : String
  toParticipant : String
  parentHandoffId : Option String
  payloadJson : String
  payloadHash : String
  contractHash : String
  status : HandoffStatus
  createdAt : String
  ackedAt : Option String
  deriving DecidableEq

structure AuthorityKeyRow where
  keyId : String
  authorityId : String
  algorithm : String
  publicKeyHex : String
  validFrom : Int
  validUntil : Int
  previousKeyId : Option String
  registrationSha256 : String
  registeredBy : String
  registeredAt : String
  registrationReceiptJson : String
  revokedAt : Option Int
  revocationReason : Option String
  revokedBy : Option String
  revocationReceiptJson : Option String
  deriving DecidableEq

structure RelationKeyBindingRow where
  relationId : String
  relationSha256 : String
  sourceAuthority : String
  sourceKeyId : String
  targetAuthority : String
  targetKeyId : String
  bindingSha256 : String
  boundBy : String
  boundAt : String
  receiptJson : String
  deriving DecidableEq

structure IntentRow where
  intentId : String
  principalId : String
  actorId : String
  requestedOperation : String
  targetKind : String
  targetId : String
  parametersHash : String
  sourceJson : String
  intentHash : String
  status : String
  createdAt : String
  receiptJson : String
  deriving DecidableEq

/-- Every table in the order its rows were inserted. -/
structure Database where
  ledger : List LedgerRow
  authNonces : List AuthNonce
  contractArtifacts : List ContractArtifact
  modelSessions : List ModelSession
  modelHandoffs : List ModelHandoff
  authorityKeys : List AuthorityKeyRow
  relationKeyBindings : List RelationKeyBindingRow
  institutionalIntents : List IntentRow
  deriving DecidableEq

def Database.empty : Database := ⟨[], [], [], [], [], [], [], []⟩

/-- What one call reads of its surroundings: `MATVERSE_BUILD_COMMIT`, the clock when
the call starts and the clock when it appends to the ledger. -/
structure Surroundings where
  buildCommit : String
  now : String
  ledgerAt : String

/-- A transaction that raises is rolled back. -/
def transaction {α : Type} (body : Database → Except PyError (α × Database)) (db : Database) :
    Except PyError α × Database :=
  match body db with
  | .ok (a, db') => (.ok a, db')
  | .error e => (.error e, db)

theorem transaction_ok {α : Type} {body : Database → Except PyError (α × Database)} {db db' : Database}
    {a : α} : transaction body db = (.ok a, db') ↔ body db = .ok (a, db') := by
  unfold transaction
  split
  next found => simp [found]
  next found => simp [found]

theorem transaction_error {α : Type} {body : Database → Except PyError (α × Database)} {db db' : Database}
    {e : PyError} : transaction body db = (.error e, db') ↔ body db = .error e ∧ db' = db := by
  unfold transaction
  split
  next found => simp [found]
  next found => simp [found, eq_comm]

theorem transaction_raised {α : Type} {body : Database → Except PyError (α × Database)} {db : Database}
    {e : PyError} (raised : (transaction body db).1 = .error e) : (transaction body db).2 = db := by
  unfold transaction at raised ⊢
  split at raised
  · cases raised
  · simp

/-- A transaction leaves the database, or ends in the one its body returned. -/
theorem transaction_after {α : Type} (body : Database → Except PyError (α × Database)) (db : Database) :
    (transaction body db).2 = db ∨ ∃ a, body db = .ok (a, (transaction body db).2) := by
  unfold transaction
  split
  next found => exact .inr ⟨_, found⟩
  · exact .inl rfl

/-- An integer that SQLite can store. -/
def sqliteInt (i : Int) : Bool := -(2 ^ 63) ≤ i && i < 2 ^ 63

def sqliteOverflow : PyError := .overflowError "Python int too large to convert to SQLite INTEGER"

def unique (column : String) : PyError := .integrityError ("UNIQUE constraint failed: " ++ column)

def foreignKey : PyError := .integrityError "FOREIGN KEY constraint failed"

/-- `_GIT_OBJECT_ID.fullmatch`. -/
def isGitObjectId (text : String) : Bool :=
  (text.length == 40 || text.length == 64) && text.toList.all Hex.isDigit

theorem toLower_gitObjectId {text : String} (object : isGitObjectId text = true) : text.toLower = text := by
  simp only [isGitObjectId, Bool.and_eq_true, List.all_eq_true] at object
  apply Text.toLower_eq
  conv_rhs => rw [← List.map_id text.toList]
  exact List.map_congr_left fun c member => Hex.toLower_digit (object.2 c member)

/-- The lowercase `_SHA256.fullmatch` of the institutional and federation modules. -/
def isLowerSha256 (text : String) : Bool := text.length == 64 && text.toList.all Hex.isDigit

theorem isLowerSha256_sha256 {host : Host} (long : host.Sha256Length) (bytes : ByteArray) :
    isLowerSha256 (host.sha256 bytes) = true := by
  have digits : (host.sha256 bytes).toList.all Hex.isDigit = true := host.sha256Digits bytes
  simp [isLowerSha256, long bytes, digits]

end MatVerse
