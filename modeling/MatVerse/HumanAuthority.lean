import MatVerse.Lib.Base64
import MatVerse.Lib.Signature
import MatVerse.MarxivPublisher
import MatVerse.OrganismLoop

/-! The human authority: a registered Ed25519 key, an approval that it signs for one
challenge, and the verification of the approval against challenge and registry. -/
namespace MatVerse.Marxiv.Authority

open Fallible

/-- The platform with Ed25519 and the loader of PEM files. -/
structure KeyPlatform extends Platform where
  ed25519 : SignatureScheme
  /-- `load_pem_private_key`; an inner `none` is a key of another kind. -/
  loadPem : ByteArray → Option (Option ed25519.Key)

inductive AuthorityError where
  | humanAuthority (message : String)
  | validation (model : String)
  | read (path : String) (error : Files.ReadError)
  | python (error : PyError)
  /-- A text that is no time, or bytes that are no private key. -/
  | parse

def authoritySchema : String := "marxiv.human-authority.v2"
def humanApprovalSchema : String := "marxiv.human-approval.v2"

/-! ## Records -/

structure HumanAuthority where
  authorityId : String
  publicKeyBase64 : String
  publicKeySha256 : String
  createdAt : String
  /-- The status is `ACTIVE`, else it is `REVOKED`. -/
  active : Bool
  sized : 1 ≤ authorityId.length ∧ authorityId.length ≤ 256

/-- What an approval signs. -/
structure ApprovalData where
  authorityId : String
  publicationId : String
  packageHash : String
  challengeHash : String
  challengeNonce : String
  challengeIssuedAt : String
  challengeExpiresAt : String
  confirmation : String
  authorityKeyFingerprint : String
  signedAt : String
  deriving DecidableEq

structure SignedHumanApproval extends ApprovalData where
  signatureBase64 : String
  deriving DecidableEq

def HumanAuthority.toJson (a : HumanAuthority) : Json :=
  .dict [("schema", .str authoritySchema), ("authority_id", .str a.authorityId), ("algorithm", .str "Ed25519"),
    ("public_key_base64", .str a.publicKeyBase64), ("public_key_sha256", .str a.publicKeySha256),
    ("created_at", .str a.createdAt), ("status", .str (if a.active then "ACTIVE" else "REVOKED"))]

def HumanAuthority.fields : List String :=
  ["schema", "authority_id", "algorithm", "public_key_base64", "public_key_sha256", "created_at", "status"]

def readStatus : Option Json → Option Bool
  | none => some true
  | some (.str "ACTIVE") => some true
  | some (.str "REVOKED") => some false
  | _ => none

/-- `HumanAuthority.model_validate`. -/
def HumanAuthority.ofJson (v : Json) : Option HumanAuthority := do
  guard (Record.closed HumanAuthority.fields v)
  Record.constant authoritySchema (v.get? "schema")
  let authorityId ← Record.text (v.get? "authority_id")
  Record.constant "Ed25519" (v.get? "algorithm")
  let publicKeyBase64 ← Record.text (v.get? "public_key_base64")
  let publicKeySha256 ← Record.text (v.get? "public_key_sha256")
  let createdAt ← Record.text (v.get? "created_at")
  let active ← readStatus (v.get? "status")
  if sized : 1 ≤ authorityId.length ∧ authorityId.length ≤ 256 then
    return ⟨authorityId, publicKeyBase64, publicKeySha256, createdAt, active, sized⟩
  else none

def approvalPayload (d : ApprovalData) : List (String × Json) :=
  [("schema", .str humanApprovalSchema), ("decision", .str "APPROVE_PACKAGE"), ("authority_id", .str d.authorityId),
    ("algorithm", .str "Ed25519"), ("publication_id", .str d.publicationId), ("package_hash", .str d.packageHash),
    ("challenge_hash", .str d.challengeHash), ("challenge_nonce", .str d.challengeNonce),
    ("challenge_issued_at", .str d.challengeIssuedAt), ("challenge_expires_at", .str d.challengeExpiresAt),
    ("confirmation", .str d.confirmation), ("authority_key_fingerprint", .str d.authorityKeyFingerprint),
    ("signed_at", .str d.signedAt)]

def SignedHumanApproval.toJson (a : SignedHumanApproval) : Json :=
  .dict (approvalPayload a.toApprovalData ++ [("signature_base64", .str a.signatureBase64)])

def SignedHumanApproval.fields : List String :=
  ["schema", "decision", "authority_id", "algorithm", "publication_id", "package_hash", "challenge_hash",
    "challenge_nonce", "challenge_issued_at", "challenge_expires_at", "confirmation", "authority_key_fingerprint",
    "signed_at", "signature_base64"]

/-- `SignedHumanApproval.model_validate`. -/
def SignedHumanApproval.ofJson (v : Json) : Option SignedHumanApproval := do
  guard (Record.closed SignedHumanApproval.fields v)
  Record.constant humanApprovalSchema (v.get? "schema")
  Record.constant "APPROVE_PACKAGE" (v.get? "decision")
  let authorityId ← Record.text (v.get? "authority_id")
  Record.constant "Ed25519" (v.get? "algorithm")
  let publicationId ← Record.text (v.get? "publication_id")
  let packageHash ← Record.text (v.get? "package_hash")
  let challengeHash ← Record.text (v.get? "challenge_hash")
  let challengeNonce ← Record.text (v.get? "challenge_nonce")
  let challengeIssuedAt ← Record.text (v.get? "challenge_issued_at")
  let challengeExpiresAt ← Record.text (v.get? "challenge_expires_at")
  let confirmation ← Record.text (v.get? "confirmation")
  let authorityKeyFingerprint ← Record.text (v.get? "authority_key_fingerprint")
  let signedAt ← Record.text (v.get? "signed_at")
  let signatureBase64 ← Record.text (v.get? "signature_base64")
  return ⟨⟨authorityId, publicationId, packageHash, challengeHash, challengeNonce, challengeIssuedAt,
    challengeExpiresAt, confirmation, authorityKeyFingerprint, signedAt⟩, signatureBase64⟩

/-! ## Parts -/

def readDocument (files : Files) (path : String) : Except AuthorityError Json :=
  (files.readJson path).mapError (.read path)

def readRecord {α : Type} (files : Files) (model : String) (ofJson : Json → Option α) (path : String) :
    Except AuthorityError α := do
  let v ← readDocument files path
  match ofJson v with
  | some record => return record
  | none => throw (.validation model)

def readApproval (files : Files) (path : String) : Except AuthorityError SignedHumanApproval :=
  readRecord files "SignedHumanApproval" SignedHumanApproval.ofJson path

def readAuthority (files : Files) (path : String) : Except AuthorityError HumanAuthority :=
  readRecord files "HumanAuthority" HumanAuthority.ofJson path

/-- `challenge[key]`. -/
def item (challenge : Json) (key : String) : Except AuthorityError Json :=
  if !challenge.isObj then .error (.python (.typeError "indices must be integers"))
  else
    match challenge.get? key with
    | some v => .ok v
    | none => .error (.python (.keyError key))

def challengeHash (host : Host) (challenge : Json) : Except AuthorityError String :=
  if !challenge.isObj then .error (.python (.attributeError "object has no attribute 'get'"))
  else if isStr (challenge.get? "schema") challengeSchema then .ok (stableHash host challenge)
  else .error (.humanAuthority "unsupported approval challenge schema")

def takeText (count : Nat) (s : String) : String := String.ofList (s.toList.take count)

/-- `value[:12]`, as a text. -/
def firstTwelve (host : Host) : Json → Except AuthorityError String
  | .str s => .ok (takeText 12 s)
  | .arr items => .ok (pyStr host (.arr (items.take 12)))
  | _ => .error (.python (.typeError "object is not subscriptable"))

def requiredHumanConfirmation (host : Host) (challenge : Json) : Except AuthorityError String := do
  let digest ← challengeHash host challenge
  let publicationId ← item challenge "publication_id"
  let packageHash ← item challenge "package_hash"
  let start ← firstTwelve host packageHash
  return "APPROVE_PACKAGE " ++ pyStr host publicationId ++ " " ++ start ++ " " ++ takeText 12 digest

def fingerprint (host : Host) (rawPublicKey : ByteArray) : String := host.sha256 rawPublicKey

def loadPublicKey (host : Host) (a : HumanAuthority) : Except AuthorityError ByteArray :=
  match Base64.decode a.publicKeyBase64 with
  | none => .error (.humanAuthority "authority public key is not valid base64")
  | some raw =>
    if raw.size ≠ 32 then .error (.humanAuthority "Ed25519 public key must be 32 bytes")
    else if fingerprint host raw ≠ a.publicKeySha256 then
      .error (.humanAuthority "authority public-key fingerprint mismatch")
    else .ok raw

def message (d : ApprovalData) : ByteArray := (canonicalJson (.dict (approvalPayload d))).toUTF8

section
variable (p : KeyPlatform)

def loadPrivateKey (files : Files) (path : String) : Except AuthorityError p.ed25519.Key :=
  match files path with
  | none => .error (.read path .missing)
  | some bytes =>
    match p.loadPem bytes with
    | none => .error .parse
    | some none => .error (.humanAuthority "private key is not Ed25519")
    | some (some key) => .ok key

/-- `_parse_iso` of a value of the challenge. -/
def parseTime : Json → Except AuthorityError Int
  | .str text =>
    match p.parseIso text with
    | some time => .ok time
    | none => .error .parse
  | _ => .error (.python (.attributeError "object has no attribute 'replace'"))

/-- A value that a record takes as a text. -/
def textField (v : Json) : Except AuthorityError String :=
  match v with
  | .str s => .ok s
  | _ => .error (.validation "SignedHumanApproval")

/-! ## Signing -/

structure SigningPaths where
  challenge : String
  privateKey : String
  authorityRegistry : String
  output : String

/-- `sign_challenge`, up to its output. -/
def signedApproval (files : Files) (paths : SigningPaths) (confirmation : String) (now : Int) :
    Except AuthorityError SignedHumanApproval := do
  let challenge ← readDocument files paths.challenge
  let authority ← readAuthority files paths.authorityRegistry
  if !authority.active then throw (.humanAuthority "authority is not ACTIVE")
  let issuedAt ← item challenge "issued_at"
  let issued ← parseTime p issuedAt
  let expiresAt ← item challenge "expires_at"
  let expires ← parseTime p expiresAt
  if now < issued ∨ expires ≤ now then throw (.humanAuthority "approval challenge is not currently valid")
  let expected ← requiredHumanConfirmation p.toHost challenge
  if Text.strip confirmation ≠ expected then
    throw (.humanAuthority "human confirmation is not bound to this fresh challenge")
  let key ← loadPrivateKey p files paths.privateKey
  if fingerprint p.toHost (p.ed25519.publicKey key) ≠ authority.publicKeySha256 then
    throw (.humanAuthority "private key does not match registered human authority")
  let publicationId ← item challenge "publication_id"
  let packageHash ← item challenge "package_hash"
  let digest ← challengeHash p.toHost challenge
  let nonce ← item challenge "nonce"
  let publicationId ← textField publicationId
  let packageHash ← textField packageHash
  let nonce ← textField nonce
  let issuedAt ← textField issuedAt
  let expiresAt ← textField expiresAt
  match p.iso now with
  | none => throw .parse
  | some signedAt =>
    let data : ApprovalData := ⟨authority.authorityId, publicationId, packageHash, digest, nonce, issuedAt, expiresAt,
      expected, authority.publicKeySha256, signedAt⟩
    return ⟨data, Base64.encode (p.ed25519.sign key (message data))⟩

def signChallenge (files : Files) (paths : SigningPaths) (confirmation : String) (now : Int) :
    Except AuthorityError SignedHumanApproval × Files :=
  match signedApproval p files paths confirmation now with
  | .error e => (.error e, files)
  | .ok approval => (.ok approval, files.writeJson paths.output approval.toJson)

/-! ## Verification -/

structure VerifyingPaths where
  challenge : String
  approval : String
  authorityRegistry : String

structure SignedVerification where
  authorityId : String
  publicationId : String
  packageHash : String
  challengeHash : String
  checks : List (String × Bool)

def SignedVerification.ok (v : SignedVerification) : Bool := v.checks.all (·.2)

/-- The field of the challenge is this text. -/
def matchesItem (text : String) (challenge : Json) (key : String) : Bool := isStr (challenge.get? key) text

def documentChecks (challenge : Json) (approval : SignedHumanApproval) (authority : HumanAuthority)
    (digest expected : String) : List (String × Bool) :=
  [("authority_active", authority.active), ("authority_id_match", approval.authorityId == authority.authorityId),
    ("authority_fingerprint_match", approval.authorityKeyFingerprint == authority.publicKeySha256),
    ("publication_id_match", matchesItem approval.publicationId challenge "publication_id"),
    ("package_hash_match", matchesItem approval.packageHash challenge "package_hash"),
    ("challenge_hash_match", approval.challengeHash == digest),
    ("challenge_nonce_match", matchesItem approval.challengeNonce challenge "nonce"),
    ("challenge_issued_at_match", matchesItem approval.challengeIssuedAt challenge "issued_at"),
    ("challenge_expires_at_match", matchesItem approval.challengeExpiresAt challenge "expires_at"),
    ("confirmation_match", approval.confirmation == expected)]

/-- The attempt to verify the signature. -/
def signatureOk (approval : SignedHumanApproval) (authority : HumanAuthority) : Bool :=
  match Base64.decode approval.signatureBase64, loadPublicKey p.toHost authority with
  | some signature, .ok key => p.ed25519.verify key signature (message approval.toApprovalData)
  | _, _ => false

/-- The answer to documents whose parts could be read. -/
def verificationOf (challenge : Json) (approval : SignedHumanApproval) (authority : HumanAuthority)
    (digest expected : String) (signed issued expires : Int) (requireUnexpired : Bool) (now : Int) :
    SignedVerification :=
  ⟨approval.authorityId, approval.publicationId, approval.packageHash, approval.challengeHash,
    documentChecks challenge approval authority digest expected ++
      [("signed_within_challenge_window", decide (issued ≤ signed) && decide (signed < expires))] ++
      (if requireUnexpired then [("challenge_not_expired", decide (now < expires))] else []) ++
      [("ed25519_signature_valid", signatureOk p approval authority)]⟩

def verifySignedApproval (files : Files) (paths : VerifyingPaths) (requireUnexpired : Bool) (now : Int) :
    Except AuthorityError SignedVerification := do
  let challenge ← readDocument files paths.challenge
  let approval ← readApproval files paths.approval
  let authority ← readAuthority files paths.authorityRegistry
  let digest ← challengeHash p.toHost challenge
  let expected ← requiredHumanConfirmation p.toHost challenge
  let signed ← parseTime p (.str approval.signedAt)
  let issuedAt ← item challenge "issued_at"
  let issued ← parseTime p issuedAt
  let expiresAt ← item challenge "expires_at"
  let expires ← parseTime p expiresAt
  return verificationOf p challenge approval authority digest expected signed issued expires requireUnexpired now

end

end MatVerse.Marxiv.Authority
