import MatVerse.StateStore
import MatVerse.Lib.Fallible
import MatVerse.Lib.Text

/-! Authenticated requests: what a principal signs, what `authenticate` checks,
and the one-time nonces it consumes, in SQLite or in the durable state object. -/
namespace MatVerse

open Fallible Text

def authWindowSeconds : Int := 300

structure Principal where
  principalId : String
  capabilities : List String
  deriving DecidableEq

def Principal.allows (p : Principal) (capability : String) : Bool :=
  p.capabilities.contains "*" || p.capabilities.contains capability

/-- A received request; header names are lower case. An HTTP server lets no newline
into a method or a header. -/
structure HttpRequest where
  method : String
  path : String
  query : String
  headers : List (String × String)
  body : ByteArray
  methodLine : OneLine method
  headerLines : ∀ h ∈ headers, OneLine h.2

/-- `request.headers.get(name, "")`. -/
def HttpRequest.header (r : HttpRequest) (name : String) : String :=
  ((r.headers.find? (fun h => h.1 == name.toLower)).map (fun h => h.2)).getD ""

def HttpRequest.principalId (r : HttpRequest) : String := r.header "X-MatVerse-Principal"
def HttpRequest.timestamp (r : HttpRequest) : String := r.header "X-MatVerse-Timestamp"
def HttpRequest.nonce (r : HttpRequest) : String := r.header "X-MatVerse-Nonce"
def HttpRequest.contentSha256 (r : HttpRequest) : String := r.header "X-MatVerse-Content-SHA256"
def HttpRequest.signature (r : HttpRequest) : String := r.header "X-MatVerse-Signature"

theorem HttpRequest.header_oneLine (r : HttpRequest) (name : String) : OneLine (r.header name) := by
  unfold HttpRequest.header
  cases found : r.headers.find? (fun h => h.1 == name.toLower) with
  | none => simp [OneLine]
  | some h => exact r.headerLines h (List.mem_of_find?_eq_some found)

def signedHeaders (principalId timestamp nonce contentSha256 signature : String) : List (String × String) :=
  [("x-matverse-principal", principalId), ("x-matverse-timestamp", timestamp),
    ("x-matverse-nonce", nonce), ("x-matverse-content-sha256", contentSha256),
    ("x-matverse-signature", signature)]

theorem signedHeaders_fields {r : HttpRequest} {principalId timestamp nonce contentSha256 signature : String}
    (headers : r.headers = signedHeaders principalId timestamp nonce contentSha256 signature) :
    r.principalId = principalId ∧ r.timestamp = timestamp ∧ r.nonce = nonce ∧
      r.contentSha256 = contentSha256 ∧ r.signature = signature := by
  have lower : "X-MatVerse-Principal".toLower = "x-matverse-principal" ∧
      "X-MatVerse-Timestamp".toLower = "x-matverse-timestamp" ∧
      "X-MatVerse-Nonce".toLower = "x-matverse-nonce" ∧
      "X-MatVerse-Content-SHA256".toLower = "x-matverse-content-sha256" ∧
      "X-MatVerse-Signature".toLower = "x-matverse-signature" := by
    refine ⟨?_, ?_, ?_, ?_, ?_⟩ <;> exact Text.toLower_eq (by decide)
  obtain ⟨h1, h2, h3, h4, h5⟩ := lower
  simp [HttpRequest.principalId, HttpRequest.timestamp, HttpRequest.nonce, HttpRequest.contentSha256,
    HttpRequest.signature, HttpRequest.header, h1, h2, h3, h4, h5, headers, signedHeaders]

/-- `_registry`, from `MATVERSE_PRINCIPALS_JSON`. -/
def principalRegistry (raw : String) : Except PyError Json :=
  if raw == "" then .ok (.dict [])
  else
    match JsonText.loads raw with
    | none => .error (.runtimeError "MATVERSE_PRINCIPALS_JSON must be valid JSON")
    | some parsed =>
      if parsed.isObj then .ok parsed
      else .error (.runtimeError "MATVERSE_PRINCIPALS_JSON must be an object")

theorem principalRegistry_canonicalJson {registry : Json} (object : registry.norm.isObj = true) :
    principalRegistry (canonicalJson registry) = .ok registry.norm := by
  simp [principalRegistry, canonicalJson_ne_empty, object]

def secretOf (registry : Json) (principalId : String) : Option String :=
  match (registry.get? principalId).bind (Json.get? "secret") with
  | some (.str secret) => some secret
  | _ => none

def digitValue (c : Char) : Nat := c.toNat - 48

/-- Digits, with single underscores between them, after the number `n`. -/
def digitsAfter (n : Nat) : List Char → Option Nat
  | [] => some n
  | '_' :: c :: rest => if c.isDigit then digitsAfter (10 * n + digitValue c) rest else none
  | c :: rest => if c.isDigit then digitsAfter (10 * n + digitValue c) rest else none

def decimalDigits : List Char → Option Nat
  | [] => none
  | c :: rest => if c.isDigit then digitsAfter (digitValue c) rest else none

/-- `int` of a header's text. -/
def pyInt (text : String) : Option Int :=
  match (strip text).toList with
  | '-' :: digits => (decimalDigits digits).map (fun n => -(n : Int))
  | '+' :: digits => (decimalDigits digits).map (fun n => (n : Int))
  | digits => (decimalDigits digits).map (fun n => (n : Int))

def signingPayload (method path timestamp nonce contentSha256 : String) : String :=
  method.toUpper ++ "\n" ++ path ++ "\n" ++ timestamp ++ "\n" ++ nonce ++ "\n" ++ contentSha256

def signRequest (host : Host) (secret method path timestamp nonce contentSha256 : String) : String :=
  hmacText host secret (signingPayload method path timestamp nonce contentSha256)

/-! ## Nonces -/

def hasNonce (nonces : List AuthNonce) (principalId nonce : String) : Bool :=
  nonces.any (fun row => row.principalId == principalId && row.nonce == nonce)

def purgeNonces (now : Int) (nonces : List AuthNonce) : List AuthNonce :=
  nonces.filter (fun row => !(row.expiresAt < now))

/-- `consume_auth_nonce` of the SQLite store: the purge is rolled back with a
refused insertion. -/
def consumeLocalAuthNonce (now : Int) (db : Database) (principalId nonce : String) (expiresAt : Int) :
    Except PyError Bool × Database :=
  if !sqliteInt expiresAt then
    (.error sqliteOverflow, db)
  else
    let kept := purgeNonces now db.authNonces
    if hasNonce kept principalId nonce then (.ok false, db)
    else (.ok true, { db with authNonces := kept ++ [⟨principalId, nonce, expiresAt⟩] })

def safeInteger : Int := 9007199254740991

def stateRejected (status detail : String) : PyError :=
  .runtimeError ("institutional state service rejected request: status=" ++ status ++
    " detail=\x7b'detail': '" ++ detail ++ "'\x7d")

/-- `consumeNonce` of the durable state object. -/
def consumeDurableNonce (now : Int) (db : Database) (principalId nonce : String) (expiresAt : Int) :
    Except PyError Bool × Database :=
  if principalId == "" then (.error (stateRejected "400" "principal_id must be a non-empty string"), db)
  else if nonce == "" then (.error (stateRejected "400" "nonce must be a non-empty string"), db)
  else if expiresAt < -safeInteger || safeInteger < expiresAt then
    (.error (stateRejected "400" "expires_at must be a safe integer"), db)
  else
    let kept := purgeNonces now db.authNonces
    if hasNonce kept principalId nonce then (.ok false, { db with authNonces := kept })
    else (.ok true, { db with authNonces := kept ++ [⟨principalId, nonce, expiresAt⟩] })

/-- `consume_auth_nonce` of the state client. -/
def consumeAuthNonce (remoteStateEnabled : Bool) (now : Int) (db : Database)
    (principalId nonce : String) (expiresAt : Int) : Except PyError Bool × Database :=
  if remoteStateEnabled then consumeDurableNonce now db principalId nonce expiresAt
  else consumeLocalAuthNonce now db principalId nonce expiresAt

/-! ## Authentication -/

/-- What one call reads besides its request: the registry, the clock at the window
check and the clock at the purge, after the body has been awaited. -/
structure AuthCall where
  request : HttpRequest
  principalsJson : String
  windowNow : Int
  purgeNow : Int

/-- A request that passed every check but the nonce's. -/
structure SignedRequest where
  principalId : String
  nonce : String
  timestamp : Int
  record : Json

def unauthorized (detail : String) : PyError := .httpException 401 detail

/-- `authenticate`, up to the signature. -/
def checkSignedRequest (host : Host) (call : AuthCall) : Except PyError SignedRequest := do
  let r := call.request
  if r.principalId == "" || r.timestamp == "" || r.nonce == "" || r.contentSha256 == "" ||
      r.signature == "" then
    throw (unauthorized "missing MatVerse authentication headers")
  let registry ← principalRegistry call.principalsJson
  match secretOf registry r.principalId with
  | none => throw (unauthorized "unknown principal")
  | some secret =>
    match pyInt r.timestamp with
    | none => throw (unauthorized "invalid authentication timestamp")
    | some ts =>
      if authWindowSeconds < |call.windowNow - ts| then
        throw (unauthorized "authentication timestamp outside allowed window")
      if r.nonce.length < 16 || 128 < r.nonce.length then
        throw (unauthorized "invalid authentication nonce")
      let sameContent ← compareDigest (host.sha256 r.body) r.contentSha256
      if !sameContent then throw (unauthorized "content hash mismatch")
      let sameSignature ← compareDigest
        (signRequest host secret r.method r.path r.timestamp r.nonce r.contentSha256) r.signature
      if !sameSignature then throw (unauthorized "invalid request signature")
      return ⟨r.principalId, r.nonce, ts, (registry.get? r.principalId).getD .null⟩

def principalOf (signed : SignedRequest) : Except PyError Principal :=
  match signed.record.get? "capabilities" with
  | none => .ok ⟨signed.principalId, []⟩
  | some (.arr items) =>
    match items.mapM (fun item => match item with | .str s => some s | _ => none) with
    | some capabilities => .ok ⟨signed.principalId, capabilities⟩
    | none => .error (unauthorized "principal capability registry invalid")
  | some _ => .error (unauthorized "principal capability registry invalid")

def authenticate (host : Host) (remoteStateEnabled : Bool) (db : Database) (call : AuthCall) :
    Except PyError Principal × Database :=
  match checkSignedRequest host call with
  | .error e => (.error e, db)
  | .ok signed =>
    match consumeAuthNonce remoteStateEnabled call.purgeNow db signed.principalId signed.nonce
        (signed.timestamp + authWindowSeconds) with
    | (.error e, db') => (.error e, db')
    | (.ok false, db') => (.error (.httpException 409 "authentication nonce replayed"), db')
    | (.ok true, db') => (principalOf signed, db')

def requireCapability (host : Host) (capability : String) (remoteStateEnabled : Bool) (db : Database)
    (call : AuthCall) : Except PyError Principal × Database :=
  match authenticate host remoteStateEnabled db call with
  | (.error e, db') => (.error e, db')
  | (.ok principal, db') =>
    if principal.allows capability then (.ok principal, db')
    else (.error (.httpException 403 ("principal lacks capability: " ++ capability)), db')

end MatVerse
