import MatVerse.StateStore
import MatVerse.Lib.Fallible
import MatVerse.Lib.Text

/-! Federation relations, their witnesses, and the gates that judge them. A relation
is a record that passed its own checks, so an invalid one cannot be built. -/
namespace MatVerse

open Fallible

def hmacSharedSecretScheme : String := "HMAC-SHA256-SHARED-SECRET-V1"
def ed25519PublicKeyScheme : String := "ED25519-PUBLIC-KEY-V1"

def routingGovernedWitnessSchemes : List String := [ed25519PublicKeyScheme]

inductive RelationStatus where
  | active
  | revoked
  deriving DecidableEq

def RelationStatus.value : RelationStatus → String
  | .active => "ACTIVE"
  | .revoked => "REVOKED"

def requireText (value name : String) : Except PyError Unit :=
  if Text.strip value == "" then .error (.valueError (name ++ " must be a non-empty string")) else .ok ()

def requireSha256 (value name : String) : Except PyError Unit :=
  if isLowerSha256 value then .ok ()
  else .error (.valueError (name ++ " must be a lowercase SHA-256 hex digest"))

def isSignatureHex (value : String) : Bool := value.length == 128 && value.toList.all Hex.isDigit

def requireSignature (value : Option String) (name : String) : Except PyError Unit :=
  match value with
  | none => .ok ()
  | some value =>
    if isSignatureHex value then .ok ()
    else .error (.valueError (name ++ " must be a lowercase 64-byte Ed25519 signature hex"))

/-! ## Witnesses -/

structure RelationWitnessFields where
  scheme : String
  payloadSha256 : String
  sourceHmacSha256 : String
  targetHmacSha256 : String
  deriving DecidableEq

def RelationWitnessFields.postInit (w : RelationWitnessFields) : Except PyError Unit := do
  requireText w.scheme "scheme"
  requireSha256 w.payloadSha256 "payload_sha256"
  requireSha256 w.sourceHmacSha256 "source_hmac_sha256"
  requireSha256 w.targetHmacSha256 "target_hmac_sha256"

structure RelationWitness extends RelationWitnessFields where
  valid : toRelationWitnessFields.postInit = .ok ()

structure Ed25519RelationWitnessFields where
  scheme : String
  payloadSha256 : String
  sourceSignatureHex : Option String
  targetSignatureHex : Option String
  deriving DecidableEq

def Ed25519RelationWitnessFields.postInit (w : Ed25519RelationWitnessFields) : Except PyError Unit := do
  if w.scheme != ed25519PublicKeyScheme then throw (.valueError "invalid Ed25519 witness scheme")
  requireSha256 w.payloadSha256 "payload_sha256"
  requireSignature w.sourceSignatureHex "source_signature_hex"
  requireSignature w.targetSignatureHex "target_signature_hex"

structure Ed25519RelationWitness extends Ed25519RelationWitnessFields where
  valid : toEd25519RelationWitnessFields.postInit = .ok ()

/-- Any object with a scheme and a payload hash is a witness. -/
inductive FederationWitness where
  | hmac (witness : RelationWitness)
  | ed25519 (witness : Ed25519RelationWitness)
  | other (scheme payloadSha256 : String)

/-! ## Relations -/

structure FederationRelationFields where
  relationId : String
  sourceDomain : String
  targetDomain : String
  sourceAuthority : String
  targetAuthority : String
  contractHash : String
  capabilities : List String
  validFrom : Int
  validUntil : Int
  status : RelationStatus
  evidencePolicy : String
  witnessScheme : String
  witness : Option FederationWitness

def FederationRelationFields.postInit (r : FederationRelationFields) : Except PyError Unit := do
  requireText r.relationId "relation_id"
  requireText r.sourceDomain "source_domain"
  requireText r.targetDomain "target_domain"
  requireText r.sourceAuthority "source_authority"
  requireText r.targetAuthority "target_authority"
  requireText r.evidencePolicy "evidence_policy"
  requireText r.witnessScheme "witness_scheme"
  if r.sourceDomain == r.targetDomain then
    throw (.valueError "federation relation must cross distinct domains")
  if r.sourceAuthority == r.targetAuthority then
    throw (.valueError "federation relation requires distinct authorities")
  requireSha256 r.contractHash "contract_hash"
  if r.validUntil ≤ r.validFrom then throw (.valueError "valid_until must be greater than valid_from")
  if r.capabilities.isEmpty then throw (.valueError "at least one capability is required")
  if r.capabilities.any (fun item => Text.strip item == "") then
    throw (.valueError "capabilities must be non-empty strings")
  if !decide (r.capabilities.Pairwise (· < ·)) then
    throw (.valueError "capabilities must be unique and lexicographically sorted")
  if r.capabilities.contains "*" then throw (.valueError "wildcard federation capability is forbidden")

structure FederationRelation extends FederationRelationFields where
  valid : toFederationRelationFields.postInit = .ok ()

def FederationRelation.canonicalPayload (r : FederationRelation) : Json :=
  .dict [("relation_id", .str r.relationId), ("source_domain", .str r.sourceDomain),
    ("target_domain", .str r.targetDomain), ("source_authority", .str r.sourceAuthority),
    ("target_authority", .str r.targetAuthority), ("contract_hash", .str r.contractHash),
    ("capabilities", .arr (r.capabilities.map .str)), ("valid_from", .int r.validFrom),
    ("valid_until", .int r.validUntil), ("status", .str r.status.value),
    ("evidence_policy", .str r.evidencePolicy), ("witness_scheme", .str r.witnessScheme)]

def FederationRelation.payloadSha256 (host : Host) (r : FederationRelation) : String :=
  sha256Text host (JsonText.dumpsAscii JsonText.compact r.canonicalPayload)

structure RelationRequestFields where
  sourceDomain : String
  targetDomain : String
  contractHash : String
  capability : String
  deriving DecidableEq

def RelationRequestFields.postInit (q : RelationRequestFields) : Except PyError Unit := do
  requireText q.sourceDomain "source_domain"
  requireText q.targetDomain "target_domain"
  requireText q.capability "capability"
  requireSha256 q.contractHash "contract_hash"

structure RelationRequest extends RelationRequestFields where
  valid : toRelationRequestFields.postInit = .ok ()

/-- The constructor of `RelationRequest`. -/
def RelationRequestFields.build (q : RelationRequestFields) : Except PyError RelationRequest :=
  match valid : q.postInit with
  | .ok () => .ok ⟨q, valid⟩
  | .error e => .error e

theorem RelationRequestFields.build_ok {q : RelationRequestFields} {request : RelationRequest}
    (built : q.build = .ok request) : request.toRelationRequestFields = q := by
  unfold RelationRequestFields.build at built
  split at built
  · cases built
    rfl
  · cases built

structure RelationDecision where
  relationId : String
  admissible : Bool
  reasons : List String
  relationSha256 : String
  evaluatedAt : Int
  deriving DecidableEq

/-! ## Gates -/

def reasonIf (c : Bool) (reason : String) : List String := if c then [reason] else []

@[simp] theorem reasonIf_eq_nil {c : Bool} {reason : String} : reasonIf c reason = [] ↔ c = false := by
  cases c <;> simp [reasonIf]

/-- A verifier; `enforces_key_lifecycle` is absent on cryptographic-only ones. Its
verdicts may change from one call to the next, as its clock and its registry do. -/
structure RelationGate where
  enforcesKeyLifecycle : Bool
  evaluate : Nat → FederationRelation → RelationRequest → Except PyError RelationDecision

def commonReasons (relation : FederationRelation) (request : RelationRequest) (timestamp : Int) :
    List String :=
  reasonIf (relation.status != .active) ("status:" ++ relation.status.value) ++
  reasonIf (request.sourceDomain != relation.sourceDomain) "source_domain_mismatch" ++
  reasonIf (request.targetDomain != relation.targetDomain) "target_domain_mismatch" ++
  reasonIf (request.contractHash != relation.contractHash) "contract_hash_mismatch" ++
  reasonIf (!relation.capabilities.contains request.capability) "capability_out_of_scope" ++
  reasonIf (timestamp < relation.validFrom) "relation_not_yet_valid" ++
  reasonIf (relation.validUntil ≤ timestamp) "relation_expired"

section
variable (host : Host)

def relationSignature (secret relationSha256 role : String) : String :=
  hmacText host secret ("matverse.federation-relation.v1\n" ++ role ++ "\n" ++ relationSha256)

def isAscii (s : String) : Bool := s.toList.all (fun c => c.toNat < 128)

/-- `hmac.compare_digest` of two secrets. -/
def compareSecrets (a b : String) : Except PyError Bool :=
  if isAscii a && isAscii b then .ok (a == b)
  else .error (.typeError "comparing strings with non-ASCII characters is not supported")

def hmacRoleReasons (secret : Option String) (digest role signature : String) : List String :=
  match secret with
  | none => []
  | some secret =>
    reasonIf (relationSignature host secret digest role != signature) ("invalid_" ++ role ++ "_witness")

def sharedSecret : Option String → Option String → Except PyError Bool
  | some source, some target => compareSecrets source target
  | _, _ => .ok false

def hmacWitnessReasons (authoritySecrets : List (String × String)) (relation : FederationRelation)
    (digest : String) : Option FederationWitness → Except PyError (List String)
  | none => .ok ["missing_bilateral_witness"]
  | some (.hmac witness) => do
    let source := authoritySecrets.lookup relation.sourceAuthority
    let target := authoritySecrets.lookup relation.targetAuthority
    let shared ← sharedSecret source target
    return reasonIf (witness.scheme != relation.witnessScheme) "witness_scheme_mismatch" ++
      reasonIf (witness.payloadSha256 != digest) "witness_payload_hash_mismatch" ++
      reasonIf source.isNone "unknown_source_authority" ++
      reasonIf target.isNone "unknown_target_authority" ++
      reasonIf shared "shared_authority_secret" ++
      hmacRoleReasons host source digest "source" witness.sourceHmacSha256 ++
      hmacRoleReasons host target digest "target" witness.targetHmacSha256
  | some _ => .ok ["witness_type_mismatch"]

/-- `RelationIntegrityGate.evaluate`. -/
def relationIntegrityEvaluate (authoritySecrets : List (String × String)) (timestamp : Int)
    (relation : FederationRelation) (request : RelationRequest) : Except PyError RelationDecision := do
  let digest := relation.payloadSha256 host
  let witnessReasons ← hmacWitnessReasons host authoritySecrets relation digest relation.witness
  let reasons := commonReasons relation request timestamp ++
    reasonIf (relation.witnessScheme != hmacSharedSecretScheme) "unsupported_witness_scheme" ++ witnessReasons
  return ⟨relation.relationId, reasons.isEmpty, reasons, digest, timestamp⟩

def signingMessage (payloadSha256 role : String) : String :=
  "matverse.federation-relation.v1\n" ++ ed25519PublicKeyScheme ++ "\n" ++ role ++ "\n" ++ payloadSha256

/-- Signature verification by a raw public key, of a signature and a message. -/
abbrev Ed25519Verify := ByteArray → ByteArray → ByteArray → Bool

variable (verify : Ed25519Verify)

def ed25519RoleReasons (key : Option ByteArray) (signature : Option String) (digest role : String) :
    List String :=
  match signature, key with
  | none, _ => ["missing_" ++ role ++ "_witness"]
  | some _, none => []
  | some signature, some key =>
    reasonIf (!verify key (Hex.bytes signature) (signingMessage digest role).toUTF8)
      ("invalid_" ++ role ++ "_witness")

def ed25519WitnessReasons (publicKeys : List (String × ByteArray)) (relation : FederationRelation)
    (digest : String) (witness : Ed25519RelationWitness) : List String :=
  let source := publicKeys.lookup relation.sourceAuthority
  let target := publicKeys.lookup relation.targetAuthority
  reasonIf (witness.scheme != relation.witnessScheme) "witness_scheme_mismatch" ++
  reasonIf (witness.payloadSha256 != digest) "witness_payload_hash_mismatch" ++
  reasonIf source.isNone "unknown_source_authority" ++
  reasonIf target.isNone "unknown_target_authority" ++
  reasonIf (source.isSome && decide (source = target)) "shared_authority_public_key" ++
  ed25519RoleReasons verify source witness.sourceSignatureHex digest "source" ++
  ed25519RoleReasons verify target witness.targetSignatureHex digest "target"

/-- `Ed25519RelationIntegrityGate.evaluate`. -/
def ed25519Evaluate (publicKeys : List (String × ByteArray)) (timestamp : Int)
    (relation : FederationRelation) (request : RelationRequest) : RelationDecision :=
  let digest := relation.payloadSha256 host
  let common := commonReasons relation request timestamp
  if relation.witnessScheme != ed25519PublicKeyScheme then
    ⟨relation.relationId, false, common ++ ["unsupported_witness_scheme"], digest, timestamp⟩
  else
    let reasons := common ++
      match relation.witness with
      | none => ["missing_bilateral_witness"]
      | some (.ed25519 witness) => ed25519WitnessReasons verify publicKeys relation digest witness
      | some _ => ["witness_type_mismatch"]
    ⟨relation.relationId, reasons.isEmpty, reasons, digest, timestamp⟩

/-- `HybridRelationIntegrityGate.evaluate`. -/
def hybridEvaluate (authoritySecrets : List (String × String)) (publicKeys : List (String × ByteArray))
    (timestamp : Int) (relation : FederationRelation) (request : RelationRequest) :
    Except PyError RelationDecision :=
  if relation.witnessScheme == hmacSharedSecretScheme then
    relationIntegrityEvaluate host authoritySecrets timestamp relation request
  else if relation.witnessScheme == ed25519PublicKeyScheme then
    .ok (ed25519Evaluate host verify publicKeys timestamp relation request)
  else
    .ok ⟨relation.relationId, false, commonReasons relation request timestamp ++ ["unsupported_witness_scheme"] ++
      reasonIf relation.witness.isNone "missing_bilateral_witness", relation.payloadSha256 host, timestamp⟩

/-- `HybridRelationIntegrityGate` as routing consumes it: it says nothing of key lifecycles. -/
def hybridGate (authoritySecrets : List (String × String)) (publicKeys : List (String × ByteArray))
    (now : Nat → Int) : RelationGate where
  enforcesKeyLifecycle := false
  evaluate call := hybridEvaluate host verify authoritySecrets publicKeys (now call)

/-- `_coerce_public_key` of a text. -/
def coercePublicKey (value : String) : Except PyError ByteArray :=
  if isLowerSha256 value then .ok (Hex.bytes value)
  else .error (.valueError "Ed25519 public key must be 32-byte lowercase raw hex")

/-- The constructor of `Ed25519RelationIntegrityGate`. -/
def ed25519PublicKeys (authorityPublicKeys : List (String × String)) :
    Except PyError (List (String × ByteArray)) :=
  authorityPublicKeys.mapM fun (authorityId, publicKey) => do
    if Text.strip authorityId == "" then throw (.valueError "authority ids must be non-empty strings")
    let key ← coercePublicKey publicKey
    return (authorityId, key)

end

/-! ## Decisions carry their reasons -/

variable {host : Host} {verify : Ed25519Verify} {relation : FederationRelation} {request : RelationRequest}

theorem commonReasons_eq_nil {timestamp : Int} :
    commonReasons relation request timestamp = [] ↔
      relation.status = .active ∧ request.sourceDomain = relation.sourceDomain ∧
        request.targetDomain = relation.targetDomain ∧ request.contractHash = relation.contractHash ∧
        request.capability ∈ relation.capabilities ∧ relation.validFrom ≤ timestamp ∧
        timestamp < relation.validUntil := by
  simp [commonReasons]

/-- A decision is admissible exactly when it carries no reason. -/
def RelationDecision.Reasoned (d : RelationDecision) : Prop := d.admissible = true ↔ d.reasons = []

theorem ed25519Evaluate_reasoned (publicKeys : List (String × ByteArray)) (timestamp : Int) :
    (ed25519Evaluate host verify publicKeys timestamp relation request).Reasoned := by
  unfold ed25519Evaluate RelationDecision.Reasoned
  split <;> simp

theorem relationIntegrityEvaluate_reasoned {authoritySecrets : List (String × String)} {timestamp : Int}
    {d : RelationDecision}
    (judged : relationIntegrityEvaluate host authoritySecrets timestamp relation request = .ok d) :
    d.Reasoned := by
  simp only [relationIntegrityEvaluate, bind_ok, pure_ok] at judged
  obtain ⟨witnessReasons, _, rfl⟩ := judged
  simp [RelationDecision.Reasoned]

theorem hybridEvaluate_reasoned {authoritySecrets : List (String × String)}
    {publicKeys : List (String × ByteArray)} {timestamp : Int} {d : RelationDecision}
    (judged : hybridEvaluate host verify authoritySecrets publicKeys timestamp relation request = .ok d) :
    d.Reasoned := by
  unfold hybridEvaluate at judged
  split at judged
  · exact relationIntegrityEvaluate_reasoned judged
  · split at judged
    · cases judged
      exact ed25519Evaluate_reasoned _ _
    · cases judged
      simp [RelationDecision.Reasoned]

end MatVerse
