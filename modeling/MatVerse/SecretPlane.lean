import MatVerse.LeaseState

/-! The secret plane: secrets stay behind a vault, and a signed lease lets a consumer use
one for a time and a number of uses. -/
namespace MatVerse.SecretPlane

def schemaVersion : String := "matverse.secret-plane.v1"
def leaseSchemaVersion : String := "matverse.secret-lease.v1"

inductive SecretState where
  | active
  | revoked
  | destroyed
  deriving DecidableEq

def SecretState.value : SecretState → String
  | .active => "ACTIVE"
  | .revoked => "REVOKED"
  | .destroyed => "DESTROYED"

inductive StorageClass where
  | environment
  | platformSecret
  | osKeychain
  | hsm
  | tpm
  | externalVault
  | testMemory
  deriving DecidableEq

def StorageClass.value : StorageClass → String
  | .environment => "ENVIRONMENT"
  | .platformSecret => "PLATFORM_SECRET"
  | .osKeychain => "OS_KEYCHAIN"
  | .hsm => "HSM"
  | .tpm => "TPM"
  | .externalVault => "EXTERNAL_VAULT"
  | .testMemory => "TEST_MEMORY"

structure SecretDescriptor where
  secretId : String
  kind : String
  owner : String
  purpose : String
  provider : Option String
  storageClass : StorageClass
  version : Int
  createdAt : Int
  expiresAt : Option Int
  rotationDueAt : Option Int
  state : SecretState
  required : secretId ≠ "" ∧ kind ≠ "" ∧ owner ≠ "" ∧ purpose ≠ ""
  versioned : 1 ≤ version
  created : 0 ≤ createdAt
  expires : ∀ e, expiresAt = some e → createdAt < e
  rotates : ∀ r, rotationDueAt = some r → createdAt < r

def optInt : Option Int → Json
  | none => .null
  | some i => .int i

def SecretDescriptor.publicDict (d : SecretDescriptor) : Json :=
  .dict [("secret_id", .str d.secretId), ("kind", .str d.kind), ("owner", .str d.owner), ("purpose", .str d.purpose),
    ("provider", (d.provider.map Json.str).getD .null), ("storage_class", .str d.storageClass.value),
    ("version", .int d.version), ("created_at", .int d.createdAt), ("expires_at", optInt d.expiresAt),
    ("rotation_due_at", optInt d.rotationDueAt), ("state", .str d.state.value)]

structure SecretPolicy where
  allowedActors : List String
  allowedCapabilities : List String
  allowedScopes : List String
  maxTtlSeconds : Int
  maxUses : Int
  allows : allowedActors ≠ [] ∧ allowedCapabilities ≠ [] ∧ allowedScopes ≠ []
  lasts : 1 ≤ maxTtlSeconds
  usable : 1 ≤ maxUses

def SecretPolicy.publicDict (p : SecretPolicy) : Json :=
  .dict [("allowed_actors", .arr (p.allowedActors.map .str)),
    ("allowed_capabilities", .arr (p.allowedCapabilities.map .str)),
    ("allowed_scopes", .arr (p.allowedScopes.map .str)), ("max_ttl_seconds", .int p.maxTtlSeconds),
    ("max_uses", .int p.maxUses)]

namespace CapabilityLease

/-- What a lease says, apart from its id and signature. -/
def base (l : CapabilityLease) : Mapping :=
  [("schema", .str leaseSchemaVersion), ("secret_id", .str l.secretId), ("secret_version", .int l.secretVersion),
    ("actor", .str l.actor), ("capability", .str l.capability), ("scope", .str l.scope),
    ("issued_at", .int l.issuedAt), ("expires_at", .int l.expiresAt), ("max_uses", .int l.maxUses),
    ("nonce", .str l.nonce)]

def signedPayload (l : CapabilityLease) : Mapping := l.base ++ [("lease_id", .str l.leaseId)]

def auditDict (l : CapabilityLease) : Mapping :=
  [("lease_id", .str l.leaseId), ("secret_id", .str l.secretId), ("secret_version", .int l.secretVersion),
    ("actor", .str l.actor), ("capability", .str l.capability), ("scope", .str l.scope),
    ("issued_at", .int l.issuedAt), ("expires_at", .int l.expiresAt), ("max_uses", .int l.maxUses)]

end CapabilityLease

/-! ## Consumers -/

abbrev Bytes := List UInt8

/-- A value that a consumer returns, as far as the search for the secret looks into it. -/
inductive PyValue where
  | str (s : String)
  | bytes (b : Bytes)
  | mapping (entries : List (PyValue × PyValue))
  | items (values : List PyValue)
  | other

mutual
/-- `_contains_secret`, of a secret that is not empty. -/
def containsSecret (secret : Bytes) : PyValue → Bool
  | .str s =>
    match String.fromUTF8? ⟨secret.toArray⟩ with
    | some text => decide (text.toList <:+: s.toList)
    | none => false
  | .bytes b => decide (secret <:+: b)
  | .mapping entries => entriesContain secret entries
  | .items values => itemsContain secret values
  | .other => false

def itemsContain (secret : Bytes) : List PyValue → Bool
  | [] => false
  | v :: rest => containsSecret secret v || itemsContain secret rest

def entriesContain (secret : Bytes) : List (PyValue × PyValue) → Bool
  | [] => false
  | (k, v) :: rest => containsSecret secret k || containsSecret secret v || entriesContain secret rest
end

inductive Outcome where
  | returned (value : PyValue)
  | raised (error : SecretError)

def SecretError.typeName : SecretError → String
  | .valueError _ => "ValueError"
  | .typeError _ => "TypeError"
  | .accessDenied _ => "SecretAccessDenied"
  | .notAvailable _ => "SecretNotAvailable"
  | .exposure _ => "SecretExposureError"
  | .plane _ => "SecretPlaneError"
  | .sql (.integrity _) => "IntegrityError"
  | .sql (.operational _) => "OperationalError"
  | .sql (.overflow _) => "OverflowError"
  | .raised errorType _ => errorType

/-- `except SecretPlaneError`. -/
def SecretError.isPlaneError : SecretError → Bool
  | .accessDenied _ | .notAvailable _ | .exposure _ | .plane _ => true
  | .valueError _ | .typeError _ | .sql _ | .raised _ _ => false

/-! ## The state of a plane -/

inductive LeaseStateStore where
  | memory (state : InMemoryLeaseStateStore)
  | sqlite (conn : SQLiteLeaseStateStore)

namespace LeaseStateStore

def register : LeaseStateStore → CapabilityLease → Except SecretError Unit × LeaseStateStore
  | .memory state, lease => ((state.register lease).1, .memory (state.register lease).2)
  | .sqlite conn, lease => ((conn.register lease).1, .sqlite (conn.register lease).2)

def consume : LeaseStateStore → CapabilityLease → Except SecretError Bool × LeaseStateStore
  | .memory state, lease => ((state.consume lease).1, .memory (state.consume lease).2)
  | .sqlite conn, lease => ((conn.consume lease).1, .sqlite (conn.consume lease).2)

def revokeSecret : LeaseStateStore → String → LeaseStateStore
  | .memory state, secretId => .memory (state.revokeSecret secretId)
  | .sqlite conn, secretId => .sqlite (conn.revokeSecret secretId)

/-- The store of a restarted plane: the same object, or a new connection to the file. -/
def reopened (reconnect : Bool) : LeaseStateStore → LeaseStateStore
  | .memory state => .memory state
  | .sqlite conn => .sqlite (if reconnect then conn.reopen else conn)

end LeaseStateStore

structure AuditEvent where
  eventType : String
  timestamp : Int
  payload : Mapping
  eventHash : String

/-- What has happened, in its order; a use is recorded with what the vault then held. -/
inductive Event where
  | registered (descriptor : SecretDescriptor) (policy : SecretPolicy) (locator : String)
  | issued (lease : CapabilityLease)
  | invoked (lease : CapabilityLease) (now : Int) (vault : String → Except SecretError Bytes) (material : Bytes)
  | rebound (secretId : String) (version : Int) (locator : String)
  | revoked (secretId : String)
  | destroyed (secretId : String)

structure World where
  /-- The storage class of the vault. -/
  storageClass : StorageClass
  descriptors : List (String × SecretDescriptor)
  policies : List (String × SecretPolicy)
  bindings : List (String × String)
  auditEvents : List AuditEvent
  store : LeaseStateStore
  now : Int
  trace : List Event

def World.start (storageClass : StorageClass) (store : LeaseStateStore) (now : Int) : World :=
  ⟨storageClass, [], [], [], [], store, now, []⟩

def World.observed (w : World) (e : Event) : World := { w with trace := w.trace ++ [e] }

def matched (value : String) (allowlist : List String) : Bool := allowlist.contains "*" || allowlist.contains value

/-- `DisclosureGate.evaluate`: why it refuses. -/
def refusal (policy : SecretPolicy) (actor capability scope : String) : Option String :=
  if !matched actor policy.allowedActors then some "actor_not_allowed"
  else if !matched capability policy.allowedCapabilities then some "capability_not_allowed"
  else if !matched scope policy.allowedScopes then some "scope_not_allowed"
  else none

namespace World

def descriptor (w : World) (secretId : String) : Except SecretError SecretDescriptor :=
  match Dict.get? secretId w.descriptors with
  | some d => .ok d
  | none => .error (.notAvailable "unknown secret_id")

def policy (w : World) (secretId : String) : Except SecretError SecretPolicy :=
  match Dict.get? secretId w.policies with
  | some p => .ok p
  | none => .error (.raised "KeyError" secretId)

def binding (w : World) (secretId : String) : Except SecretError String :=
  match Dict.get? secretId w.bindings with
  | some locator => .ok locator
  | none => .error (.notAvailable "secret binding is unavailable")

end World

def expired (now : Int) : Option Int → Bool
  | none => false
  | some e => decide (e ≤ now)

/-! ## Operations -/

section
variable (host : Host) (key : ByteArray)

namespace World

def audit (w : World) (eventType : String) (payload : Mapping) : World :=
  let core : Mapping := [("schema", .str schemaVersion), ("event_type", .str eventType), ("timestamp", .int w.now),
    ("payload", .dict payload)]
  { w with auditEvents := w.auditEvents ++ [⟨eventType, w.now, payload, stableHash host (.dict core)⟩] }

def registerSecret (w : World) (descriptor : SecretDescriptor) (policy : SecretPolicy) (locator : String) :
    Except SecretError Unit × World :=
  if (Dict.get? descriptor.secretId w.descriptors).isSome then
    (.error (.valueError "secret_id already registered"), w)
  else if descriptor.storageClass ≠ w.storageClass then
    (.error (.valueError "descriptor storage_class does not match vault adapter"), w)
  else if locator = "" then (.error (.valueError "opaque vault locator is required"), w)
  else
    let next := { w with
      descriptors := Dict.insert descriptor.secretId descriptor w.descriptors
      policies := Dict.insert descriptor.secretId policy w.policies
      bindings := Dict.insert descriptor.secretId locator w.bindings }
    (.ok (), (next.audit host "SECRET_REGISTERED"
      [("descriptor", descriptor.publicDict), ("policy", policy.publicDict)]).observed
        (.registered descriptor policy locator))

end World

def signLeasePayload (payload : Mapping) : String := host.hmac key (canonicalJson (.dict payload)).toUTF8

namespace World

/-- What a lease is issued on: a secret in force, and its policy. -/
def issuable (w : World) (secretId : String) : Except SecretError (SecretDescriptor × SecretPolicy) := do
  let descriptor ← w.descriptor secretId
  let policy ← w.policy secretId
  if descriptor.state ≠ .active then throw (.accessDenied "secret is not active")
  if expired w.now descriptor.expiresAt then throw (.accessDenied "secret descriptor is expired")
  return (descriptor, policy)

/-- The time and the uses that are asked for, or the policy's own; the nonce is what the
factory returned, if that was a text. -/
def leaseTerms (policy : SecretPolicy) (ttlSeconds maxUses : Option Int) (nonce : Option String) :
    Except SecretError (Int × Int × String) := do
  let ttl := ttlSeconds.getD policy.maxTtlSeconds
  let uses := maxUses.getD policy.maxUses
  if ttl < 1 ∨ policy.maxTtlSeconds < ttl then throw (.accessDenied "requested ttl exceeds policy")
  if uses < 1 ∨ policy.maxUses < uses then throw (.accessDenied "requested max_uses exceeds policy")
  match nonce with
  | none => throw (.valueError "nonce_factory must return at least 16 characters")
  | some nonce =>
    if nonce.length < 16 then throw (.valueError "nonce_factory must return at least 16 characters")
    return (ttl, uses, nonce)

/-- The lease of given terms, named by the hash of what it says and signed. -/
def drawUp (w : World) (descriptor : SecretDescriptor) (secretId actor capability scope : String)
    (terms : Int × Int × String) : CapabilityLease :=
  let blank : CapabilityLease := ⟨"", secretId, descriptor.version, actor, capability, scope, w.now, w.now + terms.1,
    terms.2.1, terms.2.2, ""⟩
  let unsigned := { blank with leaseId := stableHash host (.dict blank.base) }
  { unsigned with signature := signLeasePayload host key unsigned.signedPayload }

def issueLease (w : World) (secretId actor capability scope : String) (ttlSeconds maxUses : Option Int)
    (nonce : Option String) : Except SecretError CapabilityLease × World :=
  match w.issuable secretId with
  | .error e => (.error e, w)
  | .ok (descriptor, policy) =>
    match refusal policy actor capability scope with
    | some reason => (.error (.accessDenied reason), w.audit host "LEASE_DENIED"
        [("secret_id", .str secretId), ("actor", .str actor), ("capability", .str capability), ("scope", .str scope),
          ("reason", .str reason)])
    | none =>
      match leaseTerms policy ttlSeconds maxUses nonce with
      | .error e => (.error e, w)
      | .ok terms =>
        let lease := w.drawUp host key descriptor secretId actor capability scope terms
        match w.store.register lease with
        | (.error e, store) => (.error e, { w with store := store })
        | (.ok (), store) =>
          (.ok lease, ({ w with store := store }.audit host "LEASE_ISSUED" lease.auditDict).observed (.issued lease))

def verifyLease (w : World) (lease : CapabilityLease) : Except SecretError SecretDescriptor := do
  match compareDigest (signLeasePayload host key lease.signedPayload) lease.signature with
  | .error _ => throw (.typeError "comparing strings with non-ASCII characters is not supported")
  | .ok false => throw (.accessDenied "invalid lease signature")
  | .ok true =>
    let descriptor ← w.descriptor lease.secretId
    if descriptor.state ≠ .active then throw (.accessDenied "secret is not active")
    if descriptor.version ≠ lease.secretVersion then
      throw (.accessDenied "lease is bound to a superseded secret version")
    if lease.expiresAt ≤ w.now then throw (.accessDenied "lease is expired")
    if expired w.now descriptor.expiresAt then throw (.accessDenied "secret descriptor is expired")
    let policy ← w.policy lease.secretId
    match refusal policy lease.actor lease.capability lease.scope with
    | some reason => throw (.accessDenied reason)
    | none => return descriptor

/-- What is left to do with what a consumer made of the secret. -/
def concludeUse (w : World) (lease : CapabilityLease) (material : Bytes) :
    Outcome → Except SecretError PyValue × World
  | .raised e =>
    if e.isPlaneError then (.error e, w)
    else (.error e, w.audit host "LEASE_USE_ERROR" (lease.auditDict ++ [("error_type", Json.str e.typeName)]))
  | .returned value =>
    if containsSecret material value then
      (.error (.exposure "consumer attempted to return secret material"), w.audit host "SECRET_RETURN_BLOCKED"
        (lease.auditDict ++ [("reason", Json.str "consumer_returned_secret_material")]))
    else (.ok value, w.audit host "LEASE_USED" (lease.auditDict ++ [("decision", Json.str "PASS")]))

/-- The use is counted before the vault is read; a consumer that calls the plane again
does so after that. -/
def executeWithSecret (w : World) (lease : CapabilityLease) (vault : String → Except SecretError Bytes)
    (consumer : Bytes → Outcome) : Except SecretError PyValue × World :=
  match w.verifyLease host key lease with
  | .error e => (.error e, w)
  | .ok _ =>
    match w.store.consume lease with
    | (.error e, store) => (.error e, { w with store := store })
    | (.ok false, store) => (.error (.accessDenied "lease usage exhausted or revoked"),
        { w with store := store }.audit host "LEASE_USE_DENIED"
          (lease.auditDict ++ [("reason", Json.str "usage_exhausted_or_revoked")]))
    | (.ok true, store) =>
      let next := { w with store := store }
      match next.binding lease.secretId with
      | .error e => (.error e, next)
      | .ok locator =>
        match vault locator with
        | .error e => (.error e, next)
        | .ok material =>
          if material.isEmpty then (.error (.notAvailable "vault returned empty secret material"), next)
          else (next.observed (.invoked lease w.now vault material)).concludeUse host lease material (consumer material)

def rebindSecret (w : World) (secretId newLocator : String) (newVersion : Int) :
    Except SecretError SecretDescriptor × World :=
  match w.descriptor secretId with
  | .error e => (.error e, w)
  | .ok descriptor =>
    if descriptor.state ≠ .active then (.error (.accessDenied "only active secrets can be rebound"), w)
    else if newer : descriptor.version < newVersion then
      if newLocator = "" then (.error (.valueError "new_locator is required"), w)
      else
        let updated := { descriptor with version := newVersion, versioned := descriptor.versioned.trans newer.le }
        let next := { w with
          descriptors := Dict.insert secretId updated w.descriptors
          bindings := Dict.insert secretId newLocator w.bindings
          store := w.store.revokeSecret secretId }
        (.ok updated, (next.audit host "SECRET_REBOUND" [("secret_id", .str secretId),
          ("old_version", .int descriptor.version), ("new_version", .int newVersion)]).observed
            (.rebound secretId newVersion newLocator))
    else (.error (.valueError "new_version must be greater than current version"), w)

/-- The secret in a state that ends it, without a binding. -/
def ended (w : World) (secretId : String) (updated : SecretDescriptor) : World :=
  { w with
    descriptors := Dict.insert secretId updated w.descriptors
    bindings := Dict.erase secretId w.bindings
    store := w.store.revokeSecret secretId }

def revokeSecret (w : World) (secretId : String) : Except SecretError SecretDescriptor × World :=
  match w.descriptor secretId with
  | .error e => (.error e, w)
  | .ok descriptor =>
    if descriptor.state = .destroyed then (.error (.accessDenied "destroyed secret cannot be revoked"), w)
    else
      let updated := { descriptor with state := .revoked }
      (.ok updated, ((w.ended secretId updated).audit host "SECRET_REVOKED"
        [("secret_id", .str secretId), ("version", .int descriptor.version)]).observed (.revoked secretId))

def destroySecret (w : World) (secretId : String) (vault : String → Except SecretError Unit) :
    Except SecretError SecretDescriptor × World :=
  match w.descriptor secretId with
  | .error e => (.error e, w)
  | .ok descriptor =>
    if descriptor.state = .destroyed then (.ok descriptor, w)
    else
      match w.binding secretId with
      | .error e => (.error e, w)
      | .ok locator =>
        match vault locator with
        | .error e => (.error e, w)
        | .ok () =>
          let updated := { descriptor with state := .destroyed }
          (.ok updated, ((w.ended secretId updated).audit host "SECRET_DESTROYED"
            [("secret_id", .str secretId), ("version", .int descriptor.version)]).observed (.destroyed secretId))

/-- A new plane over the store of the old one. -/
def restart (w : World) (storageClass : StorageClass) (reconnect : Bool) : World :=
  ⟨storageClass, [], [], [], [], w.store.reopened reconnect, w.now, w.trace⟩

end World

/-- A call of a plane, with what the vault and the consumer do in it. -/
inductive Call where
  | registerSecret (descriptor : SecretDescriptor) (policy : SecretPolicy) (locator : String)
  | issueLease (secretId actor capability scope : String) (ttlSeconds maxUses : Option Int) (nonce : Option String)
  | executeWithSecret (lease : CapabilityLease) (vault : String → Except SecretError Bytes)
      (consumer : Bytes → Outcome)
  | rebindSecret (secretId newLocator : String) (newVersion : Int)
  | revokeSecret (secretId : String)
  | destroySecret (secretId : String) (vault : String → Except SecretError Unit)
  | setClock (now : Int)
  | restart (storageClass : StorageClass) (reconnect : Bool)

def World.after (w : World) : Call → World
  | .registerSecret descriptor policy locator => (w.registerSecret host descriptor policy locator).2
  | .issueLease secretId actor capability scope ttlSeconds maxUses nonce =>
    (w.issueLease host key secretId actor capability scope ttlSeconds maxUses nonce).2
  | .executeWithSecret lease vault consumer => (w.executeWithSecret host key lease vault consumer).2
  | .rebindSecret secretId newLocator newVersion => (w.rebindSecret host secretId newLocator newVersion).2
  | .revokeSecret secretId => (w.revokeSecret host secretId).2
  | .destroySecret secretId vault => (w.destroySecret host secretId vault).2
  | .setClock now => { w with now := now }
  | .restart storageClass reconnect => w.restart storageClass reconnect

end

end MatVerse.SecretPlane
