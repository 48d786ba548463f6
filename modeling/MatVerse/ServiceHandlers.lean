import MatVerse.Auth
import MatVerse.FederationSigning
import MatVerse.LedgerHistory
import MatVerse.ModelSessions
import MatVerse.Lib.Interleaving

/-! The HTTP application: its requests after validation, and their handlers, between whose
transactions the handlers of other requests may come. -/
namespace MatVerse

open Fallible Interleaving

/-! ## Handlers -/

/-- What is left of a handler; each of its accesses is one transaction. -/
abbrev Handler (ρ : Type) := Program Database Surroundings (Except PyError ρ)

/-- The access that a handler ends with. -/
def Handler.last {α ρ : Type} (run : Surroundings → Database → Except PyError α × Database)
    (raised : PyError → PyError) (f : α → ρ) : Handler ρ :=
  Program.call run fun
    | .ok a => .answer (.ok (f a))
    | .error e => .answer (.error (raised e))

def PyError.text : PyError → String
  | .valueError message | .permissionError message | .runtimeError message | .typeError message
  | .attributeError message | .lookupError message | .overflowError message | .zeroDivisionError message
  | .recursionError message | .integrityError message | .projectionUnavailable message => message
  | .keyError key => "'" ++ key ++ "'"
  | .httpException _ detail => detail
  -- the decoder's text is left out
  | .assertionError | .jsonDecodeError => ""

/-- The statuses a route answers a `LookupError`, a `PermissionError` and a `ValueError` with;
without one the exception is raised on. -/
structure Statuses where
  lookup : Option Nat
  permission : Option Nat
  value : Option Nat

def Statuses.raised (s : Statuses) (e : PyError) : PyError :=
  let status := match e with
    | .lookupError _ | .keyError _ => s.lookup
    | .permissionError _ => s.permission
    | .valueError _ | .jsonDecodeError => s.value
    | _ => none
  match status with
  | some status => .httpException status e.text
  | none => e

/-- `_raise_registry_error`. -/
def registryError : PyError → PyError := Statuses.raised ⟨some 404, some 409, some 409⟩

/-! ## Bodies -/

def isIdentifier (value : String) : Bool :=
  0 < value.length && value.length ≤ 128 &&
    value.toList.all (fun c => c.isAlphanum || c == '.' || c == '_' || c == ':' || c == '-')

def isHexDigest (value : String) : Bool :=
  value.length == 64 && value.toList.all (fun c => Hex.isDigit c || ('A' ≤ c && c ≤ 'F'))

structure ModelRef where
  participantId : String
  provider : String
  model : String
  revision : Option String
  endpointClass : String
  identified : isIdentifier participantId = true

def ModelRef.modelDump (m : ModelRef) : Mapping :=
  [("participant_id", .str m.participantId), ("provider", .str m.provider), ("model", .str m.model),
    ("revision", m.revision.elim .null .str), ("endpoint_class", .str m.endpointClass)]

structure FrozenContractCreate where
  ontologyHash : String
  policyHash : String
  taskHash : String
  rubricHash : String
  memoryPolicyHash : String
  digests : ∀ hash ∈ [ontologyHash, policyHash, taskHash, rubricHash, memoryPolicyHash], isHexDigest hash = true

def FrozenContractCreate.modelDump (c : FrozenContractCreate) : FrozenContract :=
  [("ontology_hash", c.ontologyHash), ("policy_hash", c.policyHash), ("task_hash", c.taskHash),
    ("rubric_hash", c.rubricHash), ("memory_policy_hash", c.memoryPolicyHash)]

/-- `contract_hash` of the fields that it requires. -/
def contractHash (host : Host) (contract : FrozenContract) : String :=
  stableHash host (.dict (("protocol_version", .str ModelBridge.protocolVersion) ::
    contract.map (fun p => (p.1, .str p.2))))

structure ModelSessionCreate where
  participants : List ModelRef
  contract : FrozenContractCreate
  atMost : participants.length ≤ 16
  distinct : (participants.map ModelRef.participantId).Nodup
  models : ∃ a ∈ participants, ∃ b ∈ participants,
    (a.provider, a.model, a.revision) ≠ (b.provider, b.model, b.revision)

structure ModelHandoffCreate extends HandoffRequest where
  parentHandoffId : Option String

structure GenesisKeyCreate where
  publicKeyHex : String
  validFrom : Int
  validUntil : Int
  publicKey : isLowerSha256 publicKeyHex = true
  starts : 0 ≤ validFrom
  window : validFrom < validUntil

structure RotateKeyCreate where
  publicKeyHex : String
  validUntil : Int
  publicKey : isLowerSha256 publicKeyHex = true
  ends : 0 < validUntil

structure RevokeKeyRequest where
  effectiveAt : Int
  reason : String
  starts : 0 ≤ effectiveAt
  stated : 0 < reason.length ∧ reason.length ≤ 512

structure RelationKeyBindingCreate where
  sourceDomain : String
  targetDomain : String
  sourceAuthority : String
  targetAuthority : String
  contractHash : String
  capabilities : List String
  validFrom : Int
  validUntil : Int
  evidencePolicy : String
  witnessPayloadSha256 : String
  sourceSignatureHex : String
  targetSignatureHex : String
  sourceKeyId : String
  targetKeyId : String
  identifiers : ∀ value ∈ [sourceDomain, targetDomain, sourceAuthority, targetAuthority], isIdentifier value = true
  digests : isLowerSha256 contractHash = true ∧ isLowerSha256 witnessPayloadSha256 = true
  signatures : isSignatureHex sourceSignatureHex = true ∧ isSignatureHex targetSignatureHex = true
  keyIds : isKeyId sourceKeyId = true ∧ isKeyId targetKeyId = true
  canonical : capabilities.Pairwise (· < ·) ∧ "*" ∉ capabilities
  apart : sourceDomain ≠ targetDomain ∧ sourceAuthority ≠ targetAuthority ∧ sourceKeyId ≠ targetKeyId
  window : 0 ≤ validFrom ∧ validFrom < validUntil

/-! ## Requests -/

/-- A request that was routed and whose body passed its validation. -/
inductive ServiceRequest where
  | createContractArtifact (kind version : String) (content : Mapping)
  | readContractArtifact (artifactHash : String)
  | ingress (req : Ingress)
  | createCrossModelSession (req : ModelSessionCreate)
  | fetchCrossModelSession (sessionId : String)
  | createCrossModelHandoff (req : ModelHandoffCreate)
  | crossModelInbox (sessionId participantId : String)
  | ackCrossModelHandoff (handoffId participantId : String)
  | federationRoute
  | openaiResponse
  | registerGenesisKey (authorityId : String) (req : GenesisKeyCreate)
  | rotateAuthorityKey (authorityId previousKeyId : String) (req : RotateKeyCreate)
  | revokeAuthorityKey (authorityId keyId : String) (req : RevokeKeyRequest)
  | readAuthorityKey (keyId : String)
  | bindRelationKeys (relationId : String) (req : RelationKeyBindingCreate)
  | readRelationBinding (relationId : String)

def ServiceRequest.capability : ServiceRequest → String
  | .createContractArtifact .. => "registry:write"
  | .readContractArtifact .. => "registry:read"
  | .ingress .. => "bridge:ingress"
  | .createCrossModelSession .. => "session:create"
  | .fetchCrossModelSession .. => "session:read"
  | .createCrossModelHandoff .. => "handoff:send"
  | .crossModelInbox .. => "inbox:read"
  | .ackCrossModelHandoff .. => "handoff:ack"
  | .federationRoute => "federation:route"
  | .openaiResponse => "provider:openai:invoke"
  | .registerGenesisKey .. => "federation:key:register"
  | .rotateAuthorityKey .. => "federation:key:rotate"
  | .revokeAuthorityKey .. => "federation:key:revoke"
  | .readAuthorityKey .. => "federation:key:read"
  | .bindRelationKeys .. => "federation:relation:bind-key"
  | .readRelationBinding .. => "federation:key:read"

inductive ProviderOutcome where
  | configurationHold (reason : String)
  | invalid (message : String)
  | failure (failure : ProviderFailure)
  | secretPlaneHold (errorType : String)
  | answered (result : BrokerResult) (humanDeclared : Bool)

/-- What a handler draws or computes without the database: the hexadecimal of a `uuid4`, the
receipts of the route through the graph of the body or the exception raised for it, and what
the broker came to. -/
structure Given where
  uuidHex : String
  routed : Except PyError (String × EvidenceReceipt)
  provided : ProviderOutcome

inductive ServiceAnswer (host : Host) where
  | artifact (answer : ArtifactAnswer)
  | storedArtifact (row : ContractArtifact) (content : Json)
  /-- What else these answers show is of the request and of the event. -/
  | ledgered (event : AppEvent) (receipt : LedgerReceipt)
  | session (answer : SessionAnswer)
  | storedSession (row : ModelSession)
  | handoff (answer : HandoffAnswer)
  | inbox (sessionId participantId : String) (handoffs : List (ModelHandoff × Json))
  | ack (answer : AckAnswer)
  | key (answer : KeyAnswer host) (actor : String)
  | revocation (answer : RevocationAnswer host) (actor : String)
  | binding (answer : BindingAnswer) (actor : String)
  | storedKey (record : AuthorityKeyRecord host) (readBy : String)
  | storedBinding (binding : RelationKeyBinding) (readBy : String)

/-! ## The model bridge -/

section
variable (host : Host)

def appendsEvent (event : AppEvent) : Handler (ServiceAnswer host) :=
  Handler.last (fun env db => appendAppEvent host env event db) id (ServiceAnswer.ledgered event)

/-- The event of a hold is appended, and an exception raised that shows its receipt. -/
def holdsEvent (event : AppEvent) (status : Nat) (reason : String) (more : Mapping) : Handler (ServiceAnswer host) :=
  .call (fun env db => appendAppEvent host env event db) fun
    | .error e => .answer (.error e)
    | .ok receipt => .answer (.error (.httpException status (canonicalJson (.dict
        ([("decision", .str "HOLD"), ("reason", .str reason)] ++ more ++ [("receipt", receipt.toJson)])))))

def createContractArtifact (principal : Principal) (kind version : String) (content : Mapping) :
    Handler (ServiceAnswer host) :=
  Handler.last (fun env db => registerContractArtifact host env kind version content principal.principalId db) id
    .artifact

def readContractArtifact (artifactHash : String) : Handler (ServiceAnswer host) :=
  .read (fun db => getContractArtifact db artifactHash) fun
    | .error e => .answer (.error e)
    | .ok none => .answer (.error (.httpException 404 "contract artifact not found"))
    | .ok (some found) => .answer (.ok (.storedArtifact found.1 found.2))

def ingress (principal : Principal) (req : Ingress) : Handler (ServiceAnswer host) :=
  appendsEvent host (.ingress req principal.principalId)

/-- What the faults found come to. -/
def RegistryFaults.check (faults : RegistryFaults) : Except PyError Unit := do
  if !faults.missing.isEmpty || !faults.wrong.isEmpty then
    throw (.permissionError ("contract registry validation failed: " ++ "; ".intercalate faults.detail))

/-- `validate_contract_registry`: every artifact is looked up in a transaction of its own. -/
def checksRegistry {ρ : Type} (contract : FrozenContract) (next : Except PyError Unit → Handler ρ) :
    List (String × String) → RegistryFaults → Handler ρ
  | [], faults => next faults.check
  | field :: rest, faults => .read (fun db => noteFault db contract faults field) fun
    | .error e => next (.error e)
    | .ok faults => checksRegistry contract next rest faults

def createCrossModelSession (principal : Principal) (req : ModelSessionCreate) (uuidHex : String) :
    Handler (ServiceAnswer host) :=
  let verdict := omegaGate (evaluateHdb none) "COMMIT" true true true
  let contract := req.contract.modelDump
  let conflict (e : PyError) : PyError := .httpException 409 e.text
  if verdict.1 ≠ .pass then
    .answer (.error (.httpException 403 (canonicalJson (verdictJson verdict.1 verdict.2))))
  else
    checksRegistry contract (fun
      | .error e => .answer (.error (conflict e))
      | .ok () => Handler.last (fun env db => transaction (createSessionTx host env ("mbs_" ++ uuidHex)
          ModelBridge.protocolVersion contract (contractHash host contract)
          (req.participants.map ModelRef.modelDump) principal.principalId) db) conflict .session)
      contractFields ⟨[], []⟩

def getModelSession (db : Database) (sessionId : String) : Except PyError (Option ModelSession) :=
  match findSession db sessionId with
  | none => .ok none
  | some session => do
    let _ ← loadsText session.contractJson
    let _ ← loadsText session.participantsJson
    return some session

def showSession (principal : Principal) (session : ModelSession) : Except PyError ModelSession := do
  let ids ← enrolledIds session
  if !enrolls ids principal.principalId && !principal.allows "session:read:any" then
    throw (.httpException 403 "principal is not a session participant")
  return session

def fetchCrossModelSession (principal : Principal) (sessionId : String) : Handler (ServiceAnswer host) :=
  .read (fun db => getModelSession db sessionId) fun
    | .error e => .answer (.error e)
    | .ok none => .answer (.error (.httpException 404 "model bridge session not found"))
    | .ok (some session) => .answer ((showSession principal session).map .storedSession)

/-- Whether the principal is the participant it names, or may act for any. -/
def speaksFor (principal : Principal) (participant anyone : String) : Bool :=
  principal.principalId == participant || principal.allows anyone

def createCrossModelHandoff (principal : Principal) (req : ModelHandoffCreate) : Handler (ServiceAnswer host) :=
  if !speaksFor principal req.fromParticipant "handoff:send:any" then
    .answer (.error (.httpException 403 "authenticated principal does not match from_participant"))
  else
    match ModelBridge.assertTransferableState (Json.dict req.payload).norm with
    | .error e => .answer (.error (Statuses.raised ⟨none, none, some 422⟩ e))
    | .ok () =>
      if rejected : req.gate.1 ≠ .pass then
        appendsEvent host (.handoffRejected req.toHandoffRequest rejected)
      else
        Handler.last (fun env db => appendModelHandoff host env req.sessionId req.fromParticipant req.toParticipant
          req.parentHandoffId req.payload req.expectedContractHash db)
          (Statuses.raised ⟨some 404, some 409, some 422⟩) .handoff

def inboxRows (sessionId participant : String) (db : Database) : Except PyError (List (ModelHandoff × Json)) :=
  ((db.modelHandoffs.filter (awaits sessionId participant)).mergeSort
    (fun a b => a.sessionSeq ≤ b.sessionSeq)).mapM withPayload

/-- The session is looked up before the rows, in a transaction of its own. -/
def crossModelInbox (principal : Principal) (sessionId participantId : String) : Handler (ServiceAnswer host) :=
  let raised := Statuses.raised ⟨some 404, some 403, none⟩
  if !speaksFor principal participantId "inbox:read:any" then
    .answer (.error (.httpException 403 "authenticated principal does not match inbox participant"))
  else
    .read (fun db => getModelSession db sessionId) fun
      | .error e => .answer (.error (raised e))
      | .ok none => .answer (.error (raised (.lookupError "model bridge session not found")))
      | .ok (some session) =>
        match enrolledIds session with
        | .error e => .answer (.error (raised e))
        | .ok ids =>
          if !enrolls ids participantId then
            .answer (.error (raised (.permissionError "participant is not enrolled in session")))
          else
            .read (inboxRows sessionId participantId) fun
              | .error e => .answer (.error (raised e))
              | .ok handoffs => .answer (.ok (.inbox sessionId participantId handoffs))

def ackCrossModelHandoff (principal : Principal) (handoffId participantId : String) : Handler (ServiceAnswer host) :=
  if !speaksFor principal participantId "handoff:ack:any" then
    .answer (.error (.httpException 403 "authenticated principal does not match ack participant"))
  else
    Handler.last (fun env db => acknowledgeModelHandoff host env handoffId participantId db)
      (Statuses.raised ⟨some 404, some 403, none⟩) .ack

def federationRoute (principal : Principal) :
    Except PyError (String × EvidenceReceipt) → Handler (ServiceAnswer host)
  | .error e => .answer (.error e)
  | .ok routed => appendsEvent host (.federationRoute principal.principalId routed.1 routed.2)

def openaiResponse (principal : Principal) : ProviderOutcome → Handler (ServiceAnswer host)
  | .configurationHold reason => holdsEvent host (.configurationHold principal.principalId reason) 503 reason []
  | .invalid message => .answer (.error (.httpException 422 message))
  | .failure failure =>
    holdsEvent host (.providerFailure failure principal.principalId) 502 "provider request failed"
      [("status_code", failure.statusCode), ("provider_request_id", failure.requestId),
        ("provider_code", failure.providerCode)]
  | .secretPlaneHold errorType =>
    holdsEvent host (.secretPlaneHold principal.principalId errorType) 503
      "secret plane could not authorize or disclose the provider credential" []
  | .answered result humanDeclared =>
    appendsEvent host (.providerAnswer result principal.principalId humanDeclared)

/-! ## The trust plane -/

/-- The record is built before the `try`: its exceptions are raised on. -/
def registerRecord (principal : Principal) (fields : AuthorityKeyFields) : Handler (ServiceAnswer host) :=
  match fields.build host with
  | .error e => .answer (.error e)
  | .ok record =>
    Handler.last (fun env db => registerKey host env record principal.principalId db) registryError
      (fun answer => .key answer principal.principalId)

def registerGenesisKey (principal : Principal) (authorityId : String) (req : GenesisKeyCreate) :
    Handler (ServiceAnswer host) :=
  match authorityKeyId host req.publicKeyHex with
  | .error e => .answer (.error e)
  | .ok keyId => registerRecord host principal
      ⟨authorityId, keyId, req.publicKeyHex, req.validFrom, req.validUntil, none, ed25519Algorithm, none, none⟩

/-- The checks of a rotation before its record is built. -/
def rotated (authorityId : String) (req : RotateKeyCreate) (previous : AuthorityKeyFields) :
    Except PyError AuthorityKeyFields := do
  if previous.authorityId != authorityId then
    throw (.httpException 409 "previous key belongs to a different authority")
  if req.validUntil ≤ previous.validUntil then
    throw (.httpException 409 "rotated key valid_until must exceed previous valid_until")
  let keyId ← authorityKeyId host req.publicKeyHex
  return ⟨authorityId, keyId, req.publicKeyHex, previous.validUntil, req.validUntil, some previous.keyId,
    ed25519Algorithm, none, none⟩

/-- The previous key is read outside the transaction that registers its successor. -/
def rotateAuthorityKey (principal : Principal) (authorityId previousKeyId : String) (req : RotateKeyCreate) :
    Handler (ServiceAnswer host) :=
  .read (fun db => getKey host db previousKeyId) fun
    | .error e => .answer (.error e)
    | .ok none => .answer (.error (.httpException 404 "previous authority key not found"))
    | .ok (some previous) =>
      match rotated host authorityId req previous.toAuthorityKeyFields with
      | .error e => .answer (.error e)
      | .ok fields => registerRecord host principal fields

/-- The revoked key is read again after the commit. -/
def revokeAuthorityKey (principal : Principal) (authorityId keyId : String) (req : RevokeKeyRequest) :
    Handler (ServiceAnswer host) :=
  .call (fun env db => transaction (revokeKeyTx host env authorityId keyId req.effectiveAt req.reason
      principal.principalId) db) fun
    | .error e => .answer (.error (registryError e))
    | .ok (.inl answer) => .answer (.ok (.revocation answer principal.principalId))
    | .ok (.inr receipt) =>
      .read (fun db => revocationAnswer host receipt (getKey host db keyId)) fun
        | .error e => .answer (.error (registryError e))
        | .ok answer => .answer (.ok (.revocation answer principal.principalId))

def readAuthorityKey (principal : Principal) (keyId : String) : Handler (ServiceAnswer host) :=
  .read (fun db => getKey host db keyId) fun
    | .error e => .answer (.error e)
    | .ok none => .answer (.error (.httpException 404 "authority key not found"))
    | .ok (some record) => .answer (.ok (.storedKey record principal.principalId))

/-- The constructor of `FederationRelation`. -/
def FederationRelationFields.build (r : FederationRelationFields) : Except PyError FederationRelation :=
  match valid : r.postInit with
  | .ok () => .ok ⟨r, valid⟩
  | .error e => .error e

def RelationKeyBindingCreate.relation (req : RelationKeyBindingCreate) (relationId : String) :
    Except PyError FederationRelation := do
  let witness ← Ed25519RelationWitnessFields.build ⟨ed25519PublicKeyScheme, req.witnessPayloadSha256,
    some req.sourceSignatureHex, some req.targetSignatureHex⟩
  FederationRelationFields.build ⟨relationId, req.sourceDomain, req.targetDomain, req.sourceAuthority,
    req.targetAuthority, req.contractHash, req.capabilities, req.validFrom, req.validUntil, .active,
    req.evidencePolicy, ed25519PublicKeyScheme, some (.ed25519 witness)⟩

def bindRelationKeys (verify : Ed25519Verify) (principal : Principal) (relationId : String)
    (req : RelationKeyBindingCreate) : Handler (ServiceAnswer host) :=
  match req.relation relationId with
  | .error e => .answer (.error e)
  | .ok relation =>
    Handler.last (fun env db => registerRelationBinding host verify env relation req.sourceKeyId req.targetKeyId
      principal.principalId db) registryError (fun answer => .binding answer principal.principalId)

def readRelationBinding (principal : Principal) (relationId : String) : Handler (ServiceAnswer host) :=
  .read (fun db => getRelationBinding db relationId) fun
    | .error e => .answer (.error e)
    | .ok none => .answer (.error (.httpException 404 "relation key binding not found"))
    | .ok (some binding) => .answer (.ok (.storedBinding binding principal.principalId))

/-- The handler of a request for a principal that holds the capability of its route. -/
def ServiceRequest.handler (verify : Ed25519Verify) (principal : Principal) (given : Given) :
    ServiceRequest → Handler (ServiceAnswer host)
  | .createContractArtifact kind version content => MatVerse.createContractArtifact host principal kind version content
  | .readContractArtifact artifactHash => MatVerse.readContractArtifact host artifactHash
  | .ingress req => MatVerse.ingress host principal req
  | .createCrossModelSession req => MatVerse.createCrossModelSession host principal req given.uuidHex
  | .fetchCrossModelSession sessionId => MatVerse.fetchCrossModelSession host principal sessionId
  | .createCrossModelHandoff req => MatVerse.createCrossModelHandoff host principal req
  | .crossModelInbox sessionId participantId => MatVerse.crossModelInbox host principal sessionId participantId
  | .ackCrossModelHandoff handoffId participantId => MatVerse.ackCrossModelHandoff host principal handoffId
      participantId
  | .federationRoute => MatVerse.federationRoute host principal given.routed
  | .openaiResponse => MatVerse.openaiResponse host principal given.provided
  | .registerGenesisKey authorityId req => MatVerse.registerGenesisKey host principal authorityId req
  | .rotateAuthorityKey authorityId previousKeyId req =>
    MatVerse.rotateAuthorityKey host principal authorityId previousKeyId req
  | .revokeAuthorityKey authorityId keyId req => MatVerse.revokeAuthorityKey host principal authorityId keyId req
  | .readAuthorityKey keyId => MatVerse.readAuthorityKey host principal keyId
  | .bindRelationKeys relationId req => MatVerse.bindRelationKeys host verify principal relationId req
  | .readRelationBinding relationId => MatVerse.readRelationBinding host principal relationId

end

/-! ## Without interruption -/

variable {host : Host} {principal : Principal} {env : Surroundings} {db : Database}

theorem checksRegistry_alone {ρ : Type} {contract : FrozenContract} {next : Except PyError Unit → Handler ρ}
    (fields : List (String × String)) (faults : RegistryFaults) :
    (checksRegistry contract next fields faults).alone env db =
      (next (fields.foldlM (noteFault db contract) faults >>= RegistryFaults.check)).alone env db := by
  induction fields generalizing faults with
  | nil => rfl
  | cons field fields ih =>
    rw [checksRegistry, Program.alone_read, List.foldlM_cons]
    cases noteFault db contract faults field with
    | error e => rfl
    | ok faults => exact ih faults

/-- Where no other handler comes in between, the session is the one the store creates. -/
theorem createCrossModelSession_alone (req : ModelSessionCreate) (uuidHex : String) :
    (createCrossModelSession host principal req uuidHex).alone env db =
      match createModelSession host env ("mbs_" ++ uuidHex) ModelBridge.protocolVersion req.contract.modelDump
        (contractHash host req.contract.modelDump) (req.participants.map ModelRef.modelDump)
        principal.principalId db with
      | (.ok answer, final) => (.ok (.session answer), final)
      | (.error e, final) => (.error (.httpException 409 e.text), final) := by
  have passes : (omegaGate (evaluateHdb none) "COMMIT" true true true).1 = .pass := by decide
  have validated : contractFields.foldlM (noteFault db req.contract.modelDump) ⟨[], []⟩ >>= RegistryFaults.check =
      validateContractRegistry db req.contract.modelDump := rfl
  simp only [createCrossModelSession, passes, ne_eq, not_true_eq_false, if_false, checksRegistry_alone,
    createModelSession]
  rw [validated]
  cases validateContractRegistry db req.contract.modelDump with
  | error e => rfl
  | ok u =>
    simp only [Handler.last, Program.alone_call]
    generalize transaction _ db = made
    obtain ⟨answer, final⟩ := made
    cases answer <;> rfl

theorem enrolledIds_unread {session : ModelSession} {e : PyError}
    (unread : loadsText session.participantsJson = .error e) : enrolledIds session = .error e := by
  unfold loadsText at unread
  unfold enrolledIds
  split at unread
  · cases unread
  next none =>
    obtain rfl := Except.error.inj unread
    rw [none]

/-- Where no other handler comes in between, the inbox is the one the store lists. -/
theorem crossModelInbox_alone (sessionId participantId : String)
    (speaks : speaksFor principal participantId "inbox:read:any" = true) :
    (crossModelInbox host principal sessionId participantId).alone env db =
      (match listModelInbox sessionId participantId db with
        | .ok handoffs => .ok (.inbox sessionId participantId handoffs)
        | .error e => .error (Statuses.raised ⟨some 404, some 403, none⟩ e), db) := by
  simp only [crossModelInbox, speaks, Bool.not_true, Bool.false_eq_true, if_false, Program.alone_read,
    getModelSession, listModelInbox]
  cases findSession db sessionId with
  | none => rfl
  | some session =>
    dsimp only
    cases loadsText session.contractJson with
    | error e => rfl
    | ok contract =>
      cases loaded : loadsText session.participantsJson with
      | error e =>
        rw [enrolledIds_unread loaded]
        rfl
      | ok participants =>
        simp only [ok_bind, pure, Except.pure]
        cases enrolledIds session with
        | error e => rfl
        | ok ids =>
          cases listed : enrolls ids participantId with
          | false =>
            simp only [ok_bind, listed]
            rfl
          | true =>
            simp only [ok_bind, listed, Bool.not_true, Bool.false_eq_true, if_false, Program.alone_read]
            change _ = (match inboxRows sessionId participantId db with
              | .ok handoffs => Except.ok (ServiceAnswer.inbox sessionId participantId handoffs)
              | .error e => .error (Statuses.raised ⟨some 404, some 403, none⟩ e), db)
            cases inboxRows sessionId participantId db <;> rfl

theorem revokeAuthorityKey_alone (authorityId keyId : String) (req : RevokeKeyRequest) :
    let revoked := revokeKey host env authorityId keyId req.effectiveAt req.reason principal.principalId db
    (revokeAuthorityKey host principal authorityId keyId req).alone env db =
      (match revoked.1 with
        | .ok answer => .ok (.revocation answer principal.principalId)
        | .error e => .error (registryError e), revoked.2) := by
  intro revoked
  simp only [revokeAuthorityKey, revoked, revokeKey, Program.alone_call]
  cases transaction (revokeKeyTx host env authorityId keyId req.effectiveAt req.reason principal.principalId) db with
  | mk answer final =>
    rcases answer with e | answer | receipt
    · rfl
    · rfl
    · simp only [Program.alone_read]
      cases revocationAnswer host receipt (getKey host final keyId) <;> rfl

end MatVerse
