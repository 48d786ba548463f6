import MatVerse.ProjectionHead

/-! The projection of every reachable ledger. It is built under any valid binding, lists
the events in order under the commits of the processes that appended them, and shows
each registered artifact with its own registration. -/
namespace MatVerse

open Fallible InstitutionalContract

/-! ## Operations -/

def artifactRegistered : String := "CONTRACT_ARTIFACT_REGISTERED"

/-- The type under which the event of a caller of `append_event` is shown. -/
def AppEvent.receiptType : AppEvent → String
  | .ingress .. => "LEDGER_EVENT"
  | .handoffRejected .. => "MODEL_BRIDGE_HANDOFF_REJECTED"
  | .federationRoute .. => "FEDERATION_ROUTE"
  | .configurationHold .. => "OPENAI_PROVIDER_CONFIGURATION_HOLD"
  | .providerFailure .. => "OPENAI_PROVIDER_FAILURE"
  | .secretPlaneHold .. => "OPENAI_SECRET_PLANE_HOLD"
  | .providerAnswer result _ _ =>
    match result.decision with
    | .pass => "OPENAI_RESPONSE"
    | _ => "OPENAI_PROVIDER_EXPOSURE_REJECTED"

namespace StoreCall

variable {host : Host}

def surroundings : StoreCall host → Surroundings
  | .registerContractArtifact env .. | .createModelSession env .. | .appendModelHandoff env ..
  | .acknowledgeModelHandoff env .. | .registerKey env .. | .revokeKey env .. | .registerRelationBinding env ..
  | .appendEvent env _ => env
  | .persistIntent runtime .. => runtime.surroundings

/-- The type under which the event of a call is shown: the call fixes it, not its content. -/
def receiptType : StoreCall host → String
  | .registerContractArtifact .. => artifactRegistered
  | .createModelSession .. => "MODEL_BRIDGE_SESSION_CREATED"
  | .appendModelHandoff .. => "MODEL_BRIDGE_HANDOFF"
  | .acknowledgeModelHandoff .. => "MODEL_BRIDGE_HANDOFF_ACK"
  | .registerKey .. => "FEDERATION_AUTHORITY_KEY_REGISTERED"
  | .revokeKey .. => "FEDERATION_AUTHORITY_KEY_REVOKED"
  | .registerRelationBinding .. => "FEDERATION_RELATION_KEY_BOUND"
  | .persistIntent .. => "INSTITUTIONAL_INTENT_ACCEPTED"
  | .appendEvent _ event => event.receiptType

end StoreCall

/-- `_persist_intent_remote`, where other writers may come between the snapshot and the
request. -/
def persistIntentSeen (host : Host) (isIsoFormat : String → Bool) (build : BuildConfiguration)
    (clock : Cloudflare.Clock) (intent : Json) (principalId : String) (allowDelegatedActor : Bool)
    (snapshot db : Database) : Except PyError IntentAnswer × Database :=
  match verifyInternalBoundary host intent principalId allowDelegatedActor with
  | .error e => (.error e, db)
  | .ok c =>
    match expectedHead host isIsoFormat build c snapshot with
    | .error e => (.error e, db)
    | .ok head =>
      match Cloudflare.acceptIntent host clock (acceptBody intent principalId allowDelegatedActor head) db with
      | (.ok answer, db') => (.ok answer, db')
      | (.error e, db') => (.error (.valueError e.message), db')

/-- An operation of the application, on the local store or through the durable service. -/
inductive Operation (host : Host) where
  | store (call : StoreCall host)
  | persistRemote (build : BuildConfiguration) (clock : Cloudflare.Clock) (intent : Json) (principalId : String)
      (allowDelegatedActor : Bool) (snapshot : Database)

namespace Operation

variable {host : Host}

def after (verify : Ed25519Verify) (isIsoFormat : String → Bool) (db : Database) : Operation host → Database
  | .store call => call.after verify isIsoFormat db
  | .persistRemote build clock intent principalId allowDelegatedActor snapshot =>
    (persistIntentSeen host isIsoFormat build clock intent principalId allowDelegatedActor snapshot db).2

def receiptType : Operation host → String
  | .store call => call.receiptType
  | .persistRemote .. => "INSTITUTIONAL_INTENT_ACCEPTED"

def commit : Operation host → String
  | .store call => call.surroundings.buildCommit.toLower
  | .persistRemote build .. => build.buildCommit.toLower

def ledgerAt : Operation host → String
  | .store call => call.surroundings.ledgerAt
  | .persistRemote _ clock .. => clock.ledgerAt

/-- The process has a valid commit, and its clock tells ISO times. -/
def Provisioned (isIsoFormat : String → Bool) (op : Operation host) : Prop :=
  isGitObjectId op.commit = true ∧ isTimestamp isIsoFormat op.ledgerAt = true

end Operation

def operationsAfter {host : Host} (verify : Ed25519Verify) (isIsoFormat : String → Bool) (ops : List (Operation host)) :
    Database :=
  ops.foldl (Operation.after verify isIsoFormat) Database.empty

/-! ## What is shown -/

def receiptTypeOf (event : Json) : String :=
  match event.get? "event_type" with
  | some (.str name) => name
  | _ => "LEDGER_EVENT"

/-- A receipt shows its row: the hash of the row and the commit that its event names. -/
structure Shows (row : LedgerRow) (receipt : ProjectedReceipt) : Prop where
  receiptId : receipt.receiptId = ledgerId row.seq
  receiptHash : receipt.receiptHash = row.eventHash
  event : ∃ event, JsonText.loads row.eventJson = some event ∧ receipt.receiptType = receiptTypeOf event ∧
    event.get? "source_commit" = some (.str receipt.sourceCommit)

def Registers (row : LedgerRow) (artifact : ArtifactRow) : Prop :=
  ∃ event, JsonText.loads row.eventJson = some event ∧ event.get? "event_type" = some (.str artifactRegistered) ∧
    event.get? "artifact_hash" = some (.str artifact.artifactHash)

/-- An artifact that passes on the one row of the ledger that registers it. -/
structure Evidenced (db : Database) (receipts : List ProjectedReceipt) (row : ArtifactRow) (a : ProjectedArtifact) :
    Prop where
  columns : a.artifactHash = row.artifactHash ∧ a.kind = row.kind ∧ a.version = row.version
  evidence : ∃ e, a.evidence = some e ∧ a.sourceCommit = e.sourceCommit ∧
    ⟨e.evidenceId, e.receiptHash, artifactRegistered, e.sourceCommit⟩ ∈ receipts ∧
    ∃ registration ∈ db.ledger, Registers registration row ∧ e.evidenceId = ledgerId registration.seq ∧
      e.receiptHash = registration.eventHash ∧ ∀ other ∈ db.ledger, Registers other row → other = registration

/-- `payload["projection"].pop("projection_hash")`. -/
def popProjectionHash : Json → Json
  | .obj entries =>
    match Dict.get? "projection" entries with
    | some (.obj metadata) => .obj (Dict.insert "projection" (.obj (Dict.erase "projection_hash" metadata)) entries)
    | _ => .obj entries
  | document => document

/-- A projection of the database under a binding. -/
structure Faithful (host : Host) (binding : SourceBinding) (db : Database) (p : Projection) : Prop where
  valid : validateProjectionSemantics host p.toJson = .ok ⟨[]⟩
  source : p.source = binding
  receipts : db.ledger ≠ [] → List.Forall₂ Shows db.ledger p.receipts
  genesis : db.ledger = [] →
    p.receipts = [⟨"ledger:GENESIS", genesisCommitment host, "LEDGER_GENESIS_COMMITMENT", binding.commitSha⟩]
  artifacts : List.Forall₂ (Evidenced db p.receipts) (artifactRows db.contractArtifacts) p.artifacts
  projectionHash : jcsSubsetHash host (popProjectionHash p.toJson) = .ok p.projectionHash

/-- What an operation makes of a projection: at most one receipt more, of a type and a
commit that no content decides. -/
structure Extends {host : Host} (op : Operation host) (db db' : Database) (p p' : Projection) : Prop where
  ledger : db'.ledger = db.ledger ∨ ∃ row receipt, db'.ledger = db.ledger ++ [row] ∧ Shows row receipt ∧
    receipt.receiptType = op.receiptType ∧ receipt.sourceCommit = op.commit
  receipts : db.ledger ≠ [] → p.receipts <+: p'.receipts
  artifacts : ∀ a ∈ p.artifacts, a ∈ p'.artifacts

/-! ## What an operation appends -/

/-- A row that an operation appends, with the event it holds. -/
structure Stamped (isIsoFormat : String → Bool) (receiptType commit : String) (row : LedgerRow) (event : Json) :
    Prop where
  read : JsonText.loads row.eventJson = some event
  object : event.isObj = true
  typed : receiptTypeOf event = receiptType
  committed : event.get? "source_commit" = some (.str commit)
  gitObject : isGitObjectId commit = true
  dated : ∃ time, event.get? "ledger_at" = some (.str time) ∧ isTimestamp isIsoFormat time = true
  artifact : receiptType = artifactRegistered → ∃ artifactHash, event.get? "artifact_hash" = some (.str artifactHash)

variable {host : Host} {isIsoFormat : String → Bool} {env : Surroundings} {db db' : Database}

theorem receiptTypeOf_norm {loaded : Json} {event : Json}
    (same : loaded.get? "event_type" = (event.get? "event_type").map Json.norm) :
    receiptTypeOf loaded = receiptTypeOf event := by
  unfold receiptTypeOf
  rw [same]
  cases event.get? "event_type" with
  | none => rfl
  | some v => cases v <;> rfl

theorem stamped_of_append {other ledgered : Database} {event : Mapping} {decision receiptType : String}
    {receipt : LedgerReceipt} (done : appendLedgerTx host env other event decision = .ok (receipt, ledgered))
    (typed : receiptTypeOf (.dict event) = receiptType) (undated : (Json.dict event).get? "ledger_at" = none)
    (committed : (Json.dict event).get? "source_commit" = none ∨
      (Json.dict event).get? "source_commit" = some (.str env.buildCommit.toLower))
    (artifact : receiptType = artifactRegistered → ∃ artifactHash, (Json.dict event).get? "artifact_hash" =
      some (.str artifactHash))
    (gitObject : isGitObjectId env.buildCommit.toLower = true) (clocked : isTimestamp isIsoFormat env.ledgerAt = true) :
    ∃ row loaded, ledgered.ledger = other.ledger ++ [row] ∧
      Stamped isIsoFormat receiptType env.buildCommit.toLower row loaded := by
  obtain ⟨stored, row, store, rfl, rfl, _⟩ := appendLedgerTx_ok done
  obtain ⟨loaded, read, object, fields⟩ := loads_storedEvent store
  obtain ⟨time, commit⟩ := storedEvent_stamp store undated committed gitObject
  have kept (key : String) (notTime : key ≠ "ledger_at") (notCommit : key ≠ "source_commit") :
      loaded.get? key = ((Json.dict event).get? key).map Json.norm := by
    rw [fields, storedEvent_get store notTime notCommit, Json.get?_dict]
  refine ⟨_, loaded, rfl, read, object, ?_, by rw [fields, commit]; rfl, gitObject,
    ⟨env.ledgerAt, by rw [fields, time]; rfl, clocked⟩, fun registers => ?_⟩
  · rw [receiptTypeOf_norm (kept _ (by decide) (by decide)), typed]
  · obtain ⟨artifactHash, held⟩ := artifact registers
    exact ⟨artifactHash, by rw [kept _ (by decide) (by decide), held]; rfl⟩

/-- An operation left the database, or appended one row under its own stamp. -/
def Stamps (isIsoFormat : String → Bool) (receiptType commit : String) (db db' : Database) : Prop :=
  db' = db ∨ ∃ row event, db'.ledger = db.ledger ++ [row] ∧ Stamped isIsoFormat receiptType commit row event

/-- A key that a mapping of other keys does not have. -/
theorem get?_absent {event : Mapping} {key : String} (absent : key ∉ event.map Prod.fst) :
    (Json.dict event).get? key = none := by
  rw [Json.get?_dict]
  exact Dict.get?_ofPairs_eq_none fun p member same => absent (List.mem_map.mpr ⟨p, member, same⟩)

theorem stamps_of_append {other ledgered : Database} {event : Mapping} {decision receiptType : String}
    {receipt : LedgerReceipt} (done : appendLedgerTx host env other event decision = .ok (receipt, ledgered))
    (before : other.ledger = db.ledger) (after : db'.ledger = ledgered.ledger)
    (typed : receiptTypeOf (.dict event) = receiptType) (undated : "ledger_at" ∉ event.map Prod.fst)
    (uncommitted : "source_commit" ∉ event.map Prod.fst)
    (artifact : receiptType = artifactRegistered → ∃ artifactHash,
      (Json.dict event).get? "artifact_hash" = some (.str artifactHash))
    (gitObject : isGitObjectId env.buildCommit.toLower = true) (clocked : isTimestamp isIsoFormat env.ledgerAt = true) :
    Stamps isIsoFormat receiptType env.buildCommit.toLower db db' := by
  obtain ⟨row, loaded, appended, stamped⟩ := stamped_of_append done typed (get?_absent undated)
    (.inl (get?_absent uncommitted)) artifact gitObject clocked
  exact .inr ⟨row, loaded, by rw [after, appended, before], stamped⟩

theorem AppEvent.receiptTypeOf_record (e : AppEvent) : receiptTypeOf (.dict (e.record host).1) = e.receiptType := by
  cases e with
  | ingress req principalId =>
    cases retained : req.retainsPayload <;> simp [AppEvent.record, Ingress.event, retained, receiptTypeOf, receiptType]
  | handoffRejected req => simp [AppEvent.record, HandoffRequest.rejectedEvent, receiptTypeOf, receiptType]
  | federationRoute => simp [AppEvent.record, federationRouteEvent, receiptTypeOf, receiptType]
  | configurationHold => simp [AppEvent.record, configurationHoldEvent, receiptTypeOf, receiptType]
  | providerFailure => simp [AppEvent.record, ProviderFailure.event, receiptTypeOf, receiptType]
  | secretPlaneHold => simp [AppEvent.record, secretPlaneHoldEvent, receiptTypeOf, receiptType]
  | providerAnswer result principalId humanDeclared =>
    cases decided : result.decision <;>
      simp [AppEvent.record, BrokerResult.record, decided, BrokerResult.responseEvent,
        BrokerResult.exposureRejectedEvent, BrokerResult.auditableInput, BrokerResult.auditableOutput, receiptTypeOf,
        receiptType]

theorem AppEvent.receiptType_ne (e : AppEvent) : e.receiptType ≠ artifactRegistered := by
  cases e with
  | providerAnswer result =>
    cases decided : result.decision <;> simp [receiptType, decided, artifactRegistered]
  | _ => simp [receiptType, artifactRegistered]

/-- No caller of `append_event` writes the two keys of the stamp itself. -/
theorem AppEvent.unstamped (e : AppEvent) :
    "ledger_at" ∉ (e.record host).1.map Prod.fst ∧ "source_commit" ∉ (e.record host).1.map Prod.fst := by
  cases e with
  | ingress req principalId =>
    cases retained : req.retainsPayload <;> simp [AppEvent.record, Ingress.event, retained]
  | handoffRejected req => simp [AppEvent.record, HandoffRequest.rejectedEvent]
  | federationRoute => simp [AppEvent.record, federationRouteEvent]
  | configurationHold => simp [AppEvent.record, configurationHoldEvent]
  | providerFailure => simp [AppEvent.record, ProviderFailure.event]
  | secretPlaneHold => simp [AppEvent.record, secretPlaneHoldEvent]
  | providerAnswer result principalId humanDeclared =>
    cases decided : result.decision <;>
      simp [AppEvent.record, BrokerResult.record, decided, BrokerResult.responseEvent,
        BrokerResult.exposureRejectedEvent, BrokerResult.auditableInput, BrokerResult.auditableOutput]

theorem appendAppEvent_stamps (e : AppEvent) (gitObject : isGitObjectId env.buildCommit.toLower = true)
    (clocked : isTimestamp isIsoFormat env.ledgerAt = true) :
    Stamps isIsoFormat e.receiptType env.buildCommit.toLower db (appendAppEvent host env e db).2 := by
  rcases transaction_after (fun db => appendEvent host env db (e.record host).1 (e.record host).2.value) db with
    same | ⟨receipt, done⟩
  · exact .inl same
  · exact stamps_of_append done rfl rfl e.receiptTypeOf_record e.unstamped.1 e.unstamped.2
      (fun registers => absurd registers e.receiptType_ne) gitObject clocked

theorem buildBinding_commitSha {build : BuildConfiguration} {source : SourceBinding}
    (bound : buildBinding host build = .ok source) : source.commitSha = build.buildCommit.toLower := by
  simp only [buildBinding, bind_ok, guard_ok, pure_ok] at bound
  obtain ⟨_, _, _, _, _, rfl⟩ := bound
  rfl

theorem projectionOf_commitSha {build : BuildConfiguration} {p : Projection}
    (projected : projectionOf host isIsoFormat build db = .ok p) : p.source.commitSha = build.buildCommit.toLower := by
  obtain ⟨_, built⟩ := buildProjection_ok projected
  exact buildBinding_commitSha built.source

namespace StoreCall

variable {verify : Ed25519Verify}

/-- Every call that appends an event stamps it with the commit and the clock of its process. -/
theorem stamps (call : StoreCall host) (gitObject : isGitObjectId call.surroundings.buildCommit.toLower = true)
    (clocked : isTimestamp isIsoFormat call.surroundings.ledgerAt = true) :
    Stamps isIsoFormat call.receiptType call.surroundings.buildCommit.toLower db
    (call.after verify isIsoFormat db) := by
  cases call with
  | registerContractArtifact env kind version content createdBy =>
    rcases registerContractArtifact_cases host env kind version content createdBy db with same | ⟨row, _, _, appended⟩
    · exact .inl same
    · exact stamps_of_append appended rfl rfl
        (by simp [receiptTypeOf, artifactRegisteredEvent, receiptType, artifactRegistered])
        (by simp [artifactRegisteredEvent]) (by simp [artifactRegisteredEvent])
        (fun _ => ⟨row.artifactHash, by simp [artifactRegisteredEvent]⟩) gitObject clocked
  | createModelSession env sessionId protocolVersion contract frozenContractHash participants createdBy =>
    rcases createModelSession_cases host env sessionId protocolVersion contract frozenContractHash participants
        createdBy db with same | ⟨_, _, _, _, _, appended⟩
    · exact .inl same
    · exact stamps_of_append appended rfl rfl (by simp [receiptTypeOf, sessionCreatedEvent, receiptType])
        (by simp [sessionCreatedEvent]) (by simp [sessionCreatedEvent])
        (by simp [receiptType, artifactRegistered]) gitObject clocked
  | appendModelHandoff env sessionId fromParticipant toParticipant parentHandoffId payload expectedContractHash =>
    rcases appendModelHandoff_cases host env sessionId fromParticipant toParticipant parentHandoffId payload
        expectedContractHash db with same | ⟨_, _, _, _, _, appended⟩
    · exact .inl same
    · exact stamps_of_append appended rfl rfl (by simp [receiptTypeOf, handoffEvent, receiptType])
        (by simp [handoffEvent]) (by simp [handoffEvent]) (by simp [receiptType, artifactRegistered]) gitObject clocked
  | acknowledgeModelHandoff env handoffId participant =>
    rcases acknowledgeModelHandoff_cases host env handoffId participant db with same | ⟨_, _, _, _, appended⟩
    · exact .inl same
    · exact stamps_of_append appended rfl rfl (by simp [receiptTypeOf, handoffAckEvent, receiptType])
        (by simp [handoffAckEvent]) (by simp [handoffAckEvent]) (by simp [receiptType, artifactRegistered]) gitObject
        clocked
  | registerKey env record actorId =>
    simp only [after]
    cases result : MatVerse.registerKey host env record actorId db with
    | mk answer db' =>
      cases answer with
      | error e => exact .inl (transaction_error.mp result).2
      | ok answer =>
        rcases registerKey_ok result with ⟨_, same⟩ | ⟨_, _, _, _, appended, inserted, _⟩
        · exact .inl same
        · exact stamps_of_append appended rfl (by rw [(insertKey_ok inserted).2])
            (by simp [receiptTypeOf, keyRegisteredEvent, AuthorityKeyFields.registrationPayload, receiptType])
            (by simp [keyRegisteredEvent, AuthorityKeyFields.registrationPayload])
            (by simp [keyRegisteredEvent, AuthorityKeyFields.registrationPayload])
            (by simp [receiptType, artifactRegistered]) gitObject clocked
  | revokeKey env authorityId keyId effectiveAt reason actorId =>
    rcases revokeKey_cases host env db authorityId keyId effectiveAt reason actorId with
      ⟨same, _⟩ | ⟨_, _, _, revokes, _⟩
    · exact .inl same
    · exact stamps_of_append revokes.appended rfl (by rw [after, revokes.updated]; rfl)
        (by simp [receiptTypeOf, keyRevokedEvent, receiptType]) (by simp [keyRevokedEvent]) (by simp [keyRevokedEvent])
        (by simp [receiptType, artifactRegistered]) gitObject clocked
  | registerRelationBinding env relation sourceKeyId targetKeyId actorId =>
    simp only [after]
    cases result : MatVerse.registerRelationBinding host verify env relation sourceKeyId targetKeyId actorId db with
    | mk answer db' =>
      cases answer with
      | error e => exact .inl (transaction_error.mp result).2
      | ok answer =>
        rcases registerRelationBinding_ok result with ⟨_, same⟩ | ⟨_, _, _, _, _, _, binds⟩
        · exact .inl same
        · exact stamps_of_append binds.appended rfl (by rw [(insertBinding_ok binds.inserted).2])
            (by simp [receiptTypeOf, relationBoundEvent, RelationKeyBindingFields.canonicalPayload, receiptType])
            (by simp [relationBoundEvent, RelationKeyBindingFields.canonicalPayload])
            (by simp [relationBoundEvent, RelationKeyBindingFields.canonicalPayload])
            (by simp [receiptType, artifactRegistered]) gitObject clocked
  | persistIntent runtime intent principalId allowDelegatedActor =>
    simp only [after]
    rcases persistIntent_cases host isIsoFormat runtime intent principalId allowDelegatedActor db with
      ⟨e, raised⟩ | ⟨c, _, ⟨_, _, _, _, _, _, _, answered⟩ | ⟨p, receipt, ledgered, answer, db', accepts, done⟩⟩
    · exact .inl (by rw [raised])
    · exact .inl (by rw [answered])
    · rw [done]
      have commit : p.source.commitSha = runtime.surroundings.buildCommit.toLower :=
        projectionOf_commitSha accepts.current
      have typed : receiptTypeOf (.dict (intentAcceptedEvent c principalId p.projectionHash p.source.commitSha
          runtime.acceptedAt)) = "INSTITUTIONAL_INTENT_ACCEPTED" := by
        simp [receiptTypeOf, intentAcceptedEvent]
      obtain ⟨row, loaded, appended, stamped⟩ := stamped_of_append accepts.appended typed
        (by simp [intentAcceptedEvent]) (.inr (by simp [intentAcceptedEvent, commit])) (by simp [artifactRegistered])
        gitObject clocked
      exact .inr ⟨row, loaded, by rw [accepts.stored, appended], stamped⟩
  | appendEvent env event => exact appendAppEvent_stamps event gitObject clocked

end StoreCall

/-! ## Acceptances of the service -/

namespace Cloudflare

/-- The event of an acceptance names the commit that the source of the intent names. -/
theorem stamped_of_takes {clock : Clock} {request : AcceptRequest} {row : LedgerRow} {commit : String}
    (takes : Takes host clock request db row db')
    (committed : request.commitment.source.get? "commit_sha" = some (.str commit))
    (gitObject : isGitObjectId commit = true) (clocked : isTimestamp isIsoFormat clock.ledgerAt = true) :
    ∃ event, Stamped isIsoFormat "INSTITUTIONAL_INTENT_ACCEPTED" commit row event := by
  obtain ⟨projectionHash, sourceCommit, _, _, named, _, made⟩ := takes.event
  obtain rfl : sourceCommit = commit := by
    rw [named] at committed
    exact Json.str.inj (Option.some.inj committed)
  have json : row.eventJson = Jcs.text (.dict (acceptedEvent clock request projectionHash sourceCommit)) := by
    rw [made]
  have text (key value : String)
      (held : (Json.dict (acceptedEvent clock request projectionHash sourceCommit)).get? key = some (.str value)) :
      (Jcs.plain (Json.dict (acceptedEvent clock request projectionHash sourceCommit)).norm).get? key =
        some (.str value) := by
    rw [Json.get?_dict] at held
    rw [Jcs.get?_plain, Json.norm_dict, Json.get?_dict, ← Dict.ofPairs_map, Dict.get?_map, held]
    rfl
  refine ⟨_, by rw [json, Jcs.loads_text], ?_, ?_, text _ _ (by simp [acceptedEvent, intentAcceptedEvent]), gitObject,
    ⟨clock.ledgerAt, text _ _ (by simp [acceptedEvent, intentAcceptedEvent]), clocked⟩, by simp [artifactRegistered]⟩
  · rw [Json.norm_dict]
    rfl
  · rw [receiptTypeOf, text "event_type" "INSTITUTIONAL_INTENT_ACCEPTED" (by simp [acceptedEvent, intentAcceptedEvent])]

end Cloudflare

/-- What the client lets through reaches the service with the client's own commit. -/
theorem persistIntentSeen_stamps {build : BuildConfiguration} {clock : Cloudflare.Clock} (intent : Json)
    (principalId : String) (allowDelegatedActor : Bool) (snapshot : Database)
    (gitObject : isGitObjectId build.buildCommit.toLower = true)
    (clocked : isTimestamp isIsoFormat clock.ledgerAt = true) :
    Stamps isIsoFormat "INSTITUTIONAL_INTENT_ACCEPTED" build.buildCommit.toLower db
      (persistIntentSeen host isIsoFormat build clock intent principalId allowDelegatedActor snapshot db).2 := by
  unfold persistIntentSeen
  split
  · exact .inl rfl
  next c verified =>
    split
    · exact .inl rfl
    next head expected =>
      have after :
          (match Cloudflare.acceptIntent host clock (acceptBody intent principalId allowDelegatedActor head) db with
          | (.ok answer, db') => ((.ok answer : Except PyError IntentAnswer), db')
          | (.error e, db') => (.error (.valueError e.message), db')).2 =
          (Cloudflare.acceptIntent host clock (acceptBody intent principalId allowDelegatedActor head) db).2 := by
        split <;> rename_i same <;> rw [same]
      rw [after]
      rcases Cloudflare.acceptIntent_cases host clock (acceptBody intent principalId allowDelegatedActor head) db with
        ⟨same, _⟩ | ⟨request, row, read, takes⟩
      · exact .inl same
      · obtain ⟨p, projected, sourced, _⟩ := expectedHead_ok expected
        obtain ⟨_, rfl⟩ := (Cloudflare.readRequest_acceptBody verified head request).mp read
        have committed : (Jcs.plain c.source).get? "commit_sha" = some (.str build.buildCommit.toLower) := by
          rw [sourced, Cloudflare.plain_expectedSource, (expectedSource_fields p).2, projectionOf_commitSha projected]
        obtain ⟨event, stamped⟩ := Cloudflare.stamped_of_takes takes committed gitObject clocked
        exact .inr ⟨row, event, by rw [takes.stored], stamped⟩

namespace Operation

variable {verify : Ed25519Verify}

theorem stamps (op : Operation host) (provisioned : op.Provisioned isIsoFormat) :
    Stamps isIsoFormat op.receiptType op.commit db (op.after verify isIsoFormat db) := by
  obtain ⟨gitObject, clocked⟩ := provisioned
  cases op with
  | store call => exact call.stamps gitObject clocked
  | persistRemote build clock intent principalId allowDelegatedActor snapshot =>
    exact persistIntentSeen_stamps intent principalId allowDelegatedActor snapshot gitObject clocked

theorem recorded (op : Operation host) :
    op.after verify isIsoFormat db = db ∨ ∃ row, Recorded host db row (op.after verify isIsoFormat db) := by
  cases op with
  | store call => exact call.recorded
  | persistRemote build clock intent principalId allowDelegatedActor snapshot =>
    simp only [after, persistIntentSeen]
    split
    · exact .inl rfl
    · split
      · exact .inl rfl
      next head _ =>
        have sent := @BackendCall.recorded host db verify isIsoFormat
          (.accept clock (acceptBody intent principalId allowDelegatedActor head))
        simp only [BackendCall.after] at sent
        split <;> rename_i same <;> rw [same] at sent <;> exact sent

/-- One operation: nothing, or one row that changes the tables as it says, under the stamp. -/
theorem step (op : Operation host) (provisioned : op.Provisioned isIsoFormat) :
    op.after verify isIsoFormat db = db ∨ ∃ row event, Recorded host db row (op.after verify isIsoFormat db) ∧
      Stamped isIsoFormat op.receiptType op.commit row event := by
  rcases @recorded host isIsoFormat db verify op with same | ⟨row, recorded⟩
  · exact .inl same
  · rcases @stamps host isIsoFormat db verify op provisioned with same | ⟨row', event, appended, stamped⟩
    · exact .inl same
    · obtain rfl : row = row' := by
        rw [recorded.ledger] at appended
        exact List.singleton_inj.mp (List.append_cancel_left appended)
      exact .inr ⟨row, event, recorded, stamped⟩

end Operation

/-! ## What each row is shown as -/

/-- The receipt of a stamped row. -/
def shownReceipt (row : LedgerRow) : ProjectedReceipt :=
  let event := (JsonText.loads row.eventJson).getD .null
  ⟨ledgerId row.seq, row.eventHash, receiptTypeOf event, eventText event "source_commit"⟩

/-- The artifact that a row registers, with the evidence that the row is. -/
def registration (row : LedgerRow) : Option (String × RegistrationEvidence) :=
  let event := (JsonText.loads row.eventJson).getD .null
  if eventText event "event_type" = artifactRegistered then
    some (eventText event "artifact_hash", ⟨ledgerId row.seq, row.eventHash, eventText event "source_commit"⟩)
  else none

section
variable {receiptType commit : String} {row : LedgerRow} {event : Json}

theorem eventText_of {key value : String} (held : event.get? key = some (.str value)) :
    eventText event key = value := by
  rw [eventText, held]
  rfl

/-- The type as a filter reads it and the type as it is shown agree on registrations. -/
theorem isRegistration_iff : eventText event "event_type" = artifactRegistered ↔
    receiptTypeOf event = artifactRegistered := by
  unfold eventText receiptTypeOf
  cases event.get? "event_type" with
  | none => simp [textOf?, artifactRegistered]
  | some v => cases v <;> simp [textOf?, artifactRegistered]

theorem Stamped.receipt (stamped : Stamped isIsoFormat receiptType commit row event) :
    projectReceipt row = .ok (shownReceipt row) ∧ shownReceipt row = ⟨ledgerId row.seq, row.eventHash, receiptType,
      commit⟩ := by
  have shown : shownReceipt row = ⟨ledgerId row.seq, row.eventHash, receiptType, commit⟩ := by
    simp only [shownReceipt, stamped.read, Option.getD_some, stamped.typed, eventText_of stamped.committed]
  have read : eventSourceCommit event row.seq = .ok commit := by
    simp only [eventSourceCommit, stamped.committed, toLower_gitObjectId stamped.gitObject, stamped.gitObject, if_true]
  refine ⟨?_, shown⟩
  rw [shown, ← stamped.typed]
  simp only [projectReceipt, stamped.read, dictGet, stamped.object, if_true, ok_bind, read, receiptTypeOf]
  rfl

theorem Stamped.shows (stamped : Stamped isIsoFormat receiptType commit row event) : Shows row (shownReceipt row) := by
  rw [stamped.receipt.2]
  exact ⟨rfl, rfl, event, stamped.read, stamped.typed.symm, stamped.committed⟩

theorem isStr_registered :
    isStr (event.get? "event_type") "CONTRACT_ARTIFACT_REGISTERED" =
      decide (eventText event "event_type" = artifactRegistered) := by
  unfold isStr eventText
  cases event.get? "event_type" with
  | none => rfl
  | some v =>
    cases v with
    | str name => exact beq_eq_decide _ _
    | _ => rfl

theorem Stamped.note (stamped : Stamped isIsoFormat receiptType commit row event)
    (receipts : List (String × RegistrationEvidence)) :
    noteRegistration receipts row = .ok (Dict.insertAll receipts (registration row).toList) := by
  have read : eventSourceCommit event row.seq = .ok commit := by
    simp only [eventSourceCommit, stamped.committed, toLower_gitObjectId stamped.gitObject, stamped.gitObject, if_true]
  simp only [noteRegistration, stamped.read, dictGet, stamped.object, if_true, ok_bind, isStr_registered, registration,
    Option.getD_some]
  by_cases registers : eventText event "event_type" = artifactRegistered
  · obtain ⟨artifactHash, held⟩ := stamped.artifact (stamped.typed.symm.trans (isRegistration_iff.mp registers))
    simp only [registers, decide_true, Bool.not_true, Bool.false_eq_true, if_false, if_true, held, read, ok_bind,
      eventText_of held, eventText_of stamped.committed]
    rfl
  · simp only [registers, decide_false, Bool.not_false, if_true, if_false]
    rfl

/-- The registration of a row, as its event tells it. -/
theorem Stamped.registers_iff (stamped : Stamped isIsoFormat receiptType commit row event) {artifact : ArtifactRow} :
    Registers row artifact ↔ registration row =
      some (artifact.artifactHash, ⟨ledgerId row.seq, row.eventHash, commit⟩) := by
  have shape (e : Json) (read : JsonText.loads row.eventJson = some e) : e = event := by
    rw [stamped.read] at read
    exact (Option.some.inj read).symm
  simp only [registration, stamped.read, Option.getD_some, eventText_of stamped.committed]
  constructor
  · rintro ⟨e, read, typed, held⟩
    obtain rfl := shape e read
    rw [if_pos (eventText_of typed), eventText_of held]
  · intro same
    split at same
    next registers =>
      obtain ⟨artifactHash, held⟩ := stamped.artifact (stamped.typed.symm.trans (isRegistration_iff.mp registers))
      rw [eventText_of held, Option.some.injEq, Prod.mk.injEq] at same
      refine ⟨event, stamped.read, ?_, by rw [held, same.1]⟩
      have typed := @isStr_registered event
      rw [registers, decide_eq_true rfl] at typed
      unfold isStr at typed
      split at typed
      next name named => rw [named, beq_iff_eq.mp typed]; rfl
      · cases typed
    · cases same

end

/-! ## Reachable databases -/

/-- What the operations keep: a ledger that tells its tables, whose rows are stamped, and
artifacts that were registered once. -/
structure Provenance (host : Host) (isIsoFormat : String → Bool) (db : Database) : Prop where
  history : History host db
  stamped : ∀ row ∈ db.ledger, ∃ receiptType commit event, Stamped isIsoFormat receiptType commit row event
  registered : (db.contractArtifacts.map ContractArtifact.artifactHash).Nodup

theorem Provenance.empty (host : Host) (isIsoFormat : String → Bool) : Provenance host isIsoFormat Database.empty :=
  ⟨History.empty host, fun _ member => absurd member List.not_mem_nil, List.nodup_nil⟩

theorem registerContractArtifact_nodup (kind version : String) (content : Mapping) (createdBy : String)
    (nodup : (db.contractArtifacts.map ContractArtifact.artifactHash).Nodup) :
    ((registerContractArtifact host env kind version content createdBy db).2.contractArtifacts.map
      ContractArtifact.artifactHash).Nodup := by
  unfold registerContractArtifact
  split
  · exact nodup
  · rcases transaction_after (registerArtifactTx host env kind version content createdBy) db with same | ⟨answer, done⟩
    · rwa [same]
    · generalize (transaction _ db).2 = final at done ⊢
      unfold registerArtifactTx at done
      dsimp only at done
      split at done
      · split at done
        · cases done
        · rwa [← (Prod.mk.inj (Except.ok.inj done)).2]
      · simp only [insertArtifact, bind_ok, guard_ok, pure_ok, Prod.mk.injEq] at done
        obtain ⟨inserted, ⟨fresh, rfl⟩, ⟨receipt, stored⟩, appended, _, rfl⟩ := done
        rw [appendLedgerTx_frame appended, List.map_append, List.nodup_append]
        refine ⟨nodup, List.nodup_singleton _, ?_⟩
        rintro _ earlier _ last rfl
        obtain ⟨a, member, named⟩ := List.mem_map.mp earlier
        exact fresh (List.any_eq_true.mpr ⟨a, member, by simpa [named] using last⟩)

/-- A row registers an artifact exactly when replaying it adds one. -/
theorem record_hashes (t : Tables) (row : LedgerRow) :
    (t.record row).contractArtifacts.map ContractArtifact.artifactHash =
      t.contractArtifacts.map ContractArtifact.artifactHash ++ (registration row).toList.map Prod.fst := by
  unfold Tables.record registration
  cases JsonText.loads row.eventJson with
  | none => simp [eventText, textOf?, artifactRegistered, Json.get?]
  | some event =>
    dsimp only [Option.getD_some]
    by_cases registers : eventText event "event_type" = artifactRegistered
    · rw [if_pos registers, registers]
      simp [Tables.note, artifactRegistered, recordedArtifact]
    · rw [if_neg registers]
      unfold artifactRegistered at registers
      simp only [Tables.note, registers, if_false, Option.toList_none, List.map_nil, List.append_nil]
      split_ifs <;> rfl

theorem record_artifacts (t : Tables) (row : LedgerRow) :
    ∃ rows, (t.record row).contractArtifacts = t.contractArtifacts ++ rows := by
  unfold Tables.record
  split
  · unfold Tables.note
    split_ifs
    · exact ⟨_, rfl⟩
    all_goals exact ⟨[], (List.append_nil _).symm⟩
  · exact ⟨[], (List.append_nil _).symm⟩

theorem tables_hashes (db : Database) : db.tables.contractArtifacts.map ContractArtifact.artifactHash =
    db.contractArtifacts.map ContractArtifact.artifactHash := by
  simp [Database.tables, ContractArtifact.recorded, Function.comp_def]

/-- The hashes of the artifacts are those that the ledger registers, in order. -/
theorem History.hashes (history : History host db) : db.contractArtifacts.map ContractArtifact.artifactHash =
    (db.ledger.filterMap registration).map Prod.fst := by
  have replayed (rows : List LedgerRow) : (replayTables rows).contractArtifacts.map ContractArtifact.artifactHash =
      (rows.filterMap registration).map Prod.fst := by
    induction rows using List.reverseRecOn with
    | nil => rfl
    | append_singleton rows row ih =>
      rw [replayTables_append, record_hashes, ih, List.filterMap_append, List.map_append]
      cases shown : registration row <;> simp [shown]
  rw [← tables_hashes, ← history.tables, replayed]

theorem Recorded.hashes {row : LedgerRow} (recorded : Recorded host db row db') :
    db'.contractArtifacts.map ContractArtifact.artifactHash =
      db.contractArtifacts.map ContractArtifact.artifactHash ++ (registration row).toList.map Prod.fst := by
  rw [← tables_hashes, recorded.tables, record_hashes, tables_hashes]

namespace Operation

variable {verify : Ed25519Verify}

theorem registers {op : Operation host} (typed : op.receiptType = artifactRegistered) :
    ∃ env kind version content createdBy,
    op = .store (.registerContractArtifact env kind version content createdBy) := by
  cases op with
  | store call =>
    cases call with
    | registerContractArtifact env kind version content createdBy => exact ⟨env, kind, version, content, createdBy, rfl⟩
    | appendEvent env event => exact absurd typed event.receiptType_ne
    | _ => simp [receiptType, StoreCall.receiptType, artifactRegistered] at typed
  | persistRemote => simp [receiptType, artifactRegistered] at typed

end Operation

theorem Provenance.after {verify : Ed25519Verify} (provenance : Provenance host isIsoFormat db) {op : Operation host}
    (provisioned : op.Provisioned isIsoFormat) : Provenance host isIsoFormat (op.after verify isIsoFormat db) := by
  rcases @Operation.step host isIsoFormat db verify op provisioned with same | ⟨row, event, recorded, stamped⟩
  · rwa [same]
  · refine ⟨provenance.history.recorded recorded, fun other member => ?_, ?_⟩
    · rw [recorded.ledger] at member
      rcases List.mem_append.mp member with earlier | last
      · exact provenance.stamped other earlier
      · obtain rfl := List.mem_singleton.mp last
        exact ⟨_, _, _, stamped⟩
    · by_cases registration : op.receiptType = artifactRegistered
      · obtain ⟨env, kind, version, content, createdBy, rfl⟩ := Operation.registers registration
        exact registerContractArtifact_nodup kind version content createdBy provenance.registered
      · have none : MatVerse.registration row = none := by
          have other := (stamped.typed.trans_ne registration)
          rw [ne_eq, ← isRegistration_iff] at other
          simp only [MatVerse.registration, stamped.read, Option.getD_some, other, if_false]
        rw [recorded.hashes, none, Option.toList_none, List.map_nil, List.append_nil]
        exact provenance.registered

theorem provenance_of_operations (verify : Ed25519Verify) {ops : List (Operation host)}
    (provisioned : ∀ op ∈ ops, op.Provisioned isIsoFormat) :
    Provenance host isIsoFormat (operationsAfter verify isIsoFormat ops) := by
  have run (ops : List (Operation host)) (provisioned : ∀ op ∈ ops, op.Provisioned isIsoFormat) (db : Database)
      (provenance : Provenance host isIsoFormat db) :
      Provenance host isIsoFormat (ops.foldl (Operation.after verify isIsoFormat) db) := by
    induction ops generalizing db with
    | nil => exact provenance
    | cons op rest ih =>
      exact ih (fun op listed => provisioned op (List.mem_cons_of_mem _ listed)) _
        (provenance.after (provisioned op (by simp)))
  exact run ops provisioned _ (Provenance.empty host isIsoFormat)

/-! ## The projection of a reachable database -/

theorem foldlM_registrations {ledger : List LedgerRow}
    (stamped : ∀ row ∈ ledger, ∃ receiptType commit event, Stamped isIsoFormat receiptType commit row event)
    (receipts : List (String × RegistrationEvidence)) :
    ledger.foldlM noteRegistration receipts = .ok (Dict.insertAll receipts (ledger.filterMap registration)) := by
  induction ledger generalizing receipts with
  | nil => rfl
  | cons row rest ih =>
    obtain ⟨receiptType, commit, event, first⟩ := stamped row (by simp)
    rw [List.foldlM_cons, first.note, ok_bind, ih fun row member => stamped row (List.mem_cons_of_mem _ member),
      List.filterMap_cons]
    cases registration row <;> rfl

/-- The registration of an artifact is the only one that the ledger has. -/
theorem Provenance.registration_unique (provenance : Provenance host isIsoFormat db) {row other : LedgerRow}
    {artifactHash : String} {e e' : RegistrationEvidence} (member : row ∈ db.ledger) (member' : other ∈ db.ledger)
    (registers : registration row = some (artifactHash, e))
    (registers' : registration other = some (artifactHash, e')) : other = row := by
  have nodup := provenance.registered
  rw [provenance.history.hashes, List.Nodup, List.pairwise_map, List.pairwise_filterMap] at nodup
  by_contra different
  have symmetric : Std.Symm fun a b : LedgerRow =>
      ∀ p, registration a = some p → ∀ q, registration b = some q → p.1 ≠ q.1 :=
    ⟨fun a b apart p first q second => (apart q second p first).symm⟩
  exact nodup.forall member' member different _ registers' _ registers rfl

/-- The evidence of an artifact is the row that registers it. -/
theorem Provenance.evidence (provenance : Provenance host isIsoFormat db) {row : LedgerRow} {artifactHash : String}
    {e : RegistrationEvidence} (member : row ∈ db.ledger) (registers : registration row = some (artifactHash, e)) :
    Dict.get? artifactHash (Dict.ofPairs (db.ledger.filterMap registration)) = some e := by
  have listed : (artifactHash, e) ∈ db.ledger.filterMap registration := List.mem_filterMap.mpr ⟨row, member, registers⟩
  obtain ⟨found, held⟩ := Dict.get?_ofPairs_of_mem listed
  obtain ⟨other, member', registers'⟩ := List.mem_filterMap.mp (Dict.mem_ofPairs (Dict.get?_mem held))
  obtain rfl := provenance.registration_unique member member' registers registers'
  rw [held, ← (Prod.mk.inj (Option.some.inj (registers.symm.trans registers'))).2]

theorem mem_artifactRows {artifacts : List ContractArtifact} {row : ArtifactRow} :
    row ∈ artifactRows artifacts ↔ ∃ a ∈ artifacts, a.row = row := by
  rw [artifactRows, List.mem_mergeSort, List.mem_map]

theorem Provenance.registered_row (provenance : Provenance host isIsoFormat db) {artifact : ArtifactRow}
    (listed : artifact ∈ artifactRows db.contractArtifacts) :
    ∃ row ∈ db.ledger, ∃ e, registration row = some (artifact.artifactHash, e) := by
  obtain ⟨a, member, rfl⟩ := mem_artifactRows.mp listed
  have hash : a.artifactHash ∈ (db.ledger.filterMap registration).map Prod.fst := by
    rw [← provenance.history.hashes]
    exact List.mem_map_of_mem member
  obtain ⟨⟨_, e⟩, found, rfl⟩ := List.mem_map.mp hash
  obtain ⟨row, ledgered, registers⟩ := List.mem_filterMap.mp found
  exact ⟨row, ledgered, e, registers⟩

/-- A configured time is read only while no event has one. -/
def Datable (isIsoFormat : String → Bool) (build : BuildConfiguration) (ledger : List LedgerRow) : Prop :=
  ledger = [] → build.buildTimestamp = "" ∨ isTimestamp isIsoFormat build.buildTimestamp = true

theorem Provenance.dated (provenance : Provenance host isIsoFormat db) {build : BuildConfiguration}
    (datable : Datable isIsoFormat build db.ledger) :
    ∃ time, projectionTime isIsoFormat build db.ledger = .ok time := by
  cases last : db.ledger using List.reverseRecOn with
  | nil =>
    rcases datable last with unset | timestamp
    · exact ⟨_, by simp only [projectionTime, List.reverse_nil, latestTime, ok_bind, unset]; rfl⟩
    · by_cases unset : build.buildTimestamp = ""
      · exact ⟨_, by simp only [projectionTime, List.reverse_nil, latestTime, ok_bind, unset]; rfl⟩
      · exact ⟨build.buildTimestamp, by
          simp only [projectionTime, List.reverse_nil, latestTime, ok_bind, timestamp, beq_iff_eq, unset, if_false,
            if_true]
          rfl⟩
  | append_singleton rows row =>
    obtain ⟨_, _, event, stamped⟩ := provenance.stamped row (by rw [last]; simp)
    obtain ⟨time, held, timestamp⟩ := stamped.dated
    have latest : latestTime isIsoFormat (row :: rows.reverse) = .ok (some time) := by
      simp only [latestTime, stamped.read, dictGet, stamped.object, if_true, ok_bind, eventTime, List.findSome?_cons,
        held, timestamp]
      rfl
    exact ⟨time,
      by rw [projectionTime, List.reverse_append, List.reverse_singleton, List.singleton_append, latest]; rfl⟩

theorem Stamped.registration {receiptType commit artifactHash : String} {row : LedgerRow} {event : Json}
    {e : RegistrationEvidence} (stamped : Stamped isIsoFormat receiptType commit row event)
    (registers : registration row = some (artifactHash, e)) :
    e = ⟨ledgerId row.seq, row.eventHash, commit⟩ ∧ receiptType = artifactRegistered := by
  simp only [MatVerse.registration, stamped.read, Option.getD_some, eventText_of stamped.committed] at registers
  split at registers
  next typed =>
    exact ⟨(Prod.mk.inj (Option.some.inj registers)).2.symm, stamped.typed.symm.trans (isRegistration_iff.mp typed)⟩
  · cases registers

theorem projectArtifact_of {registrations : List (String × RegistrationEvidence)} {artifact : ArtifactRow}
    {e : RegistrationEvidence} (held : Dict.get? artifact.artifactHash registrations = some e) (commit : String) :
    projectArtifact commit registrations artifact =
      ⟨artifact.artifactHash, artifact.kind, artifact.version, e.sourceCommit, some e⟩ := by
  rw [projectArtifact, held]
  rfl

/-- What the projection of a reachable database is made of. -/
structure Provenance.Shown (host : Host) (db : Database) (binding : SourceBinding) (p : Projection) : Prop where
  source : p.source = binding
  receipts : p.receipts = if db.ledger = [] then
    [⟨"ledger:GENESIS", genesisCommitment host, "LEDGER_GENESIS_COMMITMENT", binding.commitSha⟩]
    else db.ledger.map shownReceipt
  artifacts : p.artifacts = (artifactRows db.contractArtifacts).map
    (projectArtifact binding.commitSha (Dict.ofPairs (db.ledger.filterMap registration)))
  projectionHash : p.projectionHash = sha256Text host (Jcs.text p.payload)

theorem Provenance.shown (provenance : Provenance host isIsoFormat db) {build : BuildConfiguration}
    {binding : SourceBinding} (bound : buildBinding host build = .ok binding) {p : Projection}
    (projected : projectionOf host isIsoFormat build db = .ok p) : Provenance.Shown host db binding p := by
  obtain ⟨head, built⟩ := buildProjection_ok projected
  obtain rfl : p.source = binding := Except.ok.inj (built.source.symm.trans bound)
  refine ⟨rfl, ?_, ?_, built.projectionHash⟩
  · have receipts := built.receipts
    cases ledger : db.ledger with
    | nil =>
      rw [ledger] at receipts
      exact (Except.ok.inj receipts).symm
    | cons row rest =>
      have each : ∀ row ∈ db.ledger, projectReceipt row = .ok (shownReceipt row) := by
        intro row member
        obtain ⟨_, _, _, stamped⟩ := provenance.stamped row member
        exact stamped.receipt.1
      rw [ledger] at receipts each
      rw [projectReceipts, mapM_eq each] at receipts
      · exact (Except.ok.inj receipts).symm
      · simp
  · have artifacts := built.artifacts
    rw [projectContractArtifacts, foldlM_registrations provenance.stamped, ok_bind] at artifacts
    exact (Except.ok.inj artifacts).symm

/-- The hashed document is the document without the hash. -/
theorem popProjectionHash_toJson (p : Projection) : popProjectionHash p.toJson = p.payload := by
  have absent : ∀ q ∈ p.metadata, q.1 ≠ "projection_hash" := by
    simp [Projection.metadata]
  obtain ⟨front, document⟩ : ∃ front : Mapping, ∀ metadata : Mapping,
      p.document metadata = .obj (Dict.ofPairs (front ++ [("projection", .dict metadata)])) :=
    ⟨[_, _, _, _, _, _, _, _, _, _, _], fun _ => rfl⟩
  have held (metadata : Mapping) : Dict.get? "projection" (Dict.ofPairs (front ++ [("projection", .dict metadata)])) =
      some (.obj (Dict.ofPairs metadata)) := by
    rw [Dict.get?_ofPairs_append]
    simp
    rfl
  rw [Projection.toJson, Projection.payload, document, document, popProjectionHash]
  simp only [held, Dict.insert_appended, Dict.erase_appended absent]
  rfl

/-- The projection of a reachable database is faithful to it. -/
theorem Provenance.faithful (long : host.Sha256Length) (provenance : Provenance host isIsoFormat db)
    {build : BuildConfiguration} {binding : SourceBinding} (bound : buildBinding host build = .ok binding)
    {p : Projection} (projected : projectionOf host isIsoFormat build db = .ok p) : Faithful host binding db p := by
  have shown := provenance.shown bound projected
  obtain ⟨head, built⟩ := buildProjection_ok projected
  have digests : ∀ row ∈ db.ledger, isLowerSha256 row.eventHash = true := by
    intro row member
    rw [checkRows_eventHash built.checked row member]
    exact isLowerSha256_sha256 long _
  have hashed : isLowerSha256 p.projectionHash = true := by
    rw [built.projectionHash]
    exact isLowerSha256_sha256 long _
  refine ⟨validate_projection long built.source (projectContractArtifacts_evident digests built.artifacts) hashed,
    shown.source, fun nonempty => ?_, fun empty => ?_, ?_, ?_⟩
  · rw [shown.receipts, if_neg nonempty, List.forall₂_map_right_iff]
    refine List.forall₂_same.mpr fun row member => ?_
    obtain ⟨_, _, _, stamped⟩ := provenance.stamped row member
    exact stamped.shows
  · rw [shown.receipts, if_pos empty]
  · rw [shown.artifacts, List.forall₂_map_right_iff]
    refine List.forall₂_same.mpr fun artifact listed => ?_
    obtain ⟨row, member, e, registers⟩ := provenance.registered_row listed
    obtain ⟨_, commit, _, stamped⟩ := provenance.stamped row member
    obtain ⟨rfl, rfl⟩ := stamped.registration registers
    have nonempty : db.ledger ≠ [] := List.ne_nil_of_mem member
    rw [projectArtifact_of (provenance.evidence member registers)]
    refine ⟨⟨rfl, rfl, rfl⟩, _, rfl, rfl, ?_, row, member, stamped.registers_iff.mpr registers, rfl, rfl, ?_⟩
    · rw [shown.receipts, if_neg nonempty]
      exact List.mem_map.mpr ⟨row, member, stamped.receipt.2⟩
    · intro other member' registers'
      obtain ⟨_, _, _, stamped'⟩ := provenance.stamped other member'
      exact provenance.registration_unique member member' registers (stamped'.registers_iff.mp registers')
  · rw [popProjectionHash_toJson, jcsSubsetHash_of (Jcs.isPlainable_norm (isPlainable_payload p)), shown.projectionHash]

/-- An operation keeps every receipt and every artifact of the projection before it. -/
theorem Provenance.extends (provenance : Provenance host isIsoFormat db) {verify : Ed25519Verify} {op : Operation host}
    (provisioned : op.Provisioned isIsoFormat) {build build' : BuildConfiguration} {binding binding' : SourceBinding}
    (bound : buildBinding host build = .ok binding) (bound' : buildBinding host build' = .ok binding')
    {p p' : Projection} (projected : projectionOf host isIsoFormat build db = .ok p)
    (projected' : projectionOf host isIsoFormat build' (op.after verify isIsoFormat db) = .ok p') :
    Extends op db (op.after verify isIsoFormat db) p p' := by
  have shown := provenance.shown bound projected
  have later : Provenance host isIsoFormat (op.after verify isIsoFormat db) := provenance.after provisioned
  have shown' := later.shown bound' projected'
  have kept (grown : ∃ rows, (op.after verify isIsoFormat db).ledger = db.ledger ++ rows)
      (artifacts : ∃ rows, (op.after verify isIsoFormat db).tables.contractArtifacts = db.tables.contractArtifacts ++
        rows) :
      (db.ledger ≠ [] → p.receipts <+: p'.receipts) ∧ ∀ a ∈ p.artifacts, a ∈ p'.artifacts := by
    obtain ⟨rows, grown⟩ := grown
    obtain ⟨more, artifacts⟩ := artifacts
    refine ⟨fun nonempty => ?_, fun a listed => ?_⟩
    · rw [shown.receipts, shown'.receipts, if_neg nonempty, if_neg (by simp [grown, nonempty]), grown, List.map_append]
      exact List.prefix_append _ _
    · rw [shown.artifacts] at listed
      obtain ⟨artifact, member, rfl⟩ := List.mem_map.mp listed
      obtain ⟨row, ledgered, e, registers⟩ := provenance.registered_row member
      have ledgered' : row ∈ (op.after verify isIsoFormat db).ledger := by
        rw [grown]
        exact List.mem_append_left _ ledgered
      have member' : artifact ∈ artifactRows (op.after verify isIsoFormat db).contractArtifacts := by
        rw [← artifactRows_recorded, mem_artifactRows] at member ⊢
        obtain ⟨recorded, found, same⟩ := member
        refine ⟨recorded, ?_, same⟩
        show recorded ∈ (op.after verify isIsoFormat db).tables.contractArtifacts
        rw [artifacts]
        exact List.mem_append_left _ found
      rw [projectArtifact_of (provenance.evidence ledgered registers), shown'.artifacts]
      exact List.mem_map.mpr ⟨artifact, member', projectArtifact_of (later.evidence ledgered' registers) _⟩
  rcases @Operation.step host isIsoFormat db verify op provisioned with same | ⟨row, event, recorded, stamped⟩
  · obtain ⟨receipts, artifacts⟩ := kept ⟨[], by rw [same, List.append_nil]⟩ ⟨[], by rw [same, List.append_nil]⟩
    exact ⟨.inl (by rw [same]), receipts, artifacts⟩
  · have tables : ∃ rows, (op.after verify isIsoFormat db).tables.contractArtifacts =
        db.tables.contractArtifacts ++ rows := by
      rw [recorded.tables]
      exact record_artifacts db.tables row
    obtain ⟨receipts, artifacts⟩ := kept ⟨[row], recorded.ledger⟩ tables
    refine ⟨.inr ⟨row, shownReceipt row, recorded.ledger, stamped.shows, ?_, ?_⟩, receipts, artifacts⟩
    · rw [stamped.receipt.2]
    · rw [stamped.receipt.2]

/-- Every ledger that the operations reach is projected faithfully under every binding. -/
theorem projection_always_available (host : Host) (long : host.Sha256Length) (verify : Ed25519Verify)
    (isIsoFormat : String → Bool) (ops : List (Operation host)) (provisioned : ∀ op ∈ ops, op.Provisioned isIsoFormat)
    (build : BuildConfiguration) (binding : SourceBinding) (bound : buildBinding host build = .ok binding)
    (datable : Datable isIsoFormat build (operationsAfter verify isIsoFormat ops).ledger) :
    ∃ p, projectionOf host isIsoFormat build (operationsAfter verify isIsoFormat ops) = .ok p ∧
      Faithful host binding (operationsAfter verify isIsoFormat ops) p ∧
      ∀ (op : Operation host) (build' : BuildConfiguration) (p' : Projection), op.Provisioned isIsoFormat →
        projectionOf host isIsoFormat build' (operationsAfter verify isIsoFormat (ops ++ [op])) = .ok p' →
        Extends op (operationsAfter verify isIsoFormat ops) (operationsAfter verify isIsoFormat (ops ++ [op])) p
        p' := by
  have provenance := provenance_of_operations verify provisioned
  obtain ⟨p, projected⟩ := (buildProjection_iff long build _ (artifactRows (operationsAfter verify isIsoFormat
    ops).contractArtifacts)).mpr ⟨⟨_, provenance.history.chain⟩, ⟨binding, bound⟩, fun row member => by
      obtain ⟨_, _, _, stamped⟩ := provenance.stamped row member
      exact ⟨_, stamped.receipt.1⟩, provenance.dated datable⟩
  refine ⟨p, projected, provenance.faithful long bound projected, fun op build' p' ready projected' => ?_⟩
  obtain ⟨_, built'⟩ := buildProjection_ok projected'
  have next : operationsAfter verify isIsoFormat (ops ++ [op]) =
      op.after verify isIsoFormat (operationsAfter verify isIsoFormat ops) := by
    simp [operationsAfter]
  rw [next] at projected' ⊢
  exact provenance.extends ready bound built'.source projected projected'

/-! ## Samples -/

def sampleOperations : List (Operation shapeHost) :=
  [.store (.registerContractArtifact ⟨zeroDigest, "now", "now"⟩ "ontology" "v1" [] "alice"),
    .store (.appendEvent ⟨zeroDigest, "later", "later"⟩ (.configurationHold "alice" "not configured"))]

theorem sampleOperations_provisioned (isIsoFormat : String → Bool) (dates : ∀ text, isIsoFormat text = true) :
    ∀ op ∈ sampleOperations, op.Provisioned isIsoFormat := by
  have lower : zeroDigest.toLower = zeroDigest := toLower_gitObjectId (by decide)
  have commit : isGitObjectId zeroDigest = true := by decide
  intro op listed
  simp only [sampleOperations, List.mem_cons, List.not_mem_nil, or_false] at listed
  rcases listed with rfl | rfl
  all_goals exact ⟨by simp only [Operation.commit, StoreCall.surroundings, lower, commit], dates _⟩

theorem projection_always_available_sample : ∃ binding p, buildBinding shapeHost sampleBuild = .ok binding ∧
    projectionOf shapeHost (fun _ => true) sampleBuild (operationsAfter (fun _ _ _ => true) (fun _ => true)
      sampleOperations) = .ok p ∧
    Faithful shapeHost binding (operationsAfter (fun _ _ _ => true) (fun _ => true) sampleOperations) p := by
  obtain ⟨binding, bound⟩ := (sample_projectable shapeHost (fun _ => true)).bound
  obtain ⟨p, projected, faithful, _⟩ := projection_always_available shapeHost shapeHost_sha256Length (fun _ _ _ => true)
    (fun _ => true) sampleOperations (sampleOperations_provisioned _ fun _ => rfl) sampleBuild binding bound
    fun _ => .inl rfl
  exact ⟨binding, p, bound, projected, faithful⟩

/-- Before the first event a malformed build timestamp is not passed over, and there is a
receipt of no event. -/
theorem empty_ledger_projection :
    (∃ binding, buildBinding shapeHost { sampleBuild with buildTimestamp := "soon" } = .ok binding) ∧
      projectionOf shapeHost (fun text => text != "soon") { sampleBuild with buildTimestamp := "soon" } Database.empty =
        .error (.projectionUnavailable "MATVERSE_BUILD_TIMESTAMP must be ISO-8601 when configured") ∧
      ∃ p, projectionOf shapeHost (fun text => text != "soon") sampleBuild Database.empty = .ok p ∧
        p.receipts ≠ [] := by
  obtain ⟨binding, bound⟩ := (sample_projectable shapeHost (fun text => text != "soon")).bound
  have bound' : buildBinding shapeHost { sampleBuild with buildTimestamp := "soon" } = .ok binding := bound
  have malformed : isTimestamp (fun text => text != "soon") "soon" = false := by decide
  refine ⟨⟨binding, bound'⟩, ?_, ?_⟩
  · have undated : projectionTime (fun text => text != "soon") { sampleBuild with buildTimestamp := "soon" } [] =
        .error (.projectionUnavailable "MATVERSE_BUILD_TIMESTAMP must be ISO-8601 when configured") := by
      simp [projectionTime, latestTime, ok_bind, malformed]
      rfl
    have report : verifyLedgerRows shapeHost [] = .ok 0 genesis := rfl
    rw [projectionOf, buildProjection]
    simp only [Database.empty, report, bound', ok_bind, projectContractArtifacts, List.foldlM_nil, projectReceipts,
      undated]
    rfl
  · obtain ⟨p, projected⟩ := (buildProjection_iff shapeHost_sha256Length sampleBuild [] (artifactRows [])).mpr
      (sample_projectable shapeHost (fun text => text != "soon"))
    obtain ⟨_, built⟩ := buildProjection_ok projected
    refine ⟨p, projected, ?_⟩
    rw [← Except.ok.inj built.receipts]
    simp

end MatVerse
