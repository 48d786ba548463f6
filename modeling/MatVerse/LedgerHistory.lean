import MatVerse.AppEvents
import MatVerse.ContractRegistry
import MatVerse.FederationKeyRegistry
import MatVerse.InstitutionalStore

/-! The ledger as the history of the tables: folding its events gives back every
table, up to the columns that no event records. -/
namespace MatVerse

open Fallible

/-! ## What the ledger says of the tables -/

/-- The tables whose rows the ledger records; a column that no event holds is empty. -/
structure Tables where
  contractArtifacts : List ContractArtifact
  modelSessions : List ModelSession
  modelHandoffs : List ModelHandoff
  authorityKeys : List AuthorityKeyRow
  relationKeyBindings : List RelationKeyBindingRow
  institutionalIntents : List IntentRow
  deriving DecidableEq

def Tables.empty : Tables := ⟨[], [], [], [], [], []⟩

def ContractArtifact.recorded (row : ContractArtifact) : ContractArtifact := { row with contentJson := "" }

/-- The participants of a stored session, by the text of their ids. -/
def participantIds (participantsJson : String) : Option (List Json) :=
  match JsonText.loads participantsJson with
  | some (.arr participants) => (participants.mapM participantId).toOption
  | _ => none

def idsText (ids : Option (List Json)) : String := (ids.map (fun ids => canonicalJson (.arr ids))).getD ""

def ModelSession.recorded (row : ModelSession) : ModelSession :=
  { row with contractJson := "", participantsJson := idsText (participantIds row.participantsJson) }

def ModelHandoff.recorded (row : ModelHandoff) : ModelHandoff := { row with payloadJson := "" }

def IntentRow.recorded (row : IntentRow) : IntentRow := { row with sourceJson := "" }

def Database.tables (db : Database) : Tables :=
  ⟨db.contractArtifacts.map ContractArtifact.recorded, db.modelSessions.map ModelSession.recorded,
    db.modelHandoffs.map ModelHandoff.recorded, db.authorityKeys, db.relationKeyBindings,
    db.institutionalIntents.map IntentRow.recorded⟩

/-! ## Folding the events -/

def textOf? (field : Option Json) : Option String :=
  match field with
  | some (.str s) => some s
  | _ => none

def intOf (field : Option Json) : Int :=
  match field with
  | some (.int i) => i
  | _ => 0

def eventText (event : Json) (key : String) : String := (textOf? (event.get? key)).getD ""

def eventText? (event : Json) (key : String) : Option String := textOf? (event.get? key)

def eventInt (event : Json) (key : String) : Int := intOf (event.get? key)

/-- The receipt that the append of a row returned, as the tables store it. -/
def LedgerRow.receiptJson (row : LedgerRow) : String :=
  canonicalJson (LedgerReceipt.mk row.seq row.prevHash row.eventHash row.decision).toJson

def recordedArtifact (event : Json) : ContractArtifact :=
  ⟨eventText event "artifact_hash", eventText event "kind", eventText event "version", "",
    eventText event "created_by", eventText event "created_at"⟩

def recordedSession (event : Json) : ModelSession :=
  ⟨eventText event "session_id", eventText event "protocol_version", "", eventText event "contract_hash",
    ((event.get? "participants").map canonicalJson).getD "", eventText event "created_by",
    eventText event "created_at"⟩

def recordedHandoff (event : Json) : ModelHandoff :=
  ⟨eventText event "handoff_id", eventText event "session_id", (eventInt event "session_seq").toNat,
    eventText event "from_participant", eventText event "to_participant",
    eventText? event "parent_handoff_id", "", eventText event "payload_hash",
    eventText event "contract_hash", .pending, eventText event "created_at", none⟩

def recordedKey (event : Json) (receiptJson : String) : AuthorityKeyRow :=
  ⟨eventText event "key_id", eventText event "authority_id", eventText event "algorithm",
    eventText event "public_key_hex", eventInt event "valid_from", eventInt event "valid_until",
    eventText? event "previous_key_id", eventText event "registration_sha256",
    eventText event "registered_by", eventText event "registered_at", receiptJson, none, none, none, none⟩

def recordedBinding (event : Json) (receiptJson : String) : RelationKeyBindingRow :=
  ⟨eventText event "relation_id", eventText event "relation_sha256", eventText event "source_authority",
    eventText event "source_key_id", eventText event "target_authority", eventText event "target_key_id",
    eventText event "binding_sha256", eventText event "bound_by", eventText event "bound_at", receiptJson⟩

def recordedIntent (event : Json) (receiptJson : String) : IntentRow :=
  ⟨eventText event "intent_id", eventText event "principal_id", eventText event "actor_id",
    eventText event "requested_operation", eventText event "target_kind", eventText event "target_id",
    eventText event "parameters_hash", "", eventText event "intent_hash", intentStatus,
    eventText event "created_at", receiptJson⟩

namespace Tables

/-- What one event does to the tables; an event of another type does nothing. -/
def note (t : Tables) (eventType : String) (event : Json) (receiptJson : String) : Tables :=
  if eventType = "CONTRACT_ARTIFACT_REGISTERED" then
    { t with contractArtifacts := t.contractArtifacts ++ [recordedArtifact event] }
  else if eventType = "MODEL_BRIDGE_SESSION_CREATED" then
    { t with modelSessions := t.modelSessions ++ [recordedSession event] }
  else if eventType = "MODEL_BRIDGE_HANDOFF" then
    { t with modelHandoffs := t.modelHandoffs ++ [recordedHandoff event] }
  else if eventType = "MODEL_BRIDGE_HANDOFF_ACK" then
    { t with modelHandoffs :=
        t.modelHandoffs.map (ackRow (eventText event "handoff_id") (eventText event "acked_at")) }
  else if eventType = "FEDERATION_AUTHORITY_KEY_REGISTERED" then
    { t with authorityKeys := t.authorityKeys ++ [recordedKey event receiptJson] }
  else if eventType = "FEDERATION_AUTHORITY_KEY_REVOKED" then
    { t with authorityKeys := t.authorityKeys.map (revokeRow (eventText event "key_id")
        (eventInt event "effective_at") (eventText event "reason") (eventText event "revoked_by") receiptJson) }
  else if eventType = "FEDERATION_RELATION_KEY_BOUND" then
    { t with relationKeyBindings := t.relationKeyBindings ++ [recordedBinding event receiptJson] }
  else if eventType = "INSTITUTIONAL_INTENT_ACCEPTED" then
    { t with institutionalIntents := t.institutionalIntents ++ [recordedIntent event receiptJson] }
  else t

def record (t : Tables) (row : LedgerRow) : Tables :=
  match JsonText.loads row.eventJson with
  | some event => t.note (eventText event "event_type") event row.receiptJson
  | none => t

end Tables

def replayTables (rows : List LedgerRow) : Tables := rows.foldl Tables.record Tables.empty

@[simp] theorem replayTables_append (rows : List LedgerRow) (row : LedgerRow) :
    replayTables (rows ++ [row]) = (replayTables rows).record row := by
  simp [replayTables]

/-! ## Reading a stored event -/

/-- The fields of an event as it was built, read from an event as it was stored. -/
def Reads (loaded : Json) (event : Mapping) : Prop :=
  ∀ key, key ≠ "ledger_at" → key ≠ "source_commit" →
    loaded.get? key = ((Json.dict event).get? key).map Json.norm

theorem textOf?_norm (field : Option Json) : textOf? (field.map Json.norm) = textOf? field := by
  rcases field with _ | v
  · rfl
  · cases v <;> rfl

theorem intOf_norm (field : Option Json) : intOf (field.map Json.norm) = intOf field := by
  rcases field with _ | v
  · rfl
  · cases v <;> rfl

section
variable {loaded : Json} {event : Mapping} (reads : Reads loaded event) {key : String}
include reads

theorem Reads.text (time : key ≠ "ledger_at") (commit : key ≠ "source_commit") :
    eventText loaded key = (textOf? ((Json.dict event).get? key)).getD "" := by
  rw [eventText, reads key time commit, textOf?_norm]

theorem Reads.text? (time : key ≠ "ledger_at") (commit : key ≠ "source_commit") :
    eventText? loaded key = textOf? ((Json.dict event).get? key) := by
  rw [eventText?, reads key time commit, textOf?_norm]

theorem Reads.int (time : key ≠ "ledger_at") (commit : key ≠ "source_commit") :
    eventInt loaded key = intOf ((Json.dict event).get? key) := by
  rw [eventInt, reads key time commit, intOf_norm]

end

theorem withSourceCommit_ok {env : Surroundings} {event stored : Mapping}
    (done : withSourceCommit env event = .ok stored) :
    stored = event ∨ ∃ commit, stored = Dict.insert "source_commit" (.str commit) event := by
  unfold withSourceCommit at done
  split at done
  iterate 3
    · split at done <;> cases done
      all_goals first | exact .inr ⟨_, rfl⟩ | exact .inl rfl
  · cases done

theorem storedEvent_sorted {env : Surroundings} {event stored : Mapping}
    (store : storedEvent env event = .ok stored) : Dict.Sorted stored := by
  have dated : Dict.Sorted (withLedgerAt env (Dict.ofPairs event)) := by
    unfold withLedgerAt
    split
    · exact Dict.sorted_ofPairs event
    · exact Dict.sorted_insert _ _ (Dict.sorted_ofPairs event)
  rcases withSourceCommit_ok store with rfl | ⟨commit, rfl⟩
  · exact dated
  · exact Dict.sorted_insert _ _ dated

theorem storedEvent_get {env : Surroundings} {event stored : Mapping} {key : String}
    (store : storedEvent env event = .ok stored) (time : key ≠ "ledger_at") (commit : key ≠ "source_commit") :
    Dict.get? key stored = Dict.get? key (Dict.ofPairs event) := by
  have dated : Dict.get? key (withLedgerAt env (Dict.ofPairs event)) = Dict.get? key (Dict.ofPairs event) := by
    unfold withLedgerAt
    split
    · rfl
    · exact Dict.get?_insert_of_ne time _ _
  rcases withSourceCommit_ok store with rfl | ⟨hash, rfl⟩
  · exact dated
  · exact (Dict.get?_insert_of_ne commit _ _).trans dated

theorem loads_storedEvent {env : Surroundings} {event stored : Mapping} (store : storedEvent env event = .ok stored) :
    ∃ loaded, JsonText.loads (canonicalJson (.obj stored)) = some loaded ∧ loaded.isObj = true ∧
      ∀ key, loaded.get? key = (Dict.get? key stored).map Json.norm := by
  refine ⟨_, loads_canonicalJson _, by rw [Json.norm_obj]; rfl, fun key => ?_⟩
  rw [Json.norm_obj, Json.get?_dict, ← Dict.ofPairs_map, Dict.ofPairs_of_sorted (storedEvent_sorted store),
    Dict.get?_map]

theorem loads_stored {env : Surroundings} {event stored : Mapping} (store : storedEvent env event = .ok stored) :
    ∃ loaded, JsonText.loads (canonicalJson (.obj stored)) = some loaded ∧ Reads loaded event := by
  obtain ⟨loaded, read, -, fields⟩ := loads_storedEvent store
  refine ⟨loaded, read, ?_⟩
  intro key time commit
  rw [fields, storedEvent_get store time commit, Json.get?_dict]

/-- What an append adds to an event: the time, and the commit when the event has none. -/
theorem storedEvent_stamp {env : Surroundings} {event stored : Mapping} (store : storedEvent env event = .ok stored)
    (undated : (Json.dict event).get? "ledger_at" = none)
    (committed : (Json.dict event).get? "source_commit" = none ∨
      (Json.dict event).get? "source_commit" = some (.str env.buildCommit.toLower))
    (gitObject : isGitObjectId env.buildCommit.toLower = true) :
    Dict.get? "ledger_at" stored = some (.str env.ledgerAt) ∧
      Dict.get? "source_commit" stored = some (.str env.buildCommit.toLower) := by
  rw [Json.get?_dict] at undated committed
  have lower : env.buildCommit.toLower.toLower = env.buildCommit.toLower := toLower_gitObjectId gitObject
  have dated : withLedgerAt env (Dict.ofPairs event) =
      Dict.insert "ledger_at" (.str env.ledgerAt) (Dict.ofPairs event) := by
    simp only [withLedgerAt, undated]
  have same : Dict.get? "source_commit" (withLedgerAt env (Dict.ofPairs event)) =
      Dict.get? "source_commit" (Dict.ofPairs event) := by
    rw [dated, Dict.get?_insert_of_ne (by decide)]
  rw [← same] at committed
  have added : stored = Dict.insert "source_commit" (.str env.buildCommit.toLower)
      (withLedgerAt env (Dict.ofPairs event)) := by
    unfold storedEvent withSourceCommit at store
    rcases committed with missing | supplied
    · simp only [missing, gitObject, if_true, Except.ok.injEq] at store
      exact store.symm
    · simp only [supplied, lower, gitObject, if_true, Except.ok.injEq] at store
      exact store.symm
  rw [added]
  refine ⟨?_, Dict.get?_insert_self _ _ _⟩
  rw [Dict.get?_insert_of_ne (by decide), dated, Dict.get?_insert_self]

/-! ## One event, one change -/

/-- The row that an append adds after these rows. -/
def nextRow (host : Host) (rows : List LedgerRow) (eventJson decision : String) : LedgerRow :=
  ⟨nextSeq rows, ledgerHead rows, eventHashOf host (ledgerHead rows) eventJson decision, eventJson, decision⟩

/-- One event was appended to the ledger, and the tables changed as it says. -/
structure Recorded (host : Host) (db : Database) (row : LedgerRow) (db' : Database) : Prop where
  linked : row = nextRow host db.ledger row.eventJson row.decision
  decided : row.decision ∈ decisionValues
  ledger : db'.ledger = db.ledger ++ [row]
  tables : db'.tables = db.tables.record row

variable {host : Host} {env : Surroundings} {db db' : Database}

/-- An append in a transaction that changes the other tables as the event says, before
the append or after it. -/
theorem recorded_of_append (db db' : Database) {other ledgered : Database} {event : Mapping} {decision : String}
    {receipt : LedgerReceipt} (done : appendLedgerTx host env other event decision = .ok (receipt, ledgered))
    (decided : decision ∈ decisionValues) (before : other.ledger = db.ledger) (after : db'.ledger = ledgered.ledger)
    (tables : ∀ loaded, Reads loaded event →
      db'.tables = db.tables.note (eventText loaded "event_type") loaded (canonicalJson receipt.toJson)) :
    ∃ row, Recorded host db row db' := by
  obtain ⟨stored, row, store, rfl, rfl, rfl⟩ := appendLedgerTx_ok done
  obtain ⟨loaded, read, reads⟩ := loads_stored store
  rw [before] at after tables
  refine ⟨nextRow host db.ledger (canonicalJson (.obj stored)) decision, rfl, decided, after, ?_⟩
  rw [Tables.record]
  simp only [nextRow, read]
  exact tables loaded reads

theorem appendLedgerTx_frame {other ledgered : Database} {event : Mapping} {decision : String}
    {receipt : LedgerReceipt} (done : appendLedgerTx host env other event decision = .ok (receipt, ledgered)) :
    ledgered = { other with ledger := ledgered.ledger } := by
  obtain ⟨_, _, _, _, rfl, _⟩ := appendLedgerTx_ok done
  rfl

theorem appendLedgerTx_tables {other ledgered : Database} {event : Mapping} {decision : String}
    {receipt : LedgerReceipt} (done : appendLedgerTx host env other event decision = .ok (receipt, ledgered)) :
    ledgered.tables = other.tables := by
  rw [appendLedgerTx_frame done]
  rfl

/-- A call left the database, or changed the tables and recorded the change in one event. -/
def Records (host : Host) (db db' : Database) : Prop :=
  db' = db ∨ ∃ row, Recorded host db row db' ∧ db'.tables ≠ db.tables

theorem passed : "PASS" ∈ decisionValues := Decision.value_mem .pass

/-! ## Each call -/

theorem registerContractArtifact_recorded (kind version : String) (content : Mapping) (createdBy : String) :
    Records host db (registerContractArtifact host env kind version content createdBy db).2 := by
  rcases registerContractArtifact_cases host env kind version content createdBy db with
    same | ⟨artifact, receipt, _, appended⟩
  · exact .inl same
  · have kept := appendLedgerTx_tables appended
    obtain ⟨row, recorded⟩ := recorded_of_append db _ appended passed rfl rfl fun loaded reads => by
      rw [kept]
      simp [Tables.note, Database.tables, reads.text, textOf?, artifactRegisteredEvent, recordedArtifact,
        ContractArtifact.recorded]
    refine .inr ⟨row, recorded, fun same => ?_⟩
    rw [kept] at same
    simpa [Database.tables] using congrArg (fun t => t.contractArtifacts.length) same

theorem participantId_norm {participant : Mapping} {id : Json} (named : participantId (.dict participant) = .ok id) :
    participantId (Json.dict participant).norm = .ok id.norm := by
  rw [Json.norm_dict]
  unfold participantId Json.dict at named ⊢
  dsimp only at named ⊢
  rw [← Dict.ofPairs_map, Dict.get?_map]
  split at named
  next held =>
    rw [held, ← Except.ok.inj named]
    rfl
  · cases named

theorem mapM_participantId_norm {participants : List Mapping} {ids : List Json}
    (named : (participants.map Json.dict).mapM participantId = .ok ids) :
    ((participants.map Json.dict).map Json.norm).mapM participantId = .ok (ids.map Json.norm) := by
  induction participants generalizing ids with
  | nil =>
    cases named
    rfl
  | cons participant rest ih =>
    simp only [List.map_cons, List.mapM_cons, bind_ok, pure_ok] at named ⊢
    obtain ⟨id, first, others, further, rfl⟩ := named
    exact ⟨_, participantId_norm first, _, ih further, rfl⟩

/-- The ids of the participants that a stored session lists. -/
theorem idsText_stored {participants : List Mapping} {ids : List Json}
    (named : (participants.map Json.dict).mapM participantId = .ok ids) :
    idsText (participantIds (canonicalJson (.arr (participants.map Json.dict)))) = canonicalJson (.arr ids) := by
  simp only [participantIds, loads_canonicalJson, Json.norm_arr, mapM_participantId_norm named]
  rw [← canonicalJson_norm (.arr ids), Json.norm_arr]
  rfl

theorem createSessionTx_recorded (sessionId protocolVersion : String) (contract : FrozenContract)
    (frozenContractHash : String) (participants : List Mapping) (createdBy : String) :
    Records host db (transaction (createSessionTx host env sessionId protocolVersion contract frozenContractHash
      participants createdBy) db).2 := by
  rcases createSessionTx_cases host env sessionId protocolVersion contract frozenContractHash participants
      createdBy db with same | ⟨session, ids, receipt, _, stored, enrolled, appended⟩
  · exact .inl same
  · have kept := appendLedgerTx_tables appended
    obtain ⟨row, recorded⟩ := recorded_of_append db _ appended passed rfl rfl fun loaded reads => by
      have listed : (loaded.get? "participants").map canonicalJson = some (canonicalJson (.arr ids)) := by
        rw [reads "participants" (by simp) (by simp)]
        simp only [sessionCreatedEvent, Json.get?_dict, Dict.get?_ofPairs_cons]
        simp [← canonicalJson_norm (.arr ids)]
      rw [kept]
      simp [Tables.note, Database.tables, reads.text, textOf?, sessionCreatedEvent, recordedSession,
        ModelSession.recorded, stored, idsText_stored enrolled, listed]
    refine .inr ⟨row, recorded, fun same => ?_⟩
    rw [kept] at same
    simpa [Database.tables] using congrArg (fun t => t.modelSessions.length) same

theorem createModelSession_recorded (sessionId protocolVersion : String) (contract : FrozenContract)
    (frozenContractHash : String) (participants : List Mapping) (createdBy : String) :
    Records host db (createModelSession host env sessionId protocolVersion contract frozenContractHash participants
      createdBy db).2 := by
  unfold createModelSession
  split
  · exact .inl rfl
  · exact createSessionTx_recorded sessionId protocolVersion contract frozenContractHash participants createdBy

theorem appendModelHandoff_recorded (sessionId fromParticipant toParticipant : String)
    (parentHandoffId : Option String) (payload : Mapping) (expectedContractHash : String) :
    Records host db (appendModelHandoff host env sessionId fromParticipant toParticipant parentHandoffId payload
      expectedContractHash db).2 := by
  rcases appendModelHandoff_cases host env sessionId fromParticipant toParticipant parentHandoffId payload
      expectedContractHash db with same | ⟨handoff, receipt, _, pending, unacked, appended⟩
  · exact .inl same
  · have kept := appendLedgerTx_tables appended
    obtain ⟨row, recorded⟩ := recorded_of_append db _ appended passed rfl rfl fun loaded reads => by
      have parent : eventText? loaded "parent_handoff_id" = handoff.parentHandoffId := by
        cases named : handoff.parentHandoffId <;> simp [reads.text?, textOf?, handoffEvent, named]
      rw [kept]
      simp [Tables.note, Database.tables, reads.text, reads.int, textOf?, intOf, handoffEvent, recordedHandoff,
        ModelHandoff.recorded, parent, pending, unacked]
    refine .inr ⟨row, recorded, fun same => ?_⟩
    rw [kept] at same
    simpa [Database.tables] using congrArg (fun t => t.modelHandoffs.length) same

theorem ackRow_recorded (handoffId ackedAt : String) (row : ModelHandoff) :
    (ackRow handoffId ackedAt row).recorded = ackRow handoffId ackedAt row.recorded := by
  unfold ackRow ModelHandoff.recorded
  split <;> simp_all

theorem acknowledgeModelHandoff_recorded (handoffId participant : String) :
    Records host db (acknowledgeModelHandoff host env handoffId participant db).2 := by
  rcases acknowledgeModelHandoff_cases host env handoffId participant db with
    same | ⟨handoff, receipt, found, pending, appended⟩
  · exact .inl same
  · have kept := appendLedgerTx_tables appended
    have named : handoff.handoffId = handoffId := by simpa using List.find?_some found
    obtain ⟨row, recorded⟩ := recorded_of_append db _ appended passed rfl rfl fun loaded reads => by
      rw [kept]
      simp [Tables.note, Database.tables, reads.text, textOf?, handoffAckEvent, named, Function.comp_def,
        ackRow_recorded]
    refine .inr ⟨row, recorded, fun same => ?_⟩
    rw [kept] at same
    have rows := congrArg (fun t => t.modelHandoffs.map ModelHandoff.status) same
    simp only [Database.tables, List.map_map] at rows
    have status := List.map_inj_left.mp rows handoff (List.mem_of_find?_eq_some found)
    simp [ModelHandoff.recorded, ackRow, named, pending] at status

theorem registerKey_recorded (record : AuthorityKeyRecord host) (actorId : String) :
    Records host db (registerKey host env record actorId db).2 := by
  cases result : registerKey host env record actorId db with
  | mk answer db' =>
    cases answer with
    | error e => exact .inl (transaction_error.mp result).2
    | ok answer =>
      rcases registerKey_ok result with ⟨_, same⟩ | ⟨receipt, ledgered, _, _, appended, inserted, _⟩
      · exact .inl same
      · obtain ⟨_, made⟩ := insertKey_ok inserted
        have added : db'.tables = { db.tables with authorityKeys := db.authorityKeys ++
            [record.row host actorId env.now (canonicalJson receipt.toJson)] } := by
          rw [made, appendLedgerTx_frame appended]
          rfl
        obtain ⟨row, recorded⟩ := recorded_of_append db db' appended passed rfl (by rw [made]) fun loaded reads => by
          have previous : eventText? loaded "previous_key_id" = record.previousKeyId := by
            cases named : record.previousKeyId <;>
              simp [reads.text?, textOf?, keyRegisteredEvent, AuthorityKeyFields.registrationPayload, named]
          rw [added]
          simp [Tables.note, Database.tables, reads.text, reads.int, textOf?, intOf, keyRegisteredEvent,
            AuthorityKeyFields.registrationPayload, recordedKey, previous, AuthorityKeyFields.row]
        refine .inr ⟨row, recorded, fun same => ?_⟩
        rw [added] at same
        simpa [Database.tables] using congrArg (fun t => t.authorityKeys.length) same

theorem revokeKey_recorded (authorityId keyId : String) (effectiveAt : Int) (reason actorId : String) :
    Records host db (revokeKey host env authorityId keyId effectiveAt reason actorId db).2 := by
  rcases revokeKey_cases host env db authorityId keyId effectiveAt reason actorId with
    ⟨same, _⟩ | ⟨key, receipt, ledgered, revokes, _⟩
  · exact .inl same
  · generalize (revokeKey host env authorityId keyId effectiveAt reason actorId db).2 = db' at revokes ⊢
    have named : key.keyId = keyId := by simpa using List.find?_some revokes.found
    have changed : db'.tables = { db.tables with
        authorityKeys := db.authorityKeys.map (revokeRow keyId effectiveAt reason actorId
          (canonicalJson receipt.toJson)) } := by
      rw [revokes.updated, appendLedgerTx_frame revokes.appended]
      rfl
    obtain ⟨row, recorded⟩ := recorded_of_append db db' revokes.appended passed rfl (by rw [revokes.updated]; rfl)
        fun loaded reads => by
      rw [changed]
      simp [Tables.note, Database.tables, reads.text, reads.int, textOf?, intOf, keyRevokedEvent, named]
    refine .inr ⟨row, recorded, fun same => ?_⟩
    rw [changed] at same
    have rows := congrArg (fun t => t.authorityKeys) same
    have unchanged := Json.map_eq_self.mp rows key (List.mem_of_find?_eq_some revokes.found)
    have revoked := congrArg AuthorityKeyRow.revokedAt unchanged
    simp [revokeRow, named, AuthorityKeyRow.revoke, revokes.active] at revoked

theorem registerRelationBinding_recorded (verify : Ed25519Verify) (relation : FederationRelation)
    (sourceKeyId targetKeyId actorId : String) :
    Records host db (registerRelationBinding host verify env relation sourceKeyId targetKeyId actorId db).2 := by
  cases result : registerRelationBinding host verify env relation sourceKeyId targetKeyId actorId db with
  | mk answer db' =>
    cases answer with
    | error e => exact .inl (transaction_error.mp result).2
    | ok answer =>
      rcases registerRelationBinding_ok result with
        ⟨_, same⟩ | ⟨binding, source, target, receipt, ledgered, _, binds⟩
      · exact .inl same
      · obtain ⟨_, made⟩ := insertBinding_ok binds.inserted
        have added : db'.tables = { db.tables with relationKeyBindings := db.relationKeyBindings ++
            [binding.row host actorId env.now (canonicalJson receipt.toJson)] } := by
          rw [made, appendLedgerTx_frame binds.appended]
          rfl
        obtain ⟨row, recorded⟩ := recorded_of_append db db' binds.appended passed rfl (by rw [made])
            fun loaded reads => by
          rw [added]
          simp [Tables.note, Database.tables, reads.text, textOf?, relationBoundEvent,
            RelationKeyBindingFields.canonicalPayload, recordedBinding, RelationKeyBindingFields.row]
        refine .inr ⟨row, recorded, fun same => ?_⟩
        rw [added] at same
        simpa [Database.tables] using congrArg (fun t => t.relationKeyBindings.length) same

theorem persistIntent_recorded (isIsoFormat : String → Bool) (runtime : Runtime) (intent : Json)
    (principalId : String) (allowDelegatedActor : Bool) :
    Records host db (persistIntent host isIsoFormat runtime intent principalId allowDelegatedActor db).2 := by
  rcases persistIntent_cases host isIsoFormat runtime intent principalId allowDelegatedActor db with
    ⟨e, raised⟩ | ⟨c, _, ⟨_, _, _, _, _, _, _, answered⟩ | ⟨p, receipt, ledgered, answer, db', accepts, done⟩⟩
  · exact .inl (by rw [raised])
  · exact .inl (by rw [answered])
  · rw [done]
    have added : db'.tables = { db.tables with institutionalIntents := db.tables.institutionalIntents ++
        [(c.row principalId (canonicalJson receipt.toJson)).recorded] } := by
      rw [accepts.stored, appendLedgerTx_frame accepts.appended]
      simp [Database.tables]
    obtain ⟨row, recorded⟩ := recorded_of_append db db' accepts.appended passed rfl (by rw [accepts.stored])
        fun loaded reads => by
      rw [added]
      simp [Tables.note, Database.tables, reads.text, textOf?, intentAcceptedEvent, recordedIntent,
        IntentCommitment.row, IntentRow.recorded]
    refine .inr ⟨row, recorded, fun same => ?_⟩
    rw [added] at same
    simpa [Database.tables] using congrArg (fun t => t.institutionalIntents.length) same

/-! ## The events of other callers -/

def tableEvents : List String :=
  ["CONTRACT_ARTIFACT_REGISTERED", "MODEL_BRIDGE_SESSION_CREATED", "MODEL_BRIDGE_HANDOFF",
    "MODEL_BRIDGE_HANDOFF_ACK", "FEDERATION_AUTHORITY_KEY_REGISTERED", "FEDERATION_AUTHORITY_KEY_REVOKED",
    "FEDERATION_RELATION_KEY_BOUND", "INSTITUTIONAL_INTENT_ACCEPTED"]

theorem Tables.note_other {eventType : String} (other : eventType ∉ tableEvents) (t : Tables) (event : Json)
    (receiptJson : String) : t.note eventType event receiptJson = t := by
  simp only [tableEvents, List.mem_cons, List.not_mem_nil, or_false, not_or] at other
  obtain ⟨artifact, session, handoff, ack, key, revoked, bound, intent⟩ := other
  simp only [note, artifact, session, handoff, ack, key, revoked, bound, intent, if_false]

theorem AppEvent.eventType (e : AppEvent) :
    (textOf? ((Json.dict (e.record host).1).get? "event_type")).getD "" ∉ tableEvents := by
  cases e with
  | ingress req principalId =>
    by_cases retained : req.retainsPayload = true
    · simp [AppEvent.record, Ingress.event, retained, textOf?, tableEvents]
    · simp [AppEvent.record, Ingress.event, retained, textOf?, tableEvents]
  | handoffRejected req => simp [AppEvent.record, HandoffRequest.rejectedEvent, textOf?, tableEvents]
  | federationRoute => simp [AppEvent.record, federationRouteEvent, textOf?, tableEvents]
  | configurationHold => simp [AppEvent.record, configurationHoldEvent, textOf?, tableEvents]
  | providerFailure => simp [AppEvent.record, ProviderFailure.event, textOf?, tableEvents]
  | secretPlaneHold => simp [AppEvent.record, secretPlaneHoldEvent, textOf?, tableEvents]
  | providerAnswer result principalId humanDeclared =>
    cases decided : result.decision <;>
      simp [AppEvent.record, BrokerResult.record, decided, BrokerResult.responseEvent,
        BrokerResult.exposureRejectedEvent, BrokerResult.auditableInput, BrokerResult.auditableOutput, textOf?,
        tableEvents]

/-- `append_event` of one of the application's callers. -/
def appendAppEvent (host : Host) (env : Surroundings) (e : AppEvent) (db : Database) :
    Except PyError LedgerReceipt × Database :=
  transaction (fun db => appendEvent host env db (e.record host).1 (e.record host).2.value) db

theorem appendAppEvent_recorded (e : AppEvent) :
    (appendAppEvent host env e db).2 = db ∨ ∃ row, Recorded host db row (appendAppEvent host env e db).2 ∧
      (appendAppEvent host env e db).2.tables = db.tables := by
  rcases transaction_after (fun db => appendEvent host env db (e.record host).1 (e.record host).2.value) db with
    same | ⟨receipt, done⟩
  · exact .inl same
  · have kept := appendLedgerTx_tables done
    obtain ⟨row, recorded⟩ := recorded_of_append db _ done (Decision.value_mem _) rfl rfl fun loaded reads => by
      rw [kept, reads.text (by simp) (by simp), Tables.note_other e.eventType]
    exact .inr ⟨row, recorded, kept⟩

/-! ## Histories -/

/-- One call of the local store, with what it reads of its surroundings. -/
inductive StoreCall (host : Host) where
  | registerContractArtifact (env : Surroundings) (kind version : String) (content : Mapping) (createdBy : String)
  | createModelSession (env : Surroundings) (sessionId protocolVersion : String) (contract : FrozenContract)
      (frozenContractHash : String) (participants : List Mapping) (createdBy : String)
  | appendModelHandoff (env : Surroundings) (sessionId fromParticipant toParticipant : String)
      (parentHandoffId : Option String) (payload : Mapping) (expectedContractHash : String)
  | acknowledgeModelHandoff (env : Surroundings) (handoffId participant : String)
  | registerKey (env : Surroundings) (record : AuthorityKeyRecord host) (actorId : String)
  | revokeKey (env : Surroundings) (authorityId keyId : String) (effectiveAt : Int) (reason actorId : String)
  | registerRelationBinding (env : Surroundings) (relation : FederationRelation)
      (sourceKeyId targetKeyId actorId : String)
  | persistIntent (runtime : Runtime) (intent : Json) (principalId : String) (allowDelegatedActor : Bool)
  | appendEvent (env : Surroundings) (event : AppEvent)

namespace StoreCall

/-- Whether the call only appends an event. -/
def appends : StoreCall host → Bool
  | .appendEvent .. => true
  | _ => false

section
variable (verify : Ed25519Verify) (isIsoFormat : String → Bool)

/-- The database after a call, whether it succeeded or raised. -/
def after (db : Database) : StoreCall host → Database
  | .registerContractArtifact env kind version content createdBy =>
    (MatVerse.registerContractArtifact host env kind version content createdBy db).2
  | .createModelSession env sessionId protocolVersion contract frozenContractHash participants createdBy =>
    (MatVerse.createModelSession host env sessionId protocolVersion contract frozenContractHash participants
      createdBy db).2
  | .appendModelHandoff env sessionId fromParticipant toParticipant parentHandoffId payload expectedContractHash =>
    (MatVerse.appendModelHandoff host env sessionId fromParticipant toParticipant parentHandoffId payload
      expectedContractHash db).2
  | .acknowledgeModelHandoff env handoffId participant =>
    (MatVerse.acknowledgeModelHandoff host env handoffId participant db).2
  | .registerKey env record actorId => (MatVerse.registerKey host env record actorId db).2
  | .revokeKey env authorityId keyId effectiveAt reason actorId =>
    (MatVerse.revokeKey host env authorityId keyId effectiveAt reason actorId db).2
  | .registerRelationBinding env relation sourceKeyId targetKeyId actorId =>
    (MatVerse.registerRelationBinding host verify env relation sourceKeyId targetKeyId actorId db).2
  | .persistIntent runtime intent principalId allowDelegatedActor =>
    (MatVerse.persistIntent host isIsoFormat runtime intent principalId allowDelegatedActor db).2
  | .appendEvent env event => (appendAppEvent host env event db).2

end

variable {verify : Ed25519Verify} {isIsoFormat : String → Bool}

theorem records (call : StoreCall host) (changes : call.appends = false) :
    Records host db (call.after verify isIsoFormat db) := by
  cases call with
  | registerContractArtifact env kind version content createdBy =>
    exact registerContractArtifact_recorded kind version content createdBy
  | createModelSession env sessionId protocolVersion contract frozenContractHash participants createdBy =>
    exact createModelSession_recorded sessionId protocolVersion contract frozenContractHash participants createdBy
  | appendModelHandoff env sessionId fromParticipant toParticipant parentHandoffId payload expectedContractHash =>
    exact appendModelHandoff_recorded sessionId fromParticipant toParticipant parentHandoffId payload
      expectedContractHash
  | acknowledgeModelHandoff env handoffId participant =>
    exact acknowledgeModelHandoff_recorded handoffId participant
  | registerKey env record actorId => exact registerKey_recorded record actorId
  | revokeKey env authorityId keyId effectiveAt reason actorId =>
    exact revokeKey_recorded authorityId keyId effectiveAt reason actorId
  | registerRelationBinding env relation sourceKeyId targetKeyId actorId =>
    exact registerRelationBinding_recorded verify relation sourceKeyId targetKeyId actorId
  | persistIntent runtime intent principalId allowDelegatedActor =>
    exact persistIntent_recorded isIsoFormat runtime intent principalId allowDelegatedActor
  | appendEvent => cases changes

theorem appended (call : StoreCall host) (appends : call.appends = true) :
    call.after verify isIsoFormat db = db ∨ ∃ row, Recorded host db row (call.after verify isIsoFormat db) ∧
      (call.after verify isIsoFormat db).tables = db.tables := by
  cases call with
  | appendEvent env event => exact appendAppEvent_recorded event
  | _ => cases appends

/-- Whatever the call, it leaves the database or records one event. -/
theorem recorded (call : StoreCall host) :
    call.after verify isIsoFormat db = db ∨ ∃ row, Recorded host db row (call.after verify isIsoFormat db) := by
  cases kind : call.appends with
  | false => exact (call.records kind).imp_right fun ⟨row, recorded, _⟩ => ⟨row, recorded⟩
  | true => exact (call.appended kind).imp_right fun ⟨row, recorded, _⟩ => ⟨row, recorded⟩

end StoreCall

/-- The ledger verifies and tells the tables. -/
structure History (host : Host) (db : Database) : Prop where
  chain : checkRows host genesis db.ledger = .ok (ledgerHead db.ledger)
  tables : replayTables db.ledger = db.tables
  numbered : db.ledger.map LedgerRow.seq = List.range' 1 db.ledger.length
  decided : ∀ row ∈ db.ledger, row.decision ∈ decisionValues

theorem History.empty (host : Host) : History host Database.empty := ⟨rfl, rfl, rfl, by simp [Database.empty]⟩

theorem nextSeq_range {rows : List LedgerRow} (numbered : rows.map LedgerRow.seq = List.range' 1 rows.length) :
    nextSeq rows = rows.length + 1 := by
  cases rows using List.reverseRecOn with
  | nil => rfl
  | append_singleton rows row =>
    have last := congrArg List.getLast? numbered
    simp only [List.map_append, List.map_cons, List.map_nil, List.getLast?_append, List.length_append,
      List.length_singleton, List.range'_concat] at last
    simp at last
    simp [nextSeq, last]
    omega

theorem History.recorded {row : LedgerRow} (history : History host db) (recorded : Recorded host db row db') :
    History host db' := by
  obtain ⟨linked, decided, ledger, tables⟩ := recorded
  refine ⟨?_, ?_, ?_, ?_⟩
  · rw [ledger, checkRows_append _ _ _ history.chain, checkRows, linked]
    simp [nextRow, checkRows, ledgerHead]
  · rw [ledger, replayTables_append, history.tables, tables]
  · rw [ledger, List.map_append, history.numbered, List.length_append, List.length_singleton, List.range'_concat]
    rw [List.map_singleton, linked, nextRow, nextSeq_range history.numbered]
    simp [Nat.add_comm]
  · intro other member
    rw [ledger] at member
    rcases List.mem_append.mp member with earlier | last
    · exact history.decided other earlier
    · obtain rfl := List.mem_singleton.mp last
      exact decided

def storeAfter (verify : Ed25519Verify) (isIsoFormat : String → Bool) (calls : List (StoreCall host)) : Database :=
  calls.foldl (StoreCall.after verify isIsoFormat) Database.empty

theorem history_of_calls (verify : Ed25519Verify) (isIsoFormat : String → Bool) (calls : List (StoreCall host)) :
    History host (storeAfter verify isIsoFormat calls) := by
  induction calls using List.reverseRecOn with
  | nil => exact History.empty host
  | append_singleton calls call ih =>
    unfold storeAfter at ih ⊢
    rw [List.foldl_append, List.foldl_cons, List.foldl_nil]
    rcases @StoreCall.recorded host _ verify isIsoFormat call with same | ⟨row, recorded⟩
    · rw [same]
      exact ih
    · exact ih.recorded recorded

/-- The ledger is the history of the tables: after any calls it verifies and its fold
gives the tables back, and the next call appends exactly one event when it changes a
table and none when it does not. -/
theorem ledger_is_history (verify : Ed25519Verify) (isIsoFormat : String → Bool) (calls : List (StoreCall host)) :
    (∃ head, verifyChain host (storeAfter verify isIsoFormat calls).ledger =
        .ok (storeAfter verify isIsoFormat calls).ledger.length head) ∧
      replayTables (storeAfter verify isIsoFormat calls).ledger = (storeAfter verify isIsoFormat calls).tables ∧
      ∀ call : StoreCall host,
        (call.appends = false → Records host (storeAfter verify isIsoFormat calls)
          (storeAfter verify isIsoFormat (calls ++ [call]))) ∧
        (call.appends = true →
          storeAfter verify isIsoFormat (calls ++ [call]) = storeAfter verify isIsoFormat calls ∨
          ∃ row, Recorded host (storeAfter verify isIsoFormat calls) row
              (storeAfter verify isIsoFormat (calls ++ [call])) ∧
            (storeAfter verify isIsoFormat (calls ++ [call])).tables =
              (storeAfter verify isIsoFormat calls).tables) := by
  have history := history_of_calls verify isIsoFormat calls
  refine ⟨⟨_, chainReport_ok.mpr ⟨rfl, history.chain⟩⟩, history.tables, fun call => ?_⟩
  have next : storeAfter verify isIsoFormat (calls ++ [call]) =
      call.after verify isIsoFormat (storeAfter verify isIsoFormat calls) := by
    simp [storeAfter]
  rw [next]
  exact ⟨call.records, call.appended⟩

end MatVerse
