import MatVerse.ServiceHandlers

/-! Who may append what: the capability that each event of the ledger requires, the field that
names its author, and the transactions that append it. -/
namespace MatVerse

open Fallible

/-! ## Warrants -/

/-- What the principal behind an event must hold, and the field that names it; another may be
named there by a principal that may act for any. -/
structure Warrant where
  capability : String
  author : String
  anyone : Option String

def keyWarrant (previousKeyId : Option String) : Warrant :=
  ⟨if previousKeyId.isSome then "federation:key:rotate" else "federation:key:register", "registered_by", none⟩

def handoffWarrant : Warrant := ⟨"handoff:send", "from_participant", some "handoff:send:any"⟩

def providerWarrant : Warrant := ⟨"provider:openai:invoke", "principal_id", none⟩

def keyRegistered : String := "FEDERATION_AUTHORITY_KEY_REGISTERED"

def warrants : List (String × Warrant) :=
  [("CONTRACT_ARTIFACT_REGISTERED", ⟨"registry:write", "created_by", none⟩),
    ("MODEL_BRIDGE_SESSION_CREATED", ⟨"session:create", "created_by", none⟩),
    ("MODEL_BRIDGE_HANDOFF", handoffWarrant), ("MODEL_BRIDGE_HANDOFF_REJECTED", handoffWarrant),
    ("MODEL_BRIDGE_HANDOFF_ACK", ⟨"handoff:ack", "participant_id", some "handoff:ack:any"⟩),
    ("FEDERATION_ROUTE", ⟨"federation:route", "principal_id", none⟩),
    ("FEDERATION_AUTHORITY_KEY_REVOKED", ⟨"federation:key:revoke", "revoked_by", none⟩),
    ("FEDERATION_RELATION_KEY_BOUND", ⟨"federation:relation:bind-key", "bound_by", none⟩),
    ("OPENAI_PROVIDER_CONFIGURATION_HOLD", providerWarrant), ("OPENAI_PROVIDER_FAILURE", providerWarrant),
    ("OPENAI_SECRET_PLANE_HOLD", providerWarrant), ("OPENAI_PROVIDER_EXPOSURE_REJECTED", providerWarrant),
    ("OPENAI_RESPONSE", providerWarrant)]

/-- One capability for each type. -/
example : (warrants.map Prod.fst).Nodup ∧ keyRegistered ∉ warrants.map Prod.fst := by decide

/-- By the type of the event; the events of the ingress have none. -/
def warrant (event : Json) : Option Warrant :=
  match eventText? event "event_type" with
  | none => some ⟨"bridge:ingress", "principal_id", none⟩
  | some eventType =>
    if eventType = keyRegistered then some (keyWarrant (eventText? event "previous_key_id"))
    else warrants.lookup eventType

/-- The capability is the one that the event requires, and the event names the principal or
one that the principal may act for. -/
def Entitled (principal : Principal) (capability : String) (event : Json) : Prop :=
  ∃ w, warrant event = some w ∧ w.capability = capability ∧
    (eventText? event w.author = some principal.principalId ∨ ∃ anyone ∈ w.anyone, principal.allows anyone = true)

def Authored (principal : Principal) (capability : String) (row : LedgerRow) : Prop :=
  ∃ event, JsonText.loads row.eventJson = some event ∧ Entitled principal capability event

/-- A transaction that records one event of the principal. -/
def Writes (host : Host) (principal : Principal) (capability : String) (db db' : Database) : Prop :=
  ∃ row, Recorded host db row db' ∧ Authored principal capability row

variable {host : Host} {env : Surroundings} {db db' : Database} {principal : Principal} {capability : String}

theorem entitled_of {event : Json} (eventType : String) {w : Warrant}
    (typed : eventText? event "event_type" = some eventType) (other : eventType ≠ keyRegistered)
    (listed : warrants.lookup eventType = some w)
    (named : eventText? event w.author = some principal.principalId ∨
      ∃ anyone ∈ w.anyone, principal.allows anyone = true) : Entitled principal w.capability event :=
  ⟨w, by simp [warrant, typed, other, listed], rfl, named⟩

/-- A recorded append of an event that the principal may append. -/
theorem writes_of_append {other ledgered : Database} {event : Mapping} {decision : String} {receipt : LedgerReceipt}
    (recorded : db' = db ∨ ∃ row, Recorded host db row db')
    (done : appendLedgerTx host env other event decision = .ok (receipt, ledgered))
    (before : other.ledger = db.ledger) (after : db'.ledger = ledgered.ledger)
    (entitled : ∀ loaded, Reads loaded event → Entitled principal capability loaded) :
    Writes host principal capability db db' := by
  obtain ⟨stored, added, store, built, rfl, _⟩ := appendLedgerTx_ok done
  obtain ⟨loaded, read, reads⟩ := loads_stored store
  dsimp only at after
  rw [before] at after
  rcases recorded with same | ⟨row, recorded⟩
  · rw [same] at after
    simp at after
  · refine ⟨row, recorded, loaded, ?_, entitled loaded reads⟩
    have rows := recorded.ledger.symm.trans after
    have same : row = added := by simpa using rows
    rw [same, built]
    exact read

theorem Records.recorded (records : Records host db db') : db' = db ∨ ∃ row, Recorded host db row db' :=
  records.imp_right fun ⟨row, recorded, _⟩ => ⟨row, recorded⟩

/-! ## Each transaction -/

theorem registerContractArtifact_writes (kind version : String) (content : Mapping) :
    let final := (registerContractArtifact host env kind version content principal.principalId db).2
    final = db ∨ Writes host principal "registry:write" db final := by
  have recorded := (@registerContractArtifact_recorded host env db kind version content
    principal.principalId).recorded
  rcases registerContractArtifact_cases host env kind version content principal.principalId db with
    same | ⟨artifact, receipt, created, appended⟩
  · exact .inl same
  · refine .inr (writes_of_append recorded appended rfl rfl fun loaded reads => ?_)
    apply entitled_of "CONTRACT_ARTIFACT_REGISTERED" _ (by decide) rfl
    · exact .inl (by simp [reads.text?, textOf?, artifactRegisteredEvent, created])
    · simp [reads.text?, textOf?, artifactRegisteredEvent]

theorem createSessionTx_writes (sessionId protocolVersion : String) (contract : FrozenContract)
    (frozenContractHash : String) (participants : List Mapping) :
    let final := (transaction (createSessionTx host env sessionId protocolVersion contract frozenContractHash
      participants principal.principalId) db).2
    final = db ∨ Writes host principal "session:create" db final := by
  have recorded := (@createSessionTx_recorded host env db sessionId protocolVersion contract
    frozenContractHash participants principal.principalId).recorded
  rcases createSessionTx_cases host env sessionId protocolVersion contract frozenContractHash participants
      principal.principalId db with same | ⟨session, ids, receipt, created, _, _, appended⟩
  · exact .inl same
  · refine .inr (writes_of_append recorded appended rfl rfl fun loaded reads => ?_)
    apply entitled_of "MODEL_BRIDGE_SESSION_CREATED" _ (by decide) rfl
    · exact .inl (by simp [reads.text?, textOf?, sessionCreatedEvent, created])
    · simp [reads.text?, textOf?, sessionCreatedEvent]

theorem speaksFor_named {participant anyone : String} (speaks : speaksFor principal participant anyone = true) :
    participant = principal.principalId ∨ principal.allows anyone = true := by
  rw [speaksFor, Bool.or_eq_true, beq_iff_eq] at speaks
  exact speaks.imp_left Eq.symm

theorem appendModelHandoff_writes (sessionId fromParticipant toParticipant : String)
    (parentHandoffId : Option String) (payload : Mapping) (expectedContractHash : String)
    (speaks : speaksFor principal fromParticipant "handoff:send:any" = true) :
    let final := (appendModelHandoff host env sessionId fromParticipant toParticipant parentHandoffId payload
      expectedContractHash db).2
    final = db ∨ Writes host principal "handoff:send" db final := by
  have recorded := (@appendModelHandoff_recorded host env db sessionId fromParticipant
    toParticipant parentHandoffId payload expectedContractHash).recorded
  rcases appendModelHandoff_cases host env sessionId fromParticipant toParticipant parentHandoffId payload
      expectedContractHash db with same | ⟨handoff, receipt, sender, _, _, appended⟩
  · exact .inl same
  · refine .inr (writes_of_append recorded appended rfl rfl fun loaded reads => ?_)
    apply entitled_of "MODEL_BRIDGE_HANDOFF" _ (by decide) rfl
    · refine (speaksFor_named speaks).imp (fun named => ?_) (fun any => ⟨_, rfl, any⟩)
      simp [reads.text?, textOf?, handoffEvent, handoffWarrant, sender, named]
    · simp [reads.text?, textOf?, handoffEvent]

theorem acknowledgeModelHandoff_writes (handoffId participant : String)
    (speaks : speaksFor principal participant "handoff:ack:any" = true) :
    let final := (acknowledgeModelHandoff host env handoffId participant db).2
    final = db ∨ Writes host principal "handoff:ack" db final := by
  have recorded := (@acknowledgeModelHandoff_recorded host env db handoffId
    participant).recorded
  rcases acknowledgeModelHandoff_cases host env handoffId participant db with
    same | ⟨handoff, receipt, _, _, appended⟩
  · exact .inl same
  · refine .inr (writes_of_append recorded appended rfl rfl fun loaded reads => ?_)
    apply entitled_of "MODEL_BRIDGE_HANDOFF_ACK" _ (by decide) rfl
    · refine (speaksFor_named speaks).imp (fun named => ?_) (fun any => ⟨_, rfl, any⟩)
      simp [reads.text?, textOf?, handoffAckEvent, named]
    · simp [reads.text?, textOf?, handoffAckEvent]

theorem registerKey_writes (record : AuthorityKeyRecord host) :
    let final := (registerKey host env record principal.principalId db).2
    final = db ∨ Writes host principal (keyWarrant record.previousKeyId).capability db final := by
  have recorded := (@registerKey_recorded host env db record principal.principalId).recorded
  dsimp only
  cases result : registerKey host env record principal.principalId db with
  | mk answer db' =>
    rw [result] at recorded
    cases answer with
    | error e => exact .inl (transaction_error.mp result).2
    | ok answer =>
      rcases registerKey_ok result with ⟨_, same⟩ | ⟨receipt, ledgered, _, _, appended, inserted, _⟩
      · exact .inl same
      · obtain ⟨_, made⟩ := insertKey_ok inserted
        refine .inr (writes_of_append recorded appended rfl (by rw [made]) fun loaded reads => ?_)
        have previous : eventText? loaded "previous_key_id" = record.previousKeyId := by
          cases named : record.previousKeyId <;>
            simp [reads.text?, textOf?, keyRegisteredEvent, AuthorityKeyFields.registrationPayload, named]
        refine ⟨keyWarrant record.previousKeyId, ?_, rfl, .inl ?_⟩
        · rw [warrant, previous]
          simp [reads.text?, textOf?, keyRegisteredEvent, keyRegistered, AuthorityKeyFields.registrationPayload]
        · simp [reads.text?, textOf?, keyRegisteredEvent, keyWarrant, AuthorityKeyFields.registrationPayload]

theorem revokeKeyTx_writes (authorityId keyId : String) (effectiveAt : Int) (reason : String) :
    let final := (transaction (revokeKeyTx host env authorityId keyId effectiveAt reason principal.principalId) db).2
    final = db ∨ Writes host principal "federation:key:revoke" db final := by
  have after : (transaction (revokeKeyTx host env authorityId keyId effectiveAt reason principal.principalId) db).2 =
      (revokeKey host env authorityId keyId effectiveAt reason principal.principalId db).2 := by
    unfold revokeKey
    split <;> simp [*]
  have recorded := (@revokeKey_recorded host env db authorityId keyId effectiveAt reason
    principal.principalId).recorded
  dsimp only
  rw [after]
  rcases revokeKey_cases host env db authorityId keyId effectiveAt reason principal.principalId with
    ⟨same, _⟩ | ⟨key, receipt, ledgered, revokes, _⟩
  · exact .inl same
  · refine .inr (writes_of_append recorded revokes.appended rfl (by rw [revokes.updated]; rfl)
      fun loaded reads => ?_)
    apply entitled_of "FEDERATION_AUTHORITY_KEY_REVOKED" _ (by decide) rfl
    · exact .inl (by simp [reads.text?, textOf?, keyRevokedEvent])
    · simp [reads.text?, textOf?, keyRevokedEvent]

theorem registerRelationBinding_writes (verify : Ed25519Verify) (relation : FederationRelation)
    (sourceKeyId targetKeyId : String) :
    let final := (registerRelationBinding host verify env relation sourceKeyId targetKeyId principal.principalId db).2
    final = db ∨ Writes host principal "federation:relation:bind-key" db final := by
  have recorded := (@registerRelationBinding_recorded host env db verify relation sourceKeyId
    targetKeyId principal.principalId).recorded
  dsimp only
  cases result : registerRelationBinding host verify env relation sourceKeyId targetKeyId principal.principalId db with
  | mk answer db' =>
    rw [result] at recorded
    cases answer with
    | error e => exact .inl (transaction_error.mp result).2
    | ok answer =>
      rcases registerRelationBinding_ok result with
        ⟨_, same⟩ | ⟨binding, source, target, receipt, ledgered, _, binds⟩
      · exact .inl same
      · obtain ⟨_, made⟩ := insertBinding_ok binds.inserted
        refine .inr (writes_of_append recorded binds.appended rfl (by rw [made]) fun loaded reads => ?_)
        apply entitled_of "FEDERATION_RELATION_KEY_BOUND" _ (by decide) rfl
        · exact .inl (by
            simp [reads.text?, textOf?, relationBoundEvent, RelationKeyBindingFields.canonicalPayload])
        · simp [reads.text?, textOf?, relationBoundEvent, RelationKeyBindingFields.canonicalPayload]

/-- An event of the application, appended for a principal that may append it. -/
theorem appendAppEvent_writes (event : AppEvent)
    (entitled : ∀ loaded, Reads loaded (event.record host).1 → Entitled principal capability loaded) :
    let final := (appendAppEvent host env event db).2
    final = db ∨ Writes host principal capability db final := by
  have recorded : (appendAppEvent host env event db).2 = db ∨
      ∃ row, Recorded host db row (appendAppEvent host env event db).2 :=
    (appendAppEvent_recorded event).imp_right fun ⟨row, recorded, _⟩ => ⟨row, recorded⟩
  rcases transaction_after (fun db => appendEvent host env db (event.record host).1 (event.record host).2.value) db with
    same | ⟨receipt, done⟩
  · exact .inl same
  · exact .inr (writes_of_append recorded done rfl rfl entitled)

end MatVerse
