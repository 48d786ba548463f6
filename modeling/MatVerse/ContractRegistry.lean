import MatVerse.Ledger
import MatVerse.ModelBridge

/-! The contract registry and the sessions of the model bridge: artifacts under their
hash, sessions under a frozen contract, and the handoffs between their participants. -/
namespace MatVerse

open Fallible

/-! ## Artifacts -/

def contractKinds : List String := ["ontology", "policy", "task", "rubric", "memory_policy"]

def findArtifact (db : Database) (artifactHash : String) : Option ContractArtifact :=
  db.contractArtifacts.find? (fun row => row.artifactHash == artifactHash)

def insertArtifact (db : Database) (row : ContractArtifact) : Except PyError Database := do
  if db.contractArtifacts.any (fun a => a.artifactHash == row.artifactHash) then
    throw (unique "contract_artifacts.artifact_hash")
  return { db with contractArtifacts := db.contractArtifacts ++ [row] }

def artifactRegisteredEvent (row : ContractArtifact) : Mapping :=
  [("event_type", .str "CONTRACT_ARTIFACT_REGISTERED"), ("artifact_hash", .str row.artifactHash),
    ("kind", .str row.kind), ("version", .str row.version), ("created_by", .str row.createdBy),
    ("created_at", .str row.createdAt)]

structure ArtifactAnswer where
  artifactHash : String
  kind : String
  version : String
  createdBy : String
  createdAt : String
  receipt : Option LedgerReceipt
  idempotent : Bool

section
variable (host : Host)

def registerArtifactTx (env : Surroundings) (kind version : String) (content : Mapping) (createdBy : String)
    (db : Database) : Except PyError (ArtifactAnswer × Database) :=
  let artifactHash := stableHash host (.dict content)
  match findArtifact db artifactHash with
  | some existing =>
    if existing.kind != kind || existing.contentJson != canonicalJson (.dict content) then
      .error (.valueError "contract artifact hash collision or kind mismatch")
    else
      .ok (⟨artifactHash, existing.kind, existing.version, existing.createdBy, existing.createdAt, none, true⟩, db)
  | none => do
    let row : ContractArtifact :=
      ⟨artifactHash, kind, version, canonicalJson (.dict content), createdBy, env.now⟩
    let inserted ← insertArtifact db row
    let (receipt, stored) ← appendLedgerTx host env inserted (artifactRegisteredEvent row) "PASS"
    return (⟨artifactHash, kind, version, createdBy, env.now, some receipt, false⟩, stored)

def registerContractArtifact (env : Surroundings) (kind version : String) (content : Mapping) (createdBy : String)
    (db : Database) : Except PyError ArtifactAnswer × Database :=
  if !contractKinds.contains kind then
    (.error (.valueError ("unsupported contract artifact kind: " ++ kind)), db)
  else transaction (registerArtifactTx host env kind version content createdBy) db

end

/-- `get_contract_artifact`: the row with its content. -/
def getContractArtifact (db : Database) (artifactHash : String) :
    Except PyError (Option (ContractArtifact × Json)) :=
  match findArtifact db artifactHash with
  | none => .ok none
  | some row =>
    match JsonText.loads row.contentJson with
    | some content => .ok (some (row, content))
    | none => .error .jsonDecodeError

/-! ## Sessions -/

/-- A frozen contract: the hash of an artifact for each of its fields. -/
abbrev FrozenContract := List (String × String)

def FrozenContract.toJson (contract : FrozenContract) : Json :=
  .dict (contract.map (fun p => (p.1, .str p.2)))

/-- The fields of a frozen contract and the kind of artifact each must name. -/
def contractFields : List (String × String) :=
  [("ontology_hash", "ontology"), ("policy_hash", "policy"), ("task_hash", "task"), ("rubric_hash", "rubric"),
    ("memory_policy_hash", "memory_policy")]

/-- The fields that name no artifact, and those that name one of another kind. -/
structure RegistryFaults where
  missing : List String
  wrong : List String

def noteFault (db : Database) (contract : FrozenContract) (faults : RegistryFaults) (field : String × String) :
    Except PyError RegistryFaults :=
  match Dict.get? field.1 (Dict.ofPairs contract) with
  | none => .error (.keyError field.1)
  | some artifactHash => do
    match ← getContractArtifact db artifactHash with
    | none => return { faults with missing := faults.missing ++ [field.1] }
    | some (artifact, _) =>
      if artifact.kind != field.2 then
        return { faults with wrong := faults.wrong ++ [field.1 ++ ":" ++ artifact.kind ++ "!=expected:" ++ field.2] }
      else return faults

def sortedTexts (texts : List String) : List String := texts.mergeSort (fun a b => a ≤ b)

def RegistryFaults.detail (faults : RegistryFaults) : List String :=
  (if faults.missing.isEmpty then [] else ["unregistered=" ++ ",".intercalate (sortedTexts faults.missing)]) ++
    (if faults.wrong.isEmpty then [] else ["kind_mismatch=" ++ ",".intercalate (sortedTexts faults.wrong)])

/-- `validate_contract_registry`, in transactions of its own. -/
def validateContractRegistry (db : Database) (contract : FrozenContract) : Except PyError Unit := do
  let faults ← contractFields.foldlM (noteFault db contract) ⟨[], []⟩
  if !faults.missing.isEmpty || !faults.wrong.isEmpty then
    throw (.permissionError ("contract registry validation failed: " ++ "; ".intercalate faults.detail))

def findSession (db : Database) (sessionId : String) : Option ModelSession :=
  db.modelSessions.find? (fun row => row.sessionId == sessionId)

def insertSession (db : Database) (row : ModelSession) : Except PyError Database := do
  if db.modelSessions.any (fun s => s.sessionId == row.sessionId) then throw (unique "model_sessions.session_id")
  return { db with modelSessions := db.modelSessions ++ [row] }

/-- `p["participant_id"]`. -/
def participantId (participant : Json) : Except PyError Json :=
  match participant with
  | .obj entries =>
    match Dict.get? "participant_id" entries with
    | some id => .ok id
    | none => .error (.keyError "participant_id")
  | _ => .error (.typeError "participant is not a mapping")

def sessionCreatedEvent (row : ModelSession) (participantIds : List Json) : Mapping :=
  [("event_type", .str "MODEL_BRIDGE_SESSION_CREATED"), ("session_id", .str row.sessionId),
    ("protocol_version", .str row.protocolVersion), ("contract_hash", .str row.contractHash),
    ("participants", .arr participantIds), ("created_by", .str row.createdBy), ("created_at", .str row.createdAt)]

structure SessionAnswer where
  session : ModelSession
  participants : List Json
  receipt : LedgerReceipt

section
variable (host : Host)

def createSessionTx (env : Surroundings) (sessionId protocolVersion : String) (contract : FrozenContract)
    (frozenContractHash : String) (participants : List Mapping) (createdBy : String) (db : Database) :
    Except PyError (SessionAnswer × Database) := do
  let enrolled := participants.map Json.dict
  let row : ModelSession :=
    ⟨sessionId, protocolVersion, canonicalJson contract.toJson, frozenContractHash, canonicalJson (.arr enrolled),
      createdBy, env.now⟩
  let inserted ← insertSession db row
  let participantIds ← enrolled.mapM participantId
  let (receipt, stored) ← appendLedgerTx host env inserted (sessionCreatedEvent row participantIds) "PASS"
  return (⟨row, enrolled, receipt⟩, stored)

def createModelSession (env : Surroundings) (sessionId protocolVersion : String) (contract : FrozenContract)
    (frozenContractHash : String) (participants : List Mapping) (createdBy : String) (db : Database) :
    Except PyError SessionAnswer × Database :=
  match validateContractRegistry db contract with
  | .error e => (.error e, db)
  | .ok () =>
    transaction (createSessionTx host env sessionId protocolVersion contract frozenContractHash participants
      createdBy) db

end

/-! ## Handoffs -/

def findHandoff (db : Database) (handoffId : String) : Option ModelHandoff :=
  db.modelHandoffs.find? (fun row => row.handoffId == handoffId)

/-- `SELECT COALESCE(MAX(session_seq),0)+1`. -/
def nextSessionSeq (db : Database) (sessionId : String) : Nat :=
  ((db.modelHandoffs.filter (fun row => row.sessionId == sessionId)).map ModelHandoff.sessionSeq).foldl max 0 + 1

def insertHandoff (db : Database) (row : ModelHandoff) : Except PyError Database := do
  if db.modelHandoffs.any (fun h => h.handoffId == row.handoffId) then throw (unique "model_handoffs.handoff_id")
  if db.modelHandoffs.any (fun h => h.sessionId == row.sessionId && h.sessionSeq == row.sessionSeq) then
    throw (unique "model_handoffs.session_id, model_handoffs.session_seq")
  if db.modelHandoffs.any (fun h => h.sessionId == row.sessionId && h.payloadHash == row.payloadHash) then
    throw (unique "model_handoffs.session_id, model_handoffs.payload_hash")
  if !db.modelSessions.any (fun s => s.sessionId == row.sessionId) then throw foreignKey
  if !row.parentHandoffId.all (fun parent => db.modelHandoffs.any (fun h => h.handoffId == parent)) then
    throw foreignKey
  return { db with modelHandoffs := db.modelHandoffs ++ [row] }

/-- A value that a Python set can hold. -/
def isHashable : Json → Bool
  | .arr _ | .obj _ => false
  | _ => true

/-- `{p["participant_id"] for p in participants}` of a stored session. -/
def enrolledIds (session : ModelSession) : Except PyError (List Json) :=
  match JsonText.loads session.participantsJson with
  | some (.arr participants) => do
    let ids ← participants.mapM participantId
    if !ids.all isHashable then throw (.typeError "unhashable participant_id")
    return ids
  | some _ => .error (.typeError "participants are not a list")
  | none => .error .jsonDecodeError

def enrolls (ids : List Json) (participant : String) : Bool := ids.any (fun id => isStr (some id) participant)

def checkParent (db : Database) (sessionId : String) (parentHandoffId : Option String) : Except PyError Unit :=
  match parentHandoffId with
  | none => .ok ()
  | some parentId =>
    match findHandoff db parentId with
    | some parent =>
      if parent.sessionId != sessionId then .error (.valueError "parent handoff does not belong to session")
      else .ok ()
    | none => .error (.valueError "parent handoff does not belong to session")

def handoffEvent (row : ModelHandoff) : Mapping :=
  [("event_type", .str "MODEL_BRIDGE_HANDOFF"), ("session_id", .str row.sessionId),
    ("handoff_id", .str row.handoffId), ("session_seq", .int row.sessionSeq),
    ("from_participant", .str row.fromParticipant), ("to_participant", .str row.toParticipant),
    ("parent_handoff_id", row.parentHandoffId.elim .null .str), ("payload_hash", .str row.payloadHash),
    ("contract_hash", .str row.contractHash), ("created_at", .str row.createdAt)]

structure HandoffAnswer where
  handoff : ModelHandoff
  receipt : LedgerReceipt

def handoffAckEvent (row : ModelHandoff) (participant ackedAt : String) : Mapping :=
  [("event_type", .str "MODEL_BRIDGE_HANDOFF_ACK"), ("session_id", .str row.sessionId),
    ("handoff_id", .str row.handoffId), ("participant_id", .str participant), ("acked_at", .str ackedAt)]

structure AckAnswer where
  handoffId : String
  ackedAt : Option String
  receipt : Option LedgerReceipt
  idempotent : Bool

/-- The `UPDATE` of one pending handoff. -/
def ackRow (handoffId ackedAt : String) (row : ModelHandoff) : ModelHandoff :=
  if row.handoffId == handoffId && row.status == .pending then
    { row with status := .acked, ackedAt := some ackedAt }
  else row

section
variable (host : Host)

def appendHandoffTx (env : Surroundings) (sessionId fromParticipant toParticipant : String)
    (parentHandoffId : Option String) (payload : Mapping) (expectedContractHash : String) (db : Database) :
    Except PyError (HandoffAnswer × Database) := do
  match findSession db sessionId with
  | none => throw (.lookupError "model bridge session not found")
  | some session =>
    if session.contractHash != expectedContractHash then
      throw (.permissionError "frozen contract hash mismatch")
    let ids ← enrolledIds session
    if !enrolls ids fromParticipant || !enrolls ids toParticipant then
      throw (.permissionError "handoff participant is not enrolled in session")
    if fromParticipant == toParticipant then
      throw (.valueError "cross-model handoff requires distinct participants")
    checkParent db sessionId parentHandoffId
    let sequence := nextSessionSeq db sessionId
    let payloadHash ← ModelBridge.buildHandoffDigest host sessionId sequence fromParticipant toParticipant
      parentHandoffId payload expectedContractHash
    let row : ModelHandoff :=
      ⟨"mh_" ++ String.ofList (payloadHash.toList.take 32), sessionId, sequence, fromParticipant, toParticipant,
        parentHandoffId, canonicalJson (.dict payload), payloadHash, expectedContractHash, .pending, env.now, none⟩
    let inserted ← insertHandoff db row
    let (receipt, stored) ← appendLedgerTx host env inserted (handoffEvent row) "PASS"
    return (⟨row, receipt⟩, stored)

def appendModelHandoff (env : Surroundings) (sessionId fromParticipant toParticipant : String)
    (parentHandoffId : Option String) (payload : Mapping) (expectedContractHash : String) (db : Database) :
    Except PyError HandoffAnswer × Database :=
  transaction (appendHandoffTx host env sessionId fromParticipant toParticipant parentHandoffId payload
    expectedContractHash) db

def acknowledgeTx (env : Surroundings) (handoffId participant : String) (db : Database) :
    Except PyError (AckAnswer × Database) :=
  match findHandoff db handoffId with
  | none => .error (.lookupError "model handoff not found")
  | some row =>
    if row.toParticipant != participant then
      .error (.permissionError "only the target participant can acknowledge this handoff")
    else
      match row.status with
      | .acked => .ok (⟨handoffId, row.ackedAt, none, true⟩, db)
      | .pending => do
        let updated := { db with modelHandoffs := db.modelHandoffs.map (ackRow handoffId env.now) }
        let (receipt, stored) ← appendLedgerTx host env updated (handoffAckEvent row participant env.now) "PASS"
        return (⟨handoffId, some env.now, some receipt, false⟩, stored)

def acknowledgeModelHandoff (env : Surroundings) (handoffId participant : String) (db : Database) :
    Except PyError AckAnswer × Database :=
  transaction (acknowledgeTx host env handoffId participant) db

end

/-! ## What a call does -/

variable {host : Host} {env : Surroundings} {db db' : Database}

theorem insertArtifact_ok {row : ContractArtifact} (inserted : insertArtifact db row = .ok db') :
    db' = { db with contractArtifacts := db.contractArtifacts ++ [row] } := by
  simp only [insertArtifact, guard_ok, pure_ok] at inserted
  exact inserted.2.symm

theorem insertSession_ok {row : ModelSession} (inserted : insertSession db row = .ok db') :
    db' = { db with modelSessions := db.modelSessions ++ [row] } := by
  simp only [insertSession, guard_ok, pure_ok] at inserted
  exact inserted.2.symm

theorem insertHandoff_ok {row : ModelHandoff} (inserted : insertHandoff db row = .ok db') :
    db' = { db with modelHandoffs := db.modelHandoffs ++ [row] } := by
  simp only [insertHandoff, guard_ok, pure_ok] at inserted
  exact inserted.2.2.2.2.2.symm

/-- A registration leaves the database, or adds one artifact and its event. -/
theorem registerContractArtifact_cases (host : Host) (env : Surroundings) (kind version : String)
    (content : Mapping) (createdBy : String) (db : Database) :
    (registerContractArtifact host env kind version content createdBy db).2 = db ∨
      ∃ row receipt, row.createdBy = createdBy ∧
        appendLedgerTx host env
          { db with contractArtifacts := db.contractArtifacts ++ [row] } (artifactRegisteredEvent row) "PASS" =
        .ok (receipt, (registerContractArtifact host env kind version content createdBy db).2) := by
  unfold registerContractArtifact
  split
  · exact .inl rfl
  · have ended := transaction_after (registerArtifactTx host env kind version content createdBy) db
    generalize (transaction _ db).2 = final at ended ⊢
    rcases ended with left | ⟨answer, done⟩
    · exact .inl left
    · unfold registerArtifactTx at done
      dsimp only at done
      split at done
      · split at done
        · cases done
        · exact .inl (Prod.mk.inj (Except.ok.inj done)).2.symm
      · simp only [bind_ok, pure_ok, Prod.mk.injEq] at done
        obtain ⟨inserted, added, ⟨receipt, stored⟩, appended, _, rfl⟩ := done
        rw [insertArtifact_ok added] at appended
        refine .inr ⟨_, receipt, ?_, appended⟩
        rfl

/-- A session is not created, or one row and one event with its participants are added. -/
theorem createSessionTx_cases (host : Host) (env : Surroundings) (sessionId protocolVersion : String)
    (contract : FrozenContract) (frozenContractHash : String) (participants : List Mapping) (createdBy : String)
    (db : Database) :
    (transaction (createSessionTx host env sessionId protocolVersion contract frozenContractHash participants
        createdBy) db).2 = db ∨
      ∃ row ids receipt, row.createdBy = createdBy ∧
        row.participantsJson = canonicalJson (.arr (participants.map Json.dict)) ∧
        (participants.map Json.dict).mapM participantId = .ok ids ∧
        appendLedgerTx host env { db with modelSessions := db.modelSessions ++ [row] }
          (sessionCreatedEvent row ids) "PASS" =
        .ok (receipt, (transaction (createSessionTx host env sessionId protocolVersion contract frozenContractHash
          participants createdBy) db).2) := by
  have ended := transaction_after (createSessionTx host env sessionId protocolVersion contract frozenContractHash
    participants createdBy) db
  generalize (transaction _ db).2 = final at ended ⊢
  rcases ended with left | ⟨answer, done⟩
  · exact .inl left
  · simp only [createSessionTx, bind_ok, pure_ok, Prod.mk.injEq] at done
    obtain ⟨inserted, added, ids, enrolled, ⟨receipt, stored⟩, appended, _, rfl⟩ := done
    rw [insertSession_ok added] at appended
    refine .inr ⟨_, ids, receipt, ?_, ?_, enrolled, appended⟩ <;> rfl

theorem createModelSession_cases (host : Host) (env : Surroundings) (sessionId protocolVersion : String)
    (contract : FrozenContract) (frozenContractHash : String) (participants : List Mapping) (createdBy : String)
    (db : Database) :
    (createModelSession host env sessionId protocolVersion contract frozenContractHash participants createdBy
        db).2 = db ∨
      ∃ row ids receipt, row.participantsJson = canonicalJson (.arr (participants.map Json.dict)) ∧
        (participants.map Json.dict).mapM participantId = .ok ids ∧
        appendLedgerTx host env { db with modelSessions := db.modelSessions ++ [row] }
          (sessionCreatedEvent row ids) "PASS" =
        .ok (receipt, (createModelSession host env sessionId protocolVersion contract frozenContractHash
          participants createdBy db).2) := by
  unfold createModelSession
  split
  · exact .inl rfl
  · exact (createSessionTx_cases host env sessionId protocolVersion contract frozenContractHash participants createdBy
      db).imp_right fun ⟨row, ids, receipt, _, stored⟩ => ⟨row, ids, receipt, stored⟩

/-- A handoff is not stored, or one pending row and its event are added. -/
theorem appendModelHandoff_cases (host : Host) (env : Surroundings) (sessionId fromParticipant toParticipant : String)
    (parentHandoffId : Option String) (payload : Mapping) (expectedContractHash : String) (db : Database) :
    (appendModelHandoff host env sessionId fromParticipant toParticipant parentHandoffId payload
        expectedContractHash db).2 = db ∨
      ∃ row receipt, row.fromParticipant = fromParticipant ∧ row.status = .pending ∧ row.ackedAt = none ∧
        appendLedgerTx host env { db with modelHandoffs := db.modelHandoffs ++ [row] } (handoffEvent row) "PASS" =
        .ok (receipt, (appendModelHandoff host env sessionId fromParticipant toParticipant parentHandoffId payload
          expectedContractHash db).2) := by
  unfold appendModelHandoff
  have ended := transaction_after (appendHandoffTx host env sessionId fromParticipant toParticipant
    parentHandoffId payload expectedContractHash) db
  generalize (transaction _ db).2 = final at ended ⊢
  rcases ended with left | ⟨answer, done⟩
  · exact .inl left
  · unfold appendHandoffTx at done
    split at done
    · simp [throw_ok] at done
    · simp only [bind_ok, guard_ok, pure_ok, Prod.mk.injEq] at done
      obtain ⟨_, ids, _, _, _, _, _, payloadHash, _, inserted, added, ⟨receipt, stored⟩, appended, _, rfl⟩ := done
      rw [insertHandoff_ok added] at appended
      refine .inr ⟨_, receipt, ?_, ?_, ?_, appended⟩ <;> rfl

/-- An acknowledgement leaves the database, or marks one pending handoff and adds its event. -/
theorem acknowledgeModelHandoff_cases (host : Host) (env : Surroundings) (handoffId participant : String)
    (db : Database) :
    (acknowledgeModelHandoff host env handoffId participant db).2 = db ∨
      ∃ row receipt, findHandoff db handoffId = some row ∧ row.status = .pending ∧
        appendLedgerTx host env { db with modelHandoffs := db.modelHandoffs.map (ackRow handoffId env.now) }
          (handoffAckEvent row participant env.now) "PASS" =
        .ok (receipt, (acknowledgeModelHandoff host env handoffId participant db).2) := by
  unfold acknowledgeModelHandoff
  have ended := transaction_after (acknowledgeTx host env handoffId participant) db
  generalize (transaction _ db).2 = final at ended ⊢
  rcases ended with left | ⟨answer, done⟩
  · exact .inl left
  · unfold acknowledgeTx at done
    split at done
    · cases done
    next row found =>
      split at done
      · cases done
      · split at done
        · exact .inl (Prod.mk.inj (Except.ok.inj done)).2.symm
        next pending =>
          simp only [bind_ok, pure_ok, Prod.mk.injEq] at done
          obtain ⟨⟨receipt, stored⟩, appended, _, rfl⟩ := done
          exact .inr ⟨row, receipt, found, pending, appended⟩

end MatVerse
