import MatVerse.LedgerHistory

/-! Sessions of the model bridge over whole runs: their contracts, their handoffs in
order, one acknowledgement for each, and the inboxes. The validation of a contract runs
before the transaction of its session, so that other calls may come between the two. -/
namespace MatVerse

open Fallible

/-! ## Reading the store -/

def loadsText (text : String) : Except PyError Json :=
  match JsonText.loads text with
  | some v => .ok v
  | none => .error .jsonDecodeError

def handoffsOf (db : Database) (sessionId : String) : List ModelHandoff :=
  db.modelHandoffs.filter (fun h => h.sessionId == sessionId)

def awaits (sessionId participant : String) (h : ModelHandoff) : Bool :=
  h.sessionId == sessionId && h.toParticipant == participant && h.status == .pending

def withPayload (row : ModelHandoff) : Except PyError (ModelHandoff × Json) := do
  let payload ← loadsText row.payloadJson
  return (row, payload)

/-- `list_model_inbox`: the pending rows in order. -/
def listModelInbox (sessionId participant : String) (db : Database) : Except PyError (List (ModelHandoff × Json)) :=
  match findSession db sessionId with
  | none => .error (.lookupError "model bridge session not found")
  | some session => do
    let _ ← loadsText session.contractJson
    let ids ← enrolledIds session
    if !enrolls ids participant then throw (.permissionError "participant is not enrolled in session")
    ((db.modelHandoffs.filter (awaits sessionId participant)).mergeSort (fun a b => a.sessionSeq ≤ b.sessionSeq)).mapM
      withPayload

def isAck (handoffId : String) (event : Json) : Bool :=
  eventText event "event_type" == "MODEL_BRIDGE_HANDOFF_ACK" && eventText event "handoff_id" == handoffId

def ackEvents (handoffId : String) (rows : List LedgerRow) : List Json :=
  rows.filterMap (fun row => (JsonText.loads row.eventJson).filter (isAck handoffId))

/-! ## What holds -/

/-- Each field of the contract names a registered artifact of its kind. -/
def Resolves (db : Database) (contract : FrozenContract) : Prop :=
  ∀ field ∈ contractFields, ∃ artifactHash artifact, Dict.get? field.1 (Dict.ofPairs contract) = some artifactHash ∧
    findArtifact db artifactHash = some artifact ∧ artifact.kind = field.2

/-- The contract that a session was frozen with, as it is stored. -/
structure Frozen (db : Database) (session : ModelSession) : Prop where
  contract : ∃ contract : FrozenContract, session.contractJson = canonicalJson contract.toJson ∧ Resolves db contract
  participants : ∃ participants : List Mapping, session.participantsJson = canonicalJson
    (.arr (participants.map Json.dict))

/-- What a handoff owes to its session and to its parent. -/
structure Proper (db : Database) (h : ModelHandoff) : Prop where
  session : ∃ session ∈ db.modelSessions, session.sessionId = h.sessionId ∧ session.contractHash = h.contractHash ∧
    ∃ ids, enrolledIds session = .ok ids ∧ enrolls ids h.fromParticipant = true ∧ enrolls ids h.toParticipant = true
  distinct : h.fromParticipant ≠ h.toParticipant
  parent : ∀ parentId, h.parentHandoffId = some parentId → ∃ parent ∈ db.modelHandoffs, parent.handoffId = parentId ∧
    parent.sessionId = h.sessionId ∧ parent.sessionSeq < h.sessionSeq
  payload : ∃ payload : Mapping, h.payloadJson = canonicalJson (.dict payload)

/-- The acknowledgements of a handoff in the ledger are one, by its receiver, or none. -/
def AckedOnce (db : Database) (h : ModelHandoff) : Prop :=
  match h.status with
  | .pending => ackEvents h.handoffId db.ledger = []
  | .acked => ∃ event, ackEvents h.handoffId db.ledger = [event] ∧
    eventText event "participant_id" = h.toParticipant ∧ eventText event "session_id" = h.sessionId ∧
    eventText? event "acked_at" = h.ackedAt

structure Sessions (db : Database) : Prop where
  frozen : ∀ session ∈ db.modelSessions, Frozen db session
  sessionIds : (db.modelSessions.map ModelSession.sessionId).Nodup
  handoffIds : (db.modelHandoffs.map ModelHandoff.handoffId).Nodup
  numbered : ∀ sessionId, (handoffsOf db sessionId).map ModelHandoff.sessionSeq =
    List.range' 1 (handoffsOf db sessionId).length
  proper : ∀ h ∈ db.modelHandoffs, Proper db h
  ackedOnce : ∀ h ∈ db.modelHandoffs, AckedOnce db h
  unacked : ∀ handoffId, (∀ h ∈ db.modelHandoffs, h.handoffId ≠ handoffId) → ackEvents handoffId db.ledger = []

/-! ## Calls -/

/-- The store, and the contracts whose validation has passed. -/
structure Bridge where
  db : Database
  validated : List FrozenContract

inductive BridgeCall where
  | registerContractArtifact (env : Surroundings) (kind version : String) (content : Mapping) (createdBy : String)
  /-- The start of `create_model_session`. -/
  | validateContractRegistry (contract : FrozenContract)
  /-- Its transaction, at any time after the start. -/
  | createModelSession (env : Surroundings) (sessionId protocolVersion : String) (contract : FrozenContract)
      (frozenContractHash : String) (participants : List Mapping) (createdBy : String)
  | appendModelHandoff (env : Surroundings) (sessionId fromParticipant toParticipant : String)
      (parentHandoffId : Option String) (payload : Mapping) (expectedContractHash : String)
  | listModelInbox (sessionId participant : String)
  | acknowledgeModelHandoff (env : Surroundings) (handoffId participant : String)

def BridgeCall.after (host : Host) (b : Bridge) : BridgeCall → Bridge
  | .registerContractArtifact env kind version content createdBy =>
    { b with db := (MatVerse.registerContractArtifact host env kind version content createdBy b.db).2 }
  | .validateContractRegistry contract =>
    match MatVerse.validateContractRegistry b.db contract with
    | .ok () => { b with validated := b.validated ++ [contract] }
    | .error _ => b
  | .createModelSession env sessionId protocolVersion contract frozenContractHash participants createdBy =>
    if b.validated.contains contract then
      { b with db := (transaction (createSessionTx host env sessionId protocolVersion contract frozenContractHash
        participants createdBy) b.db).2 }
    else b
  | .appendModelHandoff env sessionId fromParticipant toParticipant parentHandoffId payload expectedContractHash =>
    { b with db := (MatVerse.appendModelHandoff host env sessionId fromParticipant toParticipant parentHandoffId payload
      expectedContractHash b.db).2 }
  | .listModelInbox _ _ => b
  | .acknowledgeModelHandoff env handoffId participant =>
    { b with db := (MatVerse.acknowledgeModelHandoff host env handoffId participant b.db).2 }

/-- What a call may make of the store. -/
inductive Change (validated : List FrozenContract) (db : Database) : BridgeCall → Database → Prop where
  | none {call : BridgeCall} : Change validated db call db
  | artifact {call : BridgeCall} (row : ContractArtifact) {rows : List LedgerRow} :
      (∀ id, ackEvents id rows = ackEvents id db.ledger) →
      Change validated db call { db with contractArtifacts := db.contractArtifacts ++ [row], ledger := rows }
  | session {call : BridgeCall} (row : ModelSession) (contract : FrozenContract) (participants : List Mapping)
      {rows : List LedgerRow} : contract ∈ validated → row.contractJson = canonicalJson contract.toJson →
      row.participantsJson = canonicalJson (.arr (participants.map Json.dict)) →
      (∀ s ∈ db.modelSessions, s.sessionId ≠ row.sessionId) → (∀ id, ackEvents id rows = ackEvents id db.ledger) →
      Change validated db call { db with modelSessions := db.modelSessions ++ [row], ledger := rows }
  | handoff {call : BridgeCall} (row : ModelHandoff) {rows : List LedgerRow} : Proper db row →
      row.sessionSeq = nextSessionSeq db row.sessionId → row.status = .pending →
      (∀ h ∈ db.modelHandoffs, h.handoffId ≠ row.handoffId) → (∀ id, ackEvents id rows = ackEvents id db.ledger) →
      Change validated db call { db with modelHandoffs := db.modelHandoffs ++ [row], ledger := rows }
  | ack {env : Surroundings} (row : ModelHandoff) (event : Json) {rows : List LedgerRow} : row ∈ db.modelHandoffs →
      row.status = .pending → eventText event "participant_id" = row.toParticipant →
      eventText event "session_id" = row.sessionId → eventText? event "acked_at" = some env.now →
      (∀ id, ackEvents id rows = ackEvents id db.ledger ++ if id = row.handoffId then [event] else []) →
      Change validated db (.acknowledgeModelHandoff env row.handoffId row.toParticipant)
        { db with modelHandoffs := db.modelHandoffs.map (ackRow row.handoffId env.now), ledger := rows }

/-! ## What a call does -/

variable {host : Host} {env : Surroundings} {db db' : Database}

/-- An append adds its event to the acknowledgements that it is one of. -/
theorem ackEvents_append {event : Mapping} {decision : String} {receipt : LedgerReceipt}
    (done : appendLedgerTx host env db event decision = .ok (receipt, db')) :
    ∃ loaded, Reads loaded event ∧ db' = { db with ledger := db'.ledger } ∧
      ∀ id, ackEvents id db'.ledger = ackEvents id db.ledger ++ if isAck id loaded then [loaded] else [] := by
  obtain ⟨stored, row, store, rfl, rfl, _⟩ := appendLedgerTx_ok done
  obtain ⟨loaded, read, reads⟩ := loads_stored store
  refine ⟨loaded, reads, rfl, fun id => ?_⟩
  unfold ackEvents
  rw [List.filterMap_append, List.filterMap_cons, List.filterMap_nil, read, Option.filter_some]
  cases isAck id loaded <;> rfl

theorem isAck_other {loaded : Json} {event : Mapping} (reads : Reads loaded event) {eventType : String}
    (typed : (Json.dict event).get? "event_type" = some (.str eventType))
    (other : eventType ≠ "MODEL_BRIDGE_HANDOFF_ACK") (id : String) : isAck id loaded = false := by
  have read : eventText loaded "event_type" = eventType := by
    rw [reads.text (by decide) (by decide), typed]
    rfl
  simp [isAck, read, other]

/-- An append of another event leaves the acknowledgements. -/
theorem ackEvents_quiet (eventType : String) {event : Mapping} {decision : String} {receipt : LedgerReceipt}
    (done : appendLedgerTx host env db event decision = .ok (receipt, db'))
    (typed : (Json.dict event).get? "event_type" = some (.str eventType))
    (other : eventType ≠ "MODEL_BRIDGE_HANDOFF_ACK") :
    db' = { db with ledger := db'.ledger } ∧ ∀ id, ackEvents id db'.ledger = ackEvents id db.ledger := by
  obtain ⟨loaded, reads, frame, acks⟩ := ackEvents_append done
  refine ⟨frame, fun id => ?_⟩
  rw [acks, isAck_other reads typed other, if_neg Bool.false_ne_true, List.append_nil]

theorem registerContractArtifact_change (validated : List FrozenContract) (kind version : String) (content : Mapping)
    (createdBy : String) : Change validated db (.registerContractArtifact env kind version content createdBy)
      (registerContractArtifact host env kind version content createdBy db).2 := by
  rcases registerContractArtifact_cases host env kind version content createdBy db with same | ⟨row, receipt, _,
    appended⟩
  · rw [same]
    exact .none
  · obtain ⟨frame, quiet⟩ := ackEvents_quiet "CONTRACT_ARTIFACT_REGISTERED" appended
      (by simp [artifactRegisteredEvent]) (by decide)
    rw [frame]
    exact .artifact row quiet

theorem createSessionTx_change {validated : List FrozenContract} {contract : FrozenContract}
    (listed : contract ∈ validated) (sessionId protocolVersion frozenContractHash : String)
    (participants : List Mapping) (createdBy : String) :
    Change validated db
    (.createModelSession env sessionId protocolVersion contract frozenContractHash participants createdBy)
      (transaction (createSessionTx host env sessionId protocolVersion contract frozenContractHash participants
        createdBy) db).2 := by
  rcases transaction_after (createSessionTx host env sessionId protocolVersion contract frozenContractHash participants
    createdBy) db with same | ⟨answer, done⟩
  · rw [same]
    exact .none
  · generalize (transaction _ db).2 = final at done ⊢
    simp only [createSessionTx, insertSession, bind_ok, guard_ok, pure_ok, Prod.mk.injEq] at done
    obtain ⟨inserted, ⟨fresh, rfl⟩, ids, enrolled, ⟨receipt, stored⟩, appended, _, rfl⟩ := done
    obtain ⟨frame, quiet⟩ := ackEvents_quiet "MODEL_BRIDGE_SESSION_CREATED" appended
      (by simp [sessionCreatedEvent]) (by decide)
    dsimp only at frame
    rw [frame]
    refine .session _ contract participants listed rfl rfl (fun s member named => fresh ?_) quiet
    exact List.any_eq_true.mpr ⟨s, member, beq_iff_eq.mpr named⟩

theorem insertHandoff_new {row : ModelHandoff} (inserted : insertHandoff db row = .ok db') :
    ∀ h ∈ db.modelHandoffs, h.handoffId ≠ row.handoffId := by
  simp only [insertHandoff, guard_ok] at inserted
  intro h member named
  exact inserted.1 (List.any_eq_true.mpr ⟨h, member, beq_iff_eq.mpr named⟩)

/-- The next number is above all numbers of the session. -/
theorem lt_nextSessionSeq {h : ModelHandoff} (member : h ∈ db.modelHandoffs) :
    h.sessionSeq < nextSessionSeq db h.sessionId := by
  have bound (seqs : List Nat) (start : Nat) : start ≤ seqs.foldl max start ∧ ∀ n ∈ seqs, n ≤ seqs.foldl max start := by
    induction seqs generalizing start with
    | nil => simp
    | cons n rest ih =>
      obtain ⟨first, others⟩ := ih (max start n)
      refine ⟨(le_max_left start n).trans first, fun m listed => ?_⟩
      rcases List.mem_cons.mp listed with rfl | listed
      · exact (le_max_right start m).trans first
      · exact others m listed
  have listed : h.sessionSeq ∈ (db.modelHandoffs.filter (fun row => row.sessionId == h.sessionId)).map
      ModelHandoff.sessionSeq :=
    List.mem_map_of_mem (List.mem_filter.mpr ⟨member, beq_self_eq_true _⟩)
  exact Nat.lt_succ_of_le ((bound _ 0).2 _ listed)

theorem findHandoff_some {handoffId : String} {h : ModelHandoff} (found : findHandoff db handoffId = some h) :
    h ∈ db.modelHandoffs ∧ h.handoffId = handoffId :=
  ⟨List.mem_of_find?_eq_some found, by simpa using List.find?_some found⟩

theorem findSession_some {sessionId : String} {session : ModelSession}
    (found : findSession db sessionId = some session) : session ∈ db.modelSessions ∧ session.sessionId = sessionId :=
  ⟨List.mem_of_find?_eq_some found, by simpa using List.find?_some found⟩

theorem checkParent_ok {sessionId : String} {parentHandoffId : Option String}
    (checked : checkParent db sessionId parentHandoffId = .ok ()) : ∀ parentId, parentHandoffId = some parentId →
      ∃ parent ∈ db.modelHandoffs, parent.handoffId = parentId ∧ parent.sessionId = sessionId := by
  rintro parentId rfl
  unfold checkParent at checked
  dsimp only at checked
  split at checked
  next parent found =>
    split at checked
    · cases checked
    next same =>
      obtain ⟨member, named⟩ := findHandoff_some found
      exact ⟨parent, member, named, by simpa using same⟩
  · cases checked

/-- A handoff is drawn up for its session and after its parent. -/
theorem appendModelHandoff_change (validated : List FrozenContract) (sessionId fromParticipant toParticipant : String)
    (parentHandoffId : Option String) (payload : Mapping) (expectedContractHash : String) :
    Change validated db
      (.appendModelHandoff env sessionId fromParticipant toParticipant parentHandoffId payload expectedContractHash)
      (appendModelHandoff host env sessionId fromParticipant toParticipant parentHandoffId payload
        expectedContractHash db).2 := by
  unfold appendModelHandoff
  rcases transaction_after (appendHandoffTx host env sessionId fromParticipant toParticipant parentHandoffId payload
    expectedContractHash) db with same | ⟨answer, done⟩
  · rw [same]
    exact .none
  · generalize (transaction _ db).2 = final at done ⊢
    unfold appendHandoffTx at done
    split at done
    · simp [throw_ok] at done
    next session found =>
      simp only [bind_ok, guard_ok, pure_ok, Prod.mk.injEq] at done
      obtain ⟨contract, ids, enrolled, both, distinct, _, checked, payloadHash, _, inserted, added, ⟨receipt, stored⟩,
        appended, _, rfl⟩ := done
      have fresh := insertHandoff_new added
      rw [insertHandoff_ok added] at appended
      obtain ⟨frame, quiet⟩ := ackEvents_quiet "MODEL_BRIDGE_HANDOFF" appended
        (by simp [handoffEvent]) (by decide)
      dsimp only at frame
      rw [frame]
      refine .handoff _ ?_ rfl rfl fresh quiet
      obtain ⟨member, named⟩ := findSession_some found
      simp only [Bool.or_eq_true, not_or, Bool.not_eq_true] at both
      refine ⟨⟨session, member, named, by simpa using contract, ids, enrolled, by simpa using both.1,
        by simpa using both.2⟩, by simpa using distinct, fun parentId named => ?_, payload, rfl⟩
      obtain ⟨parent, member, name, same⟩ := checkParent_ok checked parentId named
      refine ⟨parent, member, name, same, ?_⟩
      have below := lt_nextSessionSeq member
      rwa [same] at below

/-- An acknowledgement marks a pending handoff for its receiver. -/
theorem acknowledgeModelHandoff_change (validated : List FrozenContract) (handoffId participant : String) :
    Change validated db (.acknowledgeModelHandoff env handoffId participant)
      (acknowledgeModelHandoff host env handoffId participant db).2 := by
  unfold acknowledgeModelHandoff
  rcases transaction_after (acknowledgeTx host env handoffId participant) db with same | ⟨answer, done⟩
  · rw [same]
    exact .none
  · generalize (transaction _ db).2 = final at done ⊢
    unfold acknowledgeTx at done
    split at done
    · cases done
    next row found =>
      obtain ⟨member, rfl⟩ := findHandoff_some found
      split at done
      · cases done
      next receiver =>
        obtain rfl : row.toParticipant = participant := by simpa using receiver
        split at done
        · obtain ⟨_, rfl⟩ := Prod.mk.inj (Except.ok.inj done)
          exact .none
        next pending =>
          simp only [bind_ok, pure_ok, Prod.mk.injEq] at done
          obtain ⟨⟨receipt, stored⟩, appended, _, rfl⟩ := done
          obtain ⟨loaded, reads, frame, acks⟩ := ackEvents_append appended
          dsimp only at frame
          rw [frame]
          have text (key value : String) (time : key ≠ "ledger_at") (commit : key ≠ "source_commit")
              (held : (Json.dict (handoffAckEvent row row.toParticipant env.now)).get? key = some (.str value)) :
              eventText? loaded key = some value ∧ eventText loaded key = value := by
            rw [reads.text? time commit, reads.text time commit, held]
            exact ⟨rfl, rfl⟩
          refine .ack row loaded member pending ?_ ?_ ?_ fun id => ?_
          · exact (text _ _ (by decide) (by decide) (by simp [handoffAckEvent])).2
          · exact (text _ _ (by decide) (by decide) (by simp [handoffAckEvent])).2
          · exact (text _ _ (by decide) (by decide) (by simp [handoffAckEvent])).1
          · have typed := (text "event_type" "MODEL_BRIDGE_HANDOFF_ACK" (by decide) (by decide)
              (by simp [handoffAckEvent])).2
            have named := (text "handoff_id" row.handoffId (by decide) (by decide) (by simp [handoffAckEvent])).2
            have same : isAck id loaded = decide (id = row.handoffId) := by
              rw [isAck, typed, named, beq_self_eq_true, Bool.true_and]
              exact decide_eq_decide.mpr eq_comm
            rw [acks, same]
            simp only [decide_eq_true_eq]

/-- Whatever the call, it changes the store in one of these ways. -/
theorem BridgeCall.change (b : Bridge) (call : BridgeCall) : Change b.validated b.db call (call.after host b).db := by
  cases call with
  | registerContractArtifact env kind version content createdBy =>
    exact registerContractArtifact_change b.validated kind version content createdBy
  | validateContractRegistry contract =>
    simp only [BridgeCall.after]
    split <;> exact .none
  | createModelSession env sessionId protocolVersion contract frozenContractHash participants createdBy =>
    simp only [BridgeCall.after]
    split
    next listed =>
      exact createSessionTx_change (List.contains_iff_mem.mp listed) sessionId protocolVersion frozenContractHash
        participants createdBy
    · exact .none
  | appendModelHandoff env sessionId fromParticipant toParticipant parentHandoffId payload expectedContractHash =>
    exact appendModelHandoff_change b.validated sessionId fromParticipant toParticipant parentHandoffId payload
      expectedContractHash
  | listModelInbox => exact .none
  | acknowledgeModelHandoff env handoffId participant =>
    exact acknowledgeModelHandoff_change b.validated handoffId participant

/-! ## What every call keeps -/

theorem Resolves.later {contract : FrozenContract} (resolves : Resolves db contract) {more : List ContractArtifact}
    (grown : db'.contractArtifacts = db.contractArtifacts ++ more) : Resolves db' contract := by
  intro field listed
  obtain ⟨artifactHash, artifact, held, found, kind⟩ := resolves field listed
  refine ⟨artifactHash, artifact, held, ?_, kind⟩
  unfold findArtifact at found ⊢
  rw [grown, List.find?_append, found, Option.some_or]

theorem Frozen.later {session : ModelSession} (frozen : Frozen db session) {more : List ContractArtifact}
    (grown : db'.contractArtifacts = db.contractArtifacts ++ more) : Frozen db' session := by
  obtain ⟨⟨contract, stored, resolves⟩, participants⟩ := frozen
  exact ⟨⟨contract, stored, resolves.later grown⟩, participants⟩

/-- A field that a fold over the fields has not noted resolves. -/
theorem noteFault_none {contract : FrozenContract} {fields : List (String × String)} {faults final : RegistryFaults}
    (noted : fields.foldlM (noteFault db contract) faults = .ok final) (missing : final.missing = [])
    (wrong : final.wrong = []) : faults.missing = [] ∧ faults.wrong = [] ∧
      ∀ field ∈ fields, ∃ artifactHash artifact, Dict.get? field.1 (Dict.ofPairs contract) = some artifactHash ∧
        findArtifact db artifactHash = some artifact ∧ artifact.kind = field.2 := by
  induction fields generalizing faults with
  | nil =>
    obtain rfl := Except.ok.inj noted
    exact ⟨missing, wrong, by simp⟩
  | cons field rest ih =>
    rw [List.foldlM_cons, bind_ok] at noted
    obtain ⟨next, first, others⟩ := noted
    obtain ⟨noMissing, noWrong, resolved⟩ := ih others
    unfold noteFault at first
    split at first
    · cases first
    next artifactHash held =>
      rw [bind_ok] at first
      obtain ⟨found, read, first⟩ := first
      split at first
      · obtain rfl := Except.ok.inj first
        simp at noMissing
      next artifact content =>
        split at first
        · obtain rfl := Except.ok.inj first
          simp at noWrong
        next kind =>
          obtain rfl := Except.ok.inj first
          refine ⟨noMissing, noWrong, fun other listed => ?_⟩
          rcases List.mem_cons.mp listed with rfl | listed
          · refine ⟨artifactHash, artifact, held, ?_, by simpa using kind⟩
            unfold getContractArtifact at read
            split at read
            · cases read
            next row found =>
              split at read
              · obtain ⟨rfl, _⟩ := Prod.mk.inj (Option.some.inj (Except.ok.inj read))
                exact found
              · cases read
          · exact resolved other listed

theorem validateContractRegistry_ok {contract : FrozenContract}
    (validated : validateContractRegistry db contract = .ok ()) : Resolves db contract := by
  simp only [validateContractRegistry, bind_ok, last_guard_ok, Bool.or_eq_true, not_or, Bool.not_eq_true',
    Bool.not_eq_false, List.isEmpty_iff] at validated
  obtain ⟨faults, noted, ⟨missing, wrong⟩, _⟩ := validated
  exact (noteFault_none noted missing wrong).2.2

/-- An acknowledgement changes the status of a handoff and its time, and nothing else. -/
theorem ackRow_frame (handoffId ackedAt : String) (h : ModelHandoff) :
    ackRow handoffId ackedAt h =
      { h with status := (ackRow handoffId ackedAt h).status, ackedAt := (ackRow handoffId ackedAt h).ackedAt } := by
  unfold ackRow
  split <;> rfl

theorem ackRow_other {handoffId ackedAt : String} {h : ModelHandoff} (other : h.handoffId ≠ handoffId) :
    ackRow handoffId ackedAt h = h := by
  simp [ackRow, other]

theorem ackRow_self {h : ModelHandoff} (ackedAt : String) (pending : h.status = .pending) :
    ackRow h.handoffId ackedAt h = { h with status := .acked, ackedAt := some ackedAt } := by
  simp [ackRow, pending]

/-- A handoff of one store is one of another, up to its acknowledgement. -/
structure Continues (h h' : ModelHandoff) : Prop where
  handoffId : h'.handoffId = h.handoffId
  sessionId : h'.sessionId = h.sessionId
  sessionSeq : h'.sessionSeq = h.sessionSeq

theorem continues_ackRow (handoffId ackedAt : String) (h : ModelHandoff) :
    Continues h (ackRow handoffId ackedAt h) := by
  constructor <;> rw [ackRow_frame]

theorem Proper.later {h : ModelHandoff} (proper : Proper db h)
    (sessions : ∀ session ∈ db.modelSessions, session ∈ db'.modelSessions)
    (handoffs : ∀ parent ∈ db.modelHandoffs, ∃ parent' ∈ db'.modelHandoffs, Continues parent parent') :
    Proper db' h := by
  refine ⟨?_, proper.distinct, fun parentId named => ?_, proper.payload⟩
  · obtain ⟨session, member, facts⟩ := proper.session
    exact ⟨session, sessions session member, facts⟩
  · obtain ⟨parent, member, name, same, below⟩ := proper.parent parentId named
    obtain ⟨parent', member', continues⟩ := handoffs parent member
    exact ⟨parent', member', continues.handoffId.trans name, continues.sessionId.trans same,
      by rw [continues.sessionSeq]; exact below⟩

theorem Proper.ackRow {h : ModelHandoff} (proper : Proper db h) (handoffId ackedAt : String) :
    Proper db (ackRow handoffId ackedAt h) := by
  rw [ackRow_frame]
  exact ⟨proper.session, proper.distinct, proper.parent, proper.payload⟩

/-- In a gapless session the next number is one more than the number of handoffs. -/
theorem nextSessionSeq_numbered {sessionId : String} (numbered : (handoffsOf db sessionId).map ModelHandoff.sessionSeq =
    List.range' 1 (handoffsOf db sessionId).length) :
    nextSessionSeq db sessionId = (handoffsOf db sessionId).length + 1 := by
  have last (n k : Nat) : (List.range' (k + 1) n).foldl max k = k + n := by
    induction n generalizing k with
    | zero => rfl
    | succ n ih => rw [List.range'_succ, List.foldl_cons, max_eq_right (Nat.le_succ k), ih, Nat.succ_add_eq_add_succ]
  unfold nextSessionSeq
  show ((handoffsOf db sessionId).map ModelHandoff.sessionSeq).foldl max 0 + 1 = _
  rw [numbered, last, Nat.zero_add]

theorem AckedOnce.quiet {h : ModelHandoff} (once : AckedOnce db h)
    (quiet : ackEvents h.handoffId db'.ledger = ackEvents h.handoffId db.ledger) : AckedOnce db' h := by
  unfold AckedOnce at once ⊢
  rwa [quiet]

theorem Sessions.artifact (sessions : Sessions db) (row : ContractArtifact) {rows : List LedgerRow}
    (quiet : ∀ id, ackEvents id rows = ackEvents id db.ledger) :
    Sessions { db with contractArtifacts := db.contractArtifacts ++ [row], ledger := rows } where
  frozen session member := (sessions.frozen session member).later rfl
  sessionIds := sessions.sessionIds
  handoffIds := sessions.handoffIds
  numbered := sessions.numbered
  proper h member := (sessions.proper h member).later (fun _ => id) fun parent member => ⟨parent, member, rfl, rfl, rfl⟩
  ackedOnce h member := (sessions.ackedOnce h member).quiet (quiet _)
  unacked id absent := (quiet id).trans (sessions.unacked id absent)

theorem Sessions.session (sessions : Sessions db) {row : ModelSession} {rows : List LedgerRow}
    (frozen : Frozen db row) (fresh : ∀ s ∈ db.modelSessions, s.sessionId ≠ row.sessionId)
    (quiet : ∀ id, ackEvents id rows = ackEvents id db.ledger) :
    Sessions { db with modelSessions := db.modelSessions ++ [row], ledger := rows } where
  frozen session member := by
    rcases List.mem_append.mp member with earlier | last
    · exact (sessions.frozen session earlier).later (List.append_nil _).symm
    · obtain rfl := List.mem_singleton.mp last
      exact frozen.later (List.append_nil _).symm
  sessionIds := by
    rw [List.map_append, List.nodup_append]
    refine ⟨sessions.sessionIds, List.nodup_singleton _, ?_⟩
    rintro _ earlier _ last rfl
    obtain ⟨s, member, named⟩ := List.mem_map.mp earlier
    exact fresh s member (named.trans (List.mem_singleton.mp last))
  handoffIds := sessions.handoffIds
  numbered := sessions.numbered
  proper h member := (sessions.proper h member).later (fun _ => List.mem_append_left _)
    fun parent member => ⟨parent, member, rfl, rfl, rfl⟩
  ackedOnce h member := (sessions.ackedOnce h member).quiet (quiet _)
  unacked id absent := (quiet id).trans (sessions.unacked id absent)

theorem Sessions.handoff (sessions : Sessions db) {row : ModelHandoff} {rows : List LedgerRow} (proper : Proper db row)
    (number : row.sessionSeq = nextSessionSeq db row.sessionId) (pending : row.status = .pending)
    (fresh : ∀ h ∈ db.modelHandoffs, h.handoffId ≠ row.handoffId)
    (quiet : ∀ id, ackEvents id rows = ackEvents id db.ledger) :
    Sessions { db with modelHandoffs := db.modelHandoffs ++ [row], ledger := rows } where
  frozen session member := (sessions.frozen session member).later (List.append_nil _).symm
  sessionIds := sessions.sessionIds
  handoffIds := by
    rw [List.map_append, List.nodup_append]
    refine ⟨sessions.handoffIds, List.nodup_singleton _, ?_⟩
    rintro _ earlier _ last rfl
    obtain ⟨h, member, named⟩ := List.mem_map.mp earlier
    exact fresh h member (named.trans (List.mem_singleton.mp last))
  numbered sessionId := by
    have before := sessions.numbered sessionId
    unfold handoffsOf at before ⊢
    rw [List.filter_append, List.map_append, before]
    by_cases mine : row.sessionId = sessionId
    · subst mine
      have own : [row].filter (fun h => h.sessionId == row.sessionId) = [row] := by simp
      have number' := number.trans (nextSessionSeq_numbered (sessions.numbered row.sessionId))
      rw [own, List.map_singleton, number', List.length_append, List.length_singleton, List.range'_concat, Nat.one_mul,
        Nat.add_comm 1, handoffsOf]
    · rw [List.filter_cons_of_neg (by simpa using mine), List.filter_nil, List.map_nil, List.append_nil,
        List.append_nil]
  proper h member := by
    have later {h : ModelHandoff} (proper : Proper db h) :
        Proper { db with modelHandoffs := db.modelHandoffs ++ [row], ledger := rows } h :=
      proper.later (fun _ => id) fun parent member => ⟨parent, List.mem_append_left _ member, rfl, rfl, rfl⟩
    rcases List.mem_append.mp member with earlier | last
    · exact later (sessions.proper h earlier)
    · obtain rfl := List.mem_singleton.mp last
      exact later proper
  ackedOnce h member := by
    rcases List.mem_append.mp member with earlier | last
    · exact (sessions.ackedOnce h earlier).quiet (quiet _)
    · obtain rfl := List.mem_singleton.mp last
      rw [AckedOnce, pending]
      exact (quiet _).trans (sessions.unacked _ fresh)
  unacked id absent := (quiet id).trans (sessions.unacked id fun h member => absent h (List.mem_append_left _ member))

theorem Sessions.ack (sessions : Sessions db) {row : ModelHandoff} {event : Json} {ackedAt : String}
    {rows : List LedgerRow} (member : row ∈ db.modelHandoffs) (pending : row.status = .pending)
    (participant : eventText event "participant_id" = row.toParticipant)
    (session : eventText event "session_id" = row.sessionId) (time : eventText? event "acked_at" = some ackedAt)
    (acks : ∀ id, ackEvents id rows = ackEvents id db.ledger ++ if id = row.handoffId then [event] else []) :
    Sessions { db with modelHandoffs := db.modelHandoffs.map (ackRow row.handoffId ackedAt), ledger := rows } where
  frozen s listed := (sessions.frozen s listed).later (List.append_nil _).symm
  sessionIds := sessions.sessionIds
  handoffIds := by
    have same : ModelHandoff.handoffId ∘ ackRow row.handoffId ackedAt = ModelHandoff.handoffId :=
      funext fun h => (continues_ackRow row.handoffId ackedAt h).handoffId
    rw [List.map_map, same]
    exact sessions.handoffIds
  numbered sessionId := by
    have before := sessions.numbered sessionId
    unfold handoffsOf at before ⊢
    have kept : (fun h : ModelHandoff => h.sessionId == sessionId) ∘ ackRow row.handoffId ackedAt =
        fun h => h.sessionId == sessionId :=
      funext fun h => congrArg (· == sessionId) (continues_ackRow row.handoffId ackedAt h).sessionId
    have same : ModelHandoff.sessionSeq ∘ ackRow row.handoffId ackedAt = ModelHandoff.sessionSeq :=
      funext fun h => (continues_ackRow row.handoffId ackedAt h).sessionSeq
    rw [List.filter_map, kept, List.map_map, same, List.length_map]
    exact before
  proper h listed := by
    obtain ⟨earlier, found, rfl⟩ := List.mem_map.mp listed
    refine ((sessions.proper earlier found).ackRow row.handoffId ackedAt).later (fun _ => id) fun parent known => ?_
    exact ⟨_, List.mem_map_of_mem known, continues_ackRow row.handoffId ackedAt parent⟩
  ackedOnce h listed := by
    obtain ⟨earlier, found, rfl⟩ := List.mem_map.mp listed
    have once := sessions.ackedOnce earlier found
    by_cases own : earlier.handoffId = row.handoffId
    · obtain rfl : earlier = row := List.inj_on_of_nodup_map sessions.handoffIds found member own
      rw [AckedOnce, pending] at once
      rw [ackRow_self ackedAt pending, AckedOnce]
      refine ⟨event, ?_, participant, session, time⟩
      rw [acks, once, if_pos rfl, List.nil_append]
    · rw [ackRow_other own]
      exact once.quiet (by rw [acks, if_neg own, List.append_nil])
  unacked id absent := by
    have none : ∀ h ∈ db.modelHandoffs, h.handoffId ≠ id := fun h known => by
      have other := absent _ (List.mem_map_of_mem known)
      rwa [(continues_ackRow row.handoffId ackedAt h).handoffId] at other
    rw [acks, if_neg (none row member).symm, List.append_nil]
    exact sessions.unacked id none

/-- The sessions, with the contracts whose validation has passed. -/
structure Bridge.Sound (b : Bridge) : Prop where
  sessions : Sessions b.db
  validated : ∀ contract ∈ b.validated, Resolves b.db contract

theorem Sessions.empty : Sessions Database.empty where
  frozen _ member := absurd member List.not_mem_nil
  sessionIds := List.nodup_nil
  handoffIds := List.nodup_nil
  numbered _ := rfl
  proper _ member := absurd member List.not_mem_nil
  ackedOnce _ member := absurd member List.not_mem_nil
  unacked _ _ := rfl

theorem Sessions.change {validated : List FrozenContract} {call : BridgeCall} (sessions : Sessions db)
    (resolved : ∀ contract ∈ validated, Resolves db contract) (changed : Change validated db call db') :
    Sessions db' := by
  cases changed with
  | none => exact sessions
  | artifact row quiet => exact sessions.artifact row quiet
  | session row contract participants listed contractText participantsText fresh quiet =>
    exact sessions.session ⟨⟨contract, contractText, resolved contract listed⟩, participants,
      participantsText⟩ fresh quiet
  | handoff row proper number pending fresh quiet => exact sessions.handoff proper number pending fresh quiet
  | ack row event member pending participant session time acks =>
    exact sessions.ack member pending participant session time acks

/-- What no call takes back: artifacts and sessions stay, and a pending handoff is
acknowledged by its receiver alone. -/
structure Kept (call : BridgeCall) (db db' : Database) : Prop where
  artifacts : ∃ more, db'.contractArtifacts = db.contractArtifacts ++ more
  sessions : ∃ more, db'.modelSessions = db.modelSessions ++ more
  handoffs : ∀ h ∈ db.modelHandoffs, h ∈ db'.modelHandoffs ∨
    ∃ env : Surroundings, call = .acknowledgeModelHandoff env h.handoffId h.toParticipant ∧ h.status = .pending ∧
      { h with status := .acked, ackedAt := some env.now } ∈ db'.modelHandoffs
  added : ∀ h' ∈ db'.modelHandoffs, (∃ h ∈ db.modelHandoffs, h.handoffId = h'.handoffId) ∨ h'.status = .pending

theorem Change.kept {validated : List FrozenContract} {call : BridgeCall}
    (handoffIds : (db.modelHandoffs.map ModelHandoff.handoffId).Nodup) (changed : Change validated db call db') :
    Kept call db db' := by
  have stay : ∃ more, db.contractArtifacts = db.contractArtifacts ++ more := ⟨[], (List.append_nil _).symm⟩
  have remain : ∃ more, db.modelSessions = db.modelSessions ++ more := ⟨[], (List.append_nil _).symm⟩
  have known (h) (member : h ∈ db.modelHandoffs) : ∃ earlier ∈ db.modelHandoffs, earlier.handoffId = h.handoffId :=
    ⟨h, member, rfl⟩
  cases changed with
  | none => exact ⟨stay, remain, fun h => .inl, fun h member => .inl (known h member)⟩
  | artifact row quiet => exact ⟨⟨[row], rfl⟩, remain, fun h => .inl, fun h member => .inl (known h member)⟩
  | session row contract participants listed contractText participantsText fresh quiet =>
    exact ⟨stay, ⟨[row], rfl⟩, fun h => .inl, fun h member => .inl (known h member)⟩
  | handoff row proper number pending fresh quiet =>
    refine ⟨stay, remain, fun h member => .inl (List.mem_append_left _ member), fun h member => ?_⟩
    rcases List.mem_append.mp member with earlier | last
    · exact .inl (known h earlier)
    · obtain rfl := List.mem_singleton.mp last
      exact .inr pending
  | @ack env row event rows member pending participant session time acks =>
    refine ⟨stay, remain, fun h listed => ?_, fun h listed => ?_⟩
    · have marked := List.mem_map_of_mem (f := ackRow row.handoffId env.now) listed
      by_cases own : h.handoffId = row.handoffId
      · obtain rfl : h = row := List.inj_on_of_nodup_map handoffIds listed member own
        rw [ackRow_self env.now pending] at marked
        exact .inr ⟨env, rfl, pending, marked⟩
      · rw [ackRow_other own] at marked
        exact .inl marked
    · obtain ⟨earlier, found, rfl⟩ := List.mem_map.mp listed
      exact .inl ⟨earlier, found, (continues_ackRow row.handoffId env.now earlier).handoffId.symm⟩

theorem Bridge.Sound.after {b : Bridge} (sound : b.Sound) (call : BridgeCall) : (call.after host b).Sound := by
  have changed := @BridgeCall.change host b call
  obtain ⟨more, grown⟩ := (changed.kept sound.sessions.handoffIds).artifacts
  refine ⟨sound.sessions.change sound.validated changed, fun contract listed => ?_⟩
  by_cases earlier : contract ∈ b.validated
  · exact (sound.validated contract earlier).later grown
  · cases call with
    | validateContractRegistry tried =>
      simp only [BridgeCall.after] at listed ⊢
      split at listed
      next passed =>
        obtain rfl := List.mem_singleton.mp ((List.mem_append.mp listed).resolve_left earlier)
        exact validateContractRegistry_ok passed
      · exact absurd listed earlier
    | createModelSession =>
      simp only [BridgeCall.after] at listed
      split at listed <;> exact absurd listed earlier
    | _ => exact absurd listed earlier

def Bridge.empty : Bridge := ⟨Database.empty, []⟩

theorem Bridge.sound_run (calls : List BridgeCall) {b : Bridge} (sound : b.Sound) :
    (calls.foldl (BridgeCall.after host) b).Sound := by
  induction calls generalizing b with
  | nil => exact sound
  | cons call rest ih => exact ih (sound.after call)

/-! ## Inboxes -/

/-- What a listing answers: the pending handoffs to the participant, in order, each with its
payload; where it raises there are no handoffs to the participant at all. -/
def InboxExact (db : Database) (sessionId participant : String) : Except PyError (List (ModelHandoff × Json)) → Prop
  | .ok items => (items.map fun item => item.1.sessionSeq).Pairwise (· < ·) ∧
      (∀ h, h ∈ items.map Prod.fst ↔
        h ∈ db.modelHandoffs ∧ h.sessionId = sessionId ∧ h.toParticipant = participant ∧ h.status = .pending) ∧
      ∀ item ∈ items, JsonText.loads item.1.payloadJson = some item.2
  | .error _ => ∀ h ∈ db.modelHandoffs, h.sessionId = sessionId → h.toParticipant ≠ participant

theorem loadsText_ok {text : String} {v : Json} : loadsText text = .ok v ↔ JsonText.loads text = some v := by
  unfold loadsText
  split <;> simp_all

/-- The pending handoffs to a participant stand in the order of their numbers. -/
theorem Sessions.pending_ordered (sessions : Sessions db) (sessionId participant : String) :
    ((db.modelHandoffs.filter (awaits sessionId participant)).map ModelHandoff.sessionSeq).Pairwise (· < ·) := by
  have sub : (db.modelHandoffs.filter (awaits sessionId participant)).Sublist (handoffsOf db sessionId) := by
    refine List.monotone_filter_right _ fun h => ?_
    simp only [awaits, Bool.and_eq_true]
    exact fun held => held.1.1
  refine List.Pairwise.sublist (sub.map ModelHandoff.sessionSeq) ?_
  rw [sessions.numbered]
  exact List.pairwise_lt_range' _

theorem mem_pending {sessionId participant : String} {h : ModelHandoff} :
    h ∈ db.modelHandoffs.filter (awaits sessionId participant) ↔
      h ∈ db.modelHandoffs ∧ h.sessionId = sessionId ∧ h.toParticipant = participant ∧ h.status = .pending := by
  simp [awaits, and_assoc]

theorem withPayload_ok {row : ModelHandoff} {item : ModelHandoff × Json} (read : withPayload row = .ok item) :
    item.1 = row ∧ JsonText.loads item.1.payloadJson = some item.2 := by
  simp only [withPayload, bind_ok, pure_ok] at read
  obtain ⟨payload, loaded, rfl⟩ := read
  exact ⟨rfl, loadsText_ok.mp loaded⟩

/-- A handoff of a session is listed without an error. -/
theorem Sessions.listing_ok (sessions : Sessions db) {h : ModelHandoff} (member : h ∈ db.modelHandoffs) :
    ∃ items, listModelInbox h.sessionId h.toParticipant db = .ok items := by
  have proper := sessions.proper h member
  obtain ⟨session, listed, named, -, ids, enrolled, -, receiver⟩ := proper.session
  have found : findSession db h.sessionId = some session := by
    obtain ⟨other, seen⟩ : ∃ other, findSession db h.sessionId = some other :=
      Option.isSome_iff_exists.mp (List.find?_isSome.mpr ⟨session, listed, beq_iff_eq.mpr named⟩)
    obtain ⟨known, same⟩ := findSession_some seen
    rw [seen, List.inj_on_of_nodup_map sessions.sessionIds known listed (same.trans named.symm)]
  obtain ⟨contract, stored, -⟩ := (sessions.frozen session listed).contract
  have read : loadsText session.contractJson = .ok contract.toJson.norm := by
    rw [loadsText_ok, stored, loads_canonicalJson]
  have each : ∀ row ∈ (db.modelHandoffs.filter (awaits h.sessionId h.toParticipant)).mergeSort
      (fun a b => a.sessionSeq ≤ b.sessionSeq), ∃ item, withPayload row = .ok item := by
    intro row pending
    have known := (mem_pending.mp (List.mem_mergeSort.mp pending)).1
    obtain ⟨payload, stored⟩ := (sessions.proper row known).payload
    refine ⟨(row, (Json.dict payload).norm), ?_⟩
    rw [withPayload, loadsText_ok.mpr (by rw [stored, loads_canonicalJson]), ok_bind]
    rfl
  obtain ⟨items, done⟩ := mapM_ok each
  refine ⟨items, ?_⟩
  simp only [listModelInbox, found]
  rw [read, ok_bind, enrolled, ok_bind, receiver]
  exact done

theorem Sessions.inbox (sessions : Sessions db) (sessionId participant : String) :
    InboxExact db sessionId participant (listModelInbox sessionId participant db) := by
  cases answer : listModelInbox sessionId participant db with
  | error e =>
    rintro h member rfl rfl
    obtain ⟨items, listed⟩ := sessions.listing_ok member
    rw [listed] at answer
    cases answer
  | ok items =>
    simp only [listModelInbox] at answer
    split at answer
    · cases answer
    · simp only [bind_ok, guard_ok] at answer
      obtain ⟨contract, -, ids, -, -, listed⟩ := answer
      have ordered := sessions.pending_ordered sessionId participant
      have sorted : (db.modelHandoffs.filter (awaits sessionId participant)).mergeSort
          (fun a b => a.sessionSeq ≤ b.sessionSeq) = db.modelHandoffs.filter (awaits sessionId participant) :=
        List.mergeSort_of_pairwise ((List.pairwise_map.mp ordered).imp fun below => decide_eq_true (Nat.le_of_lt below))
      rw [sorted] at listed
      have rows : items.map Prod.fst = db.modelHandoffs.filter (awaits sessionId participant) := by
        rw [mapM_map (h := id) (fun read => (withPayload_ok read).1) listed, List.map_id]
      have payloads : items.map (fun item => some item.2) = items.map
          (fun item => JsonText.loads item.1.payloadJson) := by
        rw [mapM_map (g := fun item => some item.2) (h := fun row => JsonText.loads row.payloadJson)
          (fun read => (withPayload_ok read).2 ▸ (withPayload_ok read).1 ▸ rfl) listed, ← rows, List.map_map]
        rfl
      refine ⟨?_, fun h => ?_, fun item member => (List.map_inj_left.mp payloads item member).symm⟩
      · rw [← rows, List.map_map] at ordered
        exact ordered
      · rw [rows, mem_pending]

/-- Sessions after any calls of the bridge, and after one more. -/
theorem bridge_sessions (host : Host) (calls : List BridgeCall) (call : BridgeCall) :
    let b := calls.foldl (BridgeCall.after host) Bridge.empty
    Sessions b.db ∧ (∀ sessionId participant,
        InboxExact b.db sessionId participant (listModelInbox sessionId participant b.db)) ∧
      Kept call b.db (call.after host b).db := by
  have sound : (calls.foldl (BridgeCall.after host) Bridge.empty).Sound :=
    Bridge.sound_run calls ⟨Sessions.empty, fun _ listed => absurd listed List.not_mem_nil⟩
  exact ⟨sound.sessions, sound.sessions.inbox, (BridgeCall.change _ call).kept sound.sessions.handoffIds⟩

end MatVerse
