import MatVerse.ServiceRuns

/-! Attribution: behind every row of the tables stands a served request, signed by the
principal that the row names or by one that may act for it. -/
namespace MatVerse

open Fallible Interleaving

/-! ## What the ledger vouches for -/

/-- An event of the ledger with a property. -/
def Vouched (rows : List LedgerRow) (property : Json → Prop) : Prop :=
  ∃ row ∈ rows, ∃ event, JsonText.loads row.eventJson = some event ∧ property event

/-- An event of this type that names its author in one field and what it is about in another. -/
def Names (eventType authorField author idField id : String) (event : Json) : Prop :=
  eventText? event "event_type" = some eventType ∧ eventText event authorField = author ∧ eventText event idField = id

def ContractArtifact.Told (a : ContractArtifact) : Json → Prop :=
  Names "CONTRACT_ARTIFACT_REGISTERED" "created_by" a.createdBy "artifact_hash" a.artifactHash

def ModelSession.Told (m : ModelSession) : Json → Prop :=
  Names "MODEL_BRIDGE_SESSION_CREATED" "created_by" m.createdBy "session_id" m.sessionId

def ModelHandoff.Told (h : ModelHandoff) : Json → Prop :=
  Names "MODEL_BRIDGE_HANDOFF" "from_participant" h.fromParticipant "handoff_id" h.handoffId

def AuthorityKeyRow.Told (k : AuthorityKeyRow) (event : Json) : Prop :=
  Names keyRegistered "registered_by" k.registeredBy "key_id" k.keyId event ∧
    eventText? event "previous_key_id" = k.previousKeyId

def AuthorityKeyRow.RevocationTold (k : AuthorityKeyRow) (actor : String) : Json → Prop :=
  Names "FEDERATION_AUTHORITY_KEY_REVOKED" "revoked_by" actor "key_id" k.keyId

def RelationKeyBindingRow.Told (b : RelationKeyBindingRow) : Json → Prop :=
  Names "FEDERATION_RELATION_KEY_BOUND" "bound_by" b.boundBy "relation_id" b.relationId

/-- Every row of the tables is told by an event of the ledger. -/
structure Tables.Vouched (rows : List LedgerRow) (t : Tables) : Prop where
  artifacts : ∀ a ∈ t.contractArtifacts, MatVerse.Vouched rows a.Told
  sessions : ∀ m ∈ t.modelSessions, MatVerse.Vouched rows m.Told
  handoffs : ∀ h ∈ t.modelHandoffs, MatVerse.Vouched rows h.Told
  keys : ∀ k ∈ t.authorityKeys, MatVerse.Vouched rows k.Told
  revocations : ∀ k ∈ t.authorityKeys, ∀ actor ∈ k.revokedBy, MatVerse.Vouched rows (k.RevocationTold actor)
  bindings : ∀ b ∈ t.relationKeyBindings, MatVerse.Vouched rows b.Told

variable {rows : List LedgerRow} {t : Tables} {row : LedgerRow} {event : Json}

theorem Vouched.later {property : Json → Prop} (vouched : Vouched rows property) (more : List LedgerRow) :
    Vouched (rows ++ more) property := by
  obtain ⟨row, member, found⟩ := vouched
  exact ⟨row, List.mem_append_left _ member, found⟩

theorem Tables.Vouched.later (vouched : t.Vouched rows) (more : List LedgerRow) : t.Vouched (rows ++ more) where
  artifacts a member := (vouched.artifacts a member).later more
  sessions m member := (vouched.sessions m member).later more
  handoffs h member := (vouched.handoffs h member).later more
  keys k member := (vouched.keys k member).later more
  revocations k member actor revoked := (vouched.revocations k member actor revoked).later more
  bindings b member := (vouched.bindings b member).later more

theorem eventText?_of {key value : String} (text : eventText event key = value) (nonempty : value ≠ "") :
    eventText? event key = some value := by
  unfold eventText at text
  unfold eventText?
  cases found : textOf? (event.get? key) with
  | none =>
    rw [found] at text
    exact absurd text.symm nonempty
  | some held =>
    rw [found] at text
    exact congrArg some text

/-- What one event adds to the tables, it vouches for. -/
theorem Tables.Vouched.note (vouched : t.Vouched rows) (loaded : JsonText.loads row.eventJson = some event)
    (receiptJson : String) : (t.note (eventText event "event_type") event receiptJson).Vouched (rows ++ [row]) := by
  have earlier := vouched.later [row]
  have here {property : Json → Prop} (holds : property event) : MatVerse.Vouched (rows ++ [row]) property :=
    ⟨row, by simp, event, loaded, holds⟩
  unfold Tables.note
  split
  next typed =>
    have typed := eventText?_of typed (by decide)
    exact { earlier with
      artifacts := List.forall_mem_append.mpr ⟨earlier.artifacts, by simpa using here ⟨typed, rfl, rfl⟩⟩ }
  split
  next typed =>
    have typed := eventText?_of typed (by decide)
    exact { earlier with
      sessions := List.forall_mem_append.mpr ⟨earlier.sessions, by simpa using here ⟨typed, rfl, rfl⟩⟩ }
  split
  next typed =>
    have typed := eventText?_of typed (by decide)
    exact { earlier with
      handoffs := List.forall_mem_append.mpr ⟨earlier.handoffs, by simpa using here ⟨typed, rfl, rfl⟩⟩ }
  split
  next typed =>
    refine { earlier with handoffs := List.forall_mem_map.mpr fun h member => ?_ }
    have kept := earlier.handoffs h member
    unfold ackRow
    split <;> exact kept
  split
  next typed =>
    have typed := eventText?_of typed (by decide)
    exact { earlier with
      keys := List.forall_mem_append.mpr ⟨earlier.keys, by simpa using here ⟨⟨typed, rfl, rfl⟩, rfl⟩⟩
      revocations := List.forall_mem_append.mpr ⟨earlier.revocations, by simp [recordedKey]⟩ }
  split
  next typed =>
    have typed := eventText?_of typed (by decide)
    refine { earlier with
      keys := List.forall_mem_map.mpr fun k member => ?_
      revocations := List.forall_mem_map.mpr fun k member actor revoked => ?_ }
    · have kept := earlier.keys k member
      unfold revokeRow
      split <;> exact kept
    · unfold revokeRow at revoked ⊢
      split at revoked
      next same =>
        simp only [same, if_true]
        obtain rfl : eventText event "revoked_by" = actor := by simpa [AuthorityKeyRow.revoke] using revoked
        exact here ⟨typed, rfl, (beq_iff_eq.mp same).symm⟩
      next other =>
        simp only [other]
        exact earlier.revocations k member actor revoked
  split
  next typed =>
    have typed := eventText?_of typed (by decide)
    exact { earlier with
      bindings := List.forall_mem_append.mpr ⟨earlier.bindings, by simpa using here ⟨typed, rfl, rfl⟩⟩ }
  split
  · exact { earlier with }
  · exact earlier

theorem replayTables_vouched (rows : List LedgerRow) : (replayTables rows).Vouched rows := by
  induction rows using List.reverseRecOn with
  | nil => constructor <;> simp [replayTables, Tables.empty]
  | append_singleton rows row ih =>
    rw [replayTables_append, Tables.record]
    cases loaded : JsonText.loads row.eventJson with
    | none => exact ih.later [row]
    | some event => exact ih.note loaded row.receiptJson

/-! ## Who stands behind a row -/

section
variable (host : Host) (route : HttpRequest → Option Routed)

/-- A served request of a route with this capability appended the event; its principal is the
author, or may act for any. -/
def Serving.Behind (s : Serving host) (told : Json → Prop) (capability author : String) (anyone : Option String) :
    Prop :=
  ∃ job ∈ s.jobs, Vouched job.wrote told ∧ job.owner.Admitted host route ∧
    job.owner.request.capability = capability ∧
    (job.owner.principal.principalId = author ∨ ∃ any ∈ anyone, job.owner.principal.allows any = true)

end

variable {host : Host} {route : HttpRequest → Option Routed} {s : Serving host}

theorem entitled_named {principal : Principal} {capability eventType author idField id : String} {w : Warrant}
    (entitled : Entitled principal capability event) (named : Names eventType w.author author idField id event)
    (warranted : warrant event = some w) :
    w.capability = capability ∧
      (principal.principalId = author ∨ ∃ any ∈ w.anyone, principal.allows any = true) := by
  obtain ⟨found, same, required, allowed⟩ := entitled
  obtain rfl : w = found := Option.some.inj (warranted.symm.trans same)
  refine ⟨required, allowed.imp_left fun text => ?_⟩
  have author := named.2.1
  rw [eventText, ← eventText?, text] at author
  exact author

/-- Behind an event of the ledger stands the request that appended it. -/
theorem Serving.Inv.behind (inv : s.Inv host route) (w : Warrant) {told : Json → Prop}
    {eventType author idField id : String} (vouched : Vouched s.shared.ledger told)
    (named : ∀ event, told event → Names eventType w.author author idField id event ∧ warrant event = some w) :
    s.Behind host route told w.capability author w.anyone := by
  obtain ⟨row, member, event, loaded, holds⟩ := vouched
  obtain ⟨job, listed, wrote⟩ := List.mem_flatMap.mp (inv.sound.split.mem_iff.mp member)
  obtain ⟨found, again, entitled⟩ := (inv.sound.jobs job listed).owned row wrote
  obtain rfl : event = found := Option.some.inj (loaded.symm.trans again)
  obtain ⟨names, warranted⟩ := named event holds
  obtain ⟨required, allowed⟩ := entitled_named entitled names warranted
  exact ⟨job, listed, ⟨row, wrote, event, loaded, holds⟩, inv.admitted _ (List.mem_map_of_mem listed),
    required.symm, allowed⟩

theorem Names.warrant {eventType authorField author idField id : String} {w : Warrant}
    (named : Names eventType authorField author idField id event) (other : eventType ≠ keyRegistered)
    (listed : warrants.lookup eventType = some w) : warrant event = some w := by
  simp [MatVerse.warrant, named.1, other, listed]

theorem AuthorityKeyRow.Told.warrant {key : AuthorityKeyRow} (told : key.Told event) :
    warrant event = some (keyWarrant key.previousKeyId) := by
  simp [MatVerse.warrant, told.1.1, told.2]

/-- Whatever requests are served side by side: behind every row of the tables, and behind every
revocation of a key, stands one served request. It appended the event that tells of the row, its
route required the capability for it, and its principal signed it and is the author that the
row names; a handoff may also be sent by a principal that may act for any participant. -/
theorem tables_attributed (verify : Ed25519Verify) (route : HttpRequest → Option Routed)
    (events : List ServingEvent) :
    let s := serve host verify route events
    (∀ a ∈ s.shared.contractArtifacts, s.Behind host route a.Told "registry:write" a.createdBy none) ∧
      (∀ m ∈ s.shared.modelSessions, s.Behind host route m.Told "session:create" m.createdBy none) ∧
      (∀ h ∈ s.shared.modelHandoffs,
        s.Behind host route h.Told "handoff:send" h.fromParticipant (some "handoff:send:any")) ∧
      (∀ k ∈ s.shared.authorityKeys,
        s.Behind host route k.Told (keyWarrant k.previousKeyId).capability k.registeredBy none ∧
          ∀ actor ∈ k.revokedBy, s.Behind host route (k.RevocationTold actor) "federation:key:revoke" actor none) ∧
      ∀ b ∈ s.shared.relationKeyBindings,
        s.Behind host route b.Told "federation:relation:bind-key" b.boundBy none := by
  intro s
  have inv : s.Inv host route := serve_inv events
  have vouched := replayTables_vouched s.shared.ledger
  rw [inv.history.tables] at vouched
  refine ⟨fun a member => ?_, fun m member => ?_, fun h member => ?_, fun k member => ⟨?_, fun actor revoked => ?_⟩,
    fun b member => ?_⟩
  · exact inv.behind ⟨"registry:write", "created_by", none⟩
      (vouched.artifacts a.recorded (List.mem_map_of_mem member))
      fun event told => ⟨told, told.warrant (by decide) rfl⟩
  · exact inv.behind ⟨"session:create", "created_by", none⟩
      (vouched.sessions m.recorded (List.mem_map_of_mem member))
      fun event told => ⟨told, told.warrant (by decide) rfl⟩
  · exact inv.behind handoffWarrant
      (vouched.handoffs h.recorded (List.mem_map_of_mem member))
      fun event told => ⟨told, told.warrant (by decide) rfl⟩
  · exact inv.behind (keyWarrant k.previousKeyId) (vouched.keys k member) fun event told => ⟨told.1, told.warrant⟩
  · exact inv.behind ⟨"federation:key:revoke", "revoked_by", none⟩
      (vouched.revocations k member actor revoked) fun event told => ⟨told, told.warrant (by decide) rfl⟩
  · exact inv.behind ⟨"federation:relation:bind-key", "bound_by", none⟩
      (vouched.bindings b member) fun event told => ⟨told, told.warrant (by decide) rfl⟩

end MatVerse
