import MatVerse.AuthReplay
import MatVerse.ServiceWarrants

/-! Requests served side by side: every row of the ledger was appended by one of them, whose
principal signed it and was entitled to it. -/
namespace MatVerse

open Fallible Interleaving

variable {host : Host} {principal : Principal}

/-! ## Each handler -/

section
variable {capability : String}

theorem Handler.once_last {α ρ : Type} {run : Surroundings → Database → Except PyError α × Database}
    {raised : PyError → PyError} {f : α → ρ}
    (one : ∀ env db, (run env db).2 = db ∨ Writes host principal capability db (run env db).2) :
    (Handler.last run raised f).Once (Writes host principal capability) := by
  apply Program.once_call one
  intro a
  cases a <;> trivial

section
variable (event : AppEvent)
    (entitled : ∀ loaded, Reads loaded (event.record host).1 → Entitled principal capability loaded)
include entitled

theorem appendsEvent_once : (appendsEvent host event).Once (Writes host principal capability) :=
  Handler.once_last fun _ _ => appendAppEvent_writes event entitled

theorem holdsEvent_once (status : Nat) (reason : String) (more : Mapping) :
    (holdsEvent host event status reason more).Once (Writes host principal capability) := by
  apply Program.once_call fun _ _ => appendAppEvent_writes event entitled
  intro answer
  cases answer <;> trivial

end

theorem ingress_once (req : Ingress) : (ingress host principal req).Once (Writes host principal "bridge:ingress") := by
  refine appendsEvent_once _ fun loaded reads => ⟨⟨"bridge:ingress", "principal_id", none⟩, ?_, rfl, .inl ?_⟩
  · have typed : eventText? loaded "event_type" = none := by
      by_cases retained : req.retainsPayload = true <;>
        simp [reads.text?, textOf?, AppEvent.record, Ingress.event, retained]
    rw [warrant, typed]
  · by_cases retained : req.retainsPayload = true <;>
      simp [reads.text?, textOf?, AppEvent.record, Ingress.event, retained]

theorem checksRegistry_once {ρ : Type} {contract : FrozenContract} {next : Except PyError Unit → Handler ρ}
    (rest : ∀ checked, (next checked).Once (Writes host principal capability)) (fields : List (String × String))
    (faults : RegistryFaults) :
    (checksRegistry contract next fields faults).Once (Writes host principal capability) := by
  induction fields generalizing faults with
  | nil => exact rest _
  | cons field fields ih =>
    apply Program.once_read
    intro noted
    cases noted with
    | error e => exact rest _
    | ok faults => exact ih faults

theorem createCrossModelSession_once (req : ModelSessionCreate) (uuidHex : String) :
    (createCrossModelSession host principal req uuidHex).Once (Writes host principal "session:create") := by
  unfold createCrossModelSession
  dsimp only
  split
  · trivial
  · apply checksRegistry_once
    intro checked
    cases checked with
    | error e => trivial
    | ok u => exact Handler.once_last fun _ _ => createSessionTx_writes _ _ _ _ _

theorem createCrossModelHandoff_once (req : ModelHandoffCreate) :
    (createCrossModelHandoff host principal req).Once (Writes host principal "handoff:send") := by
  unfold createCrossModelHandoff
  split
  · trivial
  next speaks =>
    have speaks : speaksFor principal req.fromParticipant "handoff:send:any" = true := by simpa using speaks
    split
    · trivial
    · split
      next rejected =>
        refine appendsEvent_once _ fun loaded reads => ?_
        apply entitled_of "MODEL_BRIDGE_HANDOFF_REJECTED" _ (by decide) rfl
        · refine (speaksFor_named speaks).imp (fun named => ?_) (fun any => ⟨_, rfl, any⟩)
          simp [reads.text?, textOf?, AppEvent.record, HandoffRequest.rejectedEvent, handoffWarrant, named]
        · simp [reads.text?, textOf?, AppEvent.record, HandoffRequest.rejectedEvent]
      · exact Handler.once_last fun _ _ => appendModelHandoff_writes _ _ _ _ _ _ speaks

theorem ackCrossModelHandoff_once (handoffId participantId : String) :
    (ackCrossModelHandoff host principal handoffId participantId).Once (Writes host principal "handoff:ack") := by
  unfold ackCrossModelHandoff
  split
  · trivial
  next speaks =>
    exact Handler.once_last fun _ _ => acknowledgeModelHandoff_writes _ _ (by simpa using speaks)

theorem federationRoute_once (routed : Except PyError (String × EvidenceReceipt)) :
    (federationRoute host principal routed).Once (Writes host principal "federation:route") := by
  cases routed with
  | error e => trivial
  | ok routed =>
    refine appendsEvent_once _ fun loaded reads => ?_
    apply entitled_of "FEDERATION_ROUTE" _ (by decide) rfl
    · exact .inl (by simp [reads.text?, textOf?, AppEvent.record, federationRouteEvent])
    · simp [reads.text?, textOf?, AppEvent.record, federationRouteEvent]

theorem provider_entitled {loaded : Json} {event : Mapping} (eventType : String) (reads : Reads loaded event)
    (typed : textOf? ((Json.dict event).get? "event_type") = some eventType)
    (other : eventType ≠ keyRegistered) (listed : warrants.lookup eventType = some providerWarrant)
    (named : textOf? ((Json.dict event).get? "principal_id") = some principal.principalId) :
    Entitled principal "provider:openai:invoke" loaded :=
  entitled_of eventType ((reads.text? (by simp) (by simp)).trans typed) other listed
    (.inl ((reads.text? (by simp [providerWarrant]) (by simp [providerWarrant])).trans named))

theorem openaiResponse_once (outcome : ProviderOutcome) :
    (openaiResponse host principal outcome).Once (Writes host principal "provider:openai:invoke") := by
  cases outcome with
  | configurationHold reason =>
    refine holdsEvent_once _ (fun loaded reads => ?_) _ _ _
    apply provider_entitled "OPENAI_PROVIDER_CONFIGURATION_HOLD" reads _ (by decide) rfl <;>
      simp [textOf?, AppEvent.record, configurationHoldEvent]
  | invalid message => trivial
  | failure failure =>
    refine holdsEvent_once _ (fun loaded reads => ?_) _ _ _
    apply provider_entitled "OPENAI_PROVIDER_FAILURE" reads _ (by decide) rfl <;>
      simp [textOf?, AppEvent.record, ProviderFailure.event]
  | secretPlaneHold errorType =>
    refine holdsEvent_once _ (fun loaded reads => ?_) _ _ _
    apply provider_entitled "OPENAI_SECRET_PLANE_HOLD" reads _ (by decide) rfl <;>
      simp [textOf?, AppEvent.record, secretPlaneHoldEvent]
  | answered result humanDeclared =>
    refine appendsEvent_once _ fun loaded reads => ?_
    rw [AppEvent.record, BrokerResult.record] at reads
    split at reads
    · apply provider_entitled "OPENAI_RESPONSE" reads _ (by decide) rfl <;>
        simp [textOf?, BrokerResult.responseEvent, BrokerResult.auditableInput, BrokerResult.auditableOutput]
    · apply provider_entitled "OPENAI_PROVIDER_EXPOSURE_REJECTED" reads _ (by decide) rfl <;>
        simp [textOf?, BrokerResult.exposureRejectedEvent, BrokerResult.auditableInput]

theorem registerRecord_once (fields : AuthorityKeyFields) : (registerRecord host principal fields).Once
    (Writes host principal (keyWarrant fields.previousKeyId).capability) := by
  unfold registerRecord
  split
  · trivial
  next record built =>
    obtain rfl := build_ok built
    exact Handler.once_last fun _ _ => registerKey_writes record

theorem registerGenesisKey_once (authorityId : String) (req : GenesisKeyCreate) :
    (registerGenesisKey host principal authorityId req).Once (Writes host principal "federation:key:register") := by
  unfold registerGenesisKey
  split
  · trivial
  · exact registerRecord_once
      ⟨authorityId, _, req.publicKeyHex, req.validFrom, req.validUntil, none, ed25519Algorithm, none, none⟩

theorem rotated_ok {authorityId : String} {req : RotateKeyCreate} {previous fields : AuthorityKeyFields}
    (built : rotated host authorityId req previous = .ok fields) : fields.previousKeyId = some previous.keyId := by
  simp only [rotated, guard_ok, bind_ok, pure_ok] at built
  obtain ⟨_, _, keyId, _, rfl⟩ := built
  rfl

theorem rotateAuthorityKey_once (authorityId previousKeyId : String) (req : RotateKeyCreate) :
    (rotateAuthorityKey host principal authorityId previousKeyId req).Once
      (Writes host principal "federation:key:rotate") := by
  apply Program.once_read
  intro found
  rcases found with e | _ | previous
  · trivial
  · trivial
  · dsimp only
    split
    · trivial
    next fields built =>
      have once := @registerRecord_once host principal fields
      rwa [rotated_ok built] at once

theorem revokeAuthorityKey_once (authorityId keyId : String) (req : RevokeKeyRequest) :
    (revokeAuthorityKey host principal authorityId keyId req).Once
      (Writes host principal "federation:key:revoke") := by
  apply Program.once_call fun _ _ => revokeKeyTx_writes _ _ _ _
  intro answer
  rcases answer with e | answer | receipt
  · trivial
  · trivial
  · apply Program.silent_read
    intro read
    cases read <;> trivial

theorem bindRelationKeys_once (verify : Ed25519Verify) (relationId : String) (req : RelationKeyBindingCreate) :
    (bindRelationKeys host verify principal relationId req).Once
      (Writes host principal "federation:relation:bind-key") := by
  unfold bindRelationKeys
  split
  · trivial
  · exact Handler.once_last fun _ _ => registerRelationBinding_writes _ _ _ _

theorem lookup_once {α ρ : Type} {look : Database → Except PyError α} {next : Except PyError α → Handler ρ}
    (answers : ∀ a, ∃ result, next a = .answer result) :
    (Program.read look next : Handler ρ).Once (Writes host principal capability) := by
  apply Program.once_read
  intro a
  obtain ⟨result, answer⟩ := answers a
  rw [answer]
  trivial

theorem crossModelInbox_once (sessionId participantId : String) :
    (crossModelInbox host principal sessionId participantId).Once (Writes host principal capability) := by
  unfold crossModelInbox
  dsimp only
  split
  · trivial
  · apply Program.once_read
    intro found
    rcases found with e | _ | session
    · trivial
    · trivial
    · dsimp only
      split
      · trivial
      · split
        · trivial
        · refine lookup_once fun a => ?_
          cases a <;> exact ⟨_, rfl⟩

end

/-- A handler appends at most one row, and the capability of its route is the one the row requires. -/
theorem ServiceRequest.handler_once (request : ServiceRequest) (verify : Ed25519Verify) (given : Given) :
    (request.handler host verify principal given).Once (Writes host principal request.capability) := by
  cases request with
  | createContractArtifact kind version content =>
    exact Handler.once_last fun _ _ => registerContractArtifact_writes kind version content
  | readContractArtifact artifactHash =>
    unfold ServiceRequest.handler MatVerse.readContractArtifact
    refine lookup_once fun a => ?_
    rcases a with _ | _ | _ <;> exact ⟨_, rfl⟩
  | ingress req => exact ingress_once req
  | createCrossModelSession req => exact createCrossModelSession_once req given.uuidHex
  | fetchCrossModelSession sessionId =>
    unfold ServiceRequest.handler MatVerse.fetchCrossModelSession
    refine lookup_once fun a => ?_
    rcases a with _ | _ | _ <;> exact ⟨_, rfl⟩
  | createCrossModelHandoff req => exact createCrossModelHandoff_once req
  | crossModelInbox sessionId participantId => exact crossModelInbox_once sessionId participantId
  | ackCrossModelHandoff handoffId participantId => exact ackCrossModelHandoff_once handoffId participantId
  | federationRoute => exact federationRoute_once given.routed
  | openaiResponse => exact openaiResponse_once given.provided
  | registerGenesisKey authorityId req => exact registerGenesisKey_once authorityId req
  | rotateAuthorityKey authorityId previousKeyId req => exact rotateAuthorityKey_once authorityId previousKeyId req
  | revokeAuthorityKey authorityId keyId req => exact revokeAuthorityKey_once authorityId keyId req
  | readAuthorityKey keyId =>
    unfold ServiceRequest.handler MatVerse.readAuthorityKey
    refine lookup_once fun a => ?_
    rcases a with _ | _ | _ <;> exact ⟨_, rfl⟩
  | bindRelationKeys relationId req => exact bindRelationKeys_once verify relationId req
  | readRelationBinding relationId =>
    unfold ServiceRequest.handler MatVerse.readRelationBinding
    refine lookup_once fun a => ?_
    rcases a with _ | _ | _ <;> exact ⟨_, rfl⟩

/-! ## Serving -/

/-- The framework's routing: the request with a body that its validation accepted, or the
capability of a route whose body it refuses. -/
inductive Routed where
  | valid (request : ServiceRequest)
  | invalid (capability : String)

def Routed.capability : Routed → String
  | .valid request => request.capability
  | .invalid capability => capability

/-- A request that was let in. -/
structure Caller where
  call : AuthCall
  request : ServiceRequest
  principal : Principal

abbrev Serving (host : Host) := Pool Caller Database Surroundings (Except PyError (ServiceAnswer host)) LedgerRow

inductive ServingEvent where
  | arrive (call : AuthCall) (given : Given)
  | advance (place : Nat) (env : Surroundings)

section
variable (host : Host) (verify : Ed25519Verify) (route : HttpRequest → Option Routed)

/-- The principal is authenticated before the body is validated; a request without a route, or
without readable JSON, is answered before both. -/
def arrive (s : Serving host) (call : AuthCall) (given : Given) : Serving host :=
  match route call.request with
  | none => s
  | some routed =>
    match requireCapability host routed.capability false s.shared call with
    | (.error _, db) => { s with shared := db }
    | (.ok principal, db) =>
      match routed with
      | .invalid _ => { s with shared := db }
      | .valid request => s.join db ⟨call, request, principal⟩ (request.handler host verify principal given)

def serveEvent (s : Serving host) : ServingEvent → Serving host
  | .arrive call given => arrive host verify route s call given
  | .advance place env => s.advance Database.ledger place env

def serve (events : List ServingEvent) : Serving host :=
  events.foldl (serveEvent host verify route) ⟨Database.empty, []⟩

/-- The principal of a caller signed the request that was routed, and holds its capability. -/
structure Caller.Admitted (caller : Caller) : Prop where
  signed : ∃ signed, checkSignedRequest host caller.call = .ok signed ∧ principalOf signed = .ok caller.principal
  routed : route caller.call.request = some (.valid caller.request)
  held : caller.principal.allows caller.request.capability = true

/-- What every state of the service satisfies. -/
structure Serving.Inv (s : Serving host) : Prop where
  history : History host s.shared
  sound : s.Sound Database.ledger
    (fun caller => Writes host caller.principal caller.request.capability)
    (fun caller => Authored caller.principal caller.request.capability)
  admitted : ∀ caller ∈ s.jobs.map Job.owner, caller.Admitted host route

end

variable {db db' : Database} {verify : Ed25519Verify} {route : HttpRequest → Option Routed}

theorem authenticate_frame (remote : Bool) (db : Database) (call : AuthCall) :
    ∃ nonces, (authenticate host remote db call).2 = { db with authNonces := nonces } := by
  have consumed (now : Int) (principalId nonce : String) (expiresAt : Int) :
      ∃ nonces, (consumeAuthNonce remote now db principalId nonce expiresAt).2 = { db with authNonces := nonces } := by
    cases remote with
    | false =>
      simp only [consumeAuthNonce, Bool.false_eq_true, if_false, consumeLocalAuthNonce]
      split_ifs <;> exact ⟨_, rfl⟩
    | true =>
      simp only [consumeAuthNonce, if_true, consumeDurableNonce]
      split_ifs <;> exact ⟨_, rfl⟩
  unfold authenticate
  split
  · exact ⟨_, rfl⟩
  next signed _ =>
    obtain ⟨nonces, frame⟩ :=
      consumed call.purgeNow signed.principalId signed.nonce (signed.timestamp + authWindowSeconds)
    refine ⟨nonces, ?_⟩
    split <;> simp_all

theorem requireCapability_frame (capability : String) (remote : Bool) (db : Database) (call : AuthCall) :
    ∃ nonces, (requireCapability host capability remote db call).2 = { db with authNonces := nonces } := by
  obtain ⟨nonces, frame⟩ := @authenticate_frame host remote db call
  refine ⟨nonces, ?_⟩
  rw [← frame]
  unfold requireCapability
  split
  next failed => rw [failed]
  next answered =>
    rw [answered]
    split <;> rfl

theorem requireCapability_ok {capability : String} {remote : Bool} {call : AuthCall}
    (done : requireCapability host capability remote db call = (.ok principal, db')) :
    authenticate host remote db call = (.ok principal, db') ∧ principal.allows capability = true := by
  unfold requireCapability at done
  split at done
  · cases done
  next answered =>
    split at done
    next held =>
      cases done
      exact ⟨answered, held⟩
    · cases done

theorem History.frame (history : History host db) (nonces : List AuthNonce) :
    History host { db with authNonces := nonces } :=
  ⟨history.chain, history.tables, history.numbered, history.decided⟩

theorem writes_append : Appends Database.ledger
    (fun caller : Caller => Writes host caller.principal caller.request.capability)
    (fun caller => Authored caller.principal caller.request.capability) :=
  fun _ _ _ ⟨row, recorded, authored⟩ => ⟨row, recorded.ledger, authored⟩

theorem Serving.Inv.frame {s : Serving host} (inv : s.Inv host route) (nonces : List AuthNonce) :
    Serving.Inv host route { s with shared := { s.shared with authNonces := nonces } } :=
  ⟨inv.history.frame nonces, ⟨inv.sound.split, inv.sound.jobs⟩, inv.admitted⟩

/-- A request that is let in has been signed, and its principal holds the capability of its route. -/
theorem Serving.Inv.arrive {s : Serving host} (inv : s.Inv host route) (call : AuthCall) (given : Given) :
    (arrive host verify route s call given).Inv host route := by
  unfold MatVerse.arrive
  split
  · exact inv
  next routed found =>
    obtain ⟨nonces, frame⟩ := @requireCapability_frame host routed.capability false s.shared call
    cases answered : requireCapability host routed.capability false s.shared call with
    | mk answer db =>
      rw [answered] at frame
      obtain rfl : db = { s.shared with authNonces := nonces } := frame
      cases answer with
      | error e => exact inv.frame nonces
      | ok principal =>
        cases routed with
        | invalid capability => exact inv.frame nonces
        | valid request =>
          obtain ⟨accepted, held⟩ := requireCapability_ok answered
          obtain ⟨signed, checked, _, named⟩ := authenticate_ok accepted
          refine ⟨inv.history.frame nonces, inv.sound.join rfl (request.handler_once verify given), ?_⟩
          intro caller member
          simp only [Pool.join, List.map_append, List.mem_append] at member
          rcases member with earlier | last
          · exact inv.admitted caller earlier
          · obtain rfl := List.mem_singleton.mp last
            exact ⟨⟨signed, checked, named⟩, found, held⟩

theorem Serving.Inv.event {s : Serving host} (inv : s.Inv host route) (event : ServingEvent) :
    (serveEvent host verify route s event).Inv host route := by
  cases event with
  | arrive call given => exact inv.arrive call given
  | advance place env =>
    obtain ⟨sound, changed⟩ := inv.sound.advance writes_append place env
    refine ⟨?_, sound, ?_⟩
    · rcases changed with same | ⟨job, _, row, recorded, _⟩
      · exact (congrArg (History host) same).mpr inv.history
      · exact inv.history.recorded recorded
    · simpa only [serveEvent, Pool.advance_owners] using inv.admitted

theorem serve_inv (events : List ServingEvent) : (serve host verify route events).Inv host route := by
  induction events using List.reverseRecOn with
  | nil => exact ⟨History.empty host, ⟨.refl _, by simp [serve]⟩, by simp [serve]⟩
  | append_singleton events event ih =>
    unfold serve at ih ⊢
    rw [List.foldl_append, List.foldl_cons, List.foldl_nil]
    exact ih.event event

/-- Whatever requests are served side by side, in whatever order their transactions come: the
ledger verifies and tells the tables, and each of its rows was appended by one request, which
appended no other. The principal of that request signed it, holds the capability of its route,
which is the one the row requires, and is named in the row or may act for the one named. -/
theorem every_row_authored (verify : Ed25519Verify) (route : HttpRequest → Option Routed)
    (events : List ServingEvent) :
    let s := serve host verify route events
    (∃ head, verifyChain host s.shared.ledger = .ok s.shared.ledger.length head) ∧
      replayTables s.shared.ledger = s.shared.tables ∧
      s.shared.ledger.Perm (s.jobs.flatMap Job.wrote) ∧
      ∀ job ∈ s.jobs, job.wrote.length ≤ 1 ∧ job.owner.Admitted host route ∧
        ∀ row ∈ job.wrote, Authored job.owner.principal job.owner.request.capability row := by
  intro s
  have inv : s.Inv host route := serve_inv events
  refine ⟨⟨_, chainReport_ok.mpr ⟨rfl, inv.history.chain⟩⟩, inv.history.tables, inv.sound.split, ?_⟩
  intro job member
  have sound := inv.sound.jobs job member
  exact ⟨sound.length, inv.admitted _ (List.mem_map_of_mem member), sound.owned⟩

end MatVerse
