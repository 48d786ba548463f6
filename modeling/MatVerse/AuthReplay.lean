import MatVerse.Auth
import MatVerse.Lib.Run

/-! Replay: whether a signed request can be accepted twice. The window check and the
purge of expired nonces read the clock at different moments. -/
namespace MatVerse

open Fallible

variable {host : Host} {remote : Bool}

/-- Everything a request that passed the signature check satisfies. -/
theorem checkSignedRequest_ok {call : AuthCall} {signed : SignedRequest}
    (checked : checkSignedRequest host call = .ok signed) :
    ∃ registry secret,
      principalRegistry call.principalsJson = .ok registry ∧
      secretOf registry call.request.principalId = some secret ∧
      pyInt call.request.timestamp = some signed.timestamp ∧
      |call.windowNow - signed.timestamp| ≤ authWindowSeconds ∧
      host.sha256 call.request.body = call.request.contentSha256 ∧
      signRequest host secret call.request.method call.request.path call.request.timestamp
        call.request.nonce call.request.contentSha256 = call.request.signature ∧
      signed.principalId = call.request.principalId ∧ signed.nonce = call.request.nonce := by
  simp only [checkSignedRequest, bind_ok, guard_ok] at checked
  obtain ⟨_, registry, read, checked⟩ := checked
  cases enrolled : secretOf registry call.request.principalId with
  | none =>
    rw [enrolled] at checked
    simp [throw_ok] at checked
  | some secret =>
    rw [enrolled] at checked
    cases time : pyInt call.request.timestamp with
    | none =>
      rw [time] at checked
      simp [throw_ok] at checked
    | some ts =>
      rw [time] at checked
      simp only [guard_ok, bind_ok, pure_ok, not_lt] at checked
      obtain ⟨window, _, sameContent, content, isContent, sameSignature, signature, isSignature, rfl⟩ := checked
      simp only [Bool.not_eq_true', Bool.not_eq_false] at isContent isSignature
      subst isContent isSignature
      exact ⟨registry, secret, read, enrolled, rfl, window, compareDigest_true content,
        compareDigest_true signature, rfl, rfl⟩

/-- A well-signed request in its window passes the signature check. -/
theorem checkSignedRequest_of {call : AuthCall} {registry : Json} {secret : String} {ts : Int}
    (present : call.request.principalId ≠ "" ∧ call.request.timestamp ≠ "" ∧ call.request.signature ≠ "")
    (read : principalRegistry call.principalsJson = .ok registry)
    (enrolled : secretOf registry call.request.principalId = some secret)
    (time : pyInt call.request.timestamp = some ts) (window : |call.windowNow - ts| ≤ authWindowSeconds)
    (short : 16 ≤ call.request.nonce.length) (long : call.request.nonce.length ≤ 128)
    (content : call.request.contentSha256 = host.sha256 call.request.body) (nonempty : call.request.contentSha256 ≠ "")
    (signature : call.request.signature = signRequest host secret call.request.method call.request.path
      call.request.timestamp call.request.nonce call.request.contentSha256) :
    checkSignedRequest host call = .ok ⟨call.request.principalId, call.request.nonce, ts,
      (registry.get? call.request.principalId).getD .null⟩ := by
  have nonce : call.request.nonce ≠ "" := by
    intro empty
    rw [empty] at short
    exact absurd short (by decide)
  have sameContent : compareDigest (host.sha256 call.request.body) call.request.contentSha256 = .ok true := by
    rw [content]
    exact compareDigest_digits (host.sha256Digits _)
  have sameSignature : compareDigest (signRequest host secret call.request.method call.request.path
      call.request.timestamp call.request.nonce call.request.contentSha256) call.request.signature = .ok true := by
    rw [signature]
    exact compareDigest_digits (host.hmacDigits _ _)
  have bounded : ¬(call.request.nonce.length < 16 ∨ 128 < call.request.nonce.length) := by omega
  simp [checkSignedRequest, present, nonce, nonempty, read, enrolled, time, not_lt.mpr window, bounded,
    sameContent, sameSignature, ok_bind]
  rfl

/-- A consumed nonce was not stored, and is stored with its expiry. -/
theorem consumeAuthNonce_true {now : Int} {db db' : Database} {principalId nonce : String} {expiresAt : Int}
    (consumed : consumeAuthNonce remote now db principalId nonce expiresAt = (.ok true, db')) :
    hasNonce (purgeNonces now db.authNonces) principalId nonce = false ∧
      db'.authNonces = purgeNonces now db.authNonces ++ [⟨principalId, nonce, expiresAt⟩] := by
  cases remote with
  | false =>
    simp only [consumeAuthNonce, Bool.false_eq_true, if_false, consumeLocalAuthNonce] at consumed
    split_ifs at consumed with _ stored
    · simp at consumed
    · simp at consumed
    · obtain ⟨_, rfl⟩ := Prod.mk.inj consumed
      exact ⟨by simpa using stored, rfl⟩
  | true =>
    simp only [consumeAuthNonce, if_true, consumeDurableNonce] at consumed
    split_ifs at consumed with _ _ _ stored
    · simp at consumed
    · simp at consumed
    · simp at consumed
    · simp at consumed
    · obtain ⟨_, rfl⟩ := Prod.mk.inj consumed
      exact ⟨by simpa using stored, rfl⟩

theorem mem_purgeNonces {now : Int} {nonces : List AuthNonce} {row : AuthNonce} :
    row ∈ purgeNonces now nonces ↔ row ∈ nonces ∧ now ≤ row.expiresAt := by
  simp [purgeNonces]

theorem consumeAuthNonce_keeps (remote : Bool) {now : Int} {db : Database} {row : AuthNonce}
    (stored : row ∈ db.authNonces) (fresh : now ≤ row.expiresAt) (principalId nonce : String) (expiresAt : Int) :
    row ∈ (consumeAuthNonce remote now db principalId nonce expiresAt).2.authNonces := by
  have kept : row ∈ purgeNonces now db.authNonces := mem_purgeNonces.mpr ⟨stored, fresh⟩
  cases remote with
  | false =>
    simp only [consumeAuthNonce, Bool.false_eq_true, if_false, consumeLocalAuthNonce]
    split_ifs
    · exact stored
    · exact stored
    · exact List.mem_append_left _ kept
  | true =>
    simp only [consumeAuthNonce, if_true, consumeDurableNonce]
    split_ifs
    · exact stored
    · exact stored
    · exact stored
    · exact kept
    · exact List.mem_append_left _ kept

theorem authenticate_ok {db db' : Database} {call : AuthCall} {principal : Principal}
    (accepted : authenticate host remote db call = (.ok principal, db')) :
    ∃ signed, checkSignedRequest host call = .ok signed ∧
      consumeAuthNonce remote call.purgeNow db signed.principalId signed.nonce
        (signed.timestamp + authWindowSeconds) = (.ok true, db') ∧
      principalOf signed = .ok principal := by
  unfold authenticate at accepted
  split at accepted
  · cases accepted
  next signed checked =>
    split at accepted
    · cases accepted
    · cases accepted
    next after consumed =>
      obtain ⟨named, rfl⟩ := Prod.mk.inj accepted
      exact ⟨signed, checked, consumed, named⟩

theorem authenticate_keeps {db : Database} {call : AuthCall} {row : AuthNonce} (stored : row ∈ db.authNonces)
    (fresh : call.purgeNow ≤ row.expiresAt) : row ∈ (authenticate host remote db call).2.authNonces := by
  unfold authenticate
  split
  · exact stored
  next signed _ =>
    have kept := consumeAuthNonce_keeps remote stored fresh signed.principalId signed.nonce
      (signed.timestamp + authWindowSeconds)
    split <;> simp_all

/-! ## Sequences of calls -/

def sameSigned (r s : HttpRequest) : Bool :=
  r.principalId == s.principalId && r.timestamp == s.timestamp && r.nonce == s.nonce &&
    r.method == s.method && r.path == s.path && decide (r.body = s.body)

/-- How often the calls accept the request, in the order of their purges: what comes
before the purge reads no table. -/
def acceptances (host : Host) (remote : Bool) (request : HttpRequest) (db : Database)
    (calls : List AuthCall) : Nat :=
  (calls.zip (Machine.outputs (authenticate host remote) db calls)).countP
    (fun p => sameSigned request p.1.request && p.2.isOk)

/-- The body of a call that passes the window check arrives within the window. -/
def AuthCall.Timely (call : AuthCall) : Prop :=
  ∀ ts, pyInt call.request.timestamp = some ts → |call.windowNow - ts| ≤ authWindowSeconds →
    call.purgeNow ≤ ts + authWindowSeconds

/-- The nonce of a signed request is stored, to expire when its timestamp does. -/
def Remembered (request : HttpRequest) (ts : Int) (db : Database) : Prop :=
  ⟨request.principalId, request.nonce, ts + authWindowSeconds⟩ ∈ db.authNonces

theorem sameSigned_fields {r s : HttpRequest} (same : sameSigned r s = true) :
    r.principalId = s.principalId ∧ r.timestamp = s.timestamp ∧ r.nonce = s.nonce := by
  simp only [sameSigned, Bool.and_eq_true, beq_iff_eq] at same
  tauto

theorem remembered_of_accepted {request : HttpRequest} {ts : Int} {db db' : Database} {call : AuthCall}
    {principal : Principal} (time : pyInt request.timestamp = some ts)
    (same : sameSigned request call.request = true)
    (accepted : authenticate host remote db call = (.ok principal, db')) : Remembered request ts db' := by
  obtain ⟨signed, checked, consumed, _⟩ := authenticate_ok accepted
  obtain ⟨_, _, _, _, callTime, _, _, _, principalId, nonce⟩ := checkSignedRequest_ok checked
  obtain ⟨samePrincipal, sameTime, sameNonce⟩ := sameSigned_fields same
  rw [← sameTime, time] at callTime
  obtain rfl := Option.some.inj callTime
  rw [Remembered, (consumeAuthNonce_true consumed).2, samePrincipal, sameNonce, ← principalId, ← nonce]
  exact List.mem_append_right _ (by simp)

/-- A remembered request is refused, and one whose timestamp has expired as well. -/
theorem not_accepted {request : HttpRequest} {ts : Int} {db : Database} {call : AuthCall}
    (time : pyInt request.timestamp = some ts) (timely : call.Timely)
    (same : sameSigned request call.request = true)
    (forgotten : Remembered request ts db ∨ ts + authWindowSeconds < call.purgeNow) :
    (authenticate host remote db call).1.isOk = false := by
  cases result : authenticate host remote db call with
  | mk answer db' =>
    cases answer with
    | error e => rfl
    | ok principal =>
      obtain ⟨signed, checked, consumed, _⟩ := authenticate_ok result
      obtain ⟨_, _, _, _, callTime, window, _, _, principalId, nonce⟩ := checkSignedRequest_ok checked
      obtain ⟨samePrincipal, sameTime, sameNonce⟩ := sameSigned_fields same
      have within := timely _ callTime window
      rw [← sameTime, time] at callTime
      obtain rfl := Option.some.inj callTime
      rcases forgotten with stored | late
      · have kept := mem_purgeNonces.mpr ⟨stored, within⟩
        have absent := (consumeAuthNonce_true consumed).1
        rw [hasNonce, List.any_eq_false] at absent
        refine absurd ?_ (absent _ kept)
        simp [principalId, nonce, samePrincipal, sameNonce]
      · omega

@[simp] theorem acceptances_nil (request : HttpRequest) (db : Database) :
    acceptances host remote request db [] = 0 := rfl

theorem acceptances_cons (request : HttpRequest) (db : Database) (call : AuthCall) (rest : List AuthCall) :
    acceptances host remote request db (call :: rest) =
      acceptances host remote request (authenticate host remote db call).2 rest +
        if sameSigned request call.request && (authenticate host remote db call).1.isOk then 1 else 0 := by
  simp [acceptances, Machine.outputs, List.countP_cons]

/-- Once remembered, or once every call comes after its expiry, it is never accepted. -/
theorem acceptances_eq_zero {request : HttpRequest} {ts : Int} (time : pyInt request.timestamp = some ts)
    {calls : List AuthCall} (clock : calls.Pairwise (fun a b => a.purgeNow ≤ b.purgeNow))
    (timely : ∀ call ∈ calls, sameSigned request call.request = true → call.Timely) {db : Database}
    (forgotten : Remembered request ts db ∨ ∀ call ∈ calls, ts + authWindowSeconds < call.purgeNow) :
    acceptances host remote request db calls = 0 := by
  induction calls generalizing db with
  | nil => rfl
  | cons call rest ih =>
    obtain ⟨later, clock⟩ := List.pairwise_cons.mp clock
    have refused : (sameSigned request call.request && (authenticate host remote db call).1.isOk) = false := by
      cases same : sameSigned request call.request with
      | false => rfl
      | true =>
        rw [Bool.true_and]
        exact not_accepted time (timely call (by simp) same) same
          (forgotten.imp_right (fun late => late call (by simp)))
    have next : Remembered request ts (authenticate host remote db call).2 ∨
        ∀ call ∈ rest, ts + authWindowSeconds < call.purgeNow := by
      rcases forgotten with stored | late
      · by_cases fresh : call.purgeNow ≤ ts + authWindowSeconds
        · exact .inl (authenticate_keeps stored fresh)
        · exact .inr (fun other member => by have := later other member; omega)
      · exact .inr (fun other member => late other (List.mem_cons_of_mem _ member))
    rw [acceptances_cons, refused,
      ih clock (fun other member => timely other (List.mem_cons_of_mem _ member)) next]
    rfl

/-- A signed request whose calls are timely is accepted at most once, however other
calls and purges interleave. -/
theorem acceptances_le_one (host : Host) (remote : Bool) (request : HttpRequest) (db : Database)
    (calls : List AuthCall) (clock : calls.Pairwise (fun a b => a.purgeNow ≤ b.purgeNow))
    (timely : ∀ call ∈ calls, sameSigned request call.request = true → call.Timely) :
    acceptances host remote request db calls ≤ 1 := by
  induction calls generalizing db with
  | nil => simp
  | cons call rest ih =>
    obtain ⟨_, laterClock⟩ := List.pairwise_cons.mp clock
    have laterTimely : ∀ other ∈ rest, sameSigned request other.request = true → other.Timely :=
      fun other member => timely other (List.mem_cons_of_mem _ member)
    rw [acceptances_cons]
    split
    next accepted =>
      obtain ⟨same, isOk⟩ := Bool.and_eq_true_iff.mp accepted
      cases result : authenticate host remote db call with
      | mk answer db' =>
        cases answer with
        | error e =>
          rw [result] at isOk
          cases isOk
        | ok principal =>
          obtain ⟨signed, checked, _, _⟩ := authenticate_ok result
          obtain ⟨_, _, _, _, time, _⟩ := checkSignedRequest_ok checked
          rw [← (sameSigned_fields same).2.1] at time
          have stored := remembered_of_accepted time same result
          rw [acceptances_eq_zero time laterClock laterTimely (.inl stored)]
    · exact ih _ laterClock laterTimely

def replayedRequest : HttpRequest where
  method := "POST"
  path := "/institutional/intents"
  query := ""
  headers := signedHeaders "agent" "1000" "nonce-0123456789" zeroDigest zeroDigest
  body := ⟨#[]⟩
  methodLine := by unfold Text.OneLine; decide
  headerLines := by unfold Text.OneLine; decide

def agentRegistry : Json :=
  .dict [("agent", .dict [("secret", .str "key"), ("capabilities", .arr [.str "*"])])]

def replayCall (windowNow purgeNow : Int) : AuthCall :=
  ⟨replayedRequest, canonicalJson agentRegistry, windowNow, purgeNow⟩

theorem replayedRequest_time : pyInt replayedRequest.timestamp = some 1000 := by
  obtain ⟨_, timestamp, _⟩ := signedHeaders_fields (r := replayedRequest) rfl
  rw [timestamp]
  decide

theorem agentRegistry_read : principalRegistry (canonicalJson agentRegistry) = .ok agentRegistry.norm ∧
    secretOf agentRegistry.norm "agent" = some "key" := by
  constructor
  · exact principalRegistry_canonicalJson (by simp [agentRegistry, Json.dict, Json.isObj, Json.norm_obj])
  · simp [agentRegistry, secretOf, Json.get?_dict]

def agentRecord : Json := .dict [("secret", .str "key"), ("capabilities", .arr [.str "*"])]

theorem replayCall_checked {windowNow purgeNow : Int} (window : |windowNow - 1000| ≤ 300) :
    checkSignedRequest zeroHost (replayCall windowNow purgeNow) =
      .ok ⟨"agent", "nonce-0123456789", 1000, agentRecord⟩ := by
  obtain ⟨principalId, timestamp, nonce, content, signature⟩ := signedHeaders_fields (r := replayedRequest) rfl
  have checked := @checkSignedRequest_of zeroHost (replayCall windowNow purgeNow) agentRegistry.norm "key" 1000
    (by simp [replayCall, principalId, timestamp, signature, zeroDigest]) agentRegistry_read.1
    (by simpa [replayCall, principalId] using agentRegistry_read.2) replayedRequest_time window
    (by simp [replayCall, nonce]; decide) (by simp [replayCall, nonce]; decide)
    content (by simp [replayCall, content, zeroDigest]) signature
  simpa [replayCall, principalId, nonce, agentRegistry, agentRecord] using checked

theorem consume_agent_nonce (remote : Bool) (purgeNow : Int) (db : Database)
    (purged : purgeNonces purgeNow db.authNonces = []) :
    consumeAuthNonce remote purgeNow db "agent" "nonce-0123456789" (1000 + authWindowSeconds) =
      (.ok true, { db with authNonces := [⟨"agent", "nonce-0123456789", 1300⟩] }) := by
  cases remote <;>
    simp [consumeAuthNonce, consumeLocalAuthNonce, consumeDurableNonce, sqliteInt, safeInteger,
      authWindowSeconds, purged, hasNonce]

theorem principalOf_agent :
    principalOf ⟨"agent", "nonce-0123456789", 1000, agentRecord⟩ = .ok ⟨"agent", ["*"]⟩ := by
  simp [agentRecord, principalOf]

/-- While no unexpired nonce is stored, the request is accepted again. -/
theorem replayCall_accepted (remote : Bool) (windowNow purgeNow : Int) (window : |windowNow - 1000| ≤ 300)
    (db : Database) (expired : ∀ row ∈ db.authNonces, row.expiresAt < purgeNow) :
    authenticate zeroHost remote db (replayCall windowNow purgeNow) =
      (.ok ⟨"agent", ["*"]⟩, { db with authNonces := [⟨"agent", "nonce-0123456789", 1300⟩] }) := by
  have consumed := consume_agent_nonce remote purgeNow db
    (by simpa [purgeNonces] using expired)
  rw [authenticate, replayCall_checked window]
  simp only [replayCall] at consumed ⊢
  rw [consumed]
  simp only [principalOf_agent]

theorem acceptances_le_one_timely :
    acceptances zeroHost false replayedRequest Database.empty [replayCall 1000 1000, replayCall 1300 1300] ≤ 1 := by
  apply acceptances_le_one
  · simp [replayCall]
  · intro call member _ ts time _
    have same : call.request = replayedRequest ∧ call.purgeNow ≤ 1300 := by
      rcases List.mem_cons.mp member with rfl | member
      · exact ⟨rfl, by decide⟩
      · obtain rfl := List.mem_singleton.mp member
        exact ⟨rfl, by decide⟩
    rw [same.1] at time
    obtain rfl := Option.some.inj (time.symm.trans replayedRequest_time)
    exact same.2

/-- A body that arrives one second after the window: the purge forgets the nonce first. -/
theorem replay_accepted_twice :
    [replayCall 1000 1000, replayCall 1300 1301].Pairwise (fun a b => a.purgeNow ≤ b.windowNow) ∧
      (∀ call ∈ [replayCall 1000 1000, replayCall 1300 1301], call.windowNow ≤ call.purgeNow) ∧
      acceptances zeroHost false replayedRequest Database.empty
        [replayCall 1000 1000, replayCall 1300 1301] = 2 ∧
      acceptances zeroHost true replayedRequest Database.empty
        [replayCall 1000 1000, replayCall 1300 1301] = 2 := by
  have twice (remote : Bool) : acceptances zeroHost remote replayedRequest Database.empty
      [replayCall 1000 1000, replayCall 1300 1301] = 2 := by
    have first := replayCall_accepted remote 1000 1000 (by decide) Database.empty
      (by simp [Database.empty])
    have second := replayCall_accepted remote 1300 1301 (by decide)
      { Database.empty with authNonces := [⟨"agent", "nonce-0123456789", 1300⟩] } (by simp)
    have same : sameSigned replayedRequest replayedRequest = true := by simp [sameSigned]
    have request (w p : Int) : (replayCall w p).request = replayedRequest := rfl
    simp only [acceptances_cons, first, second, request, same, acceptances_nil]
    rfl
  exact ⟨by simp [replayCall], by simp [replayCall], twice false, twice true⟩

end MatVerse
