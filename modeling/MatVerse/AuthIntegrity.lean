import MatVerse.AuthReplay

/-! What a signature fixes: the five signed fields, and the query string not. -/
namespace MatVerse

open Fallible Text

/-- HMAC taken to have no collision, in the key or in the message. -/
def Host.HmacIdeal (host : Host) : Prop :=
  ∀ key message key' message', host.hmac key message = host.hmac key' message' →
    key = key' ∧ message = message'

def DistinctSecrets (registry : Json) : Prop :=
  ∀ p q secret, secretOf registry p = some secret → secretOf registry q = some secret → p = q

/-- The signature of a request by the holder of the secret. -/
def signatureOf (host : Host) (secret : String) (r : HttpRequest) : String :=
  signRequest host secret r.method r.path r.timestamp r.nonce (host.sha256 r.body)

theorem toUpper_ne_newline {c : Char} (other : c ≠ '\n') : c.toUpper ≠ '\n' := by
  unfold Char.toUpper
  split
  next lower =>
    intro same
    have value := congrArg (fun d => d.val.toNat) same
    have low : 97 ≤ c.val.toNat := lower.1
    have high : c.val.toNat ≤ 122 := lower.2
    have newline : '\n'.val.toNat = 10 := rfl
    have shift : ('A'.val - 'a'.val).toNat = 4294967264 := rfl
    simp only [newline, UInt32.toNat_add, shift] at value
    omega
  · exact other

theorem oneLine_toUpper {s : String} (line : OneLine s) : OneLine s.toUpper := by
  intro member
  rw [String.toUpper, String.toList_map] at member
  obtain ⟨c, inside, same⟩ := List.mem_map.mp member
  exact toUpper_ne_newline (fun newline => line (newline ▸ inside)) same

/-- The joined fields are read back, the path being what is between the lines. -/
theorem signingPayload_injective {method path timestamp nonce content : String}
    {method' path' timestamp' nonce' content' : String}
    (methods : OneLine method ∧ OneLine method') (times : OneLine timestamp ∧ OneLine timestamp')
    (nonces : OneLine nonce ∧ OneLine nonce') (contents : OneLine content ∧ OneLine content')
    (same : signingPayload method path timestamp nonce content =
      signingPayload method' path' timestamp' nonce' content') :
    method.toUpper = method'.toUpper ∧ path = path' ∧ timestamp = timestamp' ∧ nonce = nonce' ∧
      content = content' := by
  unfold signingPayload at same
  obtain ⟨same, hash⟩ := append_line_inj contents.1 contents.2 same
  obtain ⟨same, sameNonce⟩ := append_line_inj nonces.1 nonces.2 same
  obtain ⟨same, time⟩ := append_line_inj times.1 times.2 same
  obtain ⟨sameMethod, samePath⟩ :=
    line_append_inj (oneLine_toUpper methods.1) (oneLine_toUpper methods.2) same
  exact ⟨sameMethod, samePath, time, sameNonce, hash⟩

theorem oneLine_digits {s : String} (digits : Hex.Digits s) : OneLine s := by
  intro newline
  exact absurd (List.all_eq_true.mp digits _ newline) (by decide)

theorem principalOf_principalId {signed : SignedRequest} {principal : Principal}
    (named : principalOf signed = .ok principal) : principal.principalId = signed.principalId := by
  unfold principalOf at named
  split at named
  · cases named
    rfl
  · split at named
    · cases named
      rfl
    · cases named
  · cases named

variable {host : Host} {remote : Bool}

/-- A request accepted under a principal's signature is that principal's, and agrees
with the signed one in method, path, timestamp, nonce and body. -/
theorem accepted_request_agrees (ideal : host.HmacIdeal) (free : host.CollisionFree)
    {db db' : Database} {call : AuthCall} {principal : Principal}
    (accepted : authenticate host remote db call = (.ok principal, db'))
    {registry : Json} (read : principalRegistry call.principalsJson = .ok registry)
    (distinct : DistinctSecrets registry) {signer secret : String}
    (enrolled : secretOf registry signer = some secret) {signed : HttpRequest}
    (signature : call.request.signature = signatureOf host secret signed) :
    principal.principalId = signer ∧ call.request.principalId = signer ∧
      call.request.method.toUpper = signed.method.toUpper ∧ call.request.path = signed.path ∧
      call.request.timestamp = signed.timestamp ∧ call.request.nonce = signed.nonce ∧
      call.request.body = signed.body := by
  obtain ⟨checked, check, _, named⟩ := authenticate_ok accepted
  obtain ⟨found, own, readAgain, ownSecret, _, _, content, ownSignature, principalId, _⟩ :=
    checkSignedRequest_ok check
  obtain rfl := Except.ok.inj (read.symm.trans readAgain)
  rw [← ownSignature] at signature
  obtain ⟨keys, messages⟩ := ideal _ _ _ _ signature
  obtain rfl := String.toByteArray_inj.mp keys
  have payloads := String.toByteArray_inj.mp messages
  obtain ⟨method, path, timestamp, nonce, hash⟩ := signingPayload_injective
    ⟨call.request.methodLine, signed.methodLine⟩
    ⟨call.request.header_oneLine _, signed.header_oneLine _⟩
    ⟨call.request.header_oneLine _, signed.header_oneLine _⟩
    ⟨call.request.header_oneLine _, oneLine_digits (host.sha256Digits _)⟩ payloads
  have same := distinct _ _ _ ownSecret enrolled
  refine ⟨?_, same, method, path, timestamp, nonce, free (content.trans hash)⟩
  rw [principalOf_principalId named, principalId, same]

/-! ## A query string exchanged under a signature -/

/-- The key one byte at a time, each marked, then the message. -/
def frame : List UInt8 → List UInt8 → List UInt8
  | [], message => 0 :: message
  | b :: key, message => 1 :: b :: frame key message

theorem frame_injective {key key' message message' : List UInt8}
    (same : frame key message = frame key' message') : key = key' ∧ message = message' := by
  induction key generalizing key' with
  | nil =>
    cases key' with
    | nil => exact ⟨rfl, (List.cons.inj same).2⟩
    | cons b key' => exact absurd (List.cons.inj same).1 (by decide)
  | cons b key ih =>
    cases key' with
    | nil => exact absurd (List.cons.inj same).1 (by decide)
    | cons c key' =>
      obtain ⟨_, marked⟩ := List.cons.inj same
      obtain ⟨rfl, tail⟩ := List.cons.inj marked
      obtain ⟨rfl, rfl⟩ := ih tail
      exact ⟨rfl, rfl⟩

def frameBytes (key message : ByteArray) : ByteArray := ⟨(frame key.data.toList message.data.toList).toArray⟩

/-- A host whose HMAC spells out the key and the message, its SHA-256 the message. -/
def framedHost : Host where
  sha256 bytes := Hex.text (frameBytes ByteArray.empty bytes)
  sha256Digits _ := Hex.digits_text _
  hmac key message := Hex.text (frameBytes key message)
  hmacDigits _ _ := Hex.digits_text _
  source name := name
  containerText _ := ""

theorem framedHost_hmacIdeal : framedHost.HmacIdeal := by
  intro key message key' message' same
  have bytes := Hex.text_injective same
  have lists := congrArg (fun b => b.data.toList) bytes
  simp only [frameBytes] at lists
  obtain ⟨keys, messages⟩ := frame_injective lists
  exact ⟨ByteArray.ext (Array.toList_inj.mp keys), ByteArray.ext (Array.toList_inj.mp messages)⟩

theorem framedHost_collisionFree : framedHost.CollisionFree := by
  intro a b same
  exact (framedHost_hmacIdeal ByteArray.empty a ByteArray.empty b same).2

theorem text_frameBytes_ne_empty (key message : ByteArray) : Hex.text (frameBytes key message) ≠ "" := by
  intro empty
  have none : Hex.text ⟨#[]⟩ = "" := rfl
  have bytes := congrArg (fun b => b.data.toList) (Hex.text_injective (empty.trans none.symm))
  cases list : key.data.toList <;> simp [frameBytes, frame, list] at bytes

def listPath : String := "/institutional/intents"

/-- One signed listing request, for each query string. -/
def listRequest (query : String) : HttpRequest where
  method := "GET"
  path := listPath
  query := query
  headers := signedHeaders "agent" "1000" "nonce-0123456789" (framedHost.sha256 ByteArray.empty)
    (signRequest framedHost "key" "GET" listPath "1000" "nonce-0123456789" (framedHost.sha256 ByteArray.empty))
  body := ByteArray.empty
  methodLine := by unfold Text.OneLine; decide
  headerLines := by
    have hash := oneLine_digits (framedHost.sha256Digits ByteArray.empty)
    have signature := oneLine_digits (framedHost.hmacDigits "key".toUTF8
      (signingPayload "GET" listPath "1000" "nonce-0123456789" (framedHost.sha256 ByteArray.empty)).toUTF8)
    intro h member
    simp only [signedHeaders, List.mem_cons, List.not_mem_nil, or_false] at member
    rcases member with rfl | rfl | rfl | rfl | rfl
    · unfold Text.OneLine; decide
    · unfold Text.OneLine; decide
    · unfold Text.OneLine; decide
    · exact hash
    · exact signature

theorem listRequest_line (query : String) : (listRequest query).method = "GET" ∧
    (listRequest query).path = listPath ∧ (listRequest query).body = ByteArray.empty := ⟨rfl, rfl, rfl⟩

def listCall (query : String) : AuthCall :=
  ⟨listRequest query, canonicalJson agentRegistry, 1000, 1000⟩

theorem listCall_checked (query : String) :
    checkSignedRequest framedHost (listCall query) = .ok ⟨"agent", "nonce-0123456789", 1000, agentRecord⟩ := by
  obtain ⟨principalId, timestamp, nonce, content, signature⟩ := signedHeaders_fields (r := listRequest query) rfl
  obtain ⟨method, path, body⟩ := listRequest_line query
  have request : (listCall query).request = listRequest query := rfl
  have record : (agentRegistry.norm.get? "agent").getD .null = agentRecord := by
    simp [agentRegistry, agentRecord]
  rw [@checkSignedRequest_of framedHost (listCall query) agentRegistry.norm "key" 1000, request, principalId,
    nonce, record]
  · rw [request, principalId, timestamp, signature]
    exact ⟨by decide, by decide, text_frameBytes_ne_empty _ _⟩
  · exact agentRegistry_read.1
  · rw [request, principalId]
    exact agentRegistry_read.2
  · rw [request, timestamp]
    decide
  · show |(1000 : Int) - 1000| ≤ 300
    decide
  · rw [request, nonce]
    decide
  · rw [request, nonce]
    decide
  · rw [request, content, body]
  · rw [request, content]
    exact text_frameBytes_ne_empty _ _
  · rw [request, signature, method, path, timestamp, nonce, content]

theorem listCall_accepted (query : String) :
    (authenticate framedHost false Database.empty (listCall query)).1 = .ok ⟨"agent", ["*"]⟩ := by
  have consumed := consume_agent_nonce false 1000 Database.empty rfl
  rw [authenticate, listCall_checked]
  simp only [listCall] at consumed ⊢
  rw [consumed]
  simp only [principalOf_agent]

theorem agentRegistry_distinct : DistinctSecrets agentRegistry.norm := by
  have only (p secret : String) (found : secretOf agentRegistry.norm p = some secret) : p = "agent" := by
    by_contra other
    simp [agentRegistry, secretOf, other] at found
  intro p q secret left right
  rw [only p secret left, only q secret right]

theorem listRequest_signature (query query' : String) :
    (listRequest query).signature = signatureOf framedHost "key" (listRequest query') := by
  obtain ⟨_, _, _, _, signature⟩ := signedHeaders_fields (r := listRequest query) rfl
  obtain ⟨_, timestamp, nonce, _, _⟩ := signedHeaders_fields (r := listRequest query') rfl
  obtain ⟨method, path, body⟩ := listRequest_line query'
  rw [signature, signatureOf, timestamp, nonce, method, path, body]

theorem accepted_request_agrees_list :
    (listRequest "limit=200").method.toUpper = (listRequest "limit=1").method.toUpper ∧
      (listRequest "limit=200").body = (listRequest "limit=1").body := by
  have agrees := @accepted_request_agrees framedHost false framedHost_hmacIdeal framedHost_collisionFree
    Database.empty _ (listCall "limit=200") _ (Prod.ext (listCall_accepted "limit=200") rfl)
    _ agentRegistry_read.1 agentRegistry_distinct _ _ agentRegistry_read.2 (listRequest "limit=1")
    (listRequest_signature _ _)
  exact ⟨agrees.2.2.1, agrees.2.2.2.2.2.2⟩

/-- The signature of a listing of one intent is accepted for a listing of two hundred. -/
theorem query_string_unsigned :
    framedHost.HmacIdeal ∧ framedHost.CollisionFree ∧
      principalRegistry (listCall "limit=200").principalsJson = .ok agentRegistry.norm ∧
      DistinctSecrets agentRegistry.norm ∧ secretOf agentRegistry.norm "agent" = some "key" ∧
      (listCall "limit=200").request.signature = signatureOf framedHost "key" (listRequest "limit=1") ∧
      (authenticate framedHost false Database.empty (listCall "limit=200")).1 = .ok ⟨"agent", ["*"]⟩ ∧
      (listCall "limit=200").request.query ≠ (listRequest "limit=1").query :=
  ⟨framedHost_hmacIdeal, framedHost_collisionFree, agentRegistry_read.1, agentRegistry_distinct,
    agentRegistry_read.2, listRequest_signature _ _, listCall_accepted _, by decide⟩

end MatVerse
