import MatVerse.HumanAuthority

/-! What a signed approval is worth: the key holder's approval of a challenge verifies
while the challenge lasts, and its signature for no other challenge, approval or
authority. -/
namespace MatVerse.Marxiv.Authority

open Fallible

/-! ## Documents -/

theorem SignedHumanApproval.ofJson_toJson (a : SignedHumanApproval) : ofJson a.toJson = some a := by
  have closed : Record.closed fields a.toJson = true := Record.closed_dict (by simp [approvalPayload, fields])
  rw [ofJson, closed]
  simp [toJson, approvalPayload]

theorem SignedHumanApproval.normal_toJson (a : SignedHumanApproval) : a.toJson.Normal :=
  Json.normal_dict (by simp [approvalPayload, Json.Normal])

theorem HumanAuthority.ofJson_toJson (a : HumanAuthority) : ofJson a.toJson = some a := by
  have closed : Record.closed fields a.toJson = true := Record.closed_dict (by simp [fields])
  have status : readStatus (some (.str (if a.active then "ACTIVE" else "REVOKED"))) = some a.active := by
    cases a.active <;> rfl
  rw [ofJson, closed]
  simp [toJson, status, a.sized]

theorem HumanAuthority.normal_toJson (a : HumanAuthority) : a.toJson.Normal :=
  Json.normal_dict (by simp [Json.Normal])

theorem readAuthority_written {files : Files} {path : String} {a : HumanAuthority}
    (written : files path = some (Files.documentText a.toJson).toUTF8) : readAuthority files path = .ok a := by
  have itself : a.toJson.norm = a.toJson := a.normal_toJson
  simp only [readAuthority, readRecord, readDocument, Files.readJson_document written, itself, Except.mapError, ok_bind,
    a.ofJson_toJson]
  rfl

theorem readApproval_written {files : Files} {path : String} {a : SignedHumanApproval}
    (written : files path = some (Files.documentText a.toJson).toUTF8) : readApproval files path = .ok a := by
  have itself : a.toJson.norm = a.toJson := a.normal_toJson
  simp only [readApproval, readRecord, readDocument, Files.readJson_document written, itself, Except.mapError, ok_bind,
    a.ofJson_toJson]
  rfl

/-- The signed bytes determine everything that is signed. -/
theorem message_injective {d e : ApprovalData} (same : message d = message e) : d = e := by
  have documents := canonicalJson_injective (String.toByteArray_inj.mp same)
  have field (key : String) := congrArg (Json.get? key) documents
  have authorityId := field "authority_id"
  have publicationId := field "publication_id"
  have packageHash := field "package_hash"
  have challengeHash := field "challenge_hash"
  have challengeNonce := field "challenge_nonce"
  have challengeIssuedAt := field "challenge_issued_at"
  have challengeExpiresAt := field "challenge_expires_at"
  have confirmation := field "confirmation"
  have authorityKeyFingerprint := field "authority_key_fingerprint"
  have signedAt := field "signed_at"
  simp [approvalPayload] at authorityId publicationId packageHash challengeHash challengeNonce
  simp [approvalPayload] at challengeIssuedAt challengeExpiresAt confirmation authorityKeyFingerprint signedAt
  cases d
  cases e
  simp_all

/-! ## Required confirmations -/

/-- The fields of a challenge that the authority reads, with the times of its window. -/
structure WellFormed (p : KeyPlatform) (challenge : Json) (issued expires : Int) : Prop where
  schema : challenge.get? "schema" = some (.str challengeSchema)
  publicationId : ∃ text, challenge.get? "publication_id" = some (.str text)
  packageHash : ∃ text, challenge.get? "package_hash" = some (.str text)
  nonce : ∃ text, challenge.get? "nonce" = some (.str text)
  issuedAt : ∃ text, challenge.get? "issued_at" = some (.str text) ∧ p.parseIso text = some issued
  expiresAt : ∃ text, challenge.get? "expires_at" = some (.str text) ∧ p.parseIso text = some expires

theorem isObj_of_get? {v w : Json} {key : String} (found : v.get? key = some w) : v.isObj = true := by
  cases v with
  | obj => rfl
  | _ => cases found

theorem item_ok {challenge v : Json} {key : String} : item challenge key = .ok v ↔ challenge.get? key = some v := by
  constructor
  · intro found
    unfold item at found
    split at found
    · cases found
    split at found
    · exact Except.ok.inj found ▸ by assumption
    · cases found
  · intro found
    simp only [item, isObj_of_get? found, found, Bool.not_true, Bool.false_eq_true, if_false]

theorem challengeHash_ok {host : Host} {challenge : Json} {digest : String} :
    challengeHash host challenge = .ok digest ↔
      challenge.get? "schema" = some (.str challengeSchema) ∧ stableHash host challenge = digest := by
  unfold challengeHash
  constructor
  · intro done
    split_ifs at done with isObj schema
    obtain rfl := Except.ok.inj done
    refine ⟨?_, rfl⟩
    unfold isStr at schema
    split at schema
    next found => rw [found, beq_iff_eq.mp schema]
    next => cases schema
  · rintro ⟨schema, rfl⟩
    simp [isObj_of_get? schema, schema, isStr]

theorem parseTime_ok {p : KeyPlatform} {v : Json} {time : Int} :
    parseTime p v = .ok time ↔ ∃ text, v = .str text ∧ p.parseIso text = some time := by
  cases v with
  | str text =>
    simp only [parseTime, Json.str.injEq, exists_eq_left']
    cases p.parseIso text <;> simp
  | _ => simp [parseTime]

section
variable {p : KeyPlatform} {challenge : Json} {issued expires : Int}

theorem strip_confirmation (start : String) {digest : String} (digits : Hex.Digits digest) (marked : digest ≠ "") :
    Text.strip ("APPROVE_PACKAGE " ++ start ++ " " ++ takeText 12 digest) =
      "APPROVE_PACKAGE " ++ start ++ " " ++ takeText 12 digest := by
  have last : digest.toList.take 12 ≠ [] := by simpa [List.take_eq_nil_iff] using marked
  have chars : ("APPROVE_PACKAGE " ++ start ++ " " ++ takeText 12 digest).toList =
      ("APPROVE_PACKAGE ".toList ++ start.toList ++ " ".toList) ++ digest.toList.take 12 := by
    simp [takeText]
  apply Text.strip_of_ends
  · intro c head
    rw [chars] at head
    obtain rfl : 'A' = c := by simpa using head
    rfl
  · intro c tail
    rw [chars, List.getLast?_append_of_ne_nil _ last] at tail
    exact Hex.isDigit_not_space (List.all_eq_true.mp digits c (List.mem_of_mem_take (List.mem_of_getLast? tail)))

/-- The confirmation that a well-formed challenge requires. -/
theorem WellFormed.confirmation (wellFormed : WellFormed p challenge issued expires)
    (marked : stableHash p.toHost challenge ≠ "") :
    ∃ required, requiredHumanConfirmation p.toHost challenge = .ok required ∧ Text.strip required = required := by
  obtain ⟨publicationId, named⟩ := wellFormed.publicationId
  obtain ⟨packageHash, hashed⟩ := wellFormed.packageHash
  refine ⟨_, ?_, strip_confirmation (publicationId ++ " " ++ takeText 12 packageHash) (p.sha256Digits _) marked⟩
  simp only [requiredHumanConfirmation, challengeHash_ok.mpr ⟨wellFormed.schema, rfl⟩, item_ok.mpr named,
    item_ok.mpr hashed, firstTwelve, pyStr, ok_bind, String.append_assoc]
  rfl

end

/-! ## What verification accepts -/

def Accepts (p : KeyPlatform) (files : Files) (paths : VerifyingPaths) (requireUnexpired : Bool) (now : Int) : Prop :=
  ∃ v, verifySignedApproval p files paths requireUnexpired now = .ok v ∧ v.ok = true

structure Reads (files : Files) (paths : VerifyingPaths) (challenge : Json) (approval : SignedHumanApproval)
    (authority : HumanAuthority) : Prop where
  challenge : files.readJson paths.challenge = .ok challenge
  approval : readApproval files paths.approval = .ok approval
  authority : readAuthority files paths.authorityRegistry = .ok authority

/-- An approval that agrees with its challenge and its authority, and whose signature
verifies. -/
structure Valid (p : KeyPlatform) (challenge : Json) (approval : SignedHumanApproval) (authority : HumanAuthority)
    (requireUnexpired : Bool) (now : Int) : Prop where
  digest : challengeHash p.toHost challenge = .ok approval.challengeHash
  confirmation : requiredHumanConfirmation p.toHost challenge = .ok approval.confirmation
  active : authority.active = true
  authorityId : approval.authorityId = authority.authorityId
  fingerprint : approval.authorityKeyFingerprint = authority.publicKeySha256
  publicationId : challenge.get? "publication_id" = some (.str approval.publicationId)
  packageHash : challenge.get? "package_hash" = some (.str approval.packageHash)
  nonce : challenge.get? "nonce" = some (.str approval.challengeNonce)
  issuedAt : challenge.get? "issued_at" = some (.str approval.challengeIssuedAt)
  expiresAt : challenge.get? "expires_at" = some (.str approval.challengeExpiresAt)
  window : ∃ signed issued expires, p.parseIso approval.signedAt = some signed ∧
    p.parseIso approval.challengeIssuedAt = some issued ∧ p.parseIso approval.challengeExpiresAt = some expires ∧
    issued ≤ signed ∧ signed < expires ∧ (requireUnexpired = true → now < expires)
  signature : signatureOk p approval authority = true

section
variable {p : KeyPlatform} {files : Files} {paths : VerifyingPaths} {requireUnexpired : Bool} {now : Int}

theorem matchesItem_iff {text key : String} {challenge : Json} :
    matchesItem text challenge key = true ↔ challenge.get? key = some (.str text) := by
  unfold matchesItem isStr
  split
  next t found =>
    rw [beq_iff_eq, found, Option.some.injEq, Json.str.injEq]
  next other => exact iff_of_false Bool.false_ne_true (other text)

theorem readDocument_ok {path : String} {v : Json} : readDocument files path = .ok v ↔ files.readJson path = .ok v := by
  unfold readDocument
  cases files.readJson path with
  | error e => exact iff_of_false nofun nofun
  | ok w =>
    constructor
    · exact fun same => congrArg Except.ok (Except.ok.inj same)
    · exact fun same => congrArg Except.ok (Except.ok.inj same)

/-- Verification accepts exactly the valid approvals. -/
theorem accepts_iff : Accepts p files paths requireUnexpired now ↔ ∃ challenge approval authority,
    Reads files paths challenge approval authority ∧ Valid p challenge approval authority requireUnexpired now := by
  constructor
  · rintro ⟨v, done, ok⟩
    simp only [verifySignedApproval, bind_ok, pure_ok] at done
    obtain ⟨challenge, read, approval, approved, authority, registered, digest, hashed, expected, required, signed,
      signedAt, issuedAt, issuedItem, issued, issuedTime, expiresAt, expiresItem, expires, expiresTime, rfl⟩ := done
    refine ⟨challenge, approval, authority, ⟨readDocument_ok.mp read, approved, registered⟩, ?_⟩
    simp only [SignedVerification.ok, verificationOf, documentChecks, List.all_append, List.all_cons, List.all_nil,
      Bool.and_true, Bool.and_eq_true, beq_iff_eq, matchesItem_iff, decide_eq_true_eq] at ok
    obtain ⟨⟨⟨⟨active, id, print, publication, package, rfl, nonce, issue, expiry, rfl⟩, low, high⟩, fresh⟩,
        signature⟩ := ok
    obtain ⟨_, same, signedAt⟩ := parseTime_ok.mp signedAt
    obtain rfl := Json.str.inj same
    obtain ⟨_, rfl, issuedText⟩ := parseTime_ok.mp issuedTime
    obtain ⟨_, rfl, expiresText⟩ := parseTime_ok.mp expiresTime
    have issuedSame := (item_ok.mp issuedItem).symm.trans issue
    have expiresSame := (item_ok.mp expiresItem).symm.trans expiry
    simp only [Option.some.injEq, Json.str.injEq] at issuedSame expiresSame
    refine ⟨hashed, required, active, id, print, publication, package, nonce, issue, expiry,
      ⟨signed, issued, expires, signedAt, issuedSame ▸ issuedText, expiresSame ▸ expiresText, low, high, ?_⟩, signature⟩
    rintro rfl
    simpa using fresh
  · rintro ⟨challenge, approval, authority, ⟨read, approved, registered⟩, valid⟩
    obtain ⟨signed, issued, expires, signedAt, issuedTime, expiresTime, low, high, fresh⟩ := valid.window
    have issuedParsed : parseTime p (.str approval.challengeIssuedAt) = .ok issued :=
      parseTime_ok.mpr ⟨_, rfl, issuedTime⟩
    have expiresParsed : parseTime p (.str approval.challengeExpiresAt) = .ok expires :=
      parseTime_ok.mpr ⟨_, rfl, expiresTime⟩
    have signedParsed : parseTime p (.str approval.signedAt) = .ok signed := parseTime_ok.mpr ⟨_, rfl, signedAt⟩
    refine ⟨verificationOf p challenge approval authority approval.challengeHash approval.confirmation signed issued
      expires requireUnexpired now, ?_, ?_⟩
    · simp only [verifySignedApproval, readDocument_ok.mpr read, approved, registered, valid.digest, valid.confirmation,
        signedParsed, item_ok.mpr valid.issuedAt, item_ok.mpr valid.expiresAt, issuedParsed, expiresParsed, ok_bind]
      rfl
    · simp only [SignedVerification.ok, verificationOf, documentChecks, List.all_append, List.all_cons, List.all_nil,
        Bool.and_true, Bool.and_eq_true, beq_iff_eq, matchesItem_iff, decide_eq_true_eq]
      refine ⟨⟨⟨⟨valid.active, valid.authorityId, valid.fingerprint, valid.publicationId, valid.packageHash, trivial,
        valid.nonce, valid.issuedAt, valid.expiresAt, trivial⟩, low, high⟩, ?_⟩, valid.signature⟩
      cases requireUnexpired with
      | false => rfl
      | true => simpa using fresh rfl

end

/-! ## What signing promises -/

/-- An active authority whose registered key belongs to the private key. -/
structure Registered (p : KeyPlatform) (files : Files) (paths : SigningPaths) (authority : HumanAuthority)
    (key : p.ed25519.Key) : Prop where
  registry : readAuthority files paths.authorityRegistry = .ok authority
  active : authority.active = true
  loaded : loadPrivateKey p files paths.privateKey = .ok key
  publicKey : Base64.decode authority.publicKeyBase64 = some (p.ed25519.publicKey key)
  matching : authority.publicKeySha256 = fingerprint p.toHost (p.ed25519.publicKey key)

/-- Times are written so that they read back, and so is every time between two that read. -/
structure Times (p : Platform) : Prop where
  roundTrip : ∀ time text, p.iso time = some text → p.parseIso text = some time
  between : ∀ early late low high time, p.parseIso early = some low → p.parseIso late = some high → low ≤ time →
    time ≤ high → ∃ text, p.iso time = some text

/-- The approval of a challenge by an authority, wherever and whenever it is verified. -/
structure Binding (p : KeyPlatform) (challenge : Json) (approval : SignedHumanApproval) (authority : HumanAuthority)
    (key : p.ed25519.Key) (expires now : Int) : Prop where
  accepted : ∀ files paths later requireUnexpired, files.readJson paths.challenge = .ok challenge →
    files paths.approval = some (Files.documentText approval.toJson).toUTF8 →
    readAuthority files paths.authorityRegistry = .ok authority → now ≤ later → later < expires →
    Accepts p files paths requireUnexpired later
  /-- With its signature no other challenge, signed field, authority or key is accepted. -/
  bound : ∀ files paths later requireUnexpired, Accepts p files paths requireUnexpired later →
    ∃ challenge' approval' authority', Reads files paths challenge' approval' authority' ∧
      (approval'.signatureBase64 = approval.signatureBase64 → challenge' = challenge ∧
        approval'.toApprovalData = approval.toApprovalData ∧ authority'.authorityId = authority.authorityId ∧
        authority'.active = true ∧ authority'.publicKeySha256 = authority.publicKeySha256 ∧
        Base64.decode authority'.publicKeyBase64 = some (p.ed25519.publicKey key))

/-- With the required confirmation the challenge is signed, and the approval binds it. -/
def SignsExactly (p : KeyPlatform) (files : Files) (paths : SigningPaths) (challenge : Json)
    (authority : HumanAuthority) (key : p.ed25519.Key) (expires now : Int) : Prop :=
  ∃ required approval, requiredHumanConfirmation p.toHost challenge = .ok required ∧ Text.strip required = required ∧
    (∀ confirmation, Text.strip confirmation = required →
      signChallenge p files paths confirmation now = (.ok approval, files.writeJson paths.output approval.toJson)) ∧
    Binding p challenge approval authority key expires now

section
variable {p : KeyPlatform} {files : Files} {paths : SigningPaths} {challenge : Json} {authority : HumanAuthority}
  {key : p.ed25519.Key} {issued expires now : Int}

theorem loadPublicKey_ok {a : HumanAuthority} {raw : ByteArray} : loadPublicKey p.toHost a = .ok raw ↔
    Base64.decode a.publicKeyBase64 = some raw ∧ raw.size = 32 ∧ fingerprint p.toHost raw = a.publicKeySha256 := by
  unfold loadPublicKey
  cases Base64.decode a.publicKeyBase64 with
  | none => simp
  | some bytes =>
    simp only [Option.some.injEq]
    constructor
    · intro done
      split_ifs at done with size print
      obtain rfl := Except.ok.inj done
      exact ⟨rfl, not_not.mp size, not_not.mp print⟩
    · rintro ⟨rfl, size, print⟩
      simp [size, print]

theorem textField_str (text : String) : textField (.str text) = .ok text := rfl

/-- The approval that is signed, and the confirmation that it takes. -/
theorem Registered.signs (registered : Registered p files paths authority key) (times : Times p.toPlatform)
    (read : files.readJson paths.challenge = .ok challenge) (wellFormed : WellFormed p challenge issued expires)
    (opened : issued ≤ now) (unexpired : now < expires) (marked : ∀ v, stableHash p.toHost v ≠ "") :
    ∃ required approval, requiredHumanConfirmation p.toHost challenge = .ok required ∧ Text.strip required = required ∧
      (∀ confirmation, Text.strip confirmation = required → signedApproval p files paths confirmation now =
        .ok approval) ∧
      approval.signatureBase64 = Base64.encode (p.ed25519.sign key (message approval.toApprovalData)) ∧
      ∀ requireUnexpired later, later < expires → signatureOk p approval authority = true →
        Valid p challenge approval authority requireUnexpired later := by
  obtain ⟨phrase, required, stripped⟩ := wellFormed.confirmation (marked _)
  obtain ⟨publicationId, named⟩ := wellFormed.publicationId
  obtain ⟨packageHash, hashed⟩ := wellFormed.packageHash
  obtain ⟨nonce, fresh⟩ := wellFormed.nonce
  obtain ⟨issuedAt, issuedItem, issuedTime⟩ := wellFormed.issuedAt
  obtain ⟨expiresAt, expiresItem, expiresTime⟩ := wellFormed.expiresAt
  obtain ⟨signedAt, written⟩ := times.between _ _ _ _ now issuedTime expiresTime opened unexpired.le
  have digest : challengeHash p.toHost challenge = .ok (stableHash p.toHost challenge) :=
    challengeHash_ok.mpr ⟨wellFormed.schema, rfl⟩
  have issuedParsed : parseTime p (.str issuedAt) = .ok issued := parseTime_ok.mpr ⟨_, rfl, issuedTime⟩
  have expiresParsed : parseTime p (.str expiresAt) = .ok expires := parseTime_ok.mpr ⟨_, rfl, expiresTime⟩
  let data : ApprovalData := ⟨authority.authorityId, publicationId, packageHash, stableHash p.toHost challenge, nonce,
    issuedAt, expiresAt, phrase, authority.publicKeySha256, signedAt⟩
  refine ⟨_, ⟨data, Base64.encode (p.ed25519.sign key (message data))⟩, required, stripped,
    fun confirmation same => ?_, rfl, fun requireUnexpired later before signature => ?_⟩
  · simp only [signedApproval, readDocument_ok.mpr read, registered.registry, registered.active, item_ok.mpr issuedItem,
      item_ok.mpr expiresItem, issuedParsed, expiresParsed, required, same, registered.loaded, registered.matching,
      item_ok.mpr named, item_ok.mpr hashed, item_ok.mpr fresh, digest, textField_str, written, ok_bind]
    simp only [not_lt.mpr opened, not_le.mpr unexpired, Bool.not_true, Bool.false_eq_true, or_self, ne_eq,
      not_true_eq_false, if_false]
    rw [← registered.matching]
    rfl
  · exact ⟨digest, required, registered.active, rfl, rfl, named, hashed, fresh, issuedItem, expiresItem,
      ⟨now, issued, expires, times.roundTrip _ _ written, issuedTime, expiresTime, opened, unexpired, fun _ => before⟩,
      signature⟩

/-- Whoever accepts the signature of an approval accepts it for what was signed. -/
theorem Valid.bound {approval : SignedHumanApproval} {now' : Int} {requireUnexpired requireUnexpired' : Bool}
    (valid : Valid p challenge approval authority requireUnexpired now) (free : p.toHost.CollisionFree)
    (unforgeable : p.ed25519.Unforgeable)
    (matching : authority.publicKeySha256 = Authority.fingerprint p.toHost (p.ed25519.publicKey key))
    (signed : approval.signatureBase64 = Base64.encode (p.ed25519.sign key (message approval.toApprovalData)))
    {challenge' : Json} {approval' : SignedHumanApproval} {authority' : HumanAuthority}
    (other : Valid p challenge' approval' authority' requireUnexpired' now')
    (normal : challenge.Normal) (normal' : challenge'.Normal)
    (same : approval'.signatureBase64 = approval.signatureBase64) :
    challenge' = challenge ∧ approval'.toApprovalData = approval.toApprovalData ∧
      authority'.authorityId = authority.authorityId ∧ authority'.active = true ∧
      authority'.publicKeySha256 = authority.publicKeySha256 ∧
      Base64.decode authority'.publicKeyBase64 = some (p.ed25519.publicKey key) := by
  have decoded : Base64.decode approval'.signatureBase64 = some
      (p.ed25519.sign key (message approval.toApprovalData)) := by
    rw [same, signed, Base64.decode_encode]
  have verified := other.signature
  unfold signatureOk at verified
  cases loaded : loadPublicKey p.toHost authority' with
  | error e => simp only [decoded, loaded, Bool.false_eq_true] at verified
  | ok raw =>
    simp only [decoded, loaded] at verified
    have data := message_injective (unforgeable _ _ _ _ verified)
    obtain ⟨inRegistry, -, fingerprinted⟩ := loadPublicKey_ok.mp loaded
    have digests : stableHash p.toHost challenge' = stableHash p.toHost challenge := by
      rw [(challengeHash_ok.mp other.digest).2, (challengeHash_ok.mp valid.digest).2, data]
    have prints : authority'.publicKeySha256 = authority.publicKeySha256 := by
      rw [← other.fingerprint, data, valid.fingerprint]
    have keys : raw = p.ed25519.publicKey key := free (fingerprinted.trans (prints.trans matching))
    refine ⟨?_, data, by rw [← other.authorityId, data, valid.authorityId], other.active, prints, keys ▸ inRegistry⟩
    exact normal'.symm.trans ((stableHash_injective free digests).trans normal)

/-- The holder of a registered key signs every challenge in its window with the required
confirmation; the approval verifies until the challenge expires, and with its signature
nothing else does. -/
theorem human_authority_binds (free : p.toHost.CollisionFree) (marked : ∀ v, stableHash p.toHost v ≠ "")
    (times : Times p.toPlatform) (correct : p.ed25519.Correct) (unforgeable : p.ed25519.Unforgeable)
    (sized : ∀ key, (p.ed25519.publicKey key).size = 32) (registered : Registered p files paths authority key)
    (read : files.readJson paths.challenge = .ok challenge) (wellFormed : WellFormed p challenge issued expires)
    (opened : issued ≤ now) (unexpired : now < expires) :
    SignsExactly p files paths challenge authority key expires now := by
  obtain ⟨required, approval, phrase, stripped, signs, signature, valid⟩ :=
    registered.signs times read wellFormed opened unexpired marked
  have verified : signatureOk p approval authority = true := by
    have loaded : loadPublicKey p.toHost authority = .ok (p.ed25519.publicKey key) :=
      loadPublicKey_ok.mpr ⟨registered.publicKey, sized key, registered.matching.symm⟩
    simp only [signatureOk, signature, Base64.decode_encode, loaded]
    exact correct _ _
  refine ⟨required, approval, phrase, stripped, fun confirmation same => ?_, fun files paths later requireUnexpired
    challenged approved registry _ before => ?_, fun files paths later requireUnexpired accepted => ?_⟩
  · simp only [signChallenge, signs confirmation same]
  · exact accepts_iff.mpr ⟨challenge, approval, authority, ⟨challenged, readApproval_written approved, registry⟩,
      valid requireUnexpired later before verified⟩
  · obtain ⟨challenge', approval', authority', reads, other⟩ := accepts_iff.mp accepted
    exact ⟨challenge', approval', authority', reads, (valid true now unexpired verified).bound free unforgeable
      registered.matching signature other (Files.readJson_normal read) (Files.readJson_normal reads.challenge)⟩

end

/-! ## A sample -/

def sampleIssued : Int := 1767225600000000
def sampleExpiry : Int := 1767232800000000

/-- Digests and signatures that spell out their input, a calendar that is right about two
moments, and one private key. -/
def sampleKeys : KeyPlatform where
  toHost := hexHost
  approvalSecret := none
  iso time :=
    if time = sampleIssued then some "2026-01-01T00:00:00Z"
    else if time = sampleExpiry then some "2026-01-01T02:00:00Z"
    else if 0 ≤ time then some (String.ofList (List.replicate time.toNat 'x')) else none
  parseIso text :=
    if text = "2026-01-01T00:00:00Z" then some sampleIssued
    else if text = "2026-01-01T02:00:00Z" then some sampleExpiry
    else if text.toList.all (· == 'x') then some text.toList.length else none
  resolveManuscript _ file := file
  isDecimal := Char.isDigit
  ed25519 := .plain 32
  loadPem bytes := if h : bytes.size = 32 then some (some ⟨bytes, h⟩) else none

theorem times_sample : Times sampleKeys.toPlatform := by
  have unary (text : String) (others : text.toList.all (· == 'x') = true) :
      text ≠ "2026-01-01T00:00:00Z" ∧ text ≠ "2026-01-01T02:00:00Z" := by
    constructor
    all_goals
      rintro rfl
      revert others
      decide
  constructor
  · intro time text written
    simp only [sampleKeys] at written ⊢
    split_ifs at written with start finish nonneg
    · obtain rfl := Option.some.inj written
      rw [if_pos rfl, start]
    · obtain rfl := Option.some.inj written
      rw [if_neg (by decide), if_pos rfl, finish]
    · obtain rfl := Option.some.inj written
      have all : (String.ofList (List.replicate time.toNat 'x')).toList.all (· == 'x') = true := by simp
      obtain ⟨first, second⟩ := unary _ all
      rw [if_neg first, if_neg second, if_pos all, String.toList_ofList, List.length_replicate,
        Int.toNat_of_nonneg nonneg]
  · intro early late low high time parsed _ after _
    have nonneg : 0 ≤ low := by
      simp only [sampleKeys] at parsed
      split_ifs at parsed
      all_goals obtain rfl := Option.some.inj parsed
      · decide
      · decide
      · exact Int.natCast_nonneg _
    simp only [sampleKeys]
    split_ifs with _ _ negative
    · exact ⟨_, rfl⟩
    · exact ⟨_, rfl⟩
    · exact ⟨_, rfl⟩
    · exact absurd (nonneg.trans after) negative

def sampleKey : sampleKeys.ed25519.Key := ⟨⟨(List.replicate 32 7).toArray⟩, by decide⟩

def sampleAuthority : HumanAuthority where
  authorityId := "author-human-authority"
  publicKeyBase64 := Base64.encode (sampleKeys.ed25519.publicKey sampleKey)
  publicKeySha256 := fingerprint hexHost (sampleKeys.ed25519.publicKey sampleKey)
  createdAt := "2026-01-01T00:00:00Z"
  active := true
  sized := by decide

def humanChallenge : Json :=
  .dict [("schema", .str challengeSchema), ("publication_id", .str "matverse-2.0-v1-arxiv"),
    ("package_hash", .str zeroDigest), ("destination", .str "arxiv"), ("issued_at", .str "2026-01-01T00:00:00Z"),
    ("expires_at", .str "2026-01-01T02:00:00Z"), ("nonce", .str "0123456789abcdef0123456789abcdef")]

def samplePaths : SigningPaths := ⟨"challenge.json", "private.pem", "authority.json", "approval.json"⟩

def sampleFiles : Files :=
  ((Files.write (fun _ => none) "private.pem" sampleKey.1).writeJson "challenge.json" humanChallenge).writeJson
    "authority.json" sampleAuthority.toJson

theorem human_authority_binds_sample : SignsExactly sampleKeys sampleFiles samplePaths humanChallenge sampleAuthority
    sampleKey sampleExpiry sampleIssued := by
  have normal : humanChallenge.norm = humanChallenge := Json.normal_dict (by simp [Json.Normal])
  have challenge : sampleFiles.readJson samplePaths.challenge = .ok humanChallenge := by
    have found : sampleFiles samplePaths.challenge = some (Files.documentText humanChallenge).toUTF8 := by
      simp [sampleFiles, samplePaths, Files.writeJson, Files.write_apply]
    rw [Files.readJson_document found, normal]
  have registry : readAuthority sampleFiles samplePaths.authorityRegistry = .ok sampleAuthority := by
    apply readAuthority_written
    simp [sampleFiles, samplePaths, Files.writeJson, Files.write_apply]
  have pem : loadPrivateKey sampleKeys sampleFiles samplePaths.privateKey = .ok sampleKey := by
    have found : sampleFiles samplePaths.privateKey = some sampleKey.1 := by
      simp [sampleFiles, samplePaths, Files.writeJson, Files.write_apply]
    simp only [loadPrivateKey, found]
    rfl
  refine human_authority_binds hexHost_collisionFree hexHost_stableHash_ne_empty times_sample
    (SignatureScheme.plain_correct 32) (SignatureScheme.plain_unforgeable 32) (fun key => key.2)
    ⟨registry, rfl, pem, Base64.decode_encode _, rfl⟩ challenge ?_ (Int.le_refl sampleIssued) (by decide)
  have start : sampleKeys.parseIso "2026-01-01T00:00:00Z" = some sampleIssued := by simp [sampleKeys]
  have finish : sampleKeys.parseIso "2026-01-01T02:00:00Z" = some sampleExpiry := by simp [sampleKeys]
  exact ⟨by simp [humanChallenge], by simp [humanChallenge], by simp [humanChallenge], by simp [humanChallenge],
    ⟨_, by simp [humanChallenge], start⟩, ⟨_, by simp [humanChallenge], finish⟩⟩

end MatVerse.Marxiv.Authority
