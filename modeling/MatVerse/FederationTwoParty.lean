import MatVerse.FederationSigning

/-! What the two signatures of a relation are worth: their order does not matter, each
role signs once, the gate admits what both signed, and nothing but it. -/
namespace MatVerse

open Fallible

/-- The signature a relation's witness carries in a role. -/
def FederationRelation.signature (relation : FederationRelation) (role : SigningRole) : Option String :=
  match relation.witness with
  | some (.ed25519 witness) => witness.signatureHex role
  | _ => none

/-- The relation has no witness, or one of its own payload in which the role has not signed. -/
def Awaits (host : Host) (role : SigningRole) (relation : FederationRelation) : Prop :=
  relation.witness = none ∨ ∃ witness, relation.witness = some (.ed25519 witness) ∧
    witness.payloadSha256 = relation.payloadSha256 host ∧ witness.signatureHex role = none

structure TwoParty (host : Host) (scheme : SignatureScheme) : Prop where
  /-- The order of the roles makes no difference. -/
  commute : ∀ relation sourceKey targetKey signed,
    (signRelationEd25519Source host scheme relation sourceKey >>= fun half =>
        signRelationEd25519Target host scheme half targetKey) = .ok signed ↔
      (signRelationEd25519Target host scheme relation targetKey >>= fun half =>
        signRelationEd25519Source host scheme half sourceKey) = .ok signed
  /-- Who can sign. -/
  signs : ∀ role relation key, (∃ signed, signRelationEd25519 host scheme role relation key = .ok signed) ↔
    relation.witnessScheme = ed25519PublicKeyScheme ∧ Awaits host role relation
  /-- Nobody signs twice, whatever was signed in between. -/
  once : ∀ role relation key signed, signRelationEd25519 host scheme role relation key = .ok signed →
    ∀ steps later, signEach host scheme signed steps = .ok later →
      ∀ again, signRelationEd25519 host scheme role later again = .error (alreadySigned role)
  /-- What the gate admits. -/
  admits : ∀ publicKeys t relation request,
    (ed25519Evaluate host scheme.verify publicKeys t relation request).admissible = true ↔
      InForce relation request t ∧ relation.witnessScheme = ed25519PublicKeyScheme ∧
        ∃ witness, relation.witness = some (.ed25519 witness) ∧
          witness.payloadSha256 = relation.payloadSha256 host ∧
          SignedByBoth host scheme.verify publicKeys relation witness
  /-- What both have signed is admitted under their keys. -/
  complete : ∀ relation sourceKey targetKey signed,
    (signRelationEd25519Source host scheme relation sourceKey >>= fun half =>
      signRelationEd25519Target host scheme half targetKey) = .ok signed →
    ∀ publicKeys, publicKeys.lookup relation.sourceAuthority = some (scheme.publicKey sourceKey) →
      publicKeys.lookup relation.targetAuthority = some (scheme.publicKey targetKey) →
      scheme.publicKey sourceKey ≠ scheme.publicKey targetKey →
      ∀ t request, InForce signed request t →
        (ed25519Evaluate host scheme.verify publicKeys t signed request).admissible = true
  /-- A relation with another payload that carries a role's signature is not admitted. -/
  tampered : ∀ role relation key signed, signRelationEd25519 host scheme role relation key = .ok signed →
    ∀ changed : FederationRelation, changed.signature role = signed.signature role →
      changed.payloadFields ≠ signed.payloadFields →
      host.CollisionFreeOn (fun text => text = changed.payloadText ∨ text = signed.payloadText) →
      ∀ publicKeys t request,
        (ed25519Evaluate host scheme.verify publicKeys t changed request).admissible = false

variable {host : Host} {scheme : SignatureScheme} {relation signed changed : FederationRelation}
variable {role : SigningRole} {request : RelationRequest} {t : Int}

theorem RelationStatus.value_injective {a b : RelationStatus} (same : a.value = b.value) : a = b := by
  cases a <;> cases b <;> first | rfl | exact absurd same (by decide)

theorem jsonStr_injective : Function.Injective Json.str := fun _ _ same => Json.str.inj same

/-- The signed payload determines every field of the relation but the witness. -/
theorem canonicalPayload_injective (same : changed.canonicalPayload = signed.canonicalPayload) :
    changed.payloadFields = signed.payloadFields := by
  have field (key : String) : changed.canonicalPayload.get? key = signed.canonicalPayload.get? key := by rw [same]
  have relationId := field "relation_id"
  have sourceDomain := field "source_domain"
  have targetDomain := field "target_domain"
  have sourceAuthority := field "source_authority"
  have targetAuthority := field "target_authority"
  have contractHash := field "contract_hash"
  have capabilities := field "capabilities"
  have validFrom := field "valid_from"
  have validUntil := field "valid_until"
  have status := field "status"
  have evidencePolicy := field "evidence_policy"
  have witnessScheme := field "witness_scheme"
  simp [FederationRelation.canonicalPayload] at relationId sourceDomain targetDomain sourceAuthority targetAuthority
  simp [FederationRelation.canonicalPayload] at contractHash capabilities validFrom validUntil
  simp [FederationRelation.canonicalPayload] at status evidencePolicy witnessScheme
  simp only [FederationRelationFields.payloadFields, relationId, sourceDomain, targetDomain, sourceAuthority,
    targetAuthority, contractHash, validFrom, validUntil, evidencePolicy, witnessScheme,
    RelationStatus.value_injective status, List.map_injective_iff.mpr jsonStr_injective capabilities]

/-- A signing message determines the payload digest and the role. -/
theorem signingMessage_injective {digest other role : String}
    (same : (signingMessage digest role).toUTF8 = (signingMessage other role).toUTF8) : digest = other := by
  have texts : signingMessage digest role = signingMessage other role := String.toByteArray_inj.mp same
  exact (String.append_right_inj _).mp texts

theorem signRelation_signature {key : scheme.Key} {witness next : Ed25519RelationWitness}
    (signs : Signs host scheme role relation key witness next) :
    (relation.withWitness next).signature role = some (roleSignature host scheme relation role key) := by
  show next.signatureHex role = _
  rw [signs.added, signatureHex_replaced]

theorem signedInRole_of_signature (correct : scheme.Correct) {key : scheme.Key} {witness : Ed25519RelationWitness}
    (signature : witness.signatureHex role = some (roleSignature host scheme relation role key)) :
    SignedInRole host scheme.verify relation witness (scheme.publicKey key) role := by
  refine ⟨_, signature, ?_⟩
  rw [roleSignature, Hex.bytes_text]
  exact correct key _

theorem SignedByBoth.inRole {verify : Ed25519Verify} {publicKeys : List (String × ByteArray)}
    {witness : Ed25519RelationWitness} (both : SignedByBoth host verify publicKeys relation witness)
    (role : SigningRole) : ∃ key, SignedInRole host verify relation witness key role := by
  obtain ⟨source, target, -, -, -, sourceSigned, targetSigned⟩ := both
  cases role with
  | source => exact ⟨source, sourceSigned⟩
  | target => exact ⟨target, targetSigned⟩

theorem not_admissible_of_changed
    (unforgeable : scheme.UnforgeableOn (SigningMessages host)) {key : scheme.Key}
    (signature : changed.signature role = some (roleSignature host scheme relation role key))
    (differs : changed.payloadFields ≠ relation.payloadFields)
    (free : host.CollisionFreeOn (fun text => text = changed.payloadText ∨ text = relation.payloadText))
    (publicKeys : List (String × ByteArray)) :
    (ed25519Evaluate host scheme.verify publicKeys t changed request).admissible = false := by
  rw [Bool.eq_false_iff]
  intro admissible
  obtain ⟨-, -, witness, carried, -, both⟩ := ed25519Evaluate_admissible.mp admissible
  obtain ⟨publicKey, hex, found, verified⟩ := both.inRole role
  rw [FederationRelation.signature, carried] at signature
  obtain rfl := Option.some.inj (found.symm.trans signature)
  rw [roleSignature, Hex.bytes_text] at verified
  have messages := unforgeable key _ publicKey _ ⟨relation.payloadText, role, rfl⟩
    ⟨changed.payloadText, role, rfl⟩ verified
  have texts := free _ _ (.inl rfl) (.inr rfl) (signingMessage_injective messages)
  exact differs (canonicalPayload_injective (JsonText.dumpsAscii_injective texts))

theorem signRelation_exists (long : host.Sha256Length) (sized : ∀ key message, (scheme.sign key message).size = 64)
    {key : scheme.Key} : (∃ signed, signRelationEd25519 host scheme role relation key = .ok signed) ↔
      relation.witnessScheme = ed25519PublicKeyScheme ∧ Awaits host role relation := by
  constructor
  · rintro ⟨signed, done⟩
    obtain ⟨witness, next, signs, rfl⟩ := (signRelation_iff long sized).mp done
    refine ⟨signs.from_.scheme, ?_⟩
    obtain ⟨absent, -⟩ | carried := signs.from_.start
    · exact .inl absent
    · exact .inr ⟨witness, carried, signs.from_.payload, signs.unsigned⟩
  · rintro ⟨own, waiting⟩
    have start : ∃ witness, SignsFrom host relation witness ∧ witness.signatureHex role = none := by
      obtain absent | ⟨witness, carried, payload, unsigned⟩ := waiting
      · have valid : (⟨ed25519PublicKeyScheme, relation.payloadSha256 host, none, none⟩ :
            Ed25519RelationWitnessFields).postInit = .ok () :=
          witness_postInit.mpr ⟨rfl, isLowerSha256_sha256 long _, fun role hex found => by cases role <;> cases found⟩
        exact ⟨⟨_, valid⟩, ⟨own, rfl, .inl ⟨absent, rfl, rfl⟩⟩, by cases role <;> rfl⟩
      · exact ⟨witness, ⟨own, payload, .inr carried⟩, unsigned⟩
    obtain ⟨witness, starts, unsigned⟩ := start
    obtain ⟨next, -, fields⟩ := replaced_builds witness (sized key
      (signingMessage (relation.payloadSha256 host) role.text).toUTF8) role
    exact ⟨_, (signRelation_iff long sized).mpr ⟨witness, next, ⟨starts, unsigned, fields⟩, rfl⟩⟩

/-- Two signatures make a witness the gate admits under the two keys. -/
theorem admissible_of_signed (long : host.Sha256Length) (sized : ∀ key message, (scheme.sign key message).size = 64)
    (correct : scheme.Correct) {sourceKey targetKey : scheme.Key}
    (done : (signRelationEd25519Source host scheme relation sourceKey >>= fun half =>
      signRelationEd25519Target host scheme half targetKey) = .ok signed)
    {publicKeys : List (String × ByteArray)}
    (source : publicKeys.lookup relation.sourceAuthority = some (scheme.publicKey sourceKey))
    (target : publicKeys.lookup relation.targetAuthority = some (scheme.publicKey targetKey))
    (distinct : scheme.publicKey sourceKey ≠ scheme.publicKey targetKey) (inForce : InForce signed request t) :
    (ed25519Evaluate host scheme.verify publicKeys t signed request).admissible = true := by
  simp only [signRelationEd25519Source, signRelationEd25519Target, bind_ok, signRelation_iff long sized] at done
  obtain ⟨_, ⟨witness, half, first, rfl⟩, starting, both, second, rfl⟩ := done
  obtain rfl := withWitness_starts second.from_
  have targetSigned : both.signatureHex .target = some (roleSignature host scheme relation .target targetKey) :=
    signRelation_signature second
  have sourceSigned : both.signatureHex .source = some (roleSignature host scheme relation .source sourceKey) := by
    rw [second.added, signatureHex_other _ _ (by decide)]
    exact signRelation_signature first
  exact ed25519Evaluate_admissible.mpr ⟨inForce, first.from_.scheme, both, rfl, second.continues.payload, _, _,
    source, target, distinct, signedInRole_of_signature correct sourceSigned,
    signedInRole_of_signature correct targetSigned⟩

/-- The two signatures of a relation, with a scheme that is correct and unforgeable. -/
theorem two_party_witness (host : Host) (scheme : SignatureScheme) (long : host.Sha256Length)
    (sized : ∀ key message, (scheme.sign key message).size = 64) (correct : scheme.Correct)
    (unforgeable : scheme.UnforgeableOn (SigningMessages host)) : TwoParty host scheme where
  commute _ _ _ _ := ⟨signRelation_swap long sized (by decide), signRelation_swap long sized (by decide)⟩
  signs _ _ _ := signRelation_exists long sized
  once role relation key signed done steps later further again := by
    obtain ⟨witness, next, signs, rfl⟩ := (signRelation_iff long sized).mp done
    obtain ⟨last, has⟩ := signs.hasSigned.signEach long sized further
    exact has.refused again
  admits _ _ _ _ := ed25519Evaluate_admissible
  complete _ _ _ _ done _ source target distinct _ _ inForce :=
    admissible_of_signed long sized correct done source target distinct inForce
  tampered role relation key signed done changed carries differs free publicKeys t request := by
    obtain ⟨witness, next, signs, rfl⟩ := (signRelation_iff long sized).mp done
    rw [signRelation_signature signs] at carries
    have payload : (relation.withWitness next).payloadFields = relation.payloadFields := rfl
    rw [payload] at differs
    exact not_admissible_of_changed unforgeable carries differs free publicKeys

/-! ## A sample -/

/-- A key's byte, a letter of the role and the bytes the digest spells. -/
def sealBytes (publicKey message : ByteArray) : ByteArray :=
  let letters := ((String.fromUTF8? message).getD "").toList
  ⟨(publicKey.data.toList.headD 0 :: UInt8.ofNat (letters.drop 54).head!.toNat ::
    (Hex.pairs (letters.drop 61) ++ List.replicate 62 0).take 62).toArray⟩

/-- Keys of one byte, and signatures that spell out the key and the message. -/
def sealScheme : SignatureScheme where
  Key := UInt8
  publicKey key := ⟨(List.replicate 32 key).toArray⟩
  sign key message := sealBytes ⟨(List.replicate 32 key).toArray⟩ message
  verify publicKey signature message := decide (sealBytes publicKey message = signature)

theorem sealScheme_verify {publicKey signature message : ByteArray} :
    sealScheme.verify publicKey signature message = true ↔ sealBytes publicKey message = signature := by
  simp [sealScheme]

theorem sealScheme_correct : sealScheme.Correct := fun _ _ => sealScheme_verify.mpr rfl

theorem sealScheme_sized (key : sealScheme.Key) (message : ByteArray) : (sealScheme.sign key message).size = 64 := by
  show (sealBytes _ message).size = 64
  simp [sealBytes, ByteArray.size]

def signingStart : String := "matverse.federation-relation.v1\n" ++ ed25519PublicKeyScheme ++ "\n"

theorem signingMessage_text (role : SigningRole) (digest : String) :
    (signingMessage digest role.text).toList.drop 54 = (role.text ++ "\n").toList ++ digest.toList ∧
      (signingMessage digest role.text).toList.drop 61 = digest.toList := by
  have opening : signingStart.toList.length = 54 := by decide +kernel
  have named : (signingStart ++ (role.text ++ "\n")).toList.length = 61 := by cases role <;> decide +kernel
  have message : signingMessage digest role.text = signingStart ++ (role.text ++ "\n") ++ digest := by
    show signingStart ++ role.text ++ "\n" ++ digest = _
    rw [@String.append_assoc signingStart]
  constructor
  · rw [message, String.append_assoc, String.toList_append, String.toList_append]
    exact List.drop_left' opening
  · rw [message, String.toList_append]
    exact List.drop_left' named

def SigningRole.letter : SigningRole → UInt8
  | .source => 115
  | .target => 116

theorem sealBytes_message (publicKey bytes : ByteArray) (role : SigningRole) :
    sealBytes publicKey (signingMessage (Hex.text bytes) role.text).toUTF8 =
      ⟨(publicKey.data.toList.headD 0 :: role.letter ::
        (bytes.data.toList ++ List.replicate 62 0).take 62).toArray⟩ := by
  obtain ⟨roles, digest⟩ := signingMessage_text role (Hex.text bytes)
  have letter : UInt8.ofNat ((role.text ++ "\n").toList ++ (Hex.text bytes).toList).head!.toNat = role.letter := by
    cases role <;> rfl
  have spelled : Hex.pairs (Hex.text bytes).toList = bytes.data.toList := by
    rw [Hex.text, String.toList_ofList, Hex.pairs_flatMap]
  rw [sealBytes, Text.fromUTF8?_toUTF8, Option.getD_some, roles, digest, letter, spelled]

/-- 32 bytes that show whether a text is the marked one. -/
def mark (marked : Bool) : ByteArray := ⟨(List.replicate 32 (if marked then 1 else 0)).toArray⟩

/-- Digests of the right length, which tell one text from all others. -/
def tellingHost (text : String) : Host where
  sha256 bytes := Hex.text (mark (decide (bytes = text.toUTF8)))
  sha256Digits _ := Hex.digits_text _
  hmac := hexHost.hmac
  hmacDigits := hexHost.hmacDigits
  source name := name
  containerText _ := ""

theorem tellingHost_sha256Length (text : String) : (tellingHost text).Sha256Length := by
  intro bytes
  show (Hex.text (mark _)).length = 64
  rw [Hex.length_text]
  rfl

theorem sealScheme_unforgeable (marked : String) : sealScheme.UnforgeableOn (SigningMessages (tellingHost marked)) := by
  rintro key _ publicKey _ ⟨text, role, rfl⟩ ⟨other, role', rfl⟩ verified
  have same := sealScheme_verify.mp verified
  change sealBytes publicKey
    (signingMessage (Hex.text (mark (decide (other.toUTF8 = marked.toUTF8)))) role'.text).toUTF8 =
    sealBytes _ (signingMessage (Hex.text (mark (decide (text.toUTF8 = marked.toUTF8)))) role.text).toUTF8 at same
  rw [sealBytes_message, sealBytes_message] at same
  simp only [ByteArray.mk.injEq, Array.mk.injEq, List.cons.injEq] at same
  obtain ⟨-, letters, words⟩ := same
  have roles : role' = role := by
    cases role' <;> cases role <;> first | rfl | exact absurd letters (by decide)
  have marks : decide (other.toUTF8 = marked.toUTF8) = decide (text.toUTF8 = marked.toUTF8) := by
    generalize decide (other.toUTF8 = marked.toUTF8) = b at words ⊢
    generalize decide (text.toUTF8 = marked.toUTF8) = c at words ⊢
    cases b <;> cases c <;> first | rfl | exact absurd words (by decide)
  show (signingMessage (Hex.text (mark (decide (other.toUTF8 = marked.toUTF8)))) role'.text).toUTF8 = _
  rw [marks, roles]
  rfl

def sampleRelationFields (witnessScheme : String) (validUntil : Int) : FederationRelationFields where
  relationId := "rel-a-b"
  sourceDomain := "a"
  targetDomain := "b"
  sourceAuthority := "auth-a"
  targetAuthority := "auth-b"
  contractHash := zeroDigest
  capabilities := ["transfer"]
  validFrom := 100
  validUntil := validUntil
  status := .active
  evidencePolicy := "receipt"
  witnessScheme := witnessScheme
  witness := none

theorem sampleRelation_valid : (sampleRelationFields ed25519PublicKeyScheme 200).postInit = .ok () := by decide +kernel

theorem longerRelation_valid : (sampleRelationFields ed25519PublicKeyScheme 300).postInit = .ok () := by decide +kernel

theorem sharedRelation_valid : (sampleRelationFields hmacSharedSecretScheme 200).postInit = .ok () := by decide +kernel

def unsignedRelation : FederationRelation := ⟨sampleRelationFields ed25519PublicKeyScheme 200, sampleRelation_valid⟩

def longerRelation : FederationRelation := ⟨sampleRelationFields ed25519PublicKeyScheme 300, longerRelation_valid⟩

/-- The relation under the scheme of shared secrets. -/
def sharedRelation : FederationRelation := ⟨sampleRelationFields hmacSharedSecretScheme 200, sharedRelation_valid⟩

def transferFields : RelationRequestFields := ⟨"a", "b", zeroDigest, "transfer"⟩

theorem transfer_valid : transferFields.postInit = .ok () := by decide +kernel

def transferRequest : RelationRequest := ⟨transferFields, transfer_valid⟩

def sealKeys : List (String × ByteArray) :=
  [("auth-a", sealScheme.publicKey (1 : UInt8)), ("auth-b", sealScheme.publicKey (2 : UInt8))]

theorem sealKeys_distinct : sealScheme.publicKey (1 : UInt8) ≠ sealScheme.publicKey (2 : UInt8) := by
  intro same
  have first := congrArg (fun bytes => bytes.data.toList.headD 0) same
  exact absurd first (by decide +kernel)

/-- A host that tells the longer relation from all others. -/
def sealHost : Host := tellingHost longerRelation.payloadText

theorem sealHost_sha256Length : sealHost.Sha256Length := tellingHost_sha256Length _

theorem digests_apart : longerRelation.payloadSha256 sealHost ≠ unsignedRelation.payloadSha256 sealHost := by
  have texts : unsignedRelation.payloadText.toUTF8 ≠ longerRelation.payloadText.toUTF8 := by
    intro same
    have fields := canonicalPayload_injective (JsonText.dumpsAscii_injective (String.toByteArray_inj.mp same))
    have untils : (200 : Int) = 300 := congrArg FederationRelationFields.validUntil fields
    exact absurd untils (by decide)
  show Hex.text (mark (decide (longerRelation.payloadText.toUTF8 = longerRelation.payloadText.toUTF8))) ≠
    Hex.text (mark (decide (unsignedRelation.payloadText.toUTF8 = longerRelation.payloadText.toUTF8)))
  rw [decide_eq_true rfl, decide_eq_false texts]
  exact fun same => absurd (Hex.text_injective same) (by decide)

theorem sample_inForce (witness : Ed25519RelationWitness) :
    InForce (unsignedRelation.withWitness witness) transferRequest 150 ∧
      InForce (sharedRelation.withWitness witness) transferRequest 150 := by
  have window : (100 : Int) ≤ 150 ∧ (150 : Int) < 200 := by decide
  exact ⟨⟨rfl, window, ⟨rfl, rfl⟩, rfl, .head _⟩, rfl, window, ⟨rfl, rfl⟩, rfl, .head _⟩

/-- Two keys sign a relation; the gate admits it, and refuses a longer one that carries
the signatures. -/
theorem two_party_witness_sample : TwoParty sealHost sealScheme ∧
    ∃ signed witness, (signRelationEd25519Source sealHost sealScheme unsignedRelation (1 : UInt8) >>= fun half =>
        signRelationEd25519Target sealHost sealScheme half (2 : UInt8)) = .ok signed ∧
      signed = unsignedRelation.withWitness witness ∧
      (ed25519Evaluate sealHost sealScheme.verify sealKeys 150 signed transferRequest).admissible = true ∧
      (ed25519Evaluate sealHost sealScheme.verify sealKeys 150 (longerRelation.withWitness witness)
        transferRequest).admissible = false := by
  have both := two_party_witness sealHost sealScheme sealHost_sha256Length sealScheme_sized sealScheme_correct
    (sealScheme_unforgeable _)
  obtain ⟨half, first⟩ := (both.signs .source unsignedRelation (1 : UInt8)).mpr ⟨rfl, .inl rfl⟩
  obtain ⟨_, next, signs, rfl⟩ := (signRelation_iff sealHost_sha256Length sealScheme_sized).mp first
  have unsigned : next.signatureHex .target = none := by
    rw [signs.added, signatureHex_other _ _ (by decide)]
    obtain ⟨-, -, unsigned⟩ | carried := signs.from_.start
    · exact unsigned
    · cases carried
  obtain ⟨signed, second⟩ := (both.signs .target (unsignedRelation.withWitness next) (2 : UInt8)).mpr
    ⟨rfl, .inr ⟨next, rfl, signs.continues.payload, unsigned⟩⟩
  have done : (signRelationEd25519Source sealHost sealScheme unsignedRelation (1 : UInt8) >>= fun half =>
      signRelationEd25519Target sealHost sealScheme half (2 : UInt8)) = .ok signed :=
    bind_ok.mpr ⟨_, first, second⟩
  obtain ⟨_, last, signs', rfl⟩ := (signRelation_iff sealHost_sha256Length sealScheme_sized).mp second
  refine ⟨both, _, last, done, rfl, ?_, ?_⟩
  · exact both.complete _ _ _ _ done sealKeys rfl rfl sealKeys_distinct 150 transferRequest (sample_inForce last).1
  · refine both.tampered .target _ (2 : UInt8) _ second (longerRelation.withWitness last) rfl ?_ ?_ sealKeys 150
      transferRequest
    · intro same
      have untils : (300 : Int) = 200 := congrArg FederationRelationFields.validUntil same
      exact absurd untils (by decide)
    · rintro _ _ (rfl | rfl) (rfl | rfl) same
      · rfl
      · exact absurd same digests_apart
      · exact absurd same.symm digests_apart
      · rfl

/-- A witness that names a digest, signed over a relation's payload by two keys. -/
def sealedWitnessFields (named : String) (relation : FederationRelation) : Ed25519RelationWitnessFields where
  scheme := ed25519PublicKeyScheme
  payloadSha256 := named
  sourceSignatureHex := some (roleSignature sealHost sealScheme relation .source (1 : UInt8))
  targetSignatureHex := some (roleSignature sealHost sealScheme relation .target (2 : UInt8))

theorem sealedWitness_valid {named : String} (shape : isLowerSha256 named = true) (relation : FederationRelation) :
    (sealedWitnessFields named relation).postInit = .ok () := by
  refine witness_postInit.mpr ⟨rfl, shape, fun role hex found => ?_⟩
  cases role with
  | source =>
    obtain rfl := Option.some.inj found
    exact isSignatureHex_text (sealScheme_sized _ _)
  | target =>
    obtain rfl := Option.some.inj found
    exact isSignatureHex_text (sealScheme_sized _ _)

def sealedWitness (named : String) (shape : isLowerSha256 named = true) (relation : FederationRelation) :
    Ed25519RelationWitness :=
  ⟨sealedWitnessFields named relation, sealedWitness_valid shape relation⟩

/-- Signed over its payload, with a witness that names the digest of the longer relation. -/
def misnamedRelation : FederationRelation :=
  unsignedRelation.withWitness (sealedWitness (longerRelation.payloadSha256 sealHost)
    (isLowerSha256_sha256 sealHost_sha256Length _) unsignedRelation)

/-- Signed over its payload, under the scheme of shared secrets. -/
def foreignRelation : FederationRelation :=
  sharedRelation.withWitness (sealedWitness (sharedRelation.payloadSha256 sealHost)
    (isLowerSha256_sha256 sealHost_sha256Length _) sharedRelation)

theorem sealed_by_both {relation : FederationRelation} {named : String} {shape : isLowerSha256 named = true}
    (authorities : relation.sourceAuthority = "auth-a" ∧ relation.targetAuthority = "auth-b") :
    SignedByBoth sealHost sealScheme.verify sealKeys (relation.withWitness (sealedWitness named shape relation))
      (sealedWitness named shape relation) := by
  refine ⟨sealScheme.publicKey (1 : UInt8), sealScheme.publicKey (2 : UInt8), ?_, ?_, sealKeys_distinct,
    signedInRole_of_signature sealScheme_correct rfl, signedInRole_of_signature sealScheme_correct rfl⟩
  · show sealKeys.lookup relation.sourceAuthority = _
    rw [authorities.1]
    rfl
  · show sealKeys.lookup relation.targetAuthority = _
    rw [authorities.2]
    rfl

/-- Both signatures verify and everything is in force; the gate refuses a witness that
names another digest, and a relation of another scheme. -/
theorem signed_by_both_refused :
    (sealScheme.Correct ∧ sealScheme.UnforgeableOn (SigningMessages sealHost)) ∧
    (InForce misnamedRelation transferRequest 150 ∧
      (∃ witness, misnamedRelation.witness = some (.ed25519 witness) ∧
        SignedByBoth sealHost sealScheme.verify sealKeys misnamedRelation witness) ∧
      (ed25519Evaluate sealHost sealScheme.verify sealKeys 150 misnamedRelation transferRequest).admissible = false) ∧
    InForce foreignRelation transferRequest 150 ∧
      (∃ witness, foreignRelation.witness = some (.ed25519 witness) ∧
        SignedByBoth sealHost sealScheme.verify sealKeys foreignRelation witness) ∧
      (ed25519Evaluate sealHost sealScheme.verify sealKeys 150 foreignRelation transferRequest).admissible = false := by
  refine ⟨⟨sealScheme_correct, sealScheme_unforgeable _⟩, ⟨(sample_inForce _).1, ⟨_, rfl, sealed_by_both ⟨rfl, rfl⟩⟩,
    ?_⟩, (sample_inForce _).2, ⟨_, rfl, sealed_by_both ⟨rfl, rfl⟩⟩, ?_⟩
  · rw [Bool.eq_false_iff]
    intro admissible
    obtain ⟨-, -, witness, carried, payload, -⟩ := ed25519Evaluate_admissible.mp admissible
    cases carried
    exact absurd payload digests_apart
  · rw [Bool.eq_false_iff]
    intro admissible
    exact absurd (ed25519Evaluate_admissible.mp admissible).2.1 (by decide)

end MatVerse
