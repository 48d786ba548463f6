import MatVerse.FederationGovernedGate
import MatVerse.Lib.JsonAscii
import MatVerse.Lib.Signature

/-! Two authorities sign one federation relation, each in its own role. The witness
they make is the same in either order; the Ed25519 gate admits what both have signed
and nothing else. -/
namespace MatVerse

open Fallible

/-- The constructor of `Ed25519RelationWitness`. -/
def Ed25519RelationWitnessFields.build (w : Ed25519RelationWitnessFields) :
    Except PyError Ed25519RelationWitness :=
  match valid : w.postInit with
  | .ok () => .ok ⟨w, valid⟩
  | .error e => .error e

/-- The relation with another witness; its own checks do not look at the witness. -/
def FederationRelation.withWitness (relation : FederationRelation) (witness : Ed25519RelationWitness) :
    FederationRelation where
  toFederationRelationFields := { relation.toFederationRelationFields with witness := some (.ed25519 witness) }
  valid := relation.valid

inductive SigningRole where
  | source
  | target
  deriving DecidableEq

def SigningRole.text : SigningRole → String
  | .source => "source"
  | .target => "target"

def Ed25519RelationWitnessFields.signatureHex (w : Ed25519RelationWitnessFields) : SigningRole → Option String
  | .source => w.sourceSignatureHex
  | .target => w.targetSignatureHex

def Ed25519RelationWitnessFields.replaceSignature (w : Ed25519RelationWitnessFields) (hex : String) :
    SigningRole → Ed25519RelationWitnessFields
  | .source => { w with sourceSignatureHex := some hex }
  | .target => { w with targetSignatureHex := some hex }

/-- `_signing_message`, with its checks. -/
def checkedSigningMessage (payloadSha256 role : String) : Except PyError String := do
  requireSha256 payloadSha256 "payload_sha256"
  if !(["source", "target"].contains role) then throw (.valueError "role must be source or target")
  return signingMessage payloadSha256 role

def alreadySigned (role : SigningRole) : PyError :=
  .valueError (role.text ++ " authority has already signed this relation")

section
variable (host : Host) (scheme : SignatureScheme)

def witnessForSigning (relation : FederationRelation) : Except PyError (String × Ed25519RelationWitness) := do
  if relation.witnessScheme != ed25519PublicKeyScheme then
    throw (.valueError ("unsupported witness scheme: " ++ relation.witnessScheme))
  let digest := relation.payloadSha256 host
  match relation.witness with
  | none =>
    let witness ← Ed25519RelationWitnessFields.build ⟨ed25519PublicKeyScheme, digest, none, none⟩
    return (digest, witness)
  | some (.ed25519 witness) =>
    if witness.payloadSha256 != digest then
      throw (.valueError "existing witness payload does not match current relation")
    return (digest, witness)
  | some _ => throw (.valueError "relation carries a witness from a different scheme")

def signRelationEd25519 (role : SigningRole) (relation : FederationRelation) (privateKey : scheme.Key) :
    Except PyError FederationRelation := do
  let (digest, witness) ← witnessForSigning host relation
  if (witness.signatureHex role).isSome then throw (alreadySigned role)
  let message ← checkedSigningMessage digest role.text
  let signature := Hex.text (scheme.sign privateKey message.toUTF8)
  let signed ← (witness.replaceSignature signature role).build
  return relation.withWitness signed

def signRelationEd25519Source := signRelationEd25519 host scheme .source

def signRelationEd25519Target := signRelationEd25519 host scheme .target

/-- Any further signatures, one after the other. -/
def signEach (relation : FederationRelation) (steps : List (SigningRole × scheme.Key)) :
    Except PyError FederationRelation :=
  steps.foldlM (fun relation step => signRelationEd25519 host scheme step.1 relation step.2) relation

end

/-- The text whose digest the parties sign. -/
def FederationRelation.payloadText (relation : FederationRelation) : String :=
  JsonText.dumpsAscii JsonText.compact relation.canonicalPayload

/-- Everything of a relation but its witness. -/
def FederationRelationFields.payloadFields (r : FederationRelationFields) : FederationRelationFields :=
  { r with witness := none }

/-- The messages that Ed25519 keys sign here. -/
def SigningMessages (host : Host) (message : ByteArray) : Prop :=
  ∃ (text : String) (role : SigningRole), message = (signingMessage (sha256Text host text) role.text).toUTF8

/-- A relation in force at a time, and a request within it. -/
structure InForce (relation : FederationRelation) (request : RelationRequest) (t : Int) : Prop where
  active : relation.status = .active
  window : relation.validFrom ≤ t ∧ t < relation.validUntil
  domains : request.sourceDomain = relation.sourceDomain ∧ request.targetDomain = relation.targetDomain
  contract : request.contractHash = relation.contractHash
  capability : request.capability ∈ relation.capabilities

/-- A role's signature verifies over the relation's payload, under a key. -/
def SignedInRole (host : Host) (verify : Ed25519Verify) (relation : FederationRelation)
    (witness : Ed25519RelationWitness) (key : ByteArray) (role : SigningRole) : Prop :=
  ∃ hex, witness.signatureHex role = some hex ∧
    verify key (Hex.bytes hex) (signingMessage (relation.payloadSha256 host) role.text).toUTF8 = true

/-- Both roles signed, under two distinct keys registered for the two authorities. -/
def SignedByBoth (host : Host) (verify : Ed25519Verify) (publicKeys : List (String × ByteArray))
    (relation : FederationRelation) (witness : Ed25519RelationWitness) : Prop :=
  ∃ source target, publicKeys.lookup relation.sourceAuthority = some source ∧
    publicKeys.lookup relation.targetAuthority = some target ∧ source ≠ target ∧
    SignedInRole host verify relation witness source .source ∧ SignedInRole host verify relation witness target .target

variable {host : Host} {scheme : SignatureScheme} {verify : Ed25519Verify} {publicKeys : List (String × ByteArray)}
variable {relation signed : FederationRelation} {request : RelationRequest} {t : Int} {role : SigningRole}

/-! ## The gate -/

theorem roleReasons_nil_iff {key : ByteArray} {signature : Option String} {digest role : String} :
    ed25519RoleReasons verify (some key) signature digest role = [] ↔
      ∃ hex, signature = some hex ∧ verify key (Hex.bytes hex) (signingMessage digest role).toUTF8 = true := by
  refine ⟨roleReasons_eq_nil, ?_⟩
  rintro ⟨hex, rfl, verified⟩
  rw [ed25519RoleReasons, verified]
  rfl

theorem witnessReasons_nil_iff {witness : Ed25519RelationWitness} :
    ed25519WitnessReasons verify publicKeys relation (relation.payloadSha256 host) witness = [] ↔
      witness.scheme = relation.witnessScheme ∧ witness.payloadSha256 = relation.payloadSha256 host ∧
        SignedByBoth host verify publicKeys relation witness := by
  simp only [ed25519WitnessReasons, List.append_eq_nil_iff, reasonIf_eq_nil, bne_eq_false_iff_eq]
  constructor
  · rintro ⟨⟨⟨⟨⟨⟨own, digest⟩, source⟩, target⟩, distinct⟩, sourceSigned⟩, targetSigned⟩
    refine ⟨own, digest, ?_⟩
    cases sourceKey : publicKeys.lookup relation.sourceAuthority with
    | none => simp [sourceKey] at source
    | some source =>
      cases targetKey : publicKeys.lookup relation.targetAuthority with
      | none => simp [targetKey] at target
      | some target =>
        rw [sourceKey] at sourceSigned
        rw [targetKey] at targetSigned
        refine ⟨source, target, sourceKey, targetKey, ?_, roleReasons_nil_iff.mp sourceSigned,
          roleReasons_nil_iff.mp targetSigned⟩
        simpa [sourceKey, targetKey] using distinct
  · rintro ⟨own, digest, source, target, sourceKey, targetKey, distinct, sourceSigned, targetSigned⟩
    rw [sourceKey, targetKey]
    exact ⟨⟨⟨⟨⟨⟨own, digest⟩, rfl⟩, rfl⟩, by simpa using distinct⟩, roleReasons_nil_iff.mpr sourceSigned⟩,
      roleReasons_nil_iff.mpr targetSigned⟩

theorem commonReasons_nil_iff : commonReasons relation request t = [] ↔ InForce relation request t := by
  rw [commonReasons_eq_nil]
  constructor
  · rintro ⟨active, source, target, contract, capability, starts, ends⟩
    exact ⟨active, ⟨starts, ends⟩, ⟨source, target⟩, contract, capability⟩
  · rintro ⟨active, ⟨starts, ends⟩, ⟨source, target⟩, contract, capability⟩
    exact ⟨active, source, target, contract, capability, starts, ends⟩

theorem witness_scheme (witness : Ed25519RelationWitness) : witness.scheme = ed25519PublicKeyScheme := by
  have valid := witness.valid
  simp only [Ed25519RelationWitnessFields.postInit, bind_ok, guard_ok] at valid
  obtain ⟨own, _⟩ := valid
  simpa using own

theorem ed25519Evaluate_admissible :
    (ed25519Evaluate host verify publicKeys t relation request).admissible = true ↔
      InForce relation request t ∧ relation.witnessScheme = ed25519PublicKeyScheme ∧
        ∃ witness, relation.witness = some (.ed25519 witness) ∧
          witness.payloadSha256 = relation.payloadSha256 host ∧
          SignedByBoth host verify publicKeys relation witness := by
  unfold ed25519Evaluate
  by_cases own : relation.witnessScheme = ed25519PublicKeyScheme
  · simp only [own, bne_self_eq_false, Bool.false_eq_true, if_false, List.isEmpty_iff, List.append_eq_nil_iff,
      commonReasons_nil_iff, true_and]
    refine and_congr_right fun _ => ?_
    cases found : relation.witness with
    | none => simp
    | some witness =>
      cases witness with
      | hmac _ => simp
      | other _ _ => simp
      | ed25519 witness => simp [witnessReasons_nil_iff, witness_scheme, own]
  · simp [own]

/-! ## Signing -/

theorem Ed25519RelationWitnessFields.build_ok {w : Ed25519RelationWitnessFields} {witness : Ed25519RelationWitness}
    (built : w.build = .ok witness) : witness.toEd25519RelationWitnessFields = w := by
  unfold Ed25519RelationWitnessFields.build at built
  split at built
  · cases built
    rfl
  · cases built

theorem Ed25519RelationWitnessFields.build_valid {w : Ed25519RelationWitnessFields} (valid : w.postInit = .ok ()) :
    w.build = .ok ⟨w, valid⟩ := by
  unfold Ed25519RelationWitnessFields.build
  split
  · rfl
  next e raised => exact absurd (valid.symm.trans raised) nofun

theorem witness_ext {a b : Ed25519RelationWitness}
    (same : a.toEd25519RelationWitnessFields = b.toEd25519RelationWitnessFields) : a = b := by
  cases a
  cases b
  cases same
  rfl

theorem witness_postInit {w : Ed25519RelationWitnessFields} :
    w.postInit = .ok () ↔ w.scheme = ed25519PublicKeyScheme ∧ isLowerSha256 w.payloadSha256 = true ∧
      ∀ role hex, w.signatureHex role = some hex → isSignatureHex hex = true := by
  have digest : requireSha256 w.payloadSha256 "payload_sha256" = .ok () ↔ isLowerSha256 w.payloadSha256 = true := by
    unfold requireSha256
    split <;> simp_all
  have signature (value : Option String) (name : String) :
      requireSignature value name = .ok () ↔ ∀ hex, value = some hex → isSignatureHex hex = true := by
    unfold requireSignature
    cases value with
    | none => simp
    | some hex =>
      by_cases shape : isSignatureHex hex = true
      all_goals simp [shape]
  simp only [Ed25519RelationWitnessFields.postInit, guard_ok, check_ok, digest, signature, bne_iff_ne, ne_eq,
    Decidable.not_not]
  refine and_congr_right fun _ => and_congr_right fun _ => ⟨?_, fun all => ⟨all .source, all .target⟩⟩
  rintro ⟨source, target⟩ role
  cases role with
  | source => exact source
  | target => exact target

@[simp] theorem signatureHex_replaced (w : Ed25519RelationWitnessFields) (hex : String) (role : SigningRole) :
    (w.replaceSignature hex role).signatureHex role = some hex := by
  cases role <;> rfl

theorem signatureHex_other (w : Ed25519RelationWitnessFields) (hex : String) {role other : SigningRole}
    (apart : other ≠ role) : (w.replaceSignature hex role).signatureHex other = w.signatureHex other := by
  cases role <;> cases other <;> first | rfl | exact absurd rfl apart

@[simp] theorem payloadSha256_replaced (w : Ed25519RelationWitnessFields) (hex : String) (role : SigningRole) :
    (w.replaceSignature hex role).payloadSha256 = w.payloadSha256 := by
  cases role <;> rfl

theorem replaced_scheme (w : Ed25519RelationWitnessFields) (hex : String) (role : SigningRole) :
    (w.replaceSignature hex role).scheme = w.scheme := by
  cases role <;> rfl

theorem replaceSignature_comm (w : Ed25519RelationWitnessFields) (first second : String) {role other : SigningRole}
    (apart : other ≠ role) :
    (w.replaceSignature first role).replaceSignature second other =
      (w.replaceSignature second other).replaceSignature first role := by
  cases role <;> cases other <;> first | rfl | exact absurd rfl apart

/-- The witness that a signature is added to. -/
structure SignsFrom (host : Host) (relation : FederationRelation) (witness : Ed25519RelationWitness) : Prop where
  scheme : relation.witnessScheme = ed25519PublicKeyScheme
  payload : witness.payloadSha256 = relation.payloadSha256 host
  start : relation.witness = none ∧ witness.sourceSignatureHex = none ∧ witness.targetSignatureHex = none ∨
    relation.witness = some (.ed25519 witness)

theorem witnessForSigning_iff {digest : String} {witness : Ed25519RelationWitness} :
    witnessForSigning host relation = .ok (digest, witness) ↔
      digest = relation.payloadSha256 host ∧ SignsFrom host relation witness := by
  unfold witnessForSigning
  simp only [guard_ok, bne_iff_ne, ne_eq, Decidable.not_not]
  cases carried : relation.witness with
  | none =>
    simp only [bind_ok, pure_ok, Prod.mk.injEq]
    constructor
    · rintro ⟨own, built, done, rfl, rfl⟩
      have fields := Ed25519RelationWitnessFields.build_ok done
      exact ⟨rfl, own, by rw [fields], .inl ⟨carried, by rw [fields], by rw [fields]⟩⟩
    · rintro ⟨rfl, own, payload, ⟨-, source, target⟩ | other⟩
      · refine ⟨own, witness, ?_, rfl, rfl⟩
        have fields : witness.toEd25519RelationWitnessFields =
            ⟨ed25519PublicKeyScheme, relation.payloadSha256 host, none, none⟩ :=
          calc witness.toEd25519RelationWitnessFields
            _ = ⟨witness.scheme, witness.payloadSha256, witness.sourceSignatureHex, witness.targetSignatureHex⟩ := rfl
            _ = _ := by rw [witness_scheme witness, payload, source, target]
        rw [← fields]
        exact Ed25519RelationWitnessFields.build_valid witness.valid
      · rw [carried] at other
        cases other
  | some witness' =>
    cases witness' with
    | hmac _ =>
      simp only [throw_ok, and_false, false_iff]
      rintro ⟨-, -, -, ⟨absent, -⟩ | other⟩
      · rw [carried] at absent
        cases absent
      · rw [carried] at other
        cases other
    | other _ _ =>
      simp only [throw_ok, and_false, false_iff]
      rintro ⟨-, -, -, ⟨absent, -⟩ | other⟩
      · rw [carried] at absent
        cases absent
      · rw [carried] at other
        cases other
    | ed25519 witness' =>
      simp only [guard_ok, Decidable.not_not, pure_ok, Prod.mk.injEq]
      constructor
      · rintro ⟨own, payload, rfl, rfl⟩
        exact ⟨rfl, own, payload, .inr carried⟩
      · rintro ⟨rfl, own, payload, ⟨absent, -⟩ | other⟩
        · rw [carried] at absent
          cases absent
        · rw [carried] at other
          cases other
          exact ⟨own, payload, rfl, rfl⟩

/-- What a role's key signs of a relation, as the witness keeps it. -/
def roleSignature (host : Host) (scheme : SignatureScheme) (relation : FederationRelation) (role : SigningRole)
    (key : scheme.Key) : String :=
  Hex.text (scheme.sign key (signingMessage (relation.payloadSha256 host) role.text).toUTF8)

theorem checkedSigningMessage_ok (long : host.Sha256Length) (relation : FederationRelation) (role : SigningRole) :
    checkedSigningMessage (relation.payloadSha256 host) role.text =
      .ok (signingMessage (relation.payloadSha256 host) role.text) := by
  have digest : requireSha256 (relation.payloadSha256 host) "payload_sha256" = .ok () :=
    if_pos (isLowerSha256_sha256 long _)
  have named : (!(["source", "target"].contains role.text)) = false := by cases role <;> rfl
  rw [checkedSigningMessage, digest, ok_bind, named]
  rfl

theorem isSignatureHex_text {bytes : ByteArray} (sized : bytes.size = 64) : isSignatureHex (Hex.text bytes) = true := by
  have digits : (Hex.text bytes).toList.all Hex.isDigit = true := Hex.digits_text bytes
  rw [isSignatureHex, digits, Hex.length_text, sized]
  rfl

theorem replaced_builds (witness : Ed25519RelationWitness) {bytes : ByteArray} (sized : bytes.size = 64)
    (role : SigningRole) : ∃ next, (witness.replaceSignature (Hex.text bytes) role).build = .ok next ∧
      next.toEd25519RelationWitnessFields = witness.replaceSignature (Hex.text bytes) role := by
  obtain ⟨own, digest, signatures⟩ := witness_postInit.mp witness.valid
  have valid : (witness.replaceSignature (Hex.text bytes) role).postInit = .ok () := by
    refine witness_postInit.mpr ⟨by rw [replaced_scheme, own], by rw [payloadSha256_replaced, digest], ?_⟩
    intro other hex found
    by_cases same : other = role
    · subst same
      rw [signatureHex_replaced] at found
      obtain rfl := Option.some.inj found
      exact isSignatureHex_text sized
    · rw [signatureHex_other _ _ same] at found
      exact signatures other hex found
  exact ⟨_, Ed25519RelationWitnessFields.build_valid valid, rfl⟩

/-- A signature, added in a role that has not signed, and nothing else. -/
structure Signs (host : Host) (scheme : SignatureScheme) (role : SigningRole) (relation : FederationRelation)
    (key : scheme.Key) (witness next : Ed25519RelationWitness) : Prop where
  from_ : SignsFrom host relation witness
  unsigned : witness.signatureHex role = none
  added : next.toEd25519RelationWitnessFields =
    witness.replaceSignature (roleSignature host scheme relation role key) role

theorem signRelation_iff (long : host.Sha256Length) (sized : ∀ key message, (scheme.sign key message).size = 64)
    {key : scheme.Key} : signRelationEd25519 host scheme role relation key = .ok signed ↔
      ∃ witness next, Signs host scheme role relation key witness next ∧ signed = relation.withWitness next := by
  simp only [signRelationEd25519, bind_ok, guard_ok, pure_ok, Prod.exists, witnessForSigning_iff]
  constructor
  · rintro ⟨digest, witness, ⟨rfl, starts⟩, unsigned, message, checked, next, built, rfl⟩
    rw [checkedSigningMessage_ok long] at checked
    cases checked
    exact ⟨witness, next, ⟨starts, by simpa using unsigned, Ed25519RelationWitnessFields.build_ok built⟩, rfl⟩
  · rintro ⟨witness, next, signs, rfl⟩
    obtain ⟨built, done, fields⟩ := replaced_builds witness (sized key _) role
    refine ⟨_, witness, ⟨rfl, signs.from_⟩, by simp [signs.unsigned], _, checkedSigningMessage_ok long relation role,
      next, ?_, rfl⟩
    rw [witness_ext (signs.added.trans fields.symm)]
    exact done

theorem withWitness_starts {witness other : Ed25519RelationWitness}
    (starts : SignsFrom host (relation.withWitness witness) other) : other = witness := by
  obtain ⟨absent, -⟩ | same := starts.start
  · cases absent
  · cases same
    rfl

/-- After a signature the next one starts from the witness it made. -/
theorem Signs.continues {key : scheme.Key} {witness next : Ed25519RelationWitness}
    (signs : Signs host scheme role relation key witness next) : SignsFrom host (relation.withWitness next) next where
  scheme := signs.from_.scheme
  payload := by rw [signs.added, payloadSha256_replaced, signs.from_.payload]; rfl
  start := .inr rfl

theorem signRelation_swap (long : host.Sha256Length) (sized : ∀ key message, (scheme.sign key message).size = 64)
    {other : SigningRole} (apart : other ≠ role) {first second : scheme.Key}
    (done : (signRelationEd25519 host scheme role relation first >>= fun half =>
      signRelationEd25519 host scheme other half second) = .ok signed) :
    (signRelationEd25519 host scheme other relation second >>= fun half =>
      signRelationEd25519 host scheme role half first) = .ok signed := by
  simp only [bind_ok, signRelation_iff long sized] at done ⊢
  obtain ⟨_, ⟨witness, next, signs, rfl⟩, starting, both, signs', rfl⟩ := done
  obtain rfl := withWitness_starts signs'.from_
  have unsigned : witness.signatureHex other = none := by
    have := signs'.unsigned
    rwa [signs.added, signatureHex_other _ _ apart] at this
  obtain ⟨half, -, fields⟩ := replaced_builds witness (sized second
    (signingMessage (relation.payloadSha256 host) other.text).toUTF8) other
  have early : Signs host scheme other relation second witness half := ⟨signs.from_, unsigned, fields⟩
  refine ⟨_, ⟨witness, half, early, rfl⟩, half, both, ⟨early.continues, ?_, ?_⟩, rfl⟩
  · rw [fields, signatureHex_other _ _ apart.symm, signs.unsigned]
  · rw [signs'.added, signs.added, fields]
    exact replaceSignature_comm _ _ _ apart

/-- A role has signed the relation as it is. -/
structure HasSigned (host : Host) (role : SigningRole) (relation : FederationRelation)
    (witness : Ed25519RelationWitness) : Prop where
  from_ : SignsFrom host relation witness
  signature : (witness.signatureHex role).isSome = true

theorem Signs.hasSigned {key : scheme.Key} {witness next : Ed25519RelationWitness}
    (signs : Signs host scheme role relation key witness next) : HasSigned host role (relation.withWitness next) next :=
  ⟨signs.continues, by rw [signs.added, signatureHex_replaced]; rfl⟩

theorem HasSigned.kept (long : host.Sha256Length) (sized : ∀ key message, (scheme.sign key message).size = 64)
    {witness : Ed25519RelationWitness} (has : HasSigned host role relation witness) {other : SigningRole}
    {key : scheme.Key} (done : signRelationEd25519 host scheme other relation key = .ok signed) :
    ∃ next, HasSigned host role signed next := by
  obtain ⟨before, next, signs, rfl⟩ := (signRelation_iff long sized).mp done
  refine ⟨next, signs.continues, ?_⟩
  have same : before = witness := by
    obtain ⟨absent, source, target⟩ | carried := has.from_.start
    · have signature := has.signature
      cases role with
      | source => rw [Ed25519RelationWitnessFields.signatureHex, source] at signature; cases signature
      | target => rw [Ed25519RelationWitnessFields.signatureHex, target] at signature; cases signature
    · obtain ⟨absent, -⟩ | found := signs.from_.start
      · rw [carried] at absent
        cases absent
      · rw [carried] at found
        cases found
        rfl
  subst same
  by_cases own : role = other
  · rw [signs.added, own, signatureHex_replaced]
    rfl
  · rw [signs.added, signatureHex_other _ _ own]
    exact has.signature

theorem HasSigned.signEach (long : host.Sha256Length) (sized : ∀ key message, (scheme.sign key message).size = 64)
    {witness : Ed25519RelationWitness} (has : HasSigned host role relation witness)
    {steps : List (SigningRole × scheme.Key)} (done : signEach host scheme relation steps = .ok signed) :
    ∃ next, HasSigned host role signed next := by
  induction steps generalizing relation witness with
  | nil =>
    cases done
    exact ⟨witness, has⟩
  | cons step rest ih =>
    simp only [MatVerse.signEach, List.foldlM_cons, bind_ok] at done
    obtain ⟨half, first, others⟩ := done
    obtain ⟨next, has'⟩ := has.kept long sized first
    exact ih has' others

theorem HasSigned.refused {witness : Ed25519RelationWitness}
    (has : HasSigned host role relation witness) (key : scheme.Key) :
    signRelationEd25519 host scheme role relation key = .error (alreadySigned role) := by
  have read := witnessForSigning_iff.mpr ⟨rfl, has.from_⟩
  rw [signRelationEd25519, read, ok_bind]
  simp only [has.signature, if_true]
  rfl

end MatVerse
