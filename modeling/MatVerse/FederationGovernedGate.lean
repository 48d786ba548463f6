import MatVerse.FederationKeyChain

/-! The governed relation gate: signatures resolved through immutable bindings and
the lifecycle of their keys, and what a recorded revocation does to its verdicts. -/
namespace MatVerse

open Fallible

def keyStateReasons (key : AuthorityKeyFields) (timestamp : Int) (role : String) : List String :=
  reasonIf (timestamp < key.validFrom) (role ++ "_key_not_yet_valid") ++
  reasonIf (key.validUntil ≤ timestamp) (role ++ "_key_expired") ++
  reasonIf (key.revokedAt.any (fun revokedAt => revokedAt ≤ timestamp)) (role ++ "_key_revoked")

section
variable (host : Host) (verify : Ed25519Verify)

/-- What the gate finds wrong with a bound key. -/
def boundKeyReasons (key : Option (AuthorityKeyRecord host)) (authorityId : String) (timestamp : Int)
    (role : String) : List String :=
  match key with
  | none => ["bound_" ++ role ++ "_key_missing"]
  | some key =>
    reasonIf (key.authorityId != authorityId) ("bound_" ++ role ++ "_key_authority_mismatch") ++
    keyStateReasons key.toAuthorityKeyFields timestamp role

def publicKeyOf (key : Option (AuthorityKeyRecord host)) (authorityId : String) : List (String × String) :=
  match key with
  | none => []
  | some key => [(authorityId, key.publicKeyHex)]

def sharedPublicKey (source target : Option (AuthorityKeyRecord host)) : Bool :=
  match source, target with
  | some source, some target => source.publicKeyHex == target.publicKeyHex
  | _, _ => false

/-- The binding's reasons, and the public keys it resolves. -/
def resolveBinding (db : Database) (timestamp : Int) (relation : FederationRelation) :
    Option RelationKeyBinding → Except PyError (List String × List (String × String))
  | none => .ok (["missing_key_binding"], [])
  | some binding => do
    let source ← getKey host db binding.sourceKeyId
    let target ← getKey host db binding.targetKeyId
    let reasons :=
      reasonIf (binding.relationSha256 != relation.payloadSha256 host) "binding_relation_hash_mismatch" ++
      reasonIf (binding.sourceAuthority != relation.sourceAuthority) "binding_source_authority_mismatch" ++
      reasonIf (binding.targetAuthority != relation.targetAuthority) "binding_target_authority_mismatch" ++
      boundKeyReasons host source binding.sourceAuthority timestamp "source" ++
      boundKeyReasons host target binding.targetAuthority timestamp "target" ++
      reasonIf (sharedPublicKey host source target) "bound_shared_authority_public_key"
    return (reasons, publicKeyOf host source relation.sourceAuthority ++
      publicKeyOf host target relation.targetAuthority)

/-- `GovernedEd25519RelationIntegrityGate.evaluate`. -/
def governedEvaluate (db : Database) (timestamp : Int) (relation : FederationRelation)
    (request : RelationRequest) : Except PyError RelationDecision := do
  let binding ← getRelationBinding db relation.relationId
  let (bindingReasons, authorityPublicKeys) ← resolveBinding host db timestamp relation binding
  let publicKeys ← ed25519PublicKeys authorityPublicKeys
  let base := ed25519Evaluate host verify publicKeys timestamp relation request
  let reasons := (bindingReasons ++ base.reasons).eraseDups
  return ⟨relation.relationId, reasons.isEmpty, reasons, base.relationSha256, timestamp⟩

/-- The gate as routing consumes it: each call reads the registry and the clock. -/
def governedGate (registry : Nat → Database) (now : Nat → Int) : RelationGate where
  enforcesKeyLifecycle := true
  evaluate call := governedEvaluate host verify (registry call) (now call)

end

variable {host : Host} {verify : Ed25519Verify} {env : Surroundings} {db db' : Database}
variable {relation : FederationRelation} {request : RelationRequest} {t : Int} {d : RelationDecision}

theorem eraseDups_eq_nil {α : Type} [BEq α] {l : List α} : l.eraseDups = [] ↔ l = [] := by
  cases l <;> simp [List.eraseDups_cons]

theorem governedEvaluate_reasoned (judged : governedEvaluate host verify db t relation request = .ok d) :
    d.Reasoned := by
  simp only [governedEvaluate, bind_ok, pure_ok] at judged
  obtain ⟨_, _, ⟨_, _⟩, _, _, _, rfl⟩ := judged
  simp [RelationDecision.Reasoned]

/-! ## What an admissible verdict rests on -/

/-- A role's signature over the relation's payload, under a key. -/
def SignedBy (host : Host) (verify : Ed25519Verify) (relation : FederationRelation) (key : AuthorityKeyRow)
    (signature : Option String) (role : String) : Prop :=
  ∃ hex, signature = some hex ∧
    verify (Hex.bytes key.publicKeyHex) (Hex.bytes hex)
      (signingMessage (relation.payloadSha256 host) role).toUTF8 = true

/-- The binding, the two effective keys, the two signatures and the scope. -/
structure GovernedEvidence (host : Host) (verify : Ed25519Verify) (db : Database) (t : Int)
    (relation : FederationRelation) (request : RelationRequest) (binding : RelationKeyBindingRow)
    (source target : AuthorityKeyRow) (witness : Ed25519RelationWitness) : Prop where
  bound : findBinding db relation.relationId = some binding
  payload : binding.relationSha256 = relation.payloadSha256 host
  sourceKey : findKey db binding.sourceKeyId = some source
  targetKey : findKey db binding.targetKeyId = some target
  sourceAuthority : source.authorityId = relation.sourceAuthority
  targetAuthority : target.authorityId = relation.targetAuthority
  distinctIds : source.keyId ≠ target.keyId
  distinctKeys : source.publicKeyHex ≠ target.publicKeyHex
  sourceEffective : source.fields.effectiveAt t = true
  targetEffective : target.fields.effectiveAt t = true
  witnessed : relation.witness = some (.ed25519 witness)
  sourceSigned : SignedBy host verify relation source witness.sourceSignatureHex "source"
  targetSigned : SignedBy host verify relation target witness.targetSignatureHex "target"
  active : relation.status = .active
  window : relation.validFrom ≤ t ∧ t < relation.validUntil
  domains : request.sourceDomain = relation.sourceDomain ∧ request.targetDomain = relation.targetDomain
  contract : request.contractHash = relation.contractHash
  capability : request.capability ∈ relation.capabilities

theorem keyStateReasons_eq_nil {key : AuthorityKeyFields} {role : String} :
    keyStateReasons key t role = [] ↔ key.effectiveAt t = true := by
  simp only [keyStateReasons, AuthorityKeyFields.effectiveAt, List.append_eq_nil_iff, reasonIf_eq_nil,
    decide_eq_false_iff_not, not_lt, not_le, Bool.and_eq_true, decide_eq_true_eq]
  cases key.revokedAt <;> simp

theorem boundKeyReasons_eq_nil {key : Option (AuthorityKeyRecord host)} {authorityId role : String}
    (clean : boundKeyReasons host key authorityId t role = []) :
    ∃ record, key = some record ∧ record.authorityId = authorityId ∧ record.effectiveAt t = true := by
  cases key with
  | none => simp [boundKeyReasons] at clean
  | some record =>
    simp only [boundKeyReasons, List.append_eq_nil_iff, reasonIf_eq_nil, bne_eq_false_iff_eq] at clean
    exact ⟨record, rfl, clean.1, keyStateReasons_eq_nil.mp clean.2⟩

theorem getKey_some {keyId : String} {record : AuthorityKeyRecord host}
    (read : getKey host db keyId = .ok (some record)) :
    ∃ row, findKey db keyId = some row ∧ record.toAuthorityKeyFields = row.fields := by
  unfold getKey at read
  split at read
  · cases read
  next row found =>
    cases built : rowToKey host row with
    | error e => rw [built] at read; cases read
    | ok built' =>
      rw [built] at read
      cases read
      exact ⟨row, found, build_ok built⟩

theorem getRelationBinding_some {relationId : String} {binding : RelationKeyBinding}
    (read : getRelationBinding db relationId = .ok (some binding)) :
    ∃ row, findBinding db relationId = some row ∧ binding.toRelationKeyBindingFields = row.fields := by
  unfold getRelationBinding at read
  split at read
  · cases read
  next row found =>
    cases built : rowToBinding row with
    | error e => rw [built] at read; cases read
    | ok built' =>
      rw [built] at read
      cases read
      exact ⟨row, found, binding_build_ok built⟩

theorem relation_distinct (relation : FederationRelation) : relation.sourceAuthority ≠ relation.targetAuthority := by
  have valid := relation.valid
  simp only [FederationRelationFields.postInit, bind_ok, guard_ok] at valid
  obtain ⟨_, _, _, _, _, _, _, _, _, _, _, _, _, _, _, authorities, _⟩ := valid
  simpa using authorities

theorem ed25519PublicKeys_pair {a b source target : String} {keys : List (String × ByteArray)}
    (coerced : ed25519PublicKeys [(a, source), (b, target)] = .ok keys) :
    keys = [(a, Hex.bytes source), (b, Hex.bytes target)] := by
  have coerce (value : String) (key : ByteArray) (done : coercePublicKey value = .ok key) :
      key = Hex.bytes value := by
    unfold coercePublicKey at done
    split at done
    · cases done
      rfl
    · cases done
  simp only [ed25519PublicKeys, List.mapM_cons, List.mapM_nil, bind_ok, guard_ok, pure_ok] at coerced
  obtain ⟨_, ⟨_, first, left, rfl⟩, _, ⟨_, ⟨_, second, right, rfl⟩, _, rfl, rfl⟩, rfl⟩ := coerced
  rw [coerce _ _ left, coerce _ _ right]

theorem roleReasons_eq_nil {key : ByteArray} {signature : Option String} {digest role : String}
    (clean : ed25519RoleReasons verify (some key) signature digest role = []) :
    ∃ hex, signature = some hex ∧ verify key (Hex.bytes hex) (signingMessage digest role).toUTF8 = true := by
  cases signature with
  | none => simp [ed25519RoleReasons] at clean
  | some hex => exact ⟨hex, rfl, by simpa [ed25519RoleReasons] using clean⟩

/-- A clean verdict of the cryptographic gate: scope, and both signatures. -/
theorem ed25519Evaluate_clean {source target : ByteArray}
    (clean : (ed25519Evaluate host verify
      [(relation.sourceAuthority, source), (relation.targetAuthority, target)] t relation request).reasons = []) :
    commonReasons relation request t = [] ∧ ∃ witness, relation.witness = some (.ed25519 witness) ∧
      (∃ hex, witness.sourceSignatureHex = some hex ∧ verify source (Hex.bytes hex)
        (signingMessage (relation.payloadSha256 host) "source").toUTF8 = true) ∧
      ∃ hex, witness.targetSignatureHex = some hex ∧ verify target (Hex.bytes hex)
        (signingMessage (relation.payloadSha256 host) "target").toUTF8 = true := by
  unfold ed25519Evaluate at clean
  split at clean
  · simp at clean
  · simp only [List.append_eq_nil_iff] at clean
    obtain ⟨common, witnessed⟩ := clean
    refine ⟨common, ?_⟩
    split at witnessed
    · cases witnessed
    next witness found =>
      have other : (relation.targetAuthority == relation.sourceAuthority) = false :=
        beq_false_of_ne (relation_distinct relation).symm
      simp only [ed25519WitnessReasons, List.lookup_cons, beq_self_eq_true, other, List.append_eq_nil_iff]
        at witnessed
      exact ⟨witness, found, roleReasons_eq_nil witnessed.1.2, roleReasons_eq_nil witnessed.2⟩
    · cases witnessed

/-- An admissible verdict rests on the evidence the gate names. -/
theorem governed_evidence (judged : governedEvaluate host verify db t relation request = .ok d)
    (admissible : d.admissible = true) :
    ∃ binding source target witness,
      GovernedEvidence host verify db t relation request binding source target witness := by
  have none := (governedEvaluate_reasoned judged).mp admissible
  simp only [governedEvaluate, bind_ok, pure_ok] at judged
  obtain ⟨binding, bound, ⟨bindingReasons, authorityKeys⟩, resolved, publicKeys, coerced, rfl⟩ := judged
  rw [eraseDups_eq_nil, List.append_eq_nil_iff] at none
  obtain ⟨clean, base⟩ := none
  dsimp only at clean
  subst clean
  cases binding with
  | none => simp [resolveBinding] at resolved
  | some binding =>
    obtain ⟨row, rowFound, fields⟩ := getRelationBinding_some bound
    simp only [resolveBinding, bind_ok, pure_ok] at resolved
    obtain ⟨source, sourceRead, target, targetRead, same⟩ := resolved
    obtain ⟨reasons, keys⟩ := Prod.mk.inj same
    simp only [List.append_eq_nil_iff, reasonIf_eq_nil, bne_eq_false_iff_eq] at reasons
    obtain ⟨⟨⟨⟨⟨payload, sourceAuthority⟩, targetAuthority⟩, sourceClean⟩, targetClean⟩, shared⟩ := reasons
    obtain ⟨sourceKey, rfl, sourceOwner, sourceEffective⟩ := boundKeyReasons_eq_nil sourceClean
    obtain ⟨targetKey, rfl, targetOwner, targetEffective⟩ := boundKeyReasons_eq_nil targetClean
    obtain ⟨sourceRow, sourceFound, sourceFields⟩ := getKey_some sourceRead
    obtain ⟨targetRow, targetFound, targetFields⟩ := getKey_some targetRead
    simp only [publicKeyOf, List.cons_append, List.nil_append] at keys
    subst keys
    obtain rfl := ed25519PublicKeys_pair coerced
    obtain ⟨common, witness, witnessed, sourceSigned, targetSigned⟩ := ed25519Evaluate_clean base
    obtain ⟨active, sourceDomain, targetDomain, contract, capability, starts, ends⟩ :=
      commonReasons_eq_nil.mp common
    have distinctKeys : sourceRow.publicKeyHex ≠ targetRow.publicKeyHex := by
      intro same
      have keys : sourceKey.publicKeyHex = targetKey.publicKeyHex := by
        rw [sourceFields, targetFields]
        exact same
      simp [sharedPublicKey, keys] at shared
    have distinctIds : sourceRow.keyId ≠ targetRow.keyId := by
      intro same
      have sourceId := (findKey_mem sourceFound).2
      have targetId := (findKey_mem targetFound).2
      rw [← sourceId, same, targetId] at sourceFound
      rw [sourceFound] at targetFound
      exact distinctKeys (by rw [Option.some.inj targetFound])
    rw [fields] at payload sourceAuthority targetAuthority sourceOwner targetOwner sourceFound targetFound
    rw [sourceFields] at sourceOwner sourceEffective sourceSigned
    rw [targetFields] at targetOwner targetEffective targetSigned
    exact ⟨row, sourceRow, targetRow, witness,
      { bound := rowFound
        payload := payload
        sourceKey := sourceFound
        targetKey := targetFound
        sourceAuthority := sourceOwner.trans sourceAuthority
        targetAuthority := targetOwner.trans targetAuthority
        distinctIds := distinctIds
        distinctKeys := distinctKeys
        sourceEffective := sourceEffective
        targetEffective := targetEffective
        witnessed := witnessed
        sourceSigned := sourceSigned
        targetSigned := targetSigned
        active := active
        window := ⟨starts, ends⟩
        domains := ⟨sourceDomain, targetDomain⟩
        contract := contract
        capability := capability }⟩

/-! ## Verdicts before and after a revocation -/

/-- The gate cannot tell the two keys apart at this time. -/
structure SameAt (t : Int) (k l : AuthorityKeyFields) : Prop where
  authority : k.authorityId = l.authorityId
  publicKey : k.publicKeyHex = l.publicKeyHex
  state : ∀ role, keyStateReasons k t role = keyStateReasons l t role

def SameRead (t : Int) : Option (AuthorityKeyRecord host) → Option (AuthorityKeyRecord host) → Prop
  | none, none => True
  | some k, some l => SameAt t k.toAuthorityKeyFields l.toAuthorityKeyFields
  | _, _ => False

theorem boundKey_congr {k l : Option (AuthorityKeyRecord host)} (same : SameRead t k l) :
    (∀ authorityId role, boundKeyReasons host k authorityId t role = boundKeyReasons host l authorityId t role) ∧
      ∀ authorityId, publicKeyOf host k authorityId = publicKeyOf host l authorityId := by
  cases k with
  | none =>
    cases l with
    | none => exact ⟨fun _ _ => rfl, fun _ => rfl⟩
    | some l => cases same
  | some k =>
    cases l with
    | none => cases same
    | some l =>
      constructor
      · intro authorityId role
        simp only [boundKeyReasons, same.authority, same.state]
      · intro authorityId
        simp only [publicKeyOf, same.publicKey]

theorem sharedPublicKey_congr {k l k' l' : Option (AuthorityKeyRecord host)} (source : SameRead t k l)
    (target : SameRead t k' l') : sharedPublicKey host k k' = sharedPublicKey host l l' := by
  cases k <;> cases l <;> cases k' <;> cases l' <;>
    first
    | rfl
    | cases source; done
    | cases target; done
    | simp only [sharedPublicKey, source.publicKey, target.publicKey]

/-- Databases with the same bindings whose keys read alike give one verdict. -/
theorem governedEvaluate_congr (db db' : Database) (bindings : db'.relationKeyBindings = db.relationKeyBindings)
    (keys : ∀ keyId, ∃ k l, getKey host db keyId = .ok k ∧ getKey host db' keyId = .ok l ∧ SameRead t k l) :
    governedEvaluate host verify db' t relation request = governedEvaluate host verify db t relation request := by
  have sameBinding : getRelationBinding db' relation.relationId = getRelationBinding db relation.relationId := by
    simp only [getRelationBinding, findBinding, bindings]
  have sameResolved (binding : Option RelationKeyBinding) :
      resolveBinding host db' t relation binding = resolveBinding host db t relation binding := by
    cases binding with
    | none => rfl
    | some binding =>
      obtain ⟨source, source', readSource, readSource', sameSource⟩ := keys binding.sourceKeyId
      obtain ⟨target, target', readTarget, readTarget', sameTarget⟩ := keys binding.targetKeyId
      simp only [resolveBinding, readSource, readSource', readTarget, readTarget', ok_bind,
        (boundKey_congr sameSource).1, (boundKey_congr sameSource).2, (boundKey_congr sameTarget).1,
        (boundKey_congr sameTarget).2, sharedPublicKey_congr sameSource sameTarget]
  simp only [governedEvaluate, sameBinding, sameResolved]

theorem getKey_none {keyId : String} (missing : ∀ k ∈ db.authorityKeys, k.keyId ≠ keyId) :
    getKey host db keyId = .ok none := by
  have absent : findKey db keyId = none := by simpa [findKey] using missing
  rw [getKey, absent]

/-- A rewriting of the keys that the gate cannot see at this time. -/
theorem sameRead_map (registry : KeyRegistry host db.authorityKeys db.relationKeyBindings)
    (registry' : KeyRegistry host db'.authorityKeys db'.relationKeyBindings)
    {f : AuthorityKeyRow → AuthorityKeyRow} (keys : db'.authorityKeys = db.authorityKeys.map f)
    (ids : ∀ row, (f row).keyId = row.keyId)
    (same : ∀ row ∈ db.authorityKeys, SameAt t row.fields (f row).fields) (keyId : String) :
    ∃ k l, getKey host db keyId = .ok k ∧ getKey host db' keyId = .ok l ∧ SameRead t k l := by
  by_cases stored : ∃ row ∈ db.authorityKeys, row.keyId = keyId
  · obtain ⟨row, member, rfl⟩ := stored
    have member' : f row ∈ db'.authorityKeys := by
      rw [keys]
      exact List.mem_map_of_mem member
    obtain ⟨k, read, fields⟩ := getKey_of_mem registry member
    obtain ⟨l, read', fields'⟩ := getKey_of_mem registry' member'
    rw [ids] at read'
    refine ⟨some k, some l, read, read', ?_⟩
    rw [SameRead, fields, fields']
    exact same row member
  · push Not at stored
    refine ⟨none, none, getKey_none stored, getKey_none ?_, trivial⟩
    intro k member
    rw [keys] at member
    obtain ⟨row, inside, rfl⟩ := List.mem_map.mp member
    rw [ids]
    exact stored row inside

/-- A key whose revocation is not effective yet reads as it does without it. -/
theorem sameAt_revoked {k l : AuthorityKeyFields} {effectiveAt : Int} (active : k.revokedAt = none)
    (revoked : l.revokedAt = some effectiveAt) (before : t < effectiveAt)
    (fields : k.authorityId = l.authorityId ∧ k.publicKeyHex = l.publicKeyHex ∧ k.validFrom = l.validFrom ∧
      k.validUntil = l.validUntil) : SameAt t k l := by
  obtain ⟨authority, publicKey, starts, ends⟩ := fields
  refine ⟨authority, publicKey, fun role => ?_⟩
  have later : decide (effectiveAt ≤ t) = false := by simpa using before
  simp [keyStateReasons, active, revoked, starts, ends, later, reasonIf]

theorem SameAt.symm {k l : AuthorityKeyFields} (same : SameAt t k l) : SameAt t l k :=
  ⟨same.authority.symm, same.publicKey.symm, fun role => (same.state role).symm⟩

theorem SameAt.refl (k : AuthorityKeyFields) : SameAt t k k := ⟨rfl, rfl, fun _ => rfl⟩

/-- Recording a revocation leaves every verdict before its effective time. -/
theorem Revokes.same_before {authorityId keyId reason actorId : String} {effectiveAt : Int}
    {row : AuthorityKeyRow} {receipt : LedgerReceipt} {ledgered : Database}
    (registry : KeyRegistry host db.authorityKeys db.relationKeyBindings)
    (revokes : Revokes host env authorityId keyId effectiveAt reason actorId db row receipt ledgered db')
    (before : t < effectiveAt) :
    governedEvaluate host verify db' t relation request = governedEvaluate host verify db t relation request := by
  have registry' := revokes.keeps registry
  obtain ⟨member, named⟩ := findKey_mem revokes.found
  obtain ⟨_, _, _, _, rfl, _⟩ := appendLedgerTx_ok revokes.appended
  obtain rfl := revokes.updated
  refine governedEvaluate_congr db _ rfl
    (sameRead_map registry registry' rfl (fun k => (sameKey_revokeRow _ _ _ _ _ k).keyId) ?_)
  intro k inside
  unfold revokeRow
  split
  next mine =>
    have same : k = row := keyId_injective registry.keyIds inside member ((beq_iff_eq.mp mine).trans named.symm)
    subst same
    exact sameAt_revoked revokes.active rfl before ⟨rfl, rfl, rfl, rfl⟩
  · exact .refl _

/-- The row of a key, its revocation never recorded. -/
def unrevokeRow (keyId : String) (row : AuthorityKeyRow) : AuthorityKeyRow :=
  if row.keyId == keyId then
    { row with revokedAt := none, revocationReason := none, revokedBy := none, revocationReceiptJson := none }
  else row

/-- The database, the revocation of one key never recorded. -/
def Database.withoutRevocation (db : Database) (keyId : String) : Database :=
  { db with authorityKeys := db.authorityKeys.map (unrevokeRow keyId) }

theorem sameKey_unrevokeRow (keyId : String) (row : AuthorityKeyRow) : SameKey row (unrevokeRow keyId row) := by
  unfold unrevokeRow
  split <;> exact ⟨rfl, rfl, rfl, rfl, rfl, rfl⟩

theorem unrevokeRow_valid {row : AuthorityKeyRow} (valid : row.fields.postInit host = .ok ()) (keyId : String) :
    (unrevokeRow keyId row).fields.postInit host = .ok () := by
  unfold unrevokeRow
  split
  · obtain ⟨authority, id, own, algorithm, window, previous, _⟩ := postInit_ok.mp valid
    exact postInit_ok.mpr ⟨authority, id, own, algorithm, window, previous, rfl⟩
  · exact valid

/-- Before its effective time, a recorded revocation changes no verdict. -/
theorem governedEvaluate_withoutRevocation (registry : KeyRegistry host db.authorityKeys db.relationKeyBindings)
    {k : AuthorityKeyRow} (member : k ∈ db.authorityKeys) {effectiveAt : Int}
    (revoked : k.revokedAt = some effectiveAt) (before : t < effectiveAt) :
    governedEvaluate host verify db t relation request =
      governedEvaluate host verify (db.withoutRevocation k.keyId) t relation request := by
  have registry' : KeyRegistry host (db.withoutRevocation k.keyId).authorityKeys
      (db.withoutRevocation k.keyId).relationKeyBindings :=
    registry.map (sameKey_unrevokeRow k.keyId) (fun row inside => unrevokeRow_valid (registry.valid row inside) _)
  refine (governedEvaluate_congr db (db.withoutRevocation k.keyId) rfl
    (sameRead_map registry registry' rfl (fun row => (sameKey_unrevokeRow _ row).keyId) ?_)).symm
  intro row inside
  unfold unrevokeRow
  split
  next mine =>
    obtain rfl := keyId_injective registry.keyIds inside member (beq_iff_eq.mp mine)
    refine SameAt.symm (sameAt_revoked rfl ?_ before ⟨rfl, rfl, rfl, rfl⟩)
    exact revoked
  · exact .refl _

theorem revoked_kept (registry : KeyRegistry host db.authorityKeys db.relationKeyBindings)
    {k : AuthorityKeyRow} (member : k ∈ db.authorityKeys) {effectiveAt : Int}
    (revoked : k.revokedAt = some effectiveAt) (input : Surroundings × RegistryCall host) :
    k ∈ (registryNext host verify db input).2.authorityKeys := by
  obtain ⟨env, call⟩ := input
  cases call with
  | registerKey record actorId =>
    simp only [registryNext, Prod.map_snd, id]
    cases result : registerKey host env record actorId db with
    | mk answer db' =>
      cases answer with
      | error e =>
        obtain ⟨_, rfl⟩ := transaction_error.mp result
        exact member
      | ok answer =>
        rcases registerKey_ok result with ⟨_, rfl⟩ | ⟨receipt, ledgered, _, _, appended, inserted, _⟩
        · exact member
        · obtain ⟨_, _, _, _, rfl, _⟩ := appendLedgerTx_ok appended
          obtain ⟨_, rfl⟩ := insertKey_ok inserted
          exact List.mem_append_left _ member
  | revokeKey authorityId keyId other reason actorId =>
    simp only [registryNext, Prod.map_snd, id]
    rcases revokeKey_cases host env db authorityId keyId other reason actorId with
      ⟨same, _⟩ | ⟨row, receipt, ledgered, revokes, _⟩
    · rw [same]
      exact member
    · obtain ⟨inside, named⟩ := findKey_mem revokes.found
      obtain ⟨_, _, _, _, rfl, _⟩ := appendLedgerTx_ok revokes.appended
      rw [revokes.updated]
      refine List.mem_map.mpr ⟨k, member, ?_⟩
      unfold revokeRow
      split
      next mine =>
        have same : k = row := keyId_injective registry.keyIds member inside ((beq_iff_eq.mp mine).trans named.symm)
        subst same
        rw [revokes.active] at revoked
        cases revoked
      · rfl
  | registerRelationBinding relation sourceKeyId targetKeyId actorId =>
    simp only [registryNext, Prod.map_snd, id]
    cases result : registerRelationBinding host verify env relation sourceKeyId targetKeyId actorId db with
    | mk answer db' =>
      cases answer with
      | error e =>
        obtain ⟨_, rfl⟩ := transaction_error.mp result
        exact member
      | ok answer =>
        rcases registerRelationBinding_ok result with
          ⟨_, rfl⟩ | ⟨binding, source, target, receipt, ledgered, _, binds⟩
        · exact member
        · obtain ⟨_, _, _, _, rfl, _⟩ := appendLedgerTx_ok binds.appended
          obtain ⟨_, rfl⟩ := insertBinding_ok binds.inserted
          exact member

theorem revoked_after (verify : Ed25519Verify) (registry : KeyRegistry host db.authorityKeys db.relationKeyBindings)
    {k : AuthorityKeyRow} (member : k ∈ db.authorityKeys) {effectiveAt : Int}
    (revoked : k.revokedAt = some effectiveAt) (calls : List (Surroundings × RegistryCall host)) :
    k ∈ (Machine.after (registryNext host verify) db calls).authorityKeys ∧
      KeyRegistry host (Machine.after (registryNext host verify) db calls).authorityKeys
        (Machine.after (registryNext host verify) db calls).relationKeyBindings := by
  induction calls generalizing db with
  | nil => exact ⟨member, registry⟩
  | cons input rest ih =>
    exact ih (registryNext_keeps verify registry input).1 (revoked_kept registry member revoked input)

/-- From its effective time on, no relation bound to a revoked key is admissible. -/
theorem not_admissible_of_revoked (registry : KeyRegistry host db.authorityKeys db.relationKeyBindings)
    {k : AuthorityKeyRow} (member : k ∈ db.authorityKeys) {effectiveAt : Int}
    (revoked : k.revokedAt = some effectiveAt) {b : RelationKeyBindingRow}
    (bound : findBinding db relation.relationId = some b)
    (uses : b.sourceKeyId = k.keyId ∨ b.targetKeyId = k.keyId) (late : effectiveAt ≤ t)
    (judged : governedEvaluate host verify db t relation request = .ok d) : d.admissible = false := by
  cases admissible : d.admissible with
  | false => rfl
  | true =>
    obtain ⟨binding, source, target, witness, evidence⟩ := governed_evidence judged admissible
    obtain rfl := Option.some.inj (bound.symm.trans evidence.bound)
    have ineffective (key : AuthorityKeyRow) (inside : key ∈ db.authorityKeys) (same : key.keyId = k.keyId)
        (effective : key.fields.effectiveAt t = true) : False := by
      obtain rfl := keyId_injective registry.keyIds inside member same
      have field : key.fields.revokedAt = some effectiveAt := revoked
      simp only [AuthorityKeyFields.effectiveAt, field, Option.all_some, Bool.and_eq_true, decide_eq_true_eq]
        at effective
      exact absurd effective.2 (not_lt.mpr late)
    rcases uses with source | target
    · obtain ⟨inside, named⟩ := findKey_mem evidence.sourceKey
      exact (ineffective _ inside (named.trans source) evidence.sourceEffective).elim
    · obtain ⟨inside, named⟩ := findKey_mem evidence.targetKey
      exact (ineffective _ inside (named.trans target) evidence.targetEffective).elim

theorem findBinding_of_prefix (kept : db.relationKeyBindings <+: db'.relationKeyBindings) {relationId : String}
    {b : RelationKeyBindingRow} (found : findBinding db relationId = some b) : findBinding db' relationId = some b := by
  obtain ⟨more, same⟩ := kept
  rw [findBinding, ← same, List.find?_append]
  rw [findBinding] at found
  rw [found]
  rfl

/-- After any calls: an admissible verdict rests on a binding that stays, two distinct
effective keys and both signatures; a recorded revocation refuses its relations from its
effective time on, in every later registry, and changes no verdict before it. -/
theorem governed_gate_verdicts (host : Host) (verify : Ed25519Verify) (start : Database)
    (calls : List (Surroundings × RegistryCall host)) :
    let db := Machine.after (registryNext host verify) start.emptyRegistry calls
    (∀ t relation request d, governedEvaluate host verify db t relation request = .ok d → d.admissible = true →
      ∃ binding source target witness,
        GovernedEvidence host verify db t relation request binding source target witness ∧
        ∀ more, findBinding (Machine.after (registryNext host verify) db more) relation.relationId = some binding) ∧
    (∀ k ∈ db.authorityKeys, ∀ effectiveAt, k.revokedAt = some effectiveAt → ∀ more,
      let later := Machine.after (registryNext host verify) db more
      (∀ relation b, findBinding later relation.relationId = some b →
        b.sourceKeyId = k.keyId ∨ b.targetKeyId = k.keyId → ∀ t request d, effectiveAt ≤ t →
        governedEvaluate host verify later t relation request = .ok d → d.admissible = false) ∧
      ∀ t relation request, t < effectiveAt →
        governedEvaluate host verify later t relation request =
          governedEvaluate host verify (later.withoutRevocation k.keyId) t relation request) ∧
    ∀ env authorityId keyId effectiveAt reason actorId answer db',
      revokeKey host env authorityId keyId effectiveAt reason actorId db = (.ok answer, db') →
      ∀ t relation request, t < effectiveAt →
        governedEvaluate host verify db' t relation request = governedEvaluate host verify db t relation request := by
  intro db
  have registry : KeyRegistry host db.authorityKeys db.relationKeyBindings := registry_after start calls
  refine ⟨?_, ?_, ?_⟩
  · intro t relation request d judged admissible
    obtain ⟨binding, source, target, witness, evidence⟩ := governed_evidence judged admissible
    refine ⟨binding, source, target, witness, evidence, fun more => ?_⟩
    exact findBinding_of_prefix (bindings_extend registry more) evidence.bound
  · intro k member effectiveAt revoked more later
    obtain ⟨kept, registry'⟩ := revoked_after verify registry member revoked more
    constructor
    · intro relation b bound uses t request d late judged
      exact not_admissible_of_revoked registry' kept revoked bound uses late judged
    · intro t relation request before
      exact governedEvaluate_withoutRevocation registry' kept revoked before
  · intro env authorityId keyId effectiveAt reason actorId answer db' done t relation request before
    rcases revokeKey_cases host env db authorityId keyId effectiveAt reason actorId with
      ⟨same, _⟩ | ⟨row, receipt, ledgered, revokes, _⟩
    · rw [done] at same
      obtain rfl : db' = db := same
      rfl
    · rw [done] at revokes
      exact revokes.same_before registry before

end MatVerse
