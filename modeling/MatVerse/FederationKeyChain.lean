import MatVerse.FederationKeyRegistry
import MatVerse.Lib.Rotation
import MatVerse.Lib.Run

/-! Histories of the key registry: the keys of an authority form one rotation chain,
bindings are never rewritten, and a call that raises changes nothing. -/
namespace MatVerse

open Fallible

variable {host : Host} {verify : Ed25519Verify} {env : Surroundings} {db db' : Database}

/-- Keys by their id, their predecessor and their validity. -/
def keyRotation : Rotation AuthorityKeyRow String Int where
  id := AuthorityKeyRow.keyId
  previous := AuthorityKeyRow.previousKeyId
  starts := AuthorityKeyRow.validFrom
  ends := AuthorityKeyRow.validUntil

/-- The keys of an authority, in the order of their registration. -/
def keysOf (keys : List AuthorityKeyRow) (authorityId : String) : List AuthorityKeyRow :=
  keys.filter (fun row => row.authorityId == authorityId)

/-- The relation's window lies inside the key's. -/
def Covers (key : AuthorityKeyRow) (relation : FederationRelation) : Prop :=
  key.validFrom ≤ relation.validFrom ∧ relation.validUntil ≤ key.validUntil

/-- The binding is of a relation whose window lies inside those of both its keys. -/
def BoundRelation (host : Host) (keys : List AuthorityKeyRow) (b : RelationKeyBindingRow) : Prop :=
  ∃ relation : FederationRelation, relation.relationId = b.relationId ∧
    relation.payloadSha256 host = b.relationSha256 ∧
    ∃ source ∈ keys, ∃ target ∈ keys, source.keyId = b.sourceKeyId ∧ target.keyId = b.targetKeyId ∧
      source.authorityId = relation.sourceAuthority ∧ target.authorityId = relation.targetAuthority ∧
      Covers source relation ∧ Covers target relation

structure KeyRegistry (host : Host) (keys : List AuthorityKeyRow) (bindings : List RelationKeyBindingRow) :
    Prop where
  valid : ∀ row ∈ keys, row.fields.postInit host = .ok ()
  keyIds : (keys.map AuthorityKeyRow.keyId).Nodup
  publicKeys : (keys.map AuthorityKeyRow.publicKeyHex).Nodup
  chains : ∀ authorityId, keyRotation.Chain (keysOf keys authorityId)
  relationIds : (bindings.map RelationKeyBindingRow.relationId).Nodup
  bindingsValid : ∀ b ∈ bindings, b.fields.postInit = .ok ()
  bound : ∀ b ∈ bindings, BoundRelation host keys b

theorem keyRegistry_nil : KeyRegistry host [] [] :=
  ⟨by simp, by simp, by simp, fun _ => Rotation.chain_nil, by simp, by simp, by simp⟩

/-! ## The checks of a key -/

theorem postInit_ok {k : AuthorityKeyFields} :
    k.postInit host = .ok () ↔
      requireText k.authorityId "authority_id" = .ok () ∧ isKeyId k.keyId = true ∧
        authorityKeyId host k.publicKeyHex = .ok k.keyId ∧ k.algorithm = ed25519Algorithm ∧
        k.validFrom < k.validUntil ∧ k.checkPrevious = .ok () ∧ k.checkRevocation = .ok () := by
  simp only [AuthorityKeyFields.postInit, bind_ok, guard_ok]
  constructor
  · rintro ⟨_, authority, keyId, own, built, same, algorithm, window, _, previous, revocation⟩
    simp only [bne_iff_ne, ne_eq, not_not] at same algorithm
    exact ⟨authority, by simpa using keyId, by rw [built, same], algorithm, not_le.mp window, previous,
      revocation⟩
  · rintro ⟨authority, keyId, own, algorithm, window, previous, revocation⟩
    exact ⟨(), authority, by simpa using keyId, _, own, by simp, by simpa using algorithm, not_le.mpr window,
      (), previous, revocation⟩

theorem checkRotation_ok {record : AuthorityKeyFields} (checked : checkRotation db record = .ok ()) :
    ((∀ k ∈ db.authorityKeys, k.authorityId ≠ record.authorityId) ∧ record.previousKeyId = none) ∨
      ∃ previous ∈ db.authorityKeys, record.previousKeyId = some previous.keyId ∧
        previous.authorityId = record.authorityId ∧ previous.validUntil = record.validFrom ∧
        ∀ k ∈ db.authorityKeys, k.previousKeyId ≠ some previous.keyId := by
  unfold checkRotation at checked
  split at checked
  next first =>
    split at checked
    · cases checked
    next genesis =>
      refine .inl ⟨?_, by simpa using genesis⟩
      simpa using first
  next later =>
    split at checked
    · cases checked
    next previousKeyId named =>
      split at checked
      · cases checked
      next previous found =>
        have keyId : previous.keyId = previousKeyId := by
          simpa using List.find?_some found
        subst keyId
        split_ifs at checked with authority ends successor
        refine .inr ⟨previous, List.mem_of_find?_eq_some found, named, by simpa using authority,
          by simpa using ends, ?_⟩
        simpa using successor

theorem findKey_mem {keyId : String} {row : AuthorityKeyRow} (found : findKey db keyId = some row) :
    row ∈ db.authorityKeys ∧ row.keyId = keyId :=
  ⟨List.mem_of_find?_eq_some found, by simpa using List.find?_some found⟩

theorem keyId_injective {keys : List AuthorityKeyRow} (keyIds : (keys.map AuthorityKeyRow.keyId).Nodup)
    {k l : AuthorityKeyRow} (left : k ∈ keys) (right : l ∈ keys) (same : k.keyId = l.keyId) : k = l :=
  List.inj_on_of_nodup_map keyIds left right same

/-! ## Registration -/

theorem keysOf_concat (keys : List AuthorityKeyRow) (row : AuthorityKeyRow) (authorityId : String) :
    keysOf (keys ++ [row]) authorityId =
      if row.authorityId = authorityId then keysOf keys authorityId ++ [row] else keysOf keys authorityId := by
  by_cases mine : row.authorityId = authorityId <;> simp [keysOf, mine]

theorem mem_keysOf {keys : List AuthorityKeyRow} {authorityId : String} {k : AuthorityKeyRow} :
    k ∈ keysOf keys authorityId ↔ k ∈ keys ∧ k.authorityId = authorityId := by
  simp [keysOf]

/-- A checked rotation extends the chain of its authority. -/
theorem chain_concat {keys : List AuthorityKeyRow} {row : AuthorityKeyRow} {record : AuthorityKeyFields}
    (chains : ∀ authorityId, keyRotation.Chain (keysOf keys authorityId)) (same : row.fields = record)
    (window : record.validFrom < record.validUntil)
    (rotation : ((∀ k ∈ keys, k.authorityId ≠ record.authorityId) ∧ record.previousKeyId = none) ∨
      ∃ previous ∈ keys, record.previousKeyId = some previous.keyId ∧
        previous.authorityId = record.authorityId ∧ previous.validUntil = record.validFrom ∧
        ∀ k ∈ keys, k.previousKeyId ≠ some previous.keyId) (authorityId : String) :
    keyRotation.Chain (keysOf (keys ++ [row]) authorityId) := by
  subst same
  rw [keysOf_concat]
  split
  next mine =>
    subst mine
    rcases rotation with ⟨first, genesis⟩ | ⟨previous, member, named, authority, ends, free⟩
    · have none : keysOf keys row.authorityId = [] := by
        simpa [keysOf, AuthorityKeyRow.fields] using first
      rw [none]
      exact Rotation.chain_single genesis window
    · exact (chains row.authorityId).append (mem_keysOf.mpr ⟨member, authority⟩)
        (fun k inside => free k (mem_keysOf.mp inside).1) ⟨named, ends.symm⟩ window
  · exact chains authorityId

theorem BoundRelation.mono {keys more : List AuthorityKeyRow} {b : RelationKeyBindingRow}
    (bound : BoundRelation host keys b) (grown : ∀ k ∈ keys, k ∈ more) : BoundRelation host more b := by
  obtain ⟨relation, id, hash, source, sourceIn, target, targetIn, rest⟩ := bound
  exact ⟨relation, id, hash, source, grown source sourceIn, target, grown target targetIn, rest⟩

theorem registerKey_keeps {record : AuthorityKeyRecord host} {actorId : String} {answer : KeyAnswer host}
    (registry : KeyRegistry host db.authorityKeys db.relationKeyBindings)
    (done : registerKey host env record actorId db = (.ok answer, db')) :
    KeyRegistry host db'.authorityKeys db'.relationKeyBindings := by
  rcases registerKey_ok done with ⟨_, rfl⟩ | ⟨receipt, ledgered, _, rotation, appended, inserted, active⟩
  · exact registry
  · obtain ⟨_, _, _, _, rfl, _⟩ := appendLedgerTx_ok appended
    obtain ⟨fresh, rfl⟩ := insertKey_ok inserted
    have reason : record.revocationReason = none := by
      have valid := (postInit_ok.mp record.valid).2.2.2.2.2.2
      unfold AuthorityKeyFields.checkRevocation at valid
      rw [active] at valid
      simpa using valid
    have same : (record.row host actorId env.now (canonicalJson receipt.toJson)).fields =
        record.toAuthorityKeyFields := by
      simp [AuthorityKeyFields.row, AuthorityKeyRow.fields, ← active, ← reason]
    have window := (postInit_ok.mp record.valid).2.2.2.2.1
    refine ⟨?_, ?_, ?_, chain_concat registry.chains same window (checkRotation_ok rotation),
      registry.relationIds, registry.bindingsValid,
      fun b member => (registry.bound b member).mono (fun k => List.mem_append_left _)⟩
    · intro row member
      rcases List.mem_append.mp member with member | member
      · exact registry.valid row member
      · obtain rfl := List.mem_singleton.mp member
        rw [same]
        exact record.valid
    · rw [List.map_append, List.map_singleton]
      refine List.nodup_append.mpr ⟨registry.keyIds, List.nodup_singleton _, ?_⟩
      intro id inside other isNew
      obtain ⟨k, member, rfl⟩ := List.mem_map.mp inside
      obtain rfl := List.mem_singleton.mp isNew
      exact (fresh k member).1
    · rw [List.map_append, List.map_singleton]
      refine List.nodup_append.mpr ⟨registry.publicKeys, List.nodup_singleton _, ?_⟩
      intro key inside other isNew
      obtain ⟨k, member, rfl⟩ := List.mem_map.mp inside
      obtain rfl := List.mem_singleton.mp isNew
      exact (fresh k member).2

/-! ## Revocation -/

/-- The rows differ in their revocation or registration columns only. -/
structure SameKey (k l : AuthorityKeyRow) : Prop where
  keyId : l.keyId = k.keyId
  authorityId : l.authorityId = k.authorityId
  publicKeyHex : l.publicKeyHex = k.publicKeyHex
  previousKeyId : l.previousKeyId = k.previousKeyId
  validFrom : l.validFrom = k.validFrom
  validUntil : l.validUntil = k.validUntil

theorem sameKey_revokeRow (keyId : String) (effectiveAt : Int) (reason actorId receiptJson : String)
    (row : AuthorityKeyRow) : SameKey row (revokeRow keyId effectiveAt reason actorId receiptJson row) := by
  unfold revokeRow
  split <;> exact ⟨rfl, rfl, rfl, rfl, rfl, rfl⟩

theorem keysOf_map {f : AuthorityKeyRow → AuthorityKeyRow} (same : ∀ row, SameKey row (f row))
    (keys : List AuthorityKeyRow) (authorityId : String) :
    keysOf (keys.map f) authorityId = (keysOf keys authorityId).map f := by
  unfold keysOf
  rw [List.filter_map]
  congr 1
  apply List.filter_congr
  intro row _
  simp [(same row).authorityId]

theorem BoundRelation.map {keys : List AuthorityKeyRow} {b : RelationKeyBindingRow}
    (bound : BoundRelation host keys b) {f : AuthorityKeyRow → AuthorityKeyRow}
    (same : ∀ row, SameKey row (f row)) : BoundRelation host (keys.map f) b := by
  obtain ⟨relation, id, hash, source, sourceIn, target, targetIn, sourceId, targetId, sourceAuthority,
    targetAuthority, sourceCovers, targetCovers⟩ := bound
  refine ⟨relation, id, hash, f source, List.mem_map_of_mem sourceIn, f target, List.mem_map_of_mem targetIn,
    (same source).keyId.trans sourceId, (same target).keyId.trans targetId,
    (same source).authorityId.trans sourceAuthority, (same target).authorityId.trans targetAuthority, ?_, ?_⟩
  · rw [Covers, (same source).validFrom, (same source).validUntil]
    exact sourceCovers
  · rw [Covers, (same target).validFrom, (same target).validUntil]
    exact targetCovers

/-- Rewriting keys in place keeps the registry, as long as they pass their checks. -/
theorem KeyRegistry.map {keys : List AuthorityKeyRow} {bindings : List RelationKeyBindingRow}
    (registry : KeyRegistry host keys bindings) {f : AuthorityKeyRow → AuthorityKeyRow}
    (same : ∀ row, SameKey row (f row)) (valid : ∀ row ∈ keys, (f row).fields.postInit host = .ok ()) :
    KeyRegistry host (keys.map f) bindings := by
  refine ⟨?_, ?_, ?_, ?_, registry.relationIds, registry.bindingsValid,
    fun b inside => (registry.bound b inside).map same⟩
  · intro row inside
    obtain ⟨k, kept, rfl⟩ := List.mem_map.mp inside
    exact valid k kept
  · have ids : (keys.map f).map AuthorityKeyRow.keyId = keys.map AuthorityKeyRow.keyId := by
      rw [List.map_map]
      exact List.map_congr_left (fun k _ => (same k).keyId)
    exact ids ▸ registry.keyIds
  · have publicKeys : (keys.map f).map AuthorityKeyRow.publicKeyHex = keys.map AuthorityKeyRow.publicKeyHex := by
      rw [List.map_map]
      exact List.map_congr_left (fun k _ => (same k).publicKeyHex)
    exact publicKeys ▸ registry.publicKeys
  · intro authority
    rw [keysOf_map same]
    exact (registry.chains authority).map (fun k => (same k).keyId) (fun k => (same k).previousKeyId)
      (fun k => (same k).validFrom) (fun k => (same k).validUntil)

/-- A key revoked inside its validity for a stated reason passes its checks. -/
theorem revoke_valid {row : AuthorityKeyRow} (valid : row.fields.postInit host = .ok ()) {effectiveAt : Int}
    {reason : String} (starts : row.validFrom ≤ effectiveAt) (ends : effectiveAt < row.validUntil)
    (reasoned : requireText reason "reason" = .ok ()) (actorId receiptJson : String) :
    (row.revoke effectiveAt reason actorId receiptJson).fields.postInit host = .ok () := by
  obtain ⟨authority, keyId, own, algorithm, window, previous, _⟩ := postInit_ok.mp valid
  refine postInit_ok.mpr ⟨authority, keyId, own, algorithm, window, previous, ?_⟩
  have text : requireText reason "revocation_reason" = .ok () := by
    unfold requireText at reasoned ⊢
    split at reasoned
    · cases reasoned
    next blank => rw [if_neg blank]
  show (if effectiveAt < row.validFrom || row.validUntil ≤ effectiveAt then Except.error _
    else requireText reason "revocation_reason") = .ok ()
  rw [if_neg]
  · exact text
  · simp only [Bool.or_eq_true, decide_eq_true_eq, not_or, not_lt, not_le]
    exact ⟨starts, ends⟩

theorem Revokes.keeps {authorityId keyId reason actorId : String} {effectiveAt : Int} {row : AuthorityKeyRow}
    {receipt : LedgerReceipt} {ledgered : Database}
    (registry : KeyRegistry host db.authorityKeys db.relationKeyBindings)
    (revokes : Revokes host env authorityId keyId effectiveAt reason actorId db row receipt ledgered db') :
    KeyRegistry host db'.authorityKeys db'.relationKeyBindings := by
  obtain ⟨_, _, _, _, rfl, _⟩ := appendLedgerTx_ok revokes.appended
  obtain rfl := revokes.updated
  obtain ⟨member, named⟩ := findKey_mem revokes.found
  refine registry.map (sameKey_revokeRow _ _ _ _ _) ?_
  intro k kept
  unfold revokeRow
  split
  next same =>
    have mine : k = row := keyId_injective registry.keyIds kept member ((beq_iff_eq.mp same).trans named.symm)
    subst mine
    exact revoke_valid (registry.valid _ kept) revokes.starts revokes.ends revokes.reasoned _ _
  · exact registry.valid k kept

theorem getKey_of_mem (registry : KeyRegistry host db.authorityKeys db.relationKeyBindings)
    {k : AuthorityKeyRow} (member : k ∈ db.authorityKeys) :
    ∃ record, getKey host db k.keyId = .ok (some record) ∧ record.toAuthorityKeyFields = k.fields := by
  have found : findKey db k.keyId = some k := by
    cases search : findKey db k.keyId with
    | none => exact absurd (List.find?_eq_none.mp search k member) (by simp)
    | some other =>
      obtain ⟨inside, same⟩ := findKey_mem search
      rw [keyId_injective registry.keyIds inside member same]
  refine ⟨⟨k.fields, registry.valid k member⟩, ?_, rfl⟩
  rw [getKey, found]
  simp only [rowToKey]
  rw [build_of_valid (registry.valid k member)]
  rfl

theorem revokeKey_error (registry : KeyRegistry host db.authorityKeys db.relationKeyBindings)
    {authorityId keyId reason actorId : String} {effectiveAt : Int} {e : PyError}
    (raised : (revokeKey host env authorityId keyId effectiveAt reason actorId db).1 = .error e) :
    (revokeKey host env authorityId keyId effectiveAt reason actorId db).2 = db := by
  rcases revokeKey_cases host env db authorityId keyId effectiveAt reason actorId with
    ⟨same, _⟩ | ⟨row, receipt, ledgered, revokes, answered⟩
  · exact same
  · have after := revokes.keeps registry
    obtain ⟨member, named⟩ := findKey_mem revokes.found
    have kept : revokeRow keyId effectiveAt reason actorId (canonicalJson receipt.toJson) row ∈
        (revokeKey host env authorityId keyId effectiveAt reason actorId db).2.authorityKeys := by
      obtain ⟨_, _, _, _, rfl, _⟩ := appendLedgerTx_ok revokes.appended
      rw [revokes.updated]
      exact List.mem_map_of_mem member
    obtain ⟨record, read, _⟩ := getKey_of_mem after kept
    rw [(sameKey_revokeRow _ _ _ _ _ row).keyId, named] at read
    rw [answered, read] at raised
    cases raised

/-! ## Binding -/

theorem checkKeyCovers_ok {relation : FederationRelation} {key : AuthorityKeyRow} {role : String}
    (checked : checkKeyCovers relation key.fields role = .ok ()) :
    Covers key relation ∧ ∀ revokedAt, key.revokedAt = some revokedAt → relation.validUntil ≤ revokedAt := by
  simp only [checkKeyCovers, guard_ok, last_guard_ok, Bool.or_eq_true, decide_eq_true_eq, not_or, not_lt]
    at checked
  obtain ⟨⟨starts, ends⟩, active, _⟩ := checked
  refine ⟨⟨starts, ends⟩, ?_⟩
  intro revokedAt revoked
  have field : key.fields.revokedAt = some revokedAt := revoked
  rw [field] at active
  simpa using active

theorem Binds.keeps {relation : FederationRelation} {sourceKeyId targetKeyId actorId : String}
    {binding : RelationKeyBindingFields} {source target : AuthorityKeyRow} {receipt : LedgerReceipt}
    {ledgered : Database} (registry : KeyRegistry host db.authorityKeys db.relationKeyBindings)
    (binds : Binds host verify env relation sourceKeyId targetKeyId actorId db binding source target receipt
      ledgered db') : KeyRegistry host db'.authorityKeys db'.relationKeyBindings := by
  obtain ⟨_, _, _, _, rfl, _⟩ := appendLedgerTx_ok binds.appended
  obtain ⟨fresh, rfl⟩ := insertBinding_ok binds.inserted
  obtain ⟨sourceIn, sourceId⟩ := findKey_mem binds.sourceKey
  obtain ⟨targetIn, targetId⟩ := findKey_mem binds.targetKey
  have fields := binds.fields
  subst fields
  refine ⟨registry.valid, registry.keyIds, registry.publicKeys, registry.chains, ?_, ?_, ?_⟩
  · rw [List.map_append, List.map_singleton]
    refine List.nodup_append.mpr ⟨registry.relationIds, List.nodup_singleton _, ?_⟩
    intro id inside other isNew
    obtain ⟨b, member, rfl⟩ := List.mem_map.mp inside
    obtain rfl := List.mem_singleton.mp isNew
    exact fresh b member
  · intro b member
    rcases List.mem_append.mp member with member | member
    · exact registry.bindingsValid b member
    · obtain rfl := List.mem_singleton.mp member
      exact binds.valid
  · intro b member
    rcases List.mem_append.mp member with member | member
    · exact registry.bound b member
    · obtain rfl := List.mem_singleton.mp member
      exact ⟨relation, rfl, rfl, source, sourceIn, target, targetIn, sourceId, targetId, binds.sourceAuthority,
        binds.targetAuthority, (checkKeyCovers_ok binds.sourceCovers).1, (checkKeyCovers_ok binds.targetCovers).1⟩

/-! ## Histories -/

inductive RegistryCall (host : Host) where
  | registerKey (record : AuthorityKeyRecord host) (actorId : String)
  | revokeKey (authorityId keyId : String) (effectiveAt : Int) (reason actorId : String)
  | registerRelationBinding (relation : FederationRelation) (sourceKeyId targetKeyId actorId : String)

inductive RegistryAnswer (host : Host) where
  | key (answer : KeyAnswer host)
  | revocation (answer : RevocationAnswer host)
  | binding (answer : BindingAnswer)

def registryNext (host : Host) (verify : Ed25519Verify) (db : Database) :
    Surroundings × RegistryCall host → Except PyError (RegistryAnswer host) × Database
  | (env, .registerKey record actorId) => (registerKey host env record actorId db).map (·.map .key) id
  | (env, .revokeKey authorityId keyId effectiveAt reason actorId) =>
    (revokeKey host env authorityId keyId effectiveAt reason actorId db).map (·.map .revocation) id
  | (env, .registerRelationBinding relation sourceKeyId targetKeyId actorId) =>
    (registerRelationBinding host verify env relation sourceKeyId targetKeyId actorId db).map (·.map .binding) id

/-- The database before the first call: the registry tables are empty. -/
def Database.emptyRegistry (db : Database) : Database :=
  { db with authorityKeys := [], relationKeyBindings := [] }

theorem map_error {α β : Type} {x : Except PyError α} {f : α → β} {e : PyError} :
    x.map f = .error e ↔ x = .error e := by
  cases x <;> simp [Except.map]

theorem registryNext_error (registry : KeyRegistry host db.authorityKeys db.relationKeyBindings)
    {input : Surroundings × RegistryCall host} {e : PyError}
    (raised : (registryNext host verify db input).1 = .error e) : (registryNext host verify db input).2 = db := by
  obtain ⟨env, call⟩ := input
  cases call with
  | registerKey record actorId =>
    simp only [registryNext, Prod.map_fst, Prod.map_snd, map_error, id] at raised ⊢
    exact transaction_raised raised
  | revokeKey authorityId keyId effectiveAt reason actorId =>
    simp only [registryNext, Prod.map_fst, Prod.map_snd, map_error, id] at raised ⊢
    exact revokeKey_error registry raised
  | registerRelationBinding relation sourceKeyId targetKeyId actorId =>
    simp only [registryNext, Prod.map_fst, Prod.map_snd, map_error, id] at raised ⊢
    exact transaction_raised raised

/-- One call keeps the registry's invariant and every binding. -/
theorem registryNext_keeps (verify : Ed25519Verify)
    (registry : KeyRegistry host db.authorityKeys db.relationKeyBindings) (input : Surroundings × RegistryCall host) :
    KeyRegistry host (registryNext host verify db input).2.authorityKeys
        (registryNext host verify db input).2.relationKeyBindings ∧
      db.relationKeyBindings <+: (registryNext host verify db input).2.relationKeyBindings := by
  obtain ⟨env, call⟩ := input
  cases call with
  | registerKey record actorId =>
    simp only [registryNext, Prod.map_snd, id]
    cases result : registerKey host env record actorId db with
    | mk answer db' =>
      cases answer with
      | error e =>
        obtain ⟨_, rfl⟩ := transaction_error.mp result
        exact ⟨registry, List.prefix_refl _⟩
      | ok answer =>
        refine ⟨registerKey_keeps registry result, ?_⟩
        rcases registerKey_ok result with ⟨_, rfl⟩ | ⟨receipt, ledgered, _, _, appended, inserted, _⟩
        · exact List.prefix_refl _
        · obtain ⟨_, _, _, _, rfl, _⟩ := appendLedgerTx_ok appended
          obtain ⟨_, rfl⟩ := insertKey_ok inserted
          exact List.prefix_refl _
  | revokeKey authorityId keyId effectiveAt reason actorId =>
    simp only [registryNext, Prod.map_snd, id]
    rcases revokeKey_cases host env db authorityId keyId effectiveAt reason actorId with
      ⟨same, _⟩ | ⟨row, receipt, ledgered, revokes, _⟩
    · rw [same]
      exact ⟨registry, List.prefix_refl _⟩
    · refine ⟨revokes.keeps registry, ?_⟩
      obtain ⟨_, _, _, _, rfl, _⟩ := appendLedgerTx_ok revokes.appended
      rw [revokes.updated]
      exact List.prefix_refl _
  | registerRelationBinding relation sourceKeyId targetKeyId actorId =>
    simp only [registryNext, Prod.map_snd, id]
    cases result : registerRelationBinding host verify env relation sourceKeyId targetKeyId actorId db with
    | mk answer db' =>
      cases answer with
      | error e =>
        obtain ⟨_, rfl⟩ := transaction_error.mp result
        exact ⟨registry, List.prefix_refl _⟩
      | ok answer =>
        rcases registerRelationBinding_ok result with
          ⟨_, rfl⟩ | ⟨binding, source, target, receipt, ledgered, _, binds⟩
        · exact ⟨registry, List.prefix_refl _⟩
        · refine ⟨binds.keeps registry, ?_⟩
          obtain ⟨_, _, _, _, rfl, _⟩ := appendLedgerTx_ok binds.appended
          obtain ⟨_, rfl⟩ := insertBinding_ok binds.inserted
          exact List.prefix_append _ _

theorem registry_after (start : Database) (calls : List (Surroundings × RegistryCall host)) :
    KeyRegistry host (Machine.after (registryNext host verify) start.emptyRegistry calls).authorityKeys
      (Machine.after (registryNext host verify) start.emptyRegistry calls).relationKeyBindings :=
  Machine.after_invariant (fun db : Database => KeyRegistry host db.authorityKeys db.relationKeyBindings)
    (fun _ input registry => (registryNext_keeps verify registry input).1) calls keyRegistry_nil

theorem bindings_extend (registry : KeyRegistry host db.authorityKeys db.relationKeyBindings)
    (calls : List (Surroundings × RegistryCall host)) :
    db.relationKeyBindings <+: (Machine.after (registryNext host verify) db calls).relationKeyBindings := by
  induction calls generalizing db with
  | nil => exact List.prefix_refl _
  | cons input rest ih =>
    obtain ⟨next, kept⟩ := registryNext_keeps verify registry input
    exact kept.trans (ih next)

theorem effective_le_one {keys : List AuthorityKeyRow} (chain : keyRotation.Chain keys) (t : Int) :
    (keys.filter (fun k => k.fields.effectiveAt t)).length ≤ 1 := by
  refine (List.Sublist.length_le (List.monotone_filter_right keys ?_)).trans (chain.effective_le_one t)
  intro k effective
  simp only [AuthorityKeyFields.effectiveAt, Bool.and_eq_true, decide_eq_true_eq] at effective
  exact decide_eq_true effective.1

/-- A recorded binding is of a relation inside the windows of two registered keys,
and over before their recorded revocations. -/
theorem bound_inside {relation : FederationRelation} {sourceKeyId targetKeyId actorId : String}
    {answer : BindingAnswer}
    (done : registerRelationBinding host verify env relation sourceKeyId targetKeyId actorId db =
      (.ok answer, db')) (recorded : answer.idempotent = false) :
    ∃ source target, findKey db sourceKeyId = some source ∧ findKey db targetKeyId = some target ∧
      ∀ key ∈ [source, target], Covers key relation ∧
        ∀ revokedAt, key.revokedAt = some revokedAt → relation.validUntil ≤ revokedAt := by
  rcases registerRelationBinding_ok done with
    ⟨idempotent, _⟩ | ⟨binding, source, target, receipt, ledgered, _, binds⟩
  · rw [recorded] at idempotent
    cases idempotent
  · refine ⟨source, target, binds.sourceKey, binds.targetKey, ?_⟩
    intro key member
    rcases List.mem_cons.mp member with rfl | member
    · exact checkKeyCovers_ok binds.sourceCovers
    · obtain rfl := List.mem_singleton.mp member
      exact checkKeyCovers_ok binds.targetCovers

/-- After any calls: each authority's keys are one rotation chain with disjoint windows,
a public key has one record, accepted relations lie inside their keys' windows, no
relation is bound again, and a call that raises changes nothing. -/
theorem key_registry_history (host : Host) (verify : Ed25519Verify) (start : Database)
    (calls : List (Surroundings × RegistryCall host)) :
    let db := Machine.after (registryNext host verify) start.emptyRegistry calls
    (∀ authorityId,
      keyRotation.Chain (keysOf db.authorityKeys authorityId) ∧
      (∀ k ∈ keysOf db.authorityKeys authorityId, k.previousKeyId = none →
        (keysOf db.authorityKeys authorityId).head? = some k) ∧
      (keysOf db.authorityKeys authorityId).Pairwise (fun p k => p.validUntil ≤ k.validFrom) ∧
      ∀ t, ((keysOf db.authorityKeys authorityId).filter (fun k => k.fields.effectiveAt t)).length ≤ 1) ∧
    (∀ k ∈ db.authorityKeys, ∀ l ∈ db.authorityKeys, k.publicKeyHex = l.publicKeyHex → k = l) ∧
    (∀ env relation sourceKeyId targetKeyId actorId answer db',
      registerRelationBinding host verify env relation sourceKeyId targetKeyId actorId db = (.ok answer, db') →
      answer.idempotent = false →
      ∃ source target, findKey db sourceKeyId = some source ∧ findKey db targetKeyId = some target ∧
        ∀ key ∈ [source, target], Covers key relation ∧
          ∀ revokedAt, key.revokedAt = some revokedAt → relation.validUntil ≤ revokedAt) ∧
    (∀ b ∈ db.relationKeyBindings, BoundRelation host db.authorityKeys b) ∧
    (db.relationKeyBindings.map RelationKeyBindingRow.relationId).Nodup ∧
    (∀ more, db.relationKeyBindings <+: (Machine.after (registryNext host verify) db more).relationKeyBindings) ∧
    ∀ input e, (registryNext host verify db input).1 = .error e → (registryNext host verify db input).2 = db := by
  intro db
  have registry : KeyRegistry host db.authorityKeys db.relationKeyBindings := registry_after start calls
  refine ⟨?_, ?_, ?_, registry.bound, registry.relationIds, fun more => bindings_extend registry more,
    fun input e raised => registryNext_error registry raised⟩
  · intro authorityId
    have chain := registry.chains authorityId
    exact ⟨chain, fun k member none => chain.first_of_none member none, chain.disjoint,
      fun t => effective_le_one chain t⟩
  · intro k left l right same
    exact List.inj_on_of_nodup_map registry.publicKeys left right same
  · intro env relation sourceKeyId targetKeyId actorId answer db' done recorded
    exact bound_inside done recorded

end MatVerse
