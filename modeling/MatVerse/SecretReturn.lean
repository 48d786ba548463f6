import MatVerse.LeaseLifetime

/-! What leaves a use of a secret: no value with the material in one of its leaves, and no
material in the buffer that the consumer was shown. -/
namespace MatVerse.SecretPlane

open Fallible

/-! ## Leaves -/

/-- A value occurs in another: in a collection, or as a key or a value of a mapping. -/
inductive Occurs (u : PyValue) : PyValue → Prop where
  | self : Occurs u u
  | item {v values} : v ∈ values → Occurs u v → Occurs u (.items values)
  | key {k v entries} : (k, v) ∈ entries → Occurs u k → Occurs u (.mapping entries)
  | value {k v entries} : (k, v) ∈ entries → Occurs u v → Occurs u (.mapping entries)

/-- A text with the decoded material in it, or bytes with the material in them. -/
def Shows (secret : Bytes) : PyValue → Prop
  | .str s => ∃ text, String.fromUTF8? ⟨secret.toArray⟩ = some text ∧ text.toList <:+: s.toList
  | .bytes b => secret <:+: b
  | .mapping _ | .items _ | .other => False

variable {secret : Bytes}

theorem itemsContain_iff (values : List PyValue) :
    itemsContain secret values = true ↔ ∃ v ∈ values, containsSecret secret v = true := by
  induction values with
  | nil => simp [itemsContain]
  | cons v rest ih => simp [itemsContain, ih]

theorem entriesContain_iff (entries : List (PyValue × PyValue)) : entriesContain secret entries = true ↔
    ∃ p ∈ entries, containsSecret secret p.1 = true ∨ containsSecret secret p.2 = true := by
  induction entries with
  | nil => simp [entriesContain]
  | cons p rest ih => simp [entriesContain, ih, or_assoc]

theorem containsSecret_str (s : String) : containsSecret secret (.str s) = true ↔ Shows secret (.str s) := by
  unfold containsSecret Shows
  cases String.fromUTF8? ⟨secret.toArray⟩ <;> simp

/-- Wherever a leaf shows the secret, the search finds it. -/
theorem contains_of_occurs {leaf v : PyValue} (occurs : Occurs leaf v) (shown : Shows secret leaf) :
    containsSecret secret v = true := by
  induction occurs with
  | self =>
    cases leaf with
    | str s => exact (containsSecret_str s).mpr shown
    | bytes b => simpa [containsSecret, Shows] using shown
    | mapping | items | other => cases shown
  | item member _ ih =>
    rw [containsSecret]
    exact (itemsContain_iff _).mpr ⟨_, member, ih⟩
  | key member _ ih =>
    rw [containsSecret]
    exact (entriesContain_iff _).mpr ⟨_, member, .inl ih⟩
  | value member _ ih =>
    rw [containsSecret]
    exact (entriesContain_iff _).mpr ⟨_, member, .inr ih⟩

mutual
theorem occurs_of_contains : ∀ v, containsSecret secret v = true → ∃ leaf, Occurs leaf v ∧ Shows secret leaf
  | .str s, found => ⟨_, .self, (containsSecret_str s).mp found⟩
  | .bytes b, found => ⟨_, .self, by simpa [containsSecret, Shows] using found⟩
  | .other, found => by simp [containsSecret] at found
  | .items values, found => by
    rw [containsSecret] at found
    obtain ⟨v, member, leaf, occurs, shown⟩ := occurs_of_itemsContain values found
    exact ⟨leaf, .item member occurs, shown⟩
  | .mapping entries, found => by
    rw [containsSecret] at found
    obtain ⟨p, member, leaf, occurs, shown⟩ := occurs_of_entriesContain entries found
    exact ⟨leaf, occurs.elim (.key member) (.value member), shown⟩

theorem occurs_of_itemsContain : ∀ values, itemsContain secret values = true →
    ∃ v ∈ values, ∃ leaf, Occurs leaf v ∧ Shows secret leaf
  | [], found => by simp [itemsContain] at found
  | v :: rest, found => by
    rw [itemsContain, Bool.or_eq_true] at found
    rcases found with here | later
    · exact ⟨v, by simp, occurs_of_contains v here⟩
    · obtain ⟨u, member, shown⟩ := occurs_of_itemsContain rest later
      exact ⟨u, List.mem_cons_of_mem _ member, shown⟩

theorem occurs_of_entriesContain : ∀ entries, entriesContain secret entries = true →
    ∃ p ∈ entries, ∃ leaf, (Occurs leaf p.1 ∨ Occurs leaf p.2) ∧ Shows secret leaf
  | [], found => by simp [entriesContain] at found
  | (k, v) :: rest, found => by
    rw [entriesContain, Bool.or_eq_true, Bool.or_eq_true] at found
    rcases found with (key | value) | later
    · obtain ⟨leaf, occurs, shown⟩ := occurs_of_contains k key
      exact ⟨(k, v), by simp, leaf, .inl occurs, shown⟩
    · obtain ⟨leaf, occurs, shown⟩ := occurs_of_contains v value
      exact ⟨(k, v), by simp, leaf, .inr occurs, shown⟩
    · obtain ⟨p, member, shown⟩ := occurs_of_entriesContain rest later
      exact ⟨p, List.mem_cons_of_mem _ member, shown⟩
end

theorem containsSecret_iff (v : PyValue) :
    containsSecret secret v = true ↔ ∃ leaf, Occurs leaf v ∧ Shows secret leaf :=
  ⟨occurs_of_contains v, fun ⟨_, occurs, shown⟩ => contains_of_occurs occurs shown⟩

/-! ## The buffer -/

/-- `for idx in range(len(material)): material[idx] = 0`. -/
def zeroMaterial (material : Bytes) : Bytes :=
  (List.range material.length).foldl (fun buffer idx => buffer.set idx 0) material

theorem zero_range (buffer : Bytes) (n : Nat) (within : n ≤ buffer.length) :
    (List.range n).foldl (fun buffer idx => buffer.set idx 0) buffer = List.replicate n 0 ++ buffer.drop n := by
  induction n with
  | zero => rfl
  | succ n ih =>
    have tail : buffer.drop n = buffer[n] :: buffer.drop (n + 1) := List.drop_eq_getElem_cons (by omega)
    rw [List.range_succ, List.foldl_append, ih (by omega), List.foldl_cons, List.foldl_nil, tail,
      List.set_append_right n 0 (by simp), List.length_replicate, Nat.sub_self, List.set_cons_zero,
      List.replicate_succ', List.append_assoc]
    rfl

theorem zeroMaterial_eq (material : Bytes) : zeroMaterial material = List.replicate material.length 0 := by
  rw [zeroMaterial, zero_range material _ le_rfl, List.drop_length, List.append_nil]

/-- How a call with a secret ends, and what the buffer then holds that the vault handed out. -/
structure Exit where
  result : Except SecretError PyValue
  world : World
  buffer : Option Bytes

section
variable (host : Host) (key : ByteArray)

namespace World

/-- The `try` statement: whichever way it ends, the buffer is zeroed. -/
def useMaterial (w : World) (lease : CapabilityLease) (material : Bytes) (consumer : Bytes → Outcome × Bytes) : Exit :=
  let (outcome, left) := consumer material
  let (result, next) := w.concludeUse host lease material outcome
  ⟨result, next, some (zeroMaterial left)⟩

/-- `execute_with_secret`, for a consumer that may write to the buffer it is shown. -/
def executeOnBuffer (w : World) (lease : CapabilityLease) (vault : String → Except SecretError Bytes)
    (consumer : Bytes → Outcome × Bytes) : Exit :=
  match w.verifyLease host key lease with
  | .error e => ⟨.error e, w, none⟩
  | .ok _ =>
    match w.store.consume lease with
    | (.error e, store) => ⟨.error e, { w with store := store }, none⟩
    | (.ok false, store) => ⟨.error (.accessDenied "lease usage exhausted or revoked"),
        { w with store := store }.audit host "LEASE_USE_DENIED"
          (lease.auditDict ++ [("reason", Json.str "usage_exhausted_or_revoked")]), none⟩
    | (.ok true, store) =>
      let next := { w with store := store }
      match next.binding lease.secretId with
      | .error e => ⟨.error e, next, none⟩
      | .ok locator =>
        match vault locator with
        | .error e => ⟨.error e, next, none⟩
        | .ok material =>
          if material.isEmpty then
            ⟨.error (.notAvailable "vault returned empty secret material"), next, some material⟩
          else (next.observed (.invoked lease w.now vault material)).useMaterial host lease material consumer

end World

/-- The call reads material from the vault. -/
def Reads (w : World) (lease : CapabilityLease) (vault : String → Except SecretError Bytes) (material : Bytes) : Prop :=
  (∃ d, w.verifyLease host key lease = .ok d) ∧ (w.store.consume lease).1 = .ok true ∧
    ∃ locator, w.binding lease.secretId = .ok locator ∧ vault locator = .ok material

end

variable {host : Host} {key : ByteArray} {w : World} {lease : CapabilityLease}
  {vault : String → Except SecretError Bytes} {consumer : Bytes → Outcome × Bytes} {material : Bytes}

/-- But for the buffer the call is the one of the plane. -/
theorem executeOnBuffer_eq (w : World) (lease : CapabilityLease) (vault : String → Except SecretError Bytes)
    (consumer : Bytes → Outcome × Bytes) :
    ((w.executeOnBuffer host key lease vault consumer).result,
      (w.executeOnBuffer host key lease vault consumer).world) =
      w.executeWithSecret host key lease vault (fun material => (consumer material).1) := by
  unfold World.executeOnBuffer World.executeWithSecret
  cases w.verifyLease host key lease with
  | error e => rfl
  | ok d =>
    cases w.store.consume lease with
    | mk answer store =>
      cases answer with
      | error e => rfl
      | ok taken =>
        cases taken with
        | false => rfl
        | true =>
          dsimp only
          cases World.binding _ lease.secretId with
          | error e => rfl
          | ok locator =>
            dsimp only
            cases vault locator with
            | error e => rfl
            | ok material =>
              dsimp only
              split <;> rfl

theorem executeOnBuffer_reads (reads : Reads host key w lease vault material) (nonempty : material ≠ []) :
    w.executeOnBuffer host key lease vault consumer =
      ({ w with store := (w.store.consume lease).2 } |>.observed (.invoked lease w.now vault material)).useMaterial host
        lease material consumer := by
  obtain ⟨⟨d, verified⟩, consumed, locator, bound, read⟩ := reads
  have store : w.store.consume lease = (.ok true, (w.store.consume lease).2) := Prod.ext consumed rfl
  have next : ({ w with store := (w.store.consume lease).2 } : World).binding lease.secretId = .ok locator := bound
  unfold World.executeOnBuffer
  rw [verified, store]
  dsimp only
  rw [next]
  dsimp only
  rw [read]
  dsimp only
  rw [if_neg (by simpa using nonempty)]

/-- A call that returns a value has read material and shown it to the consumer. -/
theorem reads_of_returned {v : PyValue} (returned : (w.executeOnBuffer host key lease vault consumer).result = .ok v) :
    ∃ material, Reads host key w lease vault material ∧ material ≠ [] := by
  unfold World.executeOnBuffer at returned
  split at returned
  · cases returned
  next d verified =>
    split at returned
    · cases returned
    · cases returned
    next store consumed =>
      dsimp only at returned
      split at returned
      · cases returned
      next locator bound =>
        split at returned
        · cases returned
        next material read =>
          split at returned
          · cases returned
          next nonempty =>
            exact ⟨material, ⟨⟨d, verified⟩, by rw [consumed], locator, bound, read⟩, by simpa using nonempty⟩

theorem concludeUse_returned (w : World) {v : PyValue} :
    (∀ outcome, (w.concludeUse host lease material outcome).1 = .ok v →
      outcome = .returned v ∧ containsSecret material v = false) ∧
    (containsSecret material v = true → ∃ e, (w.concludeUse host lease material (.returned v)).1 = .error e) := by
  constructor
  · intro outcome returned
    cases outcome with
    | raised e =>
      simp only [World.concludeUse] at returned
      split at returned <;> cases returned
    | returned value =>
      simp only [World.concludeUse] at returned
      split at returned
      · cases returned
      next clean =>
        obtain rfl := Except.ok.inj returned
        exact ⟨rfl, by simpa using clean⟩
  · intro found
    exact ⟨_, by simp [World.concludeUse, found]; rfl⟩

/-- A value is returned only if no leaf of it shows the material that was read, a value
that has such a leaf makes the call raise, and the buffer holds zeros in the end. -/
theorem secret_never_returned (host : Host) (key : ByteArray) (w : World) (lease : CapabilityLease)
    (vault : String → Except SecretError Bytes) (consumer : Bytes → Outcome × Bytes) :
    let exit := w.executeOnBuffer host key lease vault consumer
    (∀ v, exit.result = .ok v → ∃ material, Reads host key w lease vault material ∧ material ≠ [] ∧
      (consumer material).1 = .returned v ∧ ∀ leaf, Occurs leaf v → ¬Shows material leaf) ∧
    ∀ material, Reads host key w lease vault material → material ≠ [] →
      (∀ v leaf, (consumer material).1 = .returned v → Occurs leaf v → Shows material leaf →
        ∃ e, exit.result = .error e) ∧
      exit.buffer = some (List.replicate (consumer material).2.length 0) := by
  intro exit
  constructor
  · intro v returned
    obtain ⟨material, reads, nonempty⟩ := reads_of_returned returned
    have ends : exit = _ := executeOnBuffer_reads reads nonempty
    rw [ends] at returned
    obtain ⟨same, clean⟩ := (concludeUse_returned _).1 _ returned
    refine ⟨material, reads, nonempty, same, fun leaf occurs shown => ?_⟩
    rw [contains_of_occurs occurs shown] at clean
    cases clean
  · intro material reads nonempty
    have ends : exit = _ := executeOnBuffer_reads reads nonempty
    rw [ends]
    refine ⟨fun v leaf same occurs shown => ?_, congrArg some (zeroMaterial_eq _)⟩
    simp only [World.useMaterial, same]
    exact (concludeUse_returned _).2 (contains_of_occurs occurs shown)

/-! A plane that has issued a lease, over a vault that holds two letters. -/

def leasedWorld : World :=
  (sampleCalls.take 2).foldl (World.after zeroHost ByteArray.empty) (World.start .testMemory (.new true) 1000)

def twoLetters (_ : String) : Except SecretError Bytes := .ok "sk".toUTF8.data.toList

/-- The call whose consumer returns a value and leaves the buffer as it is. -/
def returning (v : PyValue) : Exit :=
  leasedWorld.executeOnBuffer zeroHost ByteArray.empty issuedSample twoLetters fun material => (.returned v, material)

theorem twoLetters_read : Reads zeroHost ByteArray.empty leasedWorld issuedSample twoLetters "sk".toUTF8.data.toList :=
  ⟨⟨_, rfl⟩, rfl, "slot-v1", rfl, rfl⟩

/-- A value without the letters is returned; one with a key that has them is not, and the
buffer is zeroed both times. -/
theorem secret_never_returned_sample :
    let clean : PyValue := .mapping [(.str "status", .items [.bytes [1], .str "ks"])]
    let leaking : PyValue := .items [.mapping [(.str "ask", .other)]]
    (returning clean).result = .ok clean ∧ (returning clean).buffer = some [0, 0] ∧
      (∃ e, (returning leaking).result = .error e) ∧ (returning leaking).buffer = some [0, 0] := by
  intro clean leaking
  have nonempty : "sk".toUTF8.data.toList ≠ [] := by decide
  have shown : Shows "sk".toUTF8.data.toList (.str "ask") := ⟨"sk", Text.fromUTF8?_toUTF8 "sk", ['a'], [], rfl⟩
  have place : Occurs (.str "ask") leaking := .item (.head _) (.key (.head _) .self)
  obtain ⟨raises, zeroed⟩ := (secret_never_returned zeroHost ByteArray.empty leasedWorld issuedSample twoLetters
    fun material => (.returned leaking, material)).2 _ twoLetters_read nonempty
  obtain ⟨-, zeroed'⟩ := (secret_never_returned zeroHost ByteArray.empty leasedWorld issuedSample twoLetters
    fun material => (.returned clean, material)).2 _ twoLetters_read nonempty
  exact ⟨rfl, zeroed', raises leaking _ rfl place shown, zeroed⟩

end MatVerse.SecretPlane
