import MatVerse.Core
import MatVerse.Lib.MerkleTree

/-! What a Merkle root over evidence hashes commits to: the leaves up to the repetitions
of the tree. Lists of one length with one root are equal; of different lengths, one list
may be a row of the other's tree. -/
namespace MatVerse.Evidence

open MerkleTree

structure IsDigest (text : String) : Prop where
  length : text.length = 64
  digits : Hex.Digits text

/-- The levels above the leaves. -/
def height (leaves : List String) : Nat := Nat.clog 2 leaves.length

section
variable (host : Host)

/-- The texts that the computation of a root hashes. -/
def HashedText (leaves : List String) (text : String) : Prop :=
  (leaves = [] ∧ text = "") ∨
    Hashed (fun a b : String => a ++ b) (sha256Text host) (height leaves) leaves text

end

variable {host : Host} {leaves others : List String}

theorem pairUp_eq (row : List String) : pairUp host row = parents (fun a b => a ++ b) (sha256Text host) row := by
  induction row using pairUp.induct with
  | case1 => rfl
  | case2 a => rfl
  | case3 a b rest ih => simp [pairUp, parents, messages, ih]

theorem pairUp_iterate (levels : Nat) (row : List String) :
    (pairUp host)^[levels] row = ascend (fun a b => a ++ b) (sha256Text host) levels row := by
  rw [ascend, funext pairUp_eq]

theorem fits_height (given : leaves ≠ []) : Fits (height leaves) leaves where
  pos := List.length_pos_iff.mpr given
  le := Nat.le_pow_clog (by decide) _

theorem merkleLevels_top {fuel : Nat} (given : leaves ≠ []) (enough : leaves.length ≤ fuel + 1) :
    (pairUp host)^[height leaves] leaves = [merkleLevels host fuel leaves] := by
  induction fuel generalizing leaves with
  | zero =>
    match leaves, given with
    | [root], _ => simp [height, merkleLevels]
    | _ :: _ :: _, _ => simp at enough
  | succ fuel ih =>
    match leaves, given with
    | [root], _ => simp [height, merkleLevels]
    | a :: b :: rest, _ =>
      have halved : (pairUp host (a :: b :: rest)).length = ((a :: b :: rest).length + 1) / 2 := by
        rw [pairUp_eq, parents, List.length_map, length_messages]
      have above : height (a :: b :: rest) = height (pairUp host (a :: b :: rest)) + 1 := by
        rw [height, height, halved]
        exact Nat.clog_of_two_le (by decide) (by simp)
      have some : pairUp host (a :: b :: rest) ≠ [] := List.cons_ne_nil _ _
      rw [above, Function.iterate_succ_apply, ih some]
      · rfl
      · rw [halved]
        simp only [List.length_cons] at enough ⊢
        omega

theorem append_joins {a b c d : String} (left : a.length = 64) (right : c.length = 64) (same : a ++ b = c ++ d) :
    a = c ∧ b = d := by
  have lists : a.toList ++ b.toList = c.toList ++ d.toList := by
    rw [← String.toList_append, ← String.toList_append, same]
  obtain ⟨first, second⟩ := List.append_inj lists (by rw [String.length_toList, String.length_toList, left, right])
  exact ⟨String.toList_inj.mp first, String.toList_inj.mp second⟩

theorem IsDigest.sha256Text (long : host.Sha256Length) (text : String) : IsDigest (sha256Text host text) :=
  ⟨long _, host.sha256Digits _⟩

theorem merkleRoot_top (given : leaves ≠ []) : (pairUp host)^[height leaves] leaves = [merkleRoot host leaves] :=
  merkleLevels_top given (Nat.le_succ _)

/-- Two trees, cut at the height of the lower one. -/
theorem root_eq_iff (long : host.Sha256Length) (leftDigests : ∀ x ∈ leaves, IsDigest x)
    (rightDigests : ∀ y ∈ others, IsDigest y)
    (free : host.CollisionFreeOn (fun text => HashedText host leaves text ∨ HashedText host others text))
    (given : leaves ≠ []) (given' : others ≠ []) (lower : height leaves ≤ height others) :
    merkleRoot host leaves = merkleRoot host others ↔
      fill (height leaves) leaves = fill (height leaves) ((pairUp host)^[height others - height leaves] others) := by
  have parted : height others = height leaves + (height others - height leaves) := by omega
  have fits : Fits (height leaves + (height others - height leaves)) others := by
    rw [← parted]
    exact fits_height given'
  have top : (pairUp host)^[height leaves] ((pairUp host)^[height others - height leaves] others) =
      [merkleRoot host others] := by
    rw [← Function.iterate_add_apply, ← parted, merkleRoot_top given']
  rw [← List.singleton_inj, ← top, ← merkleRoot_top given, pairUp_iterate, pairUp_iterate, pairUp_iterate]
  have joins (a b c d : String) (first : IsDigest a) (_ : IsDigest b) (second : IsDigest c) (_ : IsDigest d) :=
    @append_joins a b c d first.length second.length
  refine top_eq_iff joins (IsDigest.sha256Text long) (fits_height given) fits.ascend leftDigests
    (digest_ascend (IsDigest.sha256Text long) rightDigests _) ?_
  rintro m n first ⟨level, below, among⟩
  refine free m n (.inl (.inr first)) (.inr (.inr ⟨level + (height others - height leaves), by omega, ?_⟩))
  rwa [ascend_add]

theorem root_injective (long : host.Sha256Length) (leftDigests : ∀ x ∈ leaves, IsDigest x)
    (rightDigests : ∀ y ∈ others, IsDigest y)
    (free : host.CollisionFreeOn (fun text => HashedText host leaves text ∨ HashedText host others text))
    (counted : leaves.length = others.length) (same : merkleRoot host leaves = merkleRoot host others) :
    leaves = others := by
  by_cases given : leaves = []
  · subst given
    exact (List.length_eq_zero_iff.mp counted.symm).symm
  · have given' : others ≠ [] := fun none => given (List.length_eq_zero_iff.mp (by rw [counted, none]; rfl))
    have level : height leaves = height others := by rw [height, height, counted]
    have filled := (root_eq_iff long leftDigests rightDigests free given given' level.le).mp same
    rw [level, Nat.sub_self] at filled
    exact fill_injective counted filled

/-- The root of a longer list is the digest of a text that is not empty. -/
theorem root_hashed (long : host.Sha256Length) (digests : ∀ x ∈ leaves, IsDigest x) (several : 2 ≤ leaves.length) :
    ∃ text, HashedText host leaves text ∧ text ≠ "" ∧ merkleRoot host leaves = sha256Text host text := by
  have given : leaves ≠ [] := List.length_pos_iff.mp (by omega)
  obtain ⟨levels, tall⟩ : ∃ levels, height leaves = 1 + levels :=
    ⟨height leaves - 1, by have := Nat.clog_pos (b := 2) (by decide) several; unfold height; omega⟩
  have top : (pairUp host)^[height leaves] leaves = [merkleRoot host leaves] := merkleRoot_top given
  rw [tall, pairUp_iterate, ascend_add] at top
  have root : merkleRoot host leaves ∈ parents (fun a b => a ++ b) (sha256Text host)
      (ascend (fun a b => a ++ b) (sha256Text host) levels leaves) := by
    have only : merkleRoot host leaves ∈ [merkleRoot host leaves] := List.mem_singleton_self _
    rwa [← top] at only
  obtain ⟨text, among, made⟩ := List.mem_map.mp root
  obtain ⟨a, member, b, rfl⟩ := mem_messages among
  refine ⟨a ++ b, .inr ⟨levels, by omega, among⟩, fun empty => ?_, made.symm⟩
  have length := (digest_ascend (IsDigest.sha256Text long) digests levels a member).length
  have total := congrArg String.length empty
  rw [String.length_append, length] at total
  simp at total

theorem root_nil_iff (long : host.Sha256Length) (rightDigests : ∀ y ∈ others, IsDigest y)
    (free : host.CollisionFreeOn (fun text => HashedText host [] text ∨ HashedText host others text)) :
    merkleRoot host [] = merkleRoot host others ↔ others = [] ∨ others = [sha256Text host ""] := by
  match others with
  | [] => simp
  | [root] =>
    have itself : merkleRoot host [root] = root := rfl
    have none : merkleRoot host [] = sha256Text host "" := rfl
    simp [itself, none, eq_comm]
  | a :: b :: rest =>
    refine iff_of_false (fun same => ?_) (by simp)
    obtain ⟨text, hashed, nonempty, made⟩ := root_hashed long rightDigests (by simp)
    exact nonempty (free "" text (.inl (.inl ⟨rfl, rfl⟩)) (.inr hashed) (same.trans made)).symm

/-- What a root commits to. -/
theorem merkleRoot_commits (long : host.Sha256Length) (leftDigests : ∀ x ∈ leaves, IsDigest x)
    (rightDigests : ∀ y ∈ others, IsDigest y)
    (free : host.CollisionFreeOn (fun text => HashedText host leaves text ∨ HashedText host others text)) :
    (leaves.length = others.length → merkleRoot host leaves = merkleRoot host others → leaves = others) ∧
    (leaves ≠ [] → others ≠ [] → height leaves ≤ height others →
      (merkleRoot host leaves = merkleRoot host others ↔
        fill (height leaves) leaves = fill (height leaves) ((pairUp host)^[height others - height leaves] others))) ∧
    (leaves = [] → (merkleRoot host leaves = merkleRoot host others ↔
      others = [] ∨ others = [sha256Text host ""])) := by
  refine ⟨root_injective long leftDigests rightDigests free, root_eq_iff long leftDigests rightDigests free, ?_⟩
  rintro rfl
  exact root_nil_iff long rightDigests free

/-! ## Lists with one root -/

theorem zeroDigest_isDigest : IsDigest zeroDigest := ⟨by decide, zeroDigest_digits⟩

/-- The digest of two zero digests in a row. -/
def pairDigest : String := "45725791c47b32618cc57b88343e2bceec3b0a01b83bc97d144a2cbc11a20c3d"

theorem pairDigest_isDigest : IsDigest pairDigest :=
  ⟨by decide, by unfold Hex.Digits; decide⟩

/-- A host that knows one digest. -/
def pairHost : Host where
  sha256 bytes := if bytes = (zeroDigest ++ zeroDigest).toUTF8 then pairDigest else zeroDigest
  sha256Digits bytes := by
    split
    · exact pairDigest_isDigest.digits
    · exact zeroDigest_digits
  hmac _ _ := zeroDigest
  hmacDigits _ _ := zeroDigest_digits
  source name := name
  containerText _ := ""

theorem pairHost_sha256Length : pairHost.Sha256Length := by
  intro bytes
  show (if bytes = (zeroDigest ++ zeroDigest).toUTF8 then pairDigest else zeroDigest).length = 64
  split
  · exact pairDigest_isDigest.length
  · exact zeroDigest_isDigest.length

theorem pairUp_pair : pairUp pairHost [zeroDigest, zeroDigest] = [pairDigest] := by
  have known : sha256Text pairHost (zeroDigest ++ zeroDigest) = pairDigest := by
    simp [sha256Text, pairHost]
  rw [pairUp, known, pairUp]

theorem hashedText_pair {text : String} (hashed : HashedText pairHost [pairDigest] text ∨
    HashedText pairHost [zeroDigest, zeroDigest] text) : text = zeroDigest ++ zeroDigest := by
  have single : height [pairDigest] = 0 := by simp [height]
  have double : height [zeroDigest, zeroDigest] = 1 := by
    rw [height]
    decide
  rcases hashed with (⟨none, -⟩ | ⟨level, below, -⟩) | (⟨none, -⟩ | ⟨level, below, among⟩)
  · cases none
  · omega
  · cases none
  · obtain rfl : level = 0 := by omega
    exact List.mem_singleton.mp among

/-- One leaf has the root of the two leaves below it. -/
theorem leaf_for_pair : merkleRoot pairHost [pairDigest] = merkleRoot pairHost [zeroDigest, zeroDigest] := by
  have single : height [pairDigest] = 0 := by simp [height]
  have double : height [zeroDigest, zeroDigest] = 1 := by
    rw [height]
    decide
  have commits := @merkleRoot_commits pairHost [pairDigest] [zeroDigest, zeroDigest] pairHost_sha256Length
    (by simpa using pairDigest_isDigest) (by simpa using zeroDigest_isDigest)
    fun a b first second _ => (hashedText_pair first).trans (hashedText_pair second).symm
  refine (commits.2.1 (by simp) (by simp) (by rw [single]; exact Nat.zero_le _)).mpr ?_
  rw [single, double]
  exact pairUp_pair.symm

/-- Three leaves have the root of the four with the third one repeated. -/
theorem third_leaf_repeated :
    ∃ leaves others : List String, (∀ x ∈ leaves, IsDigest x) ∧ (∀ y ∈ others, IsDigest y) ∧ leaves ≠ others ∧
      ∀ host, merkleRoot host leaves = merkleRoot host others := by
  refine ⟨[pairDigest, zeroDigest, zeroDigest], [pairDigest, zeroDigest, zeroDigest, zeroDigest], ?_, ?_, by simp,
    fun host => rfl⟩
  · simp [pairDigest_isDigest, zeroDigest_isDigest]
  · simp [pairDigest_isDigest, zeroDigest_isDigest]

end MatVerse.Evidence
