import Mathlib.Data.List.Basic
import Mathlib.Data.Nat.Log
import Mathlib.Logic.Function.Iterate
import Mathlib.Tactic.Common
import Mathlib.Tactic.Ring

/-! Merkle trees over a row of any length, where a row of odd length repeats its last
node. Two rows of one height have the same top exactly when they fill up to the same row:
the repetition is all that the top forgets. -/
namespace MerkleTree

variable {α β γ : Type}

/-- The messages hashed over a row. -/
def messages (join : α → α → β) : List α → List β
  | [] => []
  | [a] => [join a a]
  | a :: b :: rest => join a b :: messages join rest

def parents (join : α → α → β) (hash : β → α) (row : List α) : List α := (messages join row).map hash

/-- A row repeated block by block, to the leaves of a full tree. -/
def fill : Nat → List α → List α
  | 0, row => row
  | h + 1, row =>
    if row.length ≤ 2 ^ h then fill h row ++ fill h row
    else row.take (2 ^ h) ++ fill h (row.drop (2 ^ h))

/-- A row that is not empty and fits under a tree of a height. -/
structure Fits (h : Nat) (row : List α) : Prop where
  pos : 1 ≤ row.length
  le : row.length ≤ 2 ^ h

variable {join : α → α → β} {hash : β → α} {h : Nat} {row : List α}

theorem length_messages (row : List α) : (messages join row).length = (row.length + 1) / 2 := by
  induction row using messages.induct with
  | case1 => simp [messages]
  | case2 a => simp [messages]
  | case3 a b rest ih =>
    simp only [messages, List.length_cons, ih]
    omega

theorem mem_messages {m : β} (among : m ∈ messages join row) : ∃ a ∈ row, ∃ b, m = join a b := by
  induction row using messages.induct with
  | case1 => cases among
  | case2 a => exact ⟨a, by simp, a, by simpa [messages] using among⟩
  | case3 a b rest ih =>
    rcases List.mem_cons.mp among with rfl | further
    · exact ⟨a, by simp, b, rfl⟩
    · obtain ⟨c, member, d, rfl⟩ := ih further
      exact ⟨c, by simp [member], d, rfl⟩

theorem messages_append {xs ys : List α} (even : 2 ∣ xs.length) :
    messages join (xs ++ ys) = messages join xs ++ messages join ys := by
  induction xs using messages.induct with
  | case1 => rfl
  | case2 a => simp at even
  | case3 a b rest ih =>
    simp only [List.cons_append, messages, List.cons.injEq, true_and]
    refine ih ?_
    simp only [List.length_cons] at even
    omega

theorem Fits.messages (fits : Fits (h + 1) row) : Fits h (messages join row) := by
  obtain ⟨pos, le⟩ := fits
  rw [Nat.pow_succ] at le
  constructor <;> rw [length_messages] <;> omega

theorem Fits.parents (fits : Fits (h + 1) row) : Fits h (parents join hash row) := by
  have below : Fits h (MerkleTree.messages join row) := fits.messages
  exact ⟨by simpa [MerkleTree.parents] using below.pos, by simpa [MerkleTree.parents] using below.le⟩

theorem fill_low (low : row.length ≤ 2 ^ h) : fill (h + 1) row = fill h row ++ fill h row := if_pos low

theorem fill_high (high : ¬row.length ≤ 2 ^ h) : fill (h + 1) row = row.take (2 ^ h) ++ fill h (row.drop (2 ^ h)) :=
  if_neg high

theorem length_fill (fits : Fits h row) : (fill h row).length = 2 ^ h := by
  induction h generalizing row with
  | zero =>
    have pos := fits.pos
    have le := fits.le
    simp only [fill, Nat.pow_zero] at le ⊢
    omega
  | succ h ih =>
    have le := fits.le
    rw [Nat.pow_succ] at le
    unfold fill
    split
    next low =>
      rw [List.length_append, ih ⟨fits.pos, low⟩]
      ring
    next high =>
      have rest : Fits h (row.drop (2 ^ h)) := ⟨by rw [List.length_drop]; omega, by rw [List.length_drop]; omega⟩
      rw [List.length_append, List.length_take, ih rest, Nat.min_eq_left (by omega)]
      ring

theorem mem_fill {x : α} : x ∈ fill h row ↔ x ∈ row := by
  induction h generalizing row with
  | zero => rfl
  | succ h ih =>
    unfold fill
    split
    · rw [List.mem_append, ih, or_self]
    · rw [List.mem_append, ih, ← List.mem_append, List.take_append_drop]

theorem map_fill (f : α → γ) : (fill h row).map f = fill h (row.map f) := by
  induction h generalizing row with
  | zero => rfl
  | succ h ih =>
    unfold fill
    rw [List.length_map]
    split
    · rw [List.map_append, ih]
    · rw [List.map_append, ih, List.map_take, List.map_drop]

theorem prefix_fill : row <+: fill h row := by
  induction h generalizing row with
  | zero => exact List.prefix_rfl
  | succ h ih =>
    unfold fill
    split
    · exact ih.trans (List.prefix_append _ _)
    · obtain ⟨further, filled⟩ := @ih (row.drop (2 ^ h))
      exact ⟨further, by rw [← filled, ← List.append_assoc, List.take_append_drop]⟩

/-- The messages over a filled row are the filled messages. -/
theorem messages_fill (fits : Fits (h + 1) row) : messages join (fill (h + 1) row) = fill h (messages join row) := by
  induction h generalizing row with
  | zero =>
    match row, fits with
    | [a], _ => rfl
    | [a, b], _ => rfl
    | _ :: _ :: _ :: _, fits => exact absurd fits.le (by simp)
    | [], fits => exact absurd fits.pos (by simp)
  | succ h ih =>
    have le := fits.le
    rw [Nat.pow_succ] at le
    have even : 2 ∣ 2 ^ (h + 1) := Dvd.intro_left (2 ^ h) rfl
    have counted : (messages join row).length = (row.length + 1) / 2 := length_messages row
    have doubled : 2 ^ (h + 1) = 2 ^ h * 2 := Nat.pow_succ ..
    by_cases low : row.length ≤ 2 ^ (h + 1)
    · have half : Fits (h + 1) row := ⟨fits.pos, low⟩
      have below : (messages join row).length ≤ 2 ^ h := by omega
      rw [fill_low low, fill_low below, messages_append (by rw [length_fill half]; exact even), ih half]
    · have rest : Fits (h + 1) (row.drop (2 ^ (h + 1))) :=
        ⟨by rw [List.length_drop]; omega, by rw [List.length_drop]; omega⟩
      have whole : (row.take (2 ^ (h + 1))).length = 2 ^ (h + 1) := by
        rw [List.length_take]
        omega
      have first : (messages join (row.take (2 ^ (h + 1)))).length = 2 ^ h := by
        rw [length_messages, whole]
        omega
      have parted : messages join row =
          messages join (row.take (2 ^ (h + 1))) ++ messages join (row.drop (2 ^ (h + 1))) := by
        rw [← messages_append (by rw [whole]; exact even), List.take_append_drop]
      have above : ¬(messages join row).length ≤ 2 ^ h := by omega
      rw [fill_high low, fill_high above, messages_append (by rw [whole]; exact even), ih rest, parted,
        List.take_left' first, List.drop_left' first]

theorem parents_fill (fits : Fits (h + 1) row) :
    parents join hash (fill (h + 1) row) = fill h (parents join hash row) := by
  rw [parents, messages_fill fits, map_fill, parents]

/-! ## Rows above -/

section
variable (join hash)

/-- The row a number of levels above. -/
def ascend (levels : Nat) (row : List α) : List α := (parents join hash)^[levels] row

/-- The messages hashed on the way to the top of a tree of height `h`. -/
def Hashed (h : Nat) (row : List α) (m : β) : Prop := ∃ level < h, m ∈ messages join (ascend join hash level row)

end

theorem ascend_succ (levels : Nat) (row : List α) :
    ascend join hash (levels + 1) row = ascend join hash levels (parents join hash row) :=
  Function.iterate_succ_apply ..

theorem ascend_add (m n : Nat) (row : List α) :
    ascend join hash (m + n) row = ascend join hash m (ascend join hash n row) :=
  Function.iterate_add_apply ..

theorem Fits.ascend {levels : Nat} (fits : Fits (h + levels) row) : Fits h (ascend join hash levels row) := by
  induction levels generalizing row with
  | zero => exact fits
  | succ levels ih =>
    rw [ascend_succ]
    exact ih (fits.parents (h := h + levels))

theorem ascend_fill {levels : Nat} (fits : Fits (h + levels) row) :
    ascend join hash levels (fill (h + levels) row) = fill h (ascend join hash levels row) := by
  induction levels generalizing row with
  | zero => rfl
  | succ levels ih =>
    rw [ascend_succ, ascend_succ, ← Nat.add_assoc, parents_fill (h := h + levels) fits]
    exact ih (fits.parents (h := h + levels))

theorem top_fill (fits : Fits h row) : ascend join hash h (fill h row) = ascend join hash h row := by
  have zero : 0 + h = h := Nat.zero_add h
  have filled : ascend join hash h (fill (0 + h) row) = fill 0 (ascend join hash h row) := ascend_fill (by rwa [zero])
  rwa [zero] at filled

theorem hashed_fill (fits : Fits h row) {m : β} : Hashed join hash h (fill h row) m ↔ Hashed join hash h row m := by
  refine exists_congr fun level => and_congr_right fun below => ?_
  obtain ⟨rest, rfl⟩ : ∃ rest, h = rest + 1 + level := ⟨h - level - 1, by omega⟩
  rw [ascend_fill fits, messages_fill fits.ascend, mem_fill]

/-! ## Equal tops -/

theorem map_injective_on {xs ys : List β} (free : ∀ x ∈ xs, ∀ y ∈ ys, hash x = hash y → x = y)
    (same : xs.map hash = ys.map hash) : xs = ys := by
  induction xs generalizing ys with
  | nil => exact (List.map_eq_nil_iff.mp same.symm).symm
  | cons x xs ih =>
    cases ys with
    | nil => cases same
    | cons y ys =>
      rw [List.map_cons, List.map_cons, List.cons.injEq] at same
      rw [free x (by simp) y (by simp) same.1,
        ih (fun x member y other => free x (by simp [member]) y (by simp [other])) same.2]

section
variable {digest : α → Prop}

theorem messages_injective (joins : ∀ a b c d, digest a → digest b → digest c → digest d → join a b = join c d → a = c ∧
    b = d) {xs ys : List α} (counted : xs.length = ys.length) (left : ∀ x ∈ xs, digest x) (right : ∀ y ∈ ys, digest y)
    (same : messages join xs = messages join ys) : xs = ys := by
  induction xs using messages.induct generalizing ys with
  | case1 => exact (List.length_eq_zero_iff.mp counted.symm).symm
  | case2 a =>
    obtain ⟨c, rfl⟩ := List.length_eq_one_iff.mp counted.symm
    have equal : join a a = join c c := by simpa [messages] using same
    rw [(joins a a c c (left a (by simp)) (left a (by simp)) (right c (by simp)) (right c (by simp)) equal).1]
  | case3 a b rest ih =>
    match ys with
    | [] => simp at counted
    | [_] => simp at counted
    | c :: d :: others =>
      simp only [messages, List.cons.injEq] at same
      simp only [List.forall_mem_cons] at left right
      obtain ⟨rfl, rfl⟩ := joins a b c d left.1 left.2.1 right.1 right.2.1 same.1
      rw [ih (by simpa using counted) left.2.2 right.2.2 same.2]

theorem digest_parents (hashes : ∀ m, digest (hash m)) (row : List α) : ∀ x ∈ parents join hash row, digest x := by
  intro x member
  obtain ⟨m, -, rfl⟩ := List.mem_map.mp member
  exact hashes m

theorem digest_ascend (hashes : ∀ m, digest (hash m)) (digests : ∀ x ∈ row, digest x) (levels : Nat) :
    ∀ x ∈ ascend join hash levels row, digest x := by
  induction levels generalizing row with
  | zero => exact digests
  | succ levels ih =>
    rw [ascend_succ]
    exact ih (digest_parents hashes row)

/-- Full rows with one top, no two of whose messages collide. -/
theorem full_injective
    (joins : ∀ a b c d, digest a → digest b → digest c → digest d → join a b = join c d → a = c ∧ b = d)
    (hashes : ∀ m, digest (hash m)) {xs ys : List α} (left : xs.length = 2 ^ h) (right : ys.length = 2 ^ h)
    (leftDigests : ∀ x ∈ xs, digest x) (rightDigests : ∀ y ∈ ys, digest y)
    (free : ∀ m n, Hashed join hash h xs m → Hashed join hash h ys n → hash m = hash n → m = n)
    (same : ascend join hash h xs = ascend join hash h ys) : xs = ys := by
  induction h generalizing xs ys with
  | zero => exact same
  | succ h ih =>
    rw [ascend_succ, ascend_succ] at same
    have halved {row : List α} (full : row.length = 2 ^ (h + 1)) : (parents join hash row).length = 2 ^ h := by
      rw [Nat.pow_succ] at full
      rw [parents, List.length_map, length_messages]
      omega
    have above {row : List α} {m : β} : Hashed join hash h (parents join hash row) m →
        Hashed join hash (h + 1) row m := by
      rintro ⟨level, below, among⟩
      exact ⟨level + 1, by omega, by rwa [ascend_succ]⟩
    have rows := ih (halved left) (halved right) (digest_parents hashes xs) (digest_parents hashes ys)
      (fun m n first second => free m n (above first) (above second)) same
    have here {row : List α} {m : β} (among : m ∈ messages join row) : Hashed join hash (h + 1) row m :=
      ⟨0, by omega, among⟩
    have texts := map_injective_on (fun m first n second => free m n (here first) (here second)) rows
    exact messages_injective joins (left.trans right.symm) leftDigests rightDigests texts

/-- Rows under one height have the same top exactly when they fill up to the same row. -/
theorem top_eq_iff (joins : ∀ a b c d, digest a → digest b → digest c → digest d → join a b = join c d → a = c ∧ b = d)
    (hashes : ∀ m, digest (hash m)) {xs ys : List α} (left : Fits h xs) (right : Fits h ys)
    (leftDigests : ∀ x ∈ xs, digest x) (rightDigests : ∀ y ∈ ys, digest y)
    (free : ∀ m n, Hashed join hash h xs m → Hashed join hash h ys n → hash m = hash n → m = n) :
    ascend join hash h xs = ascend join hash h ys ↔ fill h xs = fill h ys := by
  rw [← top_fill left, ← top_fill right]
  constructor
  · refine full_injective joins hashes (length_fill left) (length_fill right) ?_ ?_ ?_
    · exact fun x member => leftDigests x (mem_fill.mp member)
    · exact fun y member => rightDigests y (mem_fill.mp member)
    · exact fun m n first second => free m n ((hashed_fill left).mp first) ((hashed_fill right).mp second)
  · exact fun same => by rw [same]

end

theorem fill_injective {xs ys : List α} (counted : xs.length = ys.length) (same : fill h xs = fill h ys) : xs = ys := by
  have first : xs <+: fill h xs := prefix_fill
  have second : ys <+: fill h xs := same ▸ prefix_fill
  exact (List.prefix_of_prefix_length_le first second counted.le).eq_of_length counted

end MerkleTree
