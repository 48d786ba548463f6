import MatVerse.Lib.Text
import Mathlib.Tactic.Common
import Mathlib.Tactic.IntervalCases

/-! Bytes written as two hexadecimal digits each: a digest-shaped text that
determines the bytes. -/
namespace Hex

def byteText (byte : UInt8) : List Char :=
  [Nat.digitChar (byte.toNat / 16), Nat.digitChar (byte.toNat % 16)]

def text (bytes : ByteArray) : String := String.ofList (bytes.data.toList.flatMap byteText)

theorem digitChar_injective {m n : Nat} (hm : m < 16) (hn : n < 16)
    (same : Nat.digitChar m = Nat.digitChar n) : m = n := by
  interval_cases m <;> interval_cases n <;> first | rfl | (exact absurd same (by decide))

theorem byteText_injective {a b : UInt8} (same : byteText a = byteText b) : a = b := by
  simp only [byteText, List.cons.injEq, and_true] at same
  have ha := a.toNat_lt
  have hb := b.toNat_lt
  have high := digitChar_injective (by omega) (by omega) same.1
  have low := digitChar_injective (by omega) (by omega) same.2
  apply UInt8.toNat_inj.mp
  omega

theorem flatMap_byteText_injective {xs ys : List UInt8}
    (same : xs.flatMap byteText = ys.flatMap byteText) : xs = ys := by
  induction xs generalizing ys with
  | nil =>
    cases ys with
    | nil => rfl
    | cons y ys => simp [byteText] at same
  | cons x xs ih =>
    cases ys with
    | nil => simp [byteText] at same
    | cons y ys =>
      rw [List.flatMap_cons, List.flatMap_cons] at same
      obtain ⟨head, tail⟩ := List.append_inj same rfl
      rw [byteText_injective head, ih tail]

theorem text_injective : Function.Injective text := by
  intro a b same
  have lists := flatMap_byteText_injective (by simpa [text] using congrArg String.toList same)
  exact ByteArray.ext (Array.toList_inj.mp lists)

def isDigit (c : Char) : Bool := c.isDigit || (97 ≤ c.toNat && c.toNat ≤ 102)

theorem isDigit_digitChar {n : Nat} (small : n < 16) : isDigit (Nat.digitChar n) = true := by
  interval_cases n <;> decide

theorem isDigit_ascii {c : Char} (digit : isDigit c = true) : c.toNat < 128 := by
  simp only [isDigit, Char.isDigit, Bool.or_eq_true, Bool.and_eq_true, decide_eq_true_eq] at digit
  rcases digit with ⟨_, high⟩ | ⟨_, high⟩
  · have : c.toNat ≤ 57 := high
    omega
  · omega

theorem toLower_digit {c : Char} (digit : isDigit c = true) : c.toLower = c := by
  refine dif_neg ?_
  rintro ⟨low, high⟩
  have above : 65 ≤ c.toNat := low
  have below : c.toNat ≤ 90 := high
  simp only [isDigit, Char.isDigit, Bool.or_eq_true, Bool.and_eq_true, decide_eq_true_eq] at digit
  rcases digit with ⟨_, numeral⟩ | ⟨letter, _⟩
  · have : c.toNat ≤ 57 := numeral
    omega
  · omega

theorem isDigit_not_space {c : Char} (digit : isDigit c = true) : Text.isSpace c = false := by
  simp only [isDigit, Char.isDigit, Bool.or_eq_true, Bool.and_eq_true, decide_eq_true_eq] at digit
  have code : 48 ≤ c.toNat ∧ c.toNat ≤ 57 ∨ 97 ≤ c.toNat ∧ c.toNat ≤ 102 := by
    rcases digit with ⟨low, high⟩ | letter
    · exact .inl ⟨low, high⟩
    · exact .inr letter
  simp [Text.isSpace]
  omega

/-- A text of hexadecimal digits, as `hexdigest` returns. -/
def Digits (s : String) : Prop := s.toList.all isDigit = true

theorem digits_text (bytes : ByteArray) : Digits (text bytes) := by
  apply List.all_eq_true.mpr
  intro c member
  simp only [text, String.toList_ofList, List.mem_flatMap] at member
  obtain ⟨byte, _, member⟩ := member
  have := byte.toNat_lt
  simp only [byteText, List.mem_cons, List.not_mem_nil, or_false] at member
  rcases member with rfl | rfl
  · exact isDigit_digitChar (by omega)
  · exact isDigit_digitChar (by omega)

theorem Digits.strip_append {digits mark : String} (all : Digits digits) {first last : Char}
    (starts : mark.toList.head? = some first) (ends : mark.toList.getLast? = some last)
    (marks : Text.isSpace first = false ∧ Text.isSpace last = false) :
    Text.strip (digits ++ mark) = digits ++ mark := by
  apply Text.strip_of_ends
  · intro c head
    rw [String.toList_append, List.head?_append, starts] at head
    cases own : digits.toList.head? with
    | none =>
      rw [own] at head
      obtain rfl := Option.some.inj head
      exact marks.1
    | some d =>
      rw [own] at head
      obtain rfl := Option.some.inj head
      exact isDigit_not_space (List.all_eq_true.mp all d (List.mem_of_mem_head? own))
  · intro c tail
    rw [String.toList_append, List.getLast?_append, ends] at tail
    obtain rfl := Option.some.inj tail
    exact marks.2

theorem takeWhile_digits {digits mark : String} (all : Digits digits) {first : Char}
    (starts : mark.toList.head? = some first) (other : isDigit first = false) :
    (digits ++ mark).toList.takeWhile isDigit = digits.toList := by
  obtain ⟨rest, split⟩ := List.head?_eq_some_iff.mp starts
  rw [String.toList_append, List.takeWhile_append_of_pos fun c => List.all_eq_true.mp all c, split, List.takeWhile_cons,
    other]
  simp

/-- Digits and what a mark begins behind them are read off the whole. -/
theorem Digits.append_inj {digits others mark mark' : String} (all : Digits digits) (all' : Digits others)
    {first first' : Char} (starts : mark.toList.head? = some first) (starts' : mark'.toList.head? = some first')
    (other : isDigit first = false ∧ isDigit first' = false) (same : digits ++ mark = others ++ mark') :
    digits = others ∧ mark = mark' := by
  have ids : digits = others := by
    apply String.toList_inj.mp
    rw [← takeWhile_digits all starts other.1, ← takeWhile_digits all' starts' other.2, same]
  subst ids
  refine ⟨rfl, String.toList_inj.mp ?_⟩
  have lists := congrArg String.toList same
  rwa [String.toList_append, String.toList_append, List.append_right_inj] at lists

def digitNat (c : Char) : Nat := if c.isDigit then c.toNat - 48 else c.toNat - 87

/-- The bytes two digits each spell. -/
def pairs : List Char → List UInt8
  | high :: low :: rest => UInt8.ofNat (16 * digitNat high + digitNat low) :: pairs rest
  | _ => []

/-- `bytes.fromhex` of a text of lowercase digits. -/
def bytes (s : String) : ByteArray := ⟨(pairs s.toList).toArray⟩

theorem digitNat_digitChar {n : Nat} (small : n < 16) : digitNat (Nat.digitChar n) = n := by
  interval_cases n <;> decide

theorem pairs_flatMap (bs : List UInt8) : pairs (bs.flatMap byteText) = bs := by
  induction bs with
  | nil => rfl
  | cons byte rest ih =>
    have small := byte.toNat_lt
    have parts : 16 * (byte.toNat / 16) + byte.toNat % 16 = byte.toNat := by omega
    simp only [List.flatMap_cons, byteText, List.cons_append, List.nil_append, pairs, ih]
    rw [digitNat_digitChar (by omega), digitNat_digitChar (by omega), parts, UInt8.ofNat_toNat]

@[simp] theorem bytes_text (b : ByteArray) : bytes (text b) = b := by
  simp [bytes, text, pairs_flatMap]

/-- 32 bytes that every byte has a part in. -/
def word (bytes : ByteArray) : ByteArray :=
  let number := bytes.data.toList.foldl (fun n byte => 257 * n + byte.toNat + 1) 0
  ⟨((List.range 32).map fun i => UInt8.ofNat (number / 256 ^ i)).toArray⟩

theorem size_word (bytes : ByteArray) : (word bytes).size = 32 := by
  simp only [word, ByteArray.size, List.size_toArray, List.length_map, List.length_range]

theorem length_text (b : ByteArray) : (text b).length = 2 * b.size := by
  have pairs (bs : List UInt8) : (bs.flatMap byteText).length = 2 * bs.length := by
    induction bs with
    | nil => rfl
    | cons byte rest ih =>
      rw [List.flatMap_cons, List.length_append, ih, List.length_cons]
      simp only [byteText, List.length_cons, List.length_nil]
      omega
  simpa [text] using pairs b.data.toList

end Hex
