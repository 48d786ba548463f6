import Mathlib.Tactic.Common
import Mathlib.Tactic.IntervalCases

/-! Bytes as base64: three bytes in four letters, the last group padded. The decoder is
strict about letters and padding, and passes over the bits that a last group leaves. -/
namespace Base64

def letter (n : Nat) : Char :=
  if n < 26 then Char.ofNat (65 + n)
  else if n < 52 then Char.ofNat (71 + n)
  else if n < 62 then Char.ofNat (n - 4)
  else if n = 62 then '+' else '/'

def value? (c : Char) : Option Nat :=
  if 65 ≤ c.toNat ∧ c.toNat ≤ 90 then some (c.toNat - 65)
  else if 97 ≤ c.toNat ∧ c.toNat ≤ 122 then some (c.toNat - 71)
  else if 48 ≤ c.toNat ∧ c.toNat ≤ 57 then some (c.toNat + 4)
  else if c = '+' then some 62
  else if c = '/' then some 63
  else none

def encodeBytes : List UInt8 → List Char
  | [] => []
  | [a] => [letter (a.toNat / 4), letter (a.toNat % 4 * 16), '=', '=']
  | [a, b] => [letter (a.toNat / 4), letter (a.toNat % 4 * 16 + b.toNat / 16), letter (b.toNat % 16 * 4), '=']
  | a :: b :: c :: rest =>
    letter (a.toNat / 4) :: letter (a.toNat % 4 * 16 + b.toNat / 16) :: letter (b.toNat % 16 * 4 + c.toNat / 64) ::
      letter (c.toNat % 64) :: encodeBytes rest

def first (w x : Nat) : UInt8 := UInt8.ofNat (w * 4 + x / 16)
def second (x y : Nat) : UInt8 := UInt8.ofNat (x % 16 * 16 + y / 4)
def third (y z : Nat) : UInt8 := UInt8.ofNat (y % 4 * 64 + z)

def decodeChars : List Char → Option (List UInt8)
  | [] => some []
  | w :: x :: y :: z :: rest => do
    let w ← value? w
    let x ← value? x
    if y = '=' ∧ z = '=' ∧ rest = [] then return [first w x]
    let y ← value? y
    if z = '=' ∧ rest = [] then return [first w x, second x y]
    let z ← value? z
    let bytes ← decodeChars rest
    return first w x :: second x y :: third y z :: bytes
  | _ => none

/-- `base64.b64encode(data).decode("ascii")`. -/
def encode (bytes : ByteArray) : String := String.ofList (encodeBytes bytes.data.toList)

/-- `base64.b64decode(text, validate=True)`. -/
def decode (text : String) : Option ByteArray := (decodeChars text.toList).map fun bytes => ⟨bytes.toArray⟩

theorem value?_letter {n : Nat} (small : n < 64) : value? (letter n) = some n := by
  interval_cases n <;> decide

theorem letter_ne_pad {n : Nat} (small : n < 64) : letter n ≠ '=' := by
  intro pad
  have value := value?_letter small
  rw [pad] at value
  cases value

section
variable (a b c : UInt8)

theorem first_spell : first (a.toNat / 4) (a.toNat % 4 * 16 + b.toNat / 16) = a := by
  have := a.toNat_lt
  have := b.toNat_lt
  rw [first, show a.toNat / 4 * 4 + (a.toNat % 4 * 16 + b.toNat / 16) / 16 = a.toNat by omega, UInt8.ofNat_toNat]

theorem second_spell : second (a.toNat % 4 * 16 + b.toNat / 16) (b.toNat % 16 * 4 + c.toNat / 64) = b := by
  have := b.toNat_lt
  have := c.toNat_lt
  rw [second, show (a.toNat % 4 * 16 + b.toNat / 16) % 16 * 16 + (b.toNat % 16 * 4 + c.toNat / 64) / 4 =
    b.toNat by omega, UInt8.ofNat_toNat]

theorem third_spell : third (b.toNat % 16 * 4 + c.toNat / 64) (c.toNat % 64) = c := by
  have := c.toNat_lt
  rw [third, show (b.toNat % 16 * 4 + c.toNat / 64) % 4 * 64 + c.toNat % 64 = c.toNat by omega, UInt8.ofNat_toNat]

end

theorem decode_encodeBytes (bytes : List UInt8) : decodeChars (encodeBytes bytes) = some bytes := by
  induction bytes using encodeBytes.induct with
  | case1 => rfl
  | case2 a =>
    have := a.toNat_lt
    have spelt := first_spell a 0
    simp only [UInt8.toNat_zero, Nat.zero_div, Nat.add_zero] at spelt
    simp [encodeBytes, decodeChars, value?_letter (n := a.toNat / 4) (by omega),
      value?_letter (n := a.toNat % 4 * 16) (by omega), spelt]
  | case3 a b =>
    have := a.toNat_lt
    have := b.toNat_lt
    have spelt := second_spell a b 0
    simp only [UInt8.toNat_zero, Nat.zero_div, Nat.add_zero] at spelt
    simp [encodeBytes, decodeChars, value?_letter (n := a.toNat / 4) (by omega),
      value?_letter (n := a.toNat % 4 * 16 + b.toNat / 16) (by omega), value?_letter (n := b.toNat % 16 * 4) (by omega),
      letter_ne_pad (n := b.toNat % 16 * 4) (by omega), first_spell, spelt]
  | case4 a b c rest ih =>
    have := a.toNat_lt
    have := b.toNat_lt
    have := c.toNat_lt
    simp [encodeBytes, decodeChars, value?_letter (n := a.toNat / 4) (by omega),
      value?_letter (n := a.toNat % 4 * 16 + b.toNat / 16) (by omega),
      value?_letter (n := b.toNat % 16 * 4 + c.toNat / 64) (by omega), value?_letter (n := c.toNat % 64) (by omega),
      letter_ne_pad (n := b.toNat % 16 * 4 + c.toNat / 64) (by omega), letter_ne_pad (n := c.toNat % 64) (by omega),
      first_spell, second_spell, third_spell, ih]

@[simp] theorem decode_encode (bytes : ByteArray) : decode (encode bytes) = some bytes := by
  rw [decode, encode, String.toList_ofList, decode_encodeBytes]
  rfl

end Base64
