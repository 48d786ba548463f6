import Mathlib.Data.Int.Log
import Mathlib.Data.Rat.Floor
import Mathlib.Tactic.Common
import Mathlib.Tactic.Ring
import Mathlib.Tactic.Positivity
import Mathlib.Tactic.NormNum
import Mathlib.Tactic.FieldSimp
import Mathlib.Tactic.Linarith
import Mathlib.Algebra.Order.Field.Power

/-! IEEE binary64 values by their exact rationals. A finite value is a sign, a
significand and an exponent in canonical form, so equal values have equal fields;
decimal literals are rounded to nearest, ties to even. -/

/-- The significand and exponent of a finite binary64: subnormal or normal. -/
def Binary64.Canonical (m : Nat) (e : Int) : Prop :=
  (m < 2 ^ 53 ∧ e = -1074) ∨ (2 ^ 52 ≤ m ∧ m < 2 ^ 53 ∧ -1074 ≤ e ∧ e ≤ 971)

instance (m : Nat) (e : Int) : Decidable (Binary64.Canonical m e) :=
  inferInstanceAs (Decidable (_ ∨ _))

inductive Binary64 where
  | nan
  | inf (negative : Bool)
  | finite (negative : Bool) (m : Nat) (e : Int) (canonical : Binary64.Canonical m e)
  deriving DecidableEq

namespace Binary64

def magnitude (m : Nat) (e : Int) : ℚ := m * 2 ^ e

/-- The exact value of a finite binary64. -/
def toRat? : Binary64 → Option ℚ
  | finite negative m e _ => some (if negative then -magnitude m e else magnitude m e)
  | _ => none

/-- Python's `==`: by value, so the two zeros are equal and nan is not itself. -/
def eqv : Binary64 → Binary64 → Bool
  | inf a, inf b => a == b
  | finite a m e h, finite b m' e' h' => (finite a m e h).toRat? == (finite b m' e' h').toRat?
  | _, _ => false

def lt : Binary64 → Binary64 → Bool
  | inf a, inf b => a && !b
  | inf a, finite .. => a
  | finite .., inf b => !b
  | finite a m e h, finite b m' e' h' =>
    match (finite a m e h).toRat?, (finite b m' e' h').toRat? with
    | some x, some y => decide (x < y)
    | _, _ => false
  | _, _ => false

def isFinite : Binary64 → Bool
  | finite .. => true
  | _ => false

/-- Nearest integer, ties to even. -/
def roundEven (q : ℚ) : Nat :=
  let below := ⌊q⌋.toNat
  let rest := q - below
  if rest < 1 / 2 then below
  else if 1 / 2 < rest then below + 1
  else if below % 2 = 0 then below else below + 1

@[simp] theorem roundEven_natCast (n : Nat) : roundEven (n : ℚ) = n := by
  simp [roundEven]

def zero (negative : Bool) : Binary64 := finite negative 0 (-1074) (.inl ⟨by decide, rfl⟩)

/-- A significand that rounding carried to 2^53 moves to the next exponent. -/
def pack (m : Nat) (e : Int) : Binary64 :=
  if h : Canonical m e then finite false m e h
  else if h : Canonical (m / 2) (e + 1) then finite false (m / 2) (e + 1) h
  else inf false

/-- The binary64 nearest to a nonnegative rational; overflow is infinite. -/
def ofRat (q : ℚ) : Binary64 :=
  if q = 0 then zero false
  else
    let e := max (Int.log 2 q - 52) (-1074)
    pack (roundEven (q / 2 ^ e)) e

def withSign (negative : Bool) : Binary64 → Binary64
  | nan => nan
  | inf _ => inf negative
  | finite _ m e canonical => finite negative m e canonical

def one : Binary64 := ofRat 1

def neg : Binary64 → Binary64
  | nan => nan
  | inf negative => inf !negative
  | finite negative m e canonical => finite (!negative) m e canonical

/-- The binary64 nearest to a rational; zero is positive. -/
def ofSigned (q : ℚ) : Binary64 := withSign (decide (q < 0)) (ofRat |q|)

/-- The exact sum, rounded; a sum of zeros is negative when both are. -/
def add : Binary64 → Binary64 → Binary64
  | nan, _ => nan
  | _, nan => nan
  | inf a, inf b => if a == b then inf a else nan
  | inf a, finite .. => inf a
  | finite .., inf b => inf b
  | finite a m e h, finite b m' e' h' =>
    match (finite a m e h).toRat?, (finite b m' e' h').toRat? with
    | some x, some y => if x + y = 0 then zero (a && b && m == 0 && m' == 0) else ofSigned (x + y)
    | _, _ => nan

def sub (x y : Binary64) : Binary64 := x.add y.neg

/-- The exact product, rounded. -/
def mul : Binary64 → Binary64 → Binary64
  | nan, _ => nan
  | _, nan => nan
  | inf a, inf b => inf (a ^^ b)
  | inf a, finite b m _ _ => if m = 0 then nan else inf (a ^^ b)
  | finite a m _ _, inf b => if m = 0 then nan else inf (a ^^ b)
  | finite a m e h, finite b m' e' h' =>
    match (finite a m e h).toRat?, (finite b m' e' h').toRat? with
    | some x, some y => if x * y = 0 then zero (a ^^ b) else ofSigned (x * y)
    | _, _ => nan

/-- The exact quotient, rounded; nothing when the divisor is zero. -/
def div : Binary64 → Binary64 → Option Binary64
  | nan, finite _ m _ _ => if m = 0 then none else some nan
  | inf a, finite b m _ _ => if m = 0 then none else some (inf (a ^^ b))
  | nan, _ => some nan
  | _, nan => some nan
  | inf _, inf _ => some nan
  | finite a _ _ _, inf b => some (zero (a ^^ b))
  | finite a m e h, finite b m' e' h' =>
    match (finite a m e h).toRat?, (finite b m' e' h').toRat? with
    | some x, some y =>
      if y = 0 then none else if x = 0 then some (zero (a ^^ b)) else some (ofSigned (x / y))
    | _, _ => some nan

/-- `round(x, digits)`. -/
def round (digits : Nat) : Binary64 → Binary64
  | nan => nan
  | inf negative => inf negative
  | finite negative m e _ =>
    withSign negative (ofRat (roundEven (magnitude m e * 10 ^ digits) / 10 ^ digits))

theorem magnitude_pos {m : Nat} (e : Int) (positive : 0 < m) : 0 < magnitude m e :=
  mul_pos (by exact_mod_cast positive) (zpow_pos (by norm_num) e)

theorem log_magnitude {m k : Nat} (e : Int) (low : 2 ^ k ≤ m) (high : m < 2 ^ (k + 1)) :
    Int.log 2 (magnitude m e) = k + e := by
  have two : (1 : Nat) < 2 := by decide
  have positive : 0 < magnitude m e := magnitude_pos e (lt_of_lt_of_le (by positivity) low)
  have unit : (0 : ℚ) < 2 ^ e := zpow_pos (by norm_num) e
  have power (j : Nat) : ((2 : Nat) : ℚ) ^ ((j : Int) + e) = ((2 ^ j : Nat) : ℚ) * 2 ^ e := by
    push_cast
    rw [zpow_add₀ (by norm_num), zpow_natCast]
  apply le_antisymm
  · have below : magnitude m e < ((2 : Nat) : ℚ) ^ (((k + 1 : Nat) : Int) + e) := by
      rw [power, magnitude]
      exact mul_lt_mul_of_pos_right (by exact_mod_cast high) unit
    have := (Int.lt_zpow_iff_log_lt two positive).mp below
    push_cast at this
    omega
  · apply (Int.zpow_le_iff_le_log two positive).mp
    rw [power, magnitude]
    exact mul_le_mul_of_nonneg_right (by exact_mod_cast low) unit.le

theorem exponent_magnitude {m : Nat} {e : Int} (canonical : Canonical m e) (nonzero : m ≠ 0) :
    max (Int.log 2 (magnitude m e) - 52) (-1074) = e := by
  have low := Nat.pow_log_le_self 2 nonzero
  have high := Nat.lt_pow_succ_log_self (by decide : 1 < 2) m
  rw [log_magnitude e low high]
  rcases canonical with ⟨small, rfl⟩ | ⟨large, small, lower, upper⟩
  · have : Nat.log 2 m < 53 := Nat.log_lt_of_lt_pow nonzero small
    omega
  · have : Nat.log 2 m = 52 := Nat.log_eq_of_pow_le_of_lt_pow large small
    omega

/-- Rounding an exactly representable rational gives it back. -/
theorem ofRat_magnitude {m : Nat} {e : Int} (canonical : Canonical m e) (nonzero : m ≠ 0) :
    ofRat (magnitude m e) = finite false m e canonical := by
  have unit : (2 : ℚ) ^ e ≠ 0 := (zpow_pos (by norm_num) e).ne'
  have exact : magnitude m e / 2 ^ e = (m : ℚ) := mul_div_cancel_right₀ _ unit
  have positive := magnitude_pos e (Nat.pos_of_ne_zero nonzero)
  simp only [ofRat, positive.ne', if_false, exponent_magnitude canonical nonzero, exact,
    roundEven_natCast]
  simp [pack, canonical]

theorem toRat?_ofRat_natCast {n : Nat} (small : n < 2 ^ 53) : (ofRat n).toRat? = some (n : ℚ) := by
  rcases Nat.eq_zero_or_pos n with rfl | positive
  · simp [ofRat, zero, toRat?, magnitude]
  · have nonzero : n ≠ 0 := by omega
    have low := Nat.pow_log_le_self 2 nonzero
    have high := Nat.lt_pow_succ_log_self (by decide : 1 < 2) n
    have exponent : Nat.log 2 n < 53 := Nat.log_lt_of_lt_pow nonzero small
    generalize Nat.log 2 n = k at low high exponent
    have canonical : Canonical (n * 2 ^ (52 - k)) ((k : Int) - 52) := by
      refine .inr ⟨?_, ?_, by omega, by omega⟩
      · calc 2 ^ 52 = 2 ^ k * 2 ^ (52 - k) := by rw [← pow_add]; congr 1; omega
          _ ≤ n * 2 ^ (52 - k) := Nat.mul_le_mul_right _ low
      · calc n * 2 ^ (52 - k) < 2 ^ (k + 1) * 2 ^ (52 - k) := Nat.mul_lt_mul_of_pos_right high (by positivity)
          _ = 2 ^ 53 := by rw [← pow_add]; congr 1; omega
    have same : magnitude (n * 2 ^ (52 - k)) ((k : Int) - 52) = n := by
      rw [magnitude]
      push_cast
      rw [mul_assoc, ← zpow_natCast, ← zpow_add₀ (by norm_num)]
      simp [Nat.le_of_lt_succ exponent]
    rw [← same, ofRat_magnitude canonical (by positivity)]
    rfl

theorem toRat?_zero : (zero false).toRat? = some 0 := by simp [zero, toRat?, magnitude]

theorem toRat?_one : one.toRat? = some 1 := by
  have exact : ((1 : Nat) : ℚ) = 1 := Nat.cast_one
  rw [one, ← exact]
  exact toRat?_ofRat_natCast (by decide)

theorem toRat?_neg {x : Binary64} {q : ℚ} (value : x.toRat? = some q) : x.neg.toRat? = some (-q) := by
  cases x with
  | nan => cases value
  | inf => cases value
  | finite negative m e canonical =>
    obtain rfl := Option.some.inj value
    cases negative with
    | false => rfl
    | true => exact congrArg some (neg_neg _).symm

theorem toRat?_withSign {x : Binary64} {q : ℚ} (value : x.toRat? = some q) (nonnegative : 0 ≤ q) (negative : Bool) :
    (withSign negative x).toRat? = some (if negative then -q else q) := by
  cases x with
  | nan => cases value
  | inf => cases value
  | finite sign m e canonical =>
    have size : magnitude m e = q := by
      have held := Option.some.inj value
      have positive : 0 ≤ magnitude m e := mul_nonneg (by positivity) (zpow_nonneg (by norm_num) e)
      cases sign with
      | false => exact held
      | true =>
        simp only [if_true] at held
        linarith
    rw [withSign, toRat?, size]

theorem toRat?_ofSigned_intCast {i : Int} (small : i.natAbs < 2 ^ 53) : (ofSigned i).toRat? = some (i : ℚ) := by
  have size : |(i : ℚ)| = (i.natAbs : ℚ) := by rw [Nat.cast_natAbs, Int.cast_abs]
  rw [ofSigned, size, toRat?_withSign (toRat?_ofRat_natCast small) (by positivity)]
  by_cases below : (i : ℚ) < 0
  · rw [decide_eq_true below, if_pos rfl, ← size, abs_of_neg below, neg_neg]
  · rw [decide_eq_false below, if_neg Bool.false_ne_true, ← size, abs_of_nonneg (not_lt.mp below)]

/-- A decimal `digits × 10^exponent`. -/
structure Decimal where
  digits : Nat
  exponent : Int
  deriving DecidableEq

namespace Decimal

def value (d : Decimal) : ℚ := d.digits * 10 ^ d.exponent

def stripZeros (fuel : Nat) (d : Decimal) : Decimal :=
  match fuel with
  | 0 => d
  | fuel + 1 =>
    if d.digits ≠ 0 ∧ d.digits % 10 = 0 then
      stripZeros fuel ⟨d.digits / 10, d.exponent + 1⟩
    else d

theorem value_stripZeros (fuel : Nat) (d : Decimal) : (stripZeros fuel d).value = d.value := by
  induction fuel generalizing d with
  | zero => rfl
  | succ fuel ih =>
    simp only [stripZeros]
    split_ifs with h
    · rw [ih]
      have whole : d.digits = d.digits / 10 * 10 := by omega
      simp only [value]
      rw [zpow_add₀ (by norm_num), zpow_one]
      conv_rhs => rw [whole]
      push_cast
      ring
    · rfl

end Decimal

def ofDecimal (negative : Bool) (d : Decimal) : Binary64 := withSign negative (ofRat d.value)

/-- The exact decimal expansion of a finite binary64. -/
def exactDecimal (m : Nat) (e : Int) : Decimal :=
  if 0 ≤ e then ⟨m * 2 ^ e.toNat, 0⟩ else ⟨m * 5 ^ (-e).toNat, e⟩

theorem value_exactDecimal (m : Nat) (e : Int) : (exactDecimal m e).value = magnitude m e := by
  unfold exactDecimal
  split_ifs with h
  · obtain ⟨n, rfl⟩ := Int.eq_ofNat_of_zero_le h
    simp [Decimal.value, magnitude]
  · obtain ⟨n, hn⟩ := Int.eq_ofNat_of_zero_le (by omega : 0 ≤ -e)
    have he : e = -(n : Int) := by omega
    subst he
    simp only [Decimal.value, magnitude, neg_neg, Int.toNat_natCast, zpow_neg, zpow_natCast]
    push_cast
    have ten : (10 : ℚ) ^ n = 2 ^ n * 5 ^ n := by rw [← mul_pow]; norm_num
    rw [ten]
    field_simp

/-- The decimals of `n` significant digits just below and just above a positive rational. -/
def candidates (q : ℚ) (n : Nat) : List Decimal :=
  let exponent := Int.log 10 q + 1 - n
  let below := ⌊q / 10 ^ exponent⌋.toNat
  [⟨below, exponent⟩, ⟨below + 1, exponent⟩]

def nearer (q : ℚ) (a b : Decimal) : Decimal :=
  if |b.value - q| < |a.value - q| then b else a

/-- The closest decimal of `n` digits that reads back as the same binary64. -/
def readsBack (m : Nat) (e : Int) (n : Nat) : Option Decimal :=
  match (candidates (magnitude m e) n).filter
      (fun d => ofRat d.value == ofRat (magnitude m e)) with
  | [] => none
  | d :: rest => some (rest.foldl (nearer (magnitude m e)) d)

/-- The shortest decimal that reads back as the same binary64. Seventeen digits
always suffice, so the exact expansion is not reached by Python's floats. -/
def shortest (m : Nat) (e : Int) : Decimal :=
  match (List.range' 1 17).findSome? (readsBack m e) with
  | some d => d.stripZeros 17
  | none => exactDecimal m e

theorem foldl_nearer_mem (q : ℚ) (d : Decimal) (rest : List Decimal) :
    rest.foldl (nearer q) d ∈ d :: rest := by
  induction rest generalizing d with
  | nil => simp
  | cons x rest ih =>
    rcases List.mem_cons.mp (ih (nearer q d x)) with h | h
    · rw [List.foldl_cons, h]
      unfold nearer
      split_ifs <;> simp
    · exact List.mem_cons_of_mem _ (List.mem_cons_of_mem _ h)

theorem readsBack_reads {m : Nat} {e : Int} {n : Nat} {d : Decimal}
    (h : readsBack m e n = some d) : ofRat d.value = ofRat (magnitude m e) := by
  unfold readsBack at h
  split at h
  · contradiction
  next first rest shown =>
    have member : d ∈ (candidates (magnitude m e) n).filter
        (fun d => ofRat d.value == ofRat (magnitude m e)) := by
      rw [shown, ← Option.some.inj h]
      exact foldl_nearer_mem _ _ _
    simpa using (List.mem_filter.mp member).2

theorem shortest_reads (m : Nat) (e : Int) :
    ofRat (shortest m e).value = ofRat (magnitude m e) := by
  unfold shortest
  split
  next d found =>
    obtain ⟨n, _, reads⟩ := List.exists_of_findSome?_eq_some found
    rw [Decimal.value_stripZeros]
    exact readsBack_reads reads
  next => rw [value_exactDecimal]

/-- Reading the shortest decimal of a nonzero finite binary64 gives it back. -/
theorem ofDecimal_shortest (negative : Bool) {m : Nat} {e : Int} (canonical : Canonical m e)
    (nonzero : m ≠ 0) : ofDecimal negative (shortest m e) = finite negative m e canonical := by
  rw [ofDecimal, shortest_reads, ofRat_magnitude canonical nonzero]
  rfl

end Binary64
