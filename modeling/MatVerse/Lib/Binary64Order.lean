import MatVerse.Lib.Binary64
import Mathlib.Order.WithBot
import Mathlib.Algebra.Order.Monoid.WithTop

/-! The order of binary64 values. Rounding keeps the order of the rationals and
leaves representable ones alone, so a sum grows with its summands. -/
namespace Binary64

/-! ## Rounding is monotone -/

theorem floor_le_roundEven (q : ℚ) : ⌊q⌋.toNat ≤ roundEven q := by
  simp only [roundEven]
  split_ifs <;> omega

theorem roundEven_le_succ (q : ℚ) : roundEven q ≤ ⌊q⌋.toNat + 1 := by
  simp only [roundEven]
  split_ifs <;> omega

theorem roundEven_mono {p q : ℚ} (le : p ≤ q) : roundEven p ≤ roundEven q := by
  have floors : ⌊p⌋.toNat ≤ ⌊q⌋.toNat := Int.toNat_le_toNat (Int.floor_le_floor le)
  rcases floors.eq_or_lt with same | less
  · simp only [roundEven]
    rw [same]
    split_ifs <;> first | omega | (exfalso; linarith)
  · calc roundEven p ≤ ⌊p⌋.toNat + 1 := roundEven_le_succ p
      _ ≤ ⌊q⌋.toNat := less
      _ ≤ roundEven q := floor_le_roundEven q

/-- The size of a value; what is not finite lies above all others. -/
def size : Binary64 → WithTop ℚ
  | finite _ m e _ => (magnitude m e : ℚ)
  | _ => ⊤

def clipped (q : ℚ) : WithTop ℚ := if q < 2 ^ 1024 then (q : WithTop ℚ) else ⊤

theorem clipped_mono {p q : ℚ} (le : p ≤ q) : clipped p ≤ clipped q := by
  unfold clipped
  split_ifs
  · exact WithTop.coe_le_coe.mpr le
  · exact le_top
  · exact absurd (le.trans_lt ‹q < 2 ^ 1024›) ‹_›
  · exact le_rfl

theorem power_pos (e : Int) : (0 : ℚ) < 2 ^ e := zpow_pos (by norm_num) e

theorem magnitude_lt {m k : Nat} {e : Int} (below : m < 2 ^ k) (e' : Int) (exponent : k + e ≤ e') :
    magnitude m e < 2 ^ e' := by
  calc magnitude m e < (2 : ℚ) ^ k * 2 ^ e := mul_lt_mul_of_pos_right (by exact_mod_cast below) (power_pos e)
    _ = 2 ^ ((k : Int) + e) := by rw [zpow_add₀ (by norm_num), zpow_natCast]
    _ ≤ 2 ^ e' := zpow_le_zpow_right₀ (by norm_num) exponent

theorem le_magnitude {m k : Nat} {e : Int} (above : 2 ^ k ≤ m) (e' : Int) (exponent : e' ≤ k + e) :
    (2 : ℚ) ^ e' ≤ magnitude m e := by
  calc (2 : ℚ) ^ e' ≤ 2 ^ ((k : Int) + e) := zpow_le_zpow_right₀ (by norm_num) exponent
    _ = 2 ^ k * 2 ^ e := by rw [zpow_add₀ (by norm_num), zpow_natCast]
    _ ≤ magnitude m e := mul_le_mul_of_nonneg_right (by exact_mod_cast above) (power_pos e).le

theorem clipped_of_lt {m k : Nat} {e : Int} (below : m < 2 ^ k) (exponent : k + e ≤ 1024) :
    clipped (magnitude m e) = (magnitude m e : ℚ) :=
  if_pos (by exact_mod_cast magnitude_lt below 1024 exponent)

theorem clipped_of_le {m k : Nat} {e : Int} (above : 2 ^ k ≤ m) (exponent : 1024 ≤ k + e) :
    clipped (magnitude m e) = ⊤ :=
  if_neg (not_lt.mpr (by exact_mod_cast le_magnitude above 1024 exponent))

theorem size_pack {m : Nat} {e : Int} (small : m ≤ 2 ^ 53) (low : -1074 ≤ e) (normal : 2 ^ 52 ≤ m ∨ e = -1074) :
    size (pack m e) = clipped (magnitude m e) := by
  rcases small.lt_or_eq with below | rfl
  · by_cases high : e ≤ 971
    · have canonical : Canonical m e := by
        rcases normal with large | rfl
        · exact .inr ⟨large, below, low, high⟩
        · exact .inl ⟨below, rfl⟩
      rw [pack, dif_pos canonical, clipped_of_lt below (by omega)]
      rfl
    · have large : 2 ^ 52 ≤ m := normal.resolve_right (by omega)
      have first : ¬Canonical m e := by rintro (⟨-, rfl⟩ | ⟨-, -, -, bound⟩) <;> omega
      have second : ¬Canonical (m / 2) (e + 1) := by rintro (⟨-, same⟩ | ⟨-, -, -, bound⟩) <;> omega
      rw [pack, dif_neg first, dif_neg second, clipped_of_le large (by omega)]
      rfl
  · have first : ¬Canonical (2 ^ 53) e := by rintro (⟨bound, -⟩ | ⟨-, bound, -⟩) <;> exact lt_irrefl _ bound
    by_cases high : e + 1 ≤ 971
    · have canonical : Canonical (2 ^ 53 / 2) (e + 1) := .inr ⟨by decide, by decide, by omega, high⟩
      have same : magnitude (2 ^ 53 / 2) (e + 1) = magnitude (2 ^ 53) e := by
        simp only [magnitude]
        rw [zpow_add₀ (by norm_num), zpow_one]
        norm_num
        ring
      rw [pack, dif_neg first, dif_pos canonical, clipped_of_lt (by decide : 2 ^ 53 < 2 ^ 54) (by omega), size, same]
    · have second : ¬Canonical (2 ^ 53 / 2) (e + 1) := by rintro (⟨-, same⟩ | ⟨-, -, -, bound⟩) <;> omega
      rw [pack, dif_neg first, dif_neg second, clipped_of_le le_rfl (by omega)]
      rfl

/-- The exponent a positive rational is rounded at. -/
def exponent (q : ℚ) : Int := max (Int.log 2 q - 52) (-1074)

theorem scaled_lt (q : ℚ) : q / 2 ^ exponent q < 2 ^ 53 := by
  rw [div_lt_iff₀ (power_pos _)]
  calc q < ((2 : Nat) : ℚ) ^ (Int.log 2 q + 1) := Int.lt_zpow_succ_log_self (by decide) q
    _ ≤ 2 ^ (53 + exponent q) := by
      push_cast
      exact zpow_le_zpow_right₀ (by norm_num) (by simp only [exponent]; omega)
    _ = 2 ^ 53 * 2 ^ exponent q := by rw [zpow_add₀ (by norm_num)]; norm_cast

theorem le_scaled {q : ℚ} (positive : 0 < q) (normal : exponent q ≠ -1074) : 2 ^ 52 ≤ q / 2 ^ exponent q := by
  rw [le_div_iff₀ (power_pos _)]
  calc (2 : ℚ) ^ 52 * 2 ^ exponent q = 2 ^ (52 + exponent q) := by rw [zpow_add₀ (by norm_num)]; norm_cast
    _ ≤ ((2 : Nat) : ℚ) ^ Int.log 2 q := by
      push_cast
      exact zpow_le_zpow_right₀ (by norm_num) (by simp only [exponent] at normal ⊢; omega)
    _ ≤ q := Int.zpow_log_le_self (by decide) positive

def significand (q : ℚ) : Nat := roundEven (q / 2 ^ exponent q)

theorem significand_le (q : ℚ) : significand q ≤ 2 ^ 53 := by
  have bound := roundEven_mono (scaled_lt q).le
  have whole : roundEven ((2 : ℚ) ^ 53) = 2 ^ 53 := by exact_mod_cast roundEven_natCast (2 ^ 53)
  exact bound.trans whole.le

theorem le_significand {q : ℚ} (positive : 0 < q) (normal : exponent q ≠ -1074) : 2 ^ 52 ≤ significand q := by
  have bound := roundEven_mono (le_scaled positive normal)
  have whole : roundEven ((2 : ℚ) ^ 52) = 2 ^ 52 := by exact_mod_cast roundEven_natCast (2 ^ 52)
  exact whole.symm.le.trans bound

theorem size_ofRat {q : ℚ} (positive : 0 < q) : size (ofRat q) = clipped (magnitude (significand q) (exponent q)) := by
  rw [ofRat, if_neg positive.ne']
  refine size_pack (significand_le q) (le_max_right _ _) ?_
  by_cases normal : exponent q = -1074
  · exact .inr normal
  · exact .inl (le_significand positive normal)

theorem rounded_mono {p q : ℚ} (positive : 0 < p) (le : p ≤ q) :
    magnitude (significand p) (exponent p) ≤ magnitude (significand q) (exponent q) := by
  have later : exponent p ≤ exponent q :=
    max_le_max (sub_le_sub_right (Int.log_mono_right positive le) 52) le_rfl
  rcases later.eq_or_lt with same | less
  · have significands : significand p ≤ significand q := by
      rw [significand, significand, same]
      exact roundEven_mono (div_le_div_of_nonneg_right le (power_pos _).le)
    rw [magnitude, magnitude, same]
    exact mul_le_mul_of_nonneg_right (by exact_mod_cast significands) (power_pos _).le
  · -- the smaller one lies below the power of two that the larger one reaches
    have normal : exponent q ≠ -1074 := by
      have : -1074 ≤ exponent p := le_max_right _ _
      omega
    calc magnitude (significand p) (exponent p) ≤ 2 ^ 53 * 2 ^ exponent p :=
          mul_le_mul_of_nonneg_right (by exact_mod_cast significand_le p) (power_pos _).le
      _ = 2 ^ (53 + exponent p) := by rw [zpow_add₀ (by norm_num)]; norm_cast
      _ ≤ magnitude (significand q) (exponent q) :=
          le_magnitude (le_significand (positive.trans_le le) normal) _ (by omega)

theorem size_nonneg (x : Binary64) : 0 ≤ x.size := by
  cases x with
  | nan => exact le_top
  | inf => exact le_top
  | finite negative m e => exact WithTop.coe_le_coe.mpr (mul_nonneg (by positivity) (power_pos e).le)

theorem size_ofRat_mono {p q : ℚ} (nonnegative : 0 ≤ p) (le : p ≤ q) : (ofRat p).size ≤ (ofRat q).size := by
  rcases nonnegative.eq_or_lt with rfl | positive
  · have zero : (ofRat 0).size = 0 := by simp [ofRat, Binary64.zero, size, magnitude]
    rw [zero]
    exact size_nonneg _
  · rw [size_ofRat positive, size_ofRat (positive.trans_le le)]
    exact clipped_mono (rounded_mono positive le)

/-! ## Values in order -/

/-- The order of the values; nan is put at the top. -/
def val : Binary64 → WithBot (WithTop ℚ)
  | nan => ⊤
  | inf negative => if negative then ⊥ else ⊤
  | finite negative m e _ => ((if negative then -magnitude m e else magnitude m e : ℚ) : WithTop ℚ)

theorem val_of_toRat? {x : Binary64} {q : ℚ} (value : x.toRat? = some q) : x.val = (q : WithTop ℚ) := by
  cases x with
  | nan => cases value
  | inf => cases value
  | finite negative m e => exact congrArg _ (congrArg _ (Option.some.inj value))

/-- The value that a size and a sign stand for. -/
def signed (negative : Bool) : WithTop ℚ → WithBot (WithTop ℚ)
  | ⊤ => if negative then ⊥ else ⊤
  | (q : ℚ) => ((if negative then -q else q : ℚ) : WithTop ℚ)

theorem val_withSign {x : Binary64} (number : x ≠ nan) (negative : Bool) :
    (withSign negative x).val = signed negative x.size := by
  cases x with
  | nan => exact absurd rfl number
  | inf => rfl
  | finite => rfl

theorem signed_mono {x y : WithTop ℚ} (le : x ≤ y) : signed false x ≤ signed false y := by
  cases y with
  | top => exact le_top
  | coe q =>
    cases x with
    | top => exact absurd le (by simp)
    | coe p => exact WithBot.coe_le_coe.mpr (WithTop.coe_le_coe.mpr (WithTop.coe_le_coe.mp le))

theorem signed_anti {x y : WithTop ℚ} (le : x ≤ y) : signed true y ≤ signed true x := by
  cases y with
  | top => exact bot_le
  | coe q =>
    cases x with
    | top => exact absurd le (by simp)
    | coe p =>
      exact WithBot.coe_le_coe.mpr (WithTop.coe_le_coe.mpr (neg_le_neg (WithTop.coe_le_coe.mp le)))

theorem ofRat_ne_nan (q : ℚ) : ofRat q ≠ nan := by
  simp only [ofRat, pack, zero]
  split_ifs <;> simp

theorem size_ofRat_zero : (ofRat 0).size = 0 := by simp [ofRat, zero, size, magnitude]

theorem val_ofSigned (q : ℚ) : (ofSigned q).val = signed (decide (q < 0)) (ofRat |q|).size :=
  val_withSign (ofRat_ne_nan _) _

theorem signed_zero (negative : Bool) : signed negative 0 = ((0 : ℚ) : WithTop ℚ) := by
  cases negative
  · rfl
  · exact congrArg _ (congrArg _ neg_zero)

theorem val_ofSigned_mono {p q : ℚ} (le : p ≤ q) : (ofSigned p).val ≤ (ofSigned q).val := by
  rw [val_ofSigned, val_ofSigned]
  by_cases negative : p < 0
  · by_cases below : q < 0
    · rw [decide_eq_true negative, decide_eq_true below]
      refine signed_anti (size_ofRat_mono (abs_nonneg q) ?_)
      rw [abs_of_neg negative, abs_of_neg below]
      exact neg_le_neg le
    · rw [decide_eq_true negative, decide_eq_false below]
      calc signed true (ofRat |p|).size ≤ signed true 0 := signed_anti (size_nonneg _)
        _ = signed false 0 := (signed_zero true).trans (signed_zero false).symm
        _ ≤ signed false (ofRat |q|).size := signed_mono (size_nonneg _)
  · have nonnegative : 0 ≤ p := not_lt.mp negative
    rw [decide_eq_false negative, decide_eq_false (not_lt.mpr (nonnegative.trans le))]
    refine signed_mono (size_ofRat_mono (abs_nonneg p) ?_)
    rw [abs_of_nonneg nonnegative, abs_of_nonneg (nonnegative.trans le)]
    exact le

theorem val_ofSigned_toRat? {x : Binary64} {q : ℚ} (value : x.toRat? = some q) :
    (ofSigned q).val = (q : WithTop ℚ) := by
  cases x with
  | nan => cases value
  | inf => cases value
  | finite negative m e canonical =>
    obtain rfl := Option.some.inj value
    rcases eq_or_ne m 0 with rfl | nonzero
    · have zero : (if negative then -magnitude 0 e else magnitude 0 e) = 0 := by simp [magnitude]
      rw [val_ofSigned, zero, abs_zero, size_ofRat_zero, signed_zero]
    · have positive := magnitude_pos e (Nat.pos_of_ne_zero nonzero)
      have size : |if negative then -magnitude m e else magnitude m e| = magnitude m e := by
        cases negative <;> simp [abs_of_pos positive]
      have sign : decide ((if negative then -magnitude m e else magnitude m e) < 0) = negative := by
        cases negative
        · exact decide_eq_false (not_lt.mpr positive.le)
        · exact decide_eq_true (neg_lt_zero.mpr positive)
      rw [val_ofSigned, size, sign, ofRat_magnitude canonical nonzero]
      rfl

/-- The sum of two finite values is their exact sum, rounded. -/
theorem val_add {a b : Binary64} {x y : ℚ} (first : a.toRat? = some x) (second : b.toRat? = some y) :
    (a.add b).val = (ofSigned (x + y)).val := by
  cases a with
  | nan => cases first
  | inf => cases first
  | finite s m e h =>
    cases b with
    | nan => cases second
    | inf => cases second
    | finite s' m' e' h' =>
      simp only [add, first, second]
      split
      next none =>
        rw [none, val_ofSigned, abs_zero, size_ofRat_zero, signed_zero]
        simp [zero, val, magnitude]
      next => rfl

theorem ofSigned_ne_nan (q : ℚ) : ofSigned q ≠ nan := by
  have number := ofRat_ne_nan |q|
  rw [ofSigned]
  cases same : ofRat |q| with
  | nan => exact absurd same number
  | inf => simp [withSign]
  | finite => simp [withSign]

theorem add_ne_nan {a b : Binary64} {x y : ℚ} (first : a.toRat? = some x) (second : b.toRat? = some y) :
    a.add b ≠ nan := by
  cases a with
  | nan => cases first
  | inf => cases first
  | finite s m e h =>
    cases b with
    | nan => cases second
    | inf => cases second
    | finite s' m' e' h' =>
      simp only [add, first, second]
      split
      · simp [zero]
      · exact ofSigned_ne_nan _

theorem coe_lt_top (q : ℚ) : ((q : WithTop ℚ) : WithBot (WithTop ℚ)) < ⊤ :=
  WithBot.coe_lt_coe.mpr (WithTop.coe_lt_top q)

/-- `<` is the order of the values, and holds of no nan. -/
theorem lt_iff {a b : Binary64} : a.lt b = true ↔ a ≠ nan ∧ b ≠ nan ∧ a.val < b.val := by
  cases a with
  | nan => simp [lt]
  | inf s =>
    cases b with
    | nan => simp [lt]
    | inf s' => cases s <;> cases s' <;> simp [lt, val]
    | finite s' m' e' h' => cases s <;> simp [lt, val]
  | finite s m e h =>
    cases b with
    | nan => simp [lt]
    | inf s' => cases s' <;> simp [lt, val, coe_lt_top]
    | finite s' m' e' h' => simp [lt, val, toRat?]

/-- A value of finite order is finite, unless it is minus infinity. -/
theorem toRat?_of_lt_top {a : Binary64} (below : a.val < ⊤) (above : ⊥ < a.val) : ∃ q, a.toRat? = some q := by
  cases a with
  | nan => simp [val] at below
  | inf s => cases s <;> simp [val] at below above
  | finite => exact ⟨_, rfl⟩

theorem eqv_iff {a b : Binary64} (finite : b.val < ⊤) : a.eqv b = true ↔ a.val = b.val := by
  cases b with
  | nan => simp [val] at finite
  | inf s' =>
    cases s' with
    | false => simp [val] at finite
    | true =>
      cases a with
      | nan => simp [eqv, val]
      | inf s => cases s <;> simp [eqv, val]
      | finite => simp [eqv, val]
  | finite s' m' e' h' =>
    cases a with
    | nan => simp [eqv, val]
    | inf s => cases s <;> simp [eqv, val]
    | finite s m e h => simp [eqv, val, toRat?]

theorem eq_of_val_bot {a : Binary64} (bottom : a.val = ⊥) : a = inf true := by
  cases a with
  | nan => cases bottom
  | inf s =>
    cases s with
    | true => rfl
    | false => cases bottom
  | finite => cases bottom

/-! ## Sums -/

/-- Adding one and the same value keeps the order, unless both sums are nan. -/
theorem add_mono {a b : Binary64} (c : Binary64) {x y : ℚ} (first : a.toRat? = some x) (second : b.toRat? = some y)
    (le : x ≤ y) : (a.add c = b.add c) ∨
      (a.add c ≠ nan ∧ b.add c ≠ nan ∧ (a.add c).val ≤ (b.add c).val) := by
  cases value : c.toRat? with
  | none =>
    refine .inl ?_
    cases a with
    | nan => cases first
    | inf => cases first
    | finite =>
      cases b with
      | nan => cases second
      | inf => cases second
      | finite =>
        cases c with
        | nan => rfl
        | inf => rfl
        | finite => cases value
  | some z =>
    refine .inr ⟨add_ne_nan first value, add_ne_nan second value, ?_⟩
    rw [val_add first value, val_add second value]
    exact val_ofSigned_mono (add_le_add_left le z)

/-- A summand that is not below zero. -/
def Nonnegative (c : Binary64) : Prop := c.lt (zero false) = false

theorem val_add_top {a c : Binary64} (top : a.val = ⊤) (nonnegative : c.Nonnegative) : (a.add c).val = ⊤ := by
  cases a with
  | nan => rfl
  | inf s =>
    cases s with
    | true => cases top
    | false =>
      cases c with
      | nan => rfl
      | inf s' => cases s' <;> rfl
      | finite => rfl
  | finite => exact absurd top (coe_lt_top _).ne

theorem Nonnegative.le {c : Binary64} (nonnegative : c.Nonnegative) {z : ℚ} (value : c.toRat? = some z) : 0 ≤ z := by
  by_contra negative
  have below : c.lt (zero false) = true := by
    refine lt_iff.mpr ⟨?_, ?_, ?_⟩
    · rintro rfl
      cases value
    · simp [zero]
    · rw [val_of_toRat? value, val_of_toRat? toRat?_zero]
      exact WithBot.coe_lt_coe.mpr (WithTop.coe_lt_coe.mpr (not_le.mp negative))
  rw [nonnegative] at below
  cases below

theorem val_le_add {a c : Binary64} (nonnegative : c.Nonnegative) : a.val ≤ (a.add c).val := by
  cases value : a.toRat? with
  | none =>
    cases a with
    | nan => exact le_rfl
    | inf s =>
      cases s with
      | true => exact bot_le
      | false => exact (val_add_top rfl nonnegative).symm.le
    | finite => cases value
  | some x =>
    cases summand : c.toRat? with
    | none =>
      have top : (a.add c).val = ⊤ := by
        cases a with
        | nan => cases value
        | inf => cases value
        | finite =>
          cases c with
          | nan => rfl
          | inf s => cases s <;> first | rfl | cases nonnegative
          | finite => cases summand
      exact top ▸ le_top
    | some z =>
      rw [val_add value summand, val_of_toRat? value, ← val_ofSigned_toRat? value]
      exact val_ofSigned_mono (le_add_of_nonneg_right (nonnegative.le summand))

theorem val_add_mono {a b c : Binary64} (nonnegative : c.Nonnegative) (le : a.val ≤ b.val) :
    (a.add c).val ≤ (b.add c).val := by
  rcases eq_or_ne b.val ⊤ with top | finite
  · exact (val_add_top top nonnegative).symm ▸ le_top
  · have below : b.val < ⊤ := lt_top_iff_ne_top.mpr finite
    by_cases lower : ⊥ < a.val
    · obtain ⟨x, first⟩ := toRat?_of_lt_top (le.trans_lt below) lower
      obtain ⟨y, second⟩ := toRat?_of_lt_top below (lower.trans_le le)
      have order : x ≤ y := by
        rw [val_of_toRat? first, val_of_toRat? second] at le
        exact WithTop.coe_le_coe.mp (WithBot.coe_le_coe.mp le)
      rcases add_mono c first second order with same | ⟨-, -, grown⟩
      · rw [same]
      · exact grown
    · -- minus infinity stays the least, or its sum is nan like the other
      obtain rfl : a = inf true := eq_of_val_bot (not_bot_lt_iff.mp lower)
      cases c with
      | finite => exact bot_le
      | nan => cases b <;> exact le_top
      | inf s =>
        cases s with
        | true => cases nonnegative
        | false =>
          cases b with
          | nan => exact absurd rfl finite
          | inf s' => cases s' <;> exact le_top
          | finite => exact le_top

end Binary64
