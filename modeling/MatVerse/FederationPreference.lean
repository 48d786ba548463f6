import MatVerse.FederationRouting
import MatVerse.Lib.Binary64Order

/-! Preferences over admissible nodes, in binary64. A criterion turns a raw metric into
goodness between zero and one, and the weights of a model add up to one. -/
namespace MatVerse

inductive Direction where
  | higherIsBetter
  | lowerIsBetter
  deriving DecidableEq

inductive Scale where
  | linear
  | log
  deriving DecidableEq

namespace Floats

open Fallible

/-- `sum`, `math.log10` and the `.12f` format of floats; the rounding of the first
depends on the interpreter's version. -/
structure FloatMath where
  sum : List Binary64 → Binary64
  log10 : Binary64 → Binary64
  fixed12 : Binary64 → String

def readScale (text : String) : Option Scale :=
  if text = "linear" then some .linear else if text = "log" then some .log else none

def atMost (x y : Binary64) : Bool := x.lt y || x.eqv y

structure Criterion where
  name : String
  direction : Direction
  lo : Binary64
  hi : Binary64
  scale : Scale
  ascending : atMost hi lo = false
  logarithmic : scale = .log → atMost lo (.zero false) = false

def Criterion.create (interpreter : Interpreter) (name : String) (direction : Direction) (lo hi : Binary64)
    (scale : String) : Except PyError Criterion :=
  if ascending : atMost hi lo = false then
    match readScale scale with
    | none => .error (.valueError (name ++ ": unsupported scale " ++ interpreter.repr scale))
    | some scale =>
      if logarithmic : scale = .log → atMost lo (.zero false) = false then
        .ok ⟨name, direction, lo, hi, scale, ascending, logarithmic⟩
      else .error (.valueError (name ++ ": log scale requires lo > 0"))
  else .error (.valueError (name ++ ": hi must be > lo"))

/-- `max(x, y)` and `min(x, y)` keep the first unless the second is better. -/
def maxFloat (x y : Binary64) : Binary64 := if x.lt y then y else x

def minFloat (x y : Binary64) : Binary64 := if y.lt x then y else x

section
variable (floats : FloatMath)

/-- A bound or a value on the scale of the criterion. -/
def Criterion.scaled (c : Criterion) (x : Binary64) : Binary64 :=
  match c.scale with
  | .linear => x
  | .log => floats.log10 x

def Criterion.width (c : Criterion) : Binary64 := (c.scaled floats c.hi).sub (c.scaled floats c.lo)

def Criterion.goodness (c : Criterion) (raw : Binary64) : Except PyError Binary64 :=
  let value := match c.scale with
    | .linear => raw
    | .log => maxFloat raw (.ofDecimal false ⟨1, -12⟩)
  match ((c.scaled floats value).sub (c.scaled floats c.lo)).div (c.width floats) with
  -- two logarithms may round to one number
  | none => .error (.zeroDivisionError "float division by zero")
  | some ratio =>
    let t := minFloat .one (maxFloat (.zero false) ratio)
    .ok (if c.direction = .higherIsBetter then t else Binary64.one.sub t)

structure PreferenceModel where
  criteria : List (String × Criterion)
  weights : List (String × Binary64)
  covered : ∀ w ∈ weights, (Dict.get? w.1 criteria).isSome = true
  nonnegative : ∀ w ∈ weights, w.2.lt (.zero false) = false
  total : (Binary64.ofDecimal false ⟨1, -9⟩).lt
    (((floats.sum (weights.map Prod.snd)).sub .one).withSign false) = false

def PreferenceModel.create (criteria : List (String × Criterion)) (weights : List (String × Binary64)) :
    Except PyError (PreferenceModel floats) :=
  if covered : ∀ w ∈ weights, (Dict.get? w.1 criteria).isSome = true then
    if nonnegative : ∀ w ∈ weights, w.2.lt (.zero false) = false then
      if total : (Binary64.ofDecimal false ⟨1, -9⟩).lt
          (((floats.sum (weights.map Prod.snd)).sub .one).withSign false) = false then
        .ok ⟨criteria, weights, covered, nonnegative, total⟩
      else .error (.valueError
        ("weights must sum to 1.0, got " ++ floats.fixed12 (floats.sum (weights.map Prod.snd))))
    else .error (.valueError "negative weights are forbidden")
  else .error (.valueError "every weight must have a criterion")

end

namespace PreferenceModel

variable {floats : FloatMath} (preference : PreferenceModel floats)

/-- The weighted criteria that the node does not measure. -/
def missing (node : CapabilityNode Binary64) : List String :=
  (preference.weights.map Prod.fst).filter (fun name => (Dict.get? name node.raw).isNone)

def criterionGoodness (node : CapabilityNode Binary64) (name : String) : Except PyError (String × Binary64) :=
  match Dict.get? name preference.criteria, Dict.get? name node.raw with
  | some criterion, some raw => do
    let goodness ← criterion.goodness floats raw
    return (name, goodness)
  | _, _ => .error (.keyError name)

def goodnessVector (interpreter : Interpreter) (node : CapabilityNode Binary64) :
    Except PyError (List (String × Binary64)) :=
  if (preference.missing node).isEmpty then
    (preference.weights.map Prod.fst).mapM (preference.criterionGoodness node)
  else .error (.keyError (node.nodeId ++ ": missing criteria [" ++ ", ".intercalate
    ((preference.missing node).dedup.mergeSort (· ≤ ·) |>.map interpreter.repr) ++ "]"))

def score (interpreter : Interpreter) (node : CapabilityNode Binary64) : Except PyError Binary64 := do
  let vector ← preference.goodnessVector interpreter node
  return floats.sum ((preference.weights.zip vector).map fun (weight, goodness) => weight.2.mul goodness.2)

def potential (interpreter : Interpreter) : Potential Binary64 := fun node => do
  let score ← preference.score interpreter node
  return Binary64.one.sub score

/-- A node has a potential when it measures every weighted criterion and none of these divides by zero. -/
theorem potential_returns (interpreter : Interpreter) (node : CapabilityNode Binary64) :
    (∃ p, preference.potential interpreter node = .ok p) ↔
      ∀ w ∈ preference.weights, ∃ criterion raw goodness, Dict.get? w.1 preference.criteria = some criterion ∧
        Dict.get? w.1 node.raw = some raw ∧ criterion.goodness floats raw = .ok goodness := by
  constructor
  · rintro ⟨p, returned⟩ w listed
    obtain ⟨_, scored, -⟩ := bind_ok.mp returned
    obtain ⟨vector, made, -⟩ := bind_ok.mp scored
    rw [goodnessVector] at made
    split at made
    next =>
      obtain ⟨entry, held⟩ := mapM_each made w.1 (List.mem_map_of_mem listed)
      rw [criterionGoodness] at held
      split at held
      next criterion raw defined measured =>
        obtain ⟨goodness, returned, -⟩ := bind_ok.mp held
        exact ⟨criterion, raw, goodness, defined, measured, returned⟩
      next => cases held
    next => cases made
  · intro each
    have complete : preference.missing node = [] := by
      refine List.filter_eq_nil_iff.mpr fun name member => ?_
      obtain ⟨w, listed, rfl⟩ := List.mem_map.mp member
      obtain ⟨_, raw, _, -, measured, -⟩ := each w listed
      simp [measured]
    obtain ⟨vector, made⟩ := @mapM_ok _ _ _ (preference.criterionGoodness node)
      (preference.weights.map Prod.fst) fun name member => by
        obtain ⟨w, listed, rfl⟩ := List.mem_map.mp member
        obtain ⟨criterion, raw, goodness, defined, measured, returned⟩ := each w listed
        exact ⟨(w.1, goodness), by simp only [criterionGoodness, defined, measured, returned]; rfl⟩
    exact ⟨Binary64.one.sub (floats.sum _), by
      simp only [potential, score, goodnessVector, complete, List.isEmpty_nil, if_true, made]; rfl⟩

end PreferenceModel

/-! ## Goodness lies between zero and one -/

/-- A finite value between zero and one. -/
def Normalized (x : Binary64) : Prop := ∃ q : ℚ, x.toRat? = some q ∧ 0 ≤ q ∧ q ≤ 1

theorem maxFloat_zero (x : Binary64) : maxFloat (.zero false) x = .zero false ∨
    (Binary64.zero false).lt x = true ∧ maxFloat (.zero false) x = x := by
  unfold maxFloat
  split
  next above => exact .inr ⟨above, rfl⟩
  next => exact .inl rfl

theorem clamped_normalized (x : Binary64) : Normalized (minFloat .one (maxFloat (.zero false) x)) := by
  unfold minFloat
  split
  next below =>
    rcases maxFloat_zero x with low | ⟨above, held⟩
    · rw [low]
      exact ⟨0, Binary64.toRat?_zero, le_rfl, zero_le_one⟩
    · rw [held] at below ⊢
      have low := (Binary64.lt_iff.mp above).2.2
      have high := (Binary64.lt_iff.mp below).2.2
      rw [Binary64.val_of_toRat? Binary64.toRat?_zero] at low
      rw [Binary64.val_of_toRat? Binary64.toRat?_one] at high
      obtain ⟨q, value⟩ := Binary64.toRat?_of_lt_top (high.trans (Binary64.coe_lt_top 1)) (bot_le.trans_lt low)
      rw [Binary64.val_of_toRat? value] at low high
      exact ⟨q, value, (WithTop.coe_lt_coe.mp (WithBot.coe_lt_coe.mp low)).le,
        (WithTop.coe_lt_coe.mp (WithBot.coe_lt_coe.mp high)).le⟩
  next => exact ⟨1, Binary64.toRat?_one, zero_le_one, le_rfl⟩

theorem val_one_sub {x : Binary64} (normalized : Normalized x) :
    (Binary64.zero false).val ≤ (Binary64.one.sub x).val ∧ (Binary64.one.sub x).val ≤ Binary64.one.val := by
  obtain ⟨q, value, low, high⟩ := normalized
  have exact : (Binary64.one.sub x).val = (Binary64.ofSigned (1 + -q)).val :=
    Binary64.val_add Binary64.toRat?_one (Binary64.toRat?_neg value)
  rw [exact, Binary64.val_of_toRat? Binary64.toRat?_zero, Binary64.val_of_toRat? Binary64.toRat?_one,
    ← Binary64.val_ofSigned_toRat? Binary64.toRat?_zero, ← Binary64.val_ofSigned_toRat? Binary64.toRat?_one]
  exact ⟨Binary64.val_ofSigned_mono (by linarith), Binary64.val_ofSigned_mono (by linarith)⟩

/-- Every goodness of every criterion lies between zero and one. -/
theorem Criterion.goodness_normalized {floats : FloatMath} {c : Criterion} {raw goodness : Binary64}
    (returned : c.goodness floats raw = .ok goodness) :
    (Binary64.zero false).val ≤ goodness.val ∧ goodness.val ≤ Binary64.one.val := by
  unfold Criterion.goodness at returned
  dsimp only at returned
  split at returned
  next => cases returned
  next ratio _ =>
    obtain rfl := Except.ok.inj returned
    have clamped := clamped_normalized ratio
    split
    · obtain ⟨q, value, low, high⟩ := clamped
      rw [Binary64.val_of_toRat? value, Binary64.val_of_toRat? Binary64.toRat?_zero,
        Binary64.val_of_toRat? Binary64.toRat?_one]
      exact ⟨WithBot.coe_le_coe.mpr (WithTop.coe_le_coe.mpr low), WithBot.coe_le_coe.mpr (WithTop.coe_le_coe.mpr high)⟩
    · exact val_one_sub clamped

end Floats
end MatVerse
