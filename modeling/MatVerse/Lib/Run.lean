import Mathlib.Tactic.Common

/-! Finite runs of a labelled transition relation, and machines that answer every
input. An invariant is proved for one step and lifted here. -/

variable {σ σ' ε ι ω : Type}

inductive Run (step : σ → ε → σ → Prop) : σ → List ε → σ → Prop where
  | nil {s} : Run step s [] s
  | cons {s e next rest final} : step s e next → Run step next rest final →
      Run step s (e :: rest) final

namespace Run

variable {step : σ → ε → σ → Prop} {s middle final : σ} {xs ys : List ε}

theorem append (first : Run step s xs middle) (second : Run step middle ys final) :
    Run step s (xs ++ ys) final := by
  induction first with
  | nil => exact second
  | cons head _ ih => exact .cons head (ih second)

theorem single {e : ε} (head : step s e final) : Run step s [e] final := .cons head .nil

theorem invariant (property : σ → Prop)
    (preserved : ∀ s e next, property s → step s e next → property next)
    (run : Run step s xs final) (initial : property s) : property final := by
  induction run with
  | nil => exact initial
  | cons head _ ih => exact ih (preserved _ _ _ initial head)

end Run

namespace Machine

/-- The answers of a machine to a list of inputs. -/
def outputs (next : σ → ι → ω × σ) : σ → List ι → List ω
  | _, [] => []
  | s, i :: rest => (next s i).1 :: outputs next (next s i).2 rest

def after (next : σ → ι → ω × σ) : σ → List ι → σ
  | s, [] => s
  | s, i :: rest => after next (next s i).2 rest

theorem run_after (next : σ → ι → ω × σ) (s : σ) (inputs : List ι) :
    Run (fun s i t => t = (next s i).2) s inputs (after next s inputs) := by
  induction inputs generalizing s with
  | nil => exact .nil
  | cons i rest ih => exact .cons rfl (ih _)

/-- Related machines that answer alike and stay related answer every input list alike. -/
theorem outputs_eq {next : σ → ι → ω × σ} {next' : σ' → ι → ω × σ'} (related : σ → σ' → Prop)
    (alike : ∀ s s' i, related s s' →
      (next s i).1 = (next' s' i).1 ∧ related (next s i).2 (next' s' i).2)
    (inputs : List ι) {s : σ} {s' : σ'} (start : related s s') :
    outputs next s inputs = outputs next' s' inputs ∧
      related (after next s inputs) (after next' s' inputs) := by
  induction inputs generalizing s s' with
  | nil => exact ⟨rfl, start⟩
  | cons i rest ih =>
    obtain ⟨same, further⟩ := alike s s' i start
    obtain ⟨tail, related⟩ := ih further
    exact ⟨by rw [outputs, outputs, same, tail], related⟩

theorem after_invariant {next : σ → ι → ω × σ} (property : σ → Prop)
    (preserved : ∀ s i, property s → property (next s i).2) (inputs : List ι) {s : σ}
    (initial : property s) : property (after next s inputs) := by
  induction inputs generalizing s with
  | nil => exact initial
  | cons i rest ih => exact ih (preserved s i initial)

end Machine
