import Mathlib.Tactic.Common

/-! Inversion of fallible code: what a computation that returned must have done. -/
namespace Fallible

variable {ε α β : Type}

theorem bind_ok {x : Except ε α} {f : α → Except ε β} {r : β} :
    (x >>= f) = .ok r ↔ ∃ a, x = .ok a ∧ f a = .ok r := by
  cases x with
  | error e => simp [bind, Except.bind]
  | ok a => simp [bind, Except.bind]

theorem throw_ok {e : ε} {r : α} : (throw e : Except ε α) = .ok r ↔ False := by
  simp [throw, throwThe, MonadExceptOf.throw]

theorem pure_ok {a r : α} : (pure a : Except ε α) = .ok r ↔ a = r := by
  simp [pure, Except.pure]

/-- A guard that raises, before the rest of the code. -/
theorem guard_ok {c : Prop} [Decidable c] {e : ε} {f : PUnit → Except ε β} {rest : Except ε β} {r : β} :
    (if c then throw e >>= f else rest) = .ok r ↔ ¬c ∧ rest = .ok r := by
  by_cases h : c
  · simp [h, bind_ok, throw_ok]
  · simp [h]

theorem last_guard_ok {c : Prop} [Decidable c] {e : ε} {rest : Except ε β} {r : β} :
    (if c then throw e else rest) = .ok r ↔ ¬c ∧ rest = .ok r := by
  by_cases h : c
  · simp [h, throw_ok]
  · simp [h]

theorem check_ok {x : Except ε PUnit} {rest : Except ε β} {r : β} :
    (x >>= fun _ => rest) = .ok r ↔ x = .ok ⟨⟩ ∧ rest = .ok r := by
  cases x with
  | error e => simp [bind, Except.bind]
  | ok _ => simp [bind, Except.bind]

theorem ok_bind {a : α} {f : α → Except ε β} : ((Except.ok a : Except ε α) >>= f) = f a := rfl

theorem mapM_ok {f : α → Except ε β} {items : List α} (each : ∀ a ∈ items, ∃ b, f a = .ok b) :
    ∃ results, items.mapM f = .ok results := by
  induction items with
  | nil => exact ⟨[], rfl⟩
  | cons a rest ih =>
    obtain ⟨b, first⟩ := each a (by simp)
    obtain ⟨results, others⟩ := ih (fun a member => each a (List.mem_cons_of_mem _ member))
    exact ⟨b :: results, by rw [List.mapM_cons, first, ok_bind, others, ok_bind]; rfl⟩

theorem mapM_eq {f : α → Except ε β} {g : α → β} {items : List α} (each : ∀ a ∈ items, f a = .ok (g a)) :
    items.mapM f = .ok (items.map g) := by
  induction items with
  | nil => rfl
  | cons a rest ih =>
    rw [List.mapM_cons, each a (by simp), ok_bind, ih fun a member => each a (List.mem_cons_of_mem _ member), ok_bind]
    rfl

theorem mapM_image {f : α → Except ε β} {items : List α} {results : List β} (done : items.mapM f = .ok results) :
    ∀ a ∈ items, ∃ b ∈ results, f a = .ok b := by
  induction items generalizing results with
  | nil => simp
  | cons a rest ih =>
    simp only [List.mapM_cons, bind_ok, pure_ok] at done
    obtain ⟨b, first, others, further, rfl⟩ := done
    intro other member
    rcases List.mem_cons.mp member with rfl | member
    · exact ⟨b, by simp, first⟩
    · obtain ⟨b', listed, returned⟩ := ih further other member
      exact ⟨b', List.mem_cons_of_mem _ listed, returned⟩

/-- A mapped computation that returned has returned on each item. -/
theorem mapM_each {f : α → Except ε β} {items : List α} {results : List β} (done : items.mapM f = .ok results)
    (a : α) (member : a ∈ items) : ∃ b, f a = .ok b := by
  obtain ⟨b, -, returned⟩ := mapM_image done a member
  exact ⟨b, returned⟩

theorem mapM_mem {f : α → Except ε β} {items : List α} {results : List β} (done : items.mapM f = .ok results) :
    ∀ b ∈ results, ∃ a ∈ items, f a = .ok b := by
  induction items generalizing results with
  | nil =>
    cases done
    simp
  | cons a rest ih =>
    simp only [List.mapM_cons, bind_ok, pure_ok] at done
    obtain ⟨b, first, others, further, rfl⟩ := done
    intro other member
    rcases List.mem_cons.mp member with rfl | member
    · exact ⟨a, by simp, first⟩
    · obtain ⟨a', listed, made⟩ := ih further other member
      exact ⟨a', List.mem_cons_of_mem _ listed, made⟩

/-- What the results share with the items, item by item. -/
theorem mapM_map {γ : Type} {f : α → Except ε β} {items : List α} {results : List β} {g : β → γ} {h : α → γ}
    (each : ∀ {a b}, f a = .ok b → g b = h a) (done : items.mapM f = .ok results) :
    results.map g = items.map h := by
  induction items generalizing results with
  | nil =>
    cases done
    rfl
  | cons a rest ih =>
    simp only [List.mapM_cons, bind_ok, pure_ok] at done
    obtain ⟨b, first, others, further, rfl⟩ := done
    rw [List.map_cons, List.map_cons, each first, ih further]

end Fallible
