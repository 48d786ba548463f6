import Mathlib.Tactic.Common

/-! Rules for programs that may raise and keep what they changed: what one program
ensures, whether it returns or raises, and how two programs run side by side. -/

variable {ε σ α β : Type}

/-- From a state in `pre` the program returns in `post` or raises in `fails`. -/
def Ensures (pre : σ → Prop) (m : EStateM ε σ α) (post : α → σ → Prop) (fails : σ → Prop) : Prop :=
  ∀ s, pre s →
    match m s with
    | .ok a t => post a t
    | .error _ t => fails t

/-- The program keeps a property, returning or raising. -/
abbrev Keeps (property : σ → Prop) (m : EStateM ε σ α) : Prop := Ensures property m (fun _ => property) property

namespace Ensures

variable {pre : σ → Prop} {post : α → σ → Prop} {fails : σ → Prop} {m : EStateM ε σ α}

theorem pure {a : α} (holds : ∀ s, pre s → post a s) : Ensures pre (pure a : EStateM ε σ α) post fails := holds

theorem throw {e : ε} (holds : ∀ s, pre s → fails s) : Ensures pre (throw e : EStateM ε σ α) post fails := holds

theorem bind {q : α → σ → Prop} {f : α → EStateM ε σ β} {last : β → σ → Prop} (first : Ensures pre m q fails)
    (rest : ∀ a, Ensures (q a) (f a) last fails) : Ensures pre (m >>= f) last fails := by
  intro s holds
  have head := first s holds
  show match EStateM.bind m f s with
    | .ok b t => last b t
    | .error _ t => fails t
  unfold EStateM.bind
  cases done : m s with
  | ok a t =>
    rw [done] at head
    exact rest a t head
  | error e t =>
    rw [done] at head
    exact head

theorem modify_bind {g : σ → σ} {f : PUnit → EStateM ε σ β} {last : β → σ → Prop}
    (rest : ∀ s, pre s → Ensures (fun t => t = g s) (f ⟨⟩) last fails) : Ensures pre (modify g >>= f) last fails :=
  fun s holds => rest s holds (g s) rfl

theorem modify {f : σ → σ} {post : PUnit → σ → Prop} (holds : ∀ s, pre s → post ⟨⟩ (f s)) :
    Ensures pre (modify f : EStateM ε σ PUnit) post fails := holds

/-- What is read of the state is a fact about it from then on. -/
theorem get_bind {f : σ → EStateM ε σ β} {last : β → σ → Prop}
    (rest : ∀ s, pre s → Ensures (fun t => t = s) (f s) last fails) : Ensures pre (get >>= f) last fails :=
  fun s holds => rest s holds s rfl

theorem start (holds : ∀ s, pre s → Ensures (fun t => t = s) m post fails) : Ensures pre m post fails :=
  fun s before => holds s before s rfl

theorem given {p : Prop} (rest : p → Ensures pre m post fails) : Ensures (fun s => p ∧ pre s) m post fails :=
  fun s holds => rest holds.1 s holds.2

theorem mono {p : σ → Prop} {q : α → σ → Prop} {r : σ → Prop} (ensures : Ensures p m q r) (before : ∀ s, pre s → p s)
    (after : ∀ a s, q a s → post a s) (raised : ∀ s, r s → fails s) : Ensures pre m post fails := by
  intro s holds
  have done := ensures s (before s holds)
  cases ran : m s with
  | ok a t =>
    rw [ran] at done
    exact after a t done
  | error e t =>
    rw [ran] at done
    exact raised t done

theorem raises {r : σ → Prop} (ensures : Ensures pre m post r) (raised : ∀ s, r s → fails s) :
    Ensures pre m post fails :=
  ensures.mono (fun _ => id) (fun _ _ => id) raised

theorem and {p : σ → Prop} {q : α → σ → Prop} {r : σ → Prop} (one : Ensures pre m post fails)
    (other : Ensures p m q r) :
    Ensures (fun s => pre s ∧ p s) m (fun a s => post a s ∧ q a s) fun s => fails s ∧ r s := by
  intro s ⟨holds, holds'⟩
  have done := one s holds
  have done' := other s holds'
  cases ran : m s with
  | ok a t =>
    rw [ran] at done done'
    exact ⟨done, done'⟩
  | error e t =>
    rw [ran] at done done'
    exact ⟨done, done'⟩

theorem returned (ensures : Ensures pre m post fails) {s t : σ} {a : α} (holds : pre s) (ran : m s = .ok a t) :
    post a t := by
  have done := ensures s holds
  rwa [ran] at done

theorem raised (ensures : Ensures pre m post fails) {s t : σ} {e : ε} (holds : pre s) (ran : m s = .error e t) :
    fails t := by
  have done := ensures s holds
  rwa [ran] at done

theorem ite {c : Prop} [Decidable c] {m' : EStateM ε σ α} (yes : c → Ensures pre m post fails)
    (no : ¬c → Ensures pre m' post fails) : Ensures pre (if c then m else m') post fails := by
  split
  · exact yes ‹_›
  · exact no ‹_›

/-- A guard that raises, before the rest of the program. -/
theorem guard {c : Prop} [Decidable c] {e : ε} {f : PUnit → EStateM ε σ α} {rest : EStateM ε σ α}
    (raised : ∀ s, pre s → fails s) (passed : ¬c → Ensures pre rest post fails) :
    Ensures pre (if c then MonadExcept.throw e >>= f else rest) post fails := by
  split
  · exact fun s holds => raised s holds
  · exact passed ‹_›

theorem last_guard {c : Prop} [Decidable c] {e : ε} {rest : EStateM ε σ α}
    (raised : ∀ s, pre s → fails s) (passed : ¬c → Ensures pre rest post fails) :
    Ensures pre (if c then MonadExcept.throw e else rest) post fails := by
  split
  · exact fun s holds => raised s holds
  · exact passed ‹_›

end Ensures

/-- The state after a program, returned or raised. -/
def afterwards (m : EStateM ε σ α) (s : σ) : σ :=
  match m s with
  | .ok _ t => t
  | .error _ t => t

theorem Ensures.final {pre property : σ → Prop} {m : EStateM ε σ α}
    (ensures : Ensures pre m (fun _ => property) property) {s : σ} (holds : pre s) : property (afterwards m s) := by
  have done := ensures s holds
  unfold afterwards
  cases ran : m s with
  | ok a t =>
    rw [ran] at done
    exact done
  | error e t =>
    rw [ran] at done
    exact done

/-- What holds of the state after a program, however it ends. -/
theorem Ensures.of_final {property : σ → Prop} {m : EStateM ε σ α} {s : σ} (final : property (afterwards m s)) :
    Ensures (· = s) m (fun _ => property) property := by
  rintro _ rfl
  unfold afterwards at final
  cases ran : m _ with
  | ok a t => rwa [ran] at final
  | error e t => rwa [ran] at final

/-- From related states both programs return the same, or both raise, in related states. -/
def Agree (related : σ → σ → Prop) (m m' : EStateM ε σ α) : Prop :=
  ∀ s t, related s t →
    match m s, m' t with
    | .ok a s', .ok b t' => a = b ∧ related s' t'
    | .error _ s', .error _ t' => related s' t'
    | _, _ => False

namespace Agree

variable {related : σ → σ → Prop} {m m' : EStateM ε σ α}

theorem pure (a : α) : Agree related (pure a : EStateM ε σ α) (pure a) := fun _ _ same => ⟨rfl, same⟩

theorem throw (e e' : ε) : Agree related (throw e : EStateM ε σ α) (throw e') := fun _ _ same => same

theorem modify {f f' : σ → σ} (holds : ∀ s t, related s t → related (f s) (f' t)) :
    Agree related (modify f : EStateM ε σ PUnit) (modify f') := fun s t same => ⟨rfl, holds s t same⟩

theorem bind {f f' : α → EStateM ε σ β} (first : Agree related m m') (rest : ∀ a, Agree related (f a) (f' a)) :
    Agree related (m >>= f) (m' >>= f') := by
  intro s t same
  have head := first s t same
  show match EStateM.bind m f s, EStateM.bind m' f' t with
    | .ok a s', .ok b t' => a = b ∧ related s' t'
    | .error _ s', .error _ t' => related s' t'
    | _, _ => False
  unfold EStateM.bind
  cases left : m s with
  | ok a s' =>
    cases right : m' t with
    | ok b t' =>
      rw [left, right] at head
      obtain ⟨rfl, further⟩ := head
      exact rest a s' t' further
    | error e t' => simp [left, right] at head
  | error e s' =>
    cases right : m' t with
    | ok b t' => simp [left, right] at head
    | error e' t' =>
      rw [left, right] at head
      exact head

/-- Programs that go on from what they read of related states. -/
theorem get_bind {f f' : σ → EStateM ε σ β} (rest : ∀ s t, related s t → Agree related (f s) (f' t)) :
    Agree related (get >>= f) (get >>= f') := fun s t same => rest s t same s t same

theorem ite {c : Prop} [Decidable c] {n n' : EStateM ε σ α} (yes : c → Agree related m m')
    (no : ¬c → Agree related n n') : Agree related (if c then m else n) (if c then m' else n') := by
  split
  · exact yes ‹_›
  · exact no ‹_›

end Agree
