import Mathlib.Tactic.Common

/-! Records of what has happened, in their order. In a chronicle each event was allowed
by the events before it. -/

variable {ε β : Type}

inductive Chronicle (allowed : List ε → ε → Prop) : List ε → Prop where
  | nil : Chronicle allowed []
  | snoc {before e} : Chronicle allowed before → allowed before e → Chronicle allowed (before ++ [e])

namespace Chronicle

variable {allowed : List ε → ε → Prop} {before after : List ε} {e : ε}

/-- Each event of a chronicle was allowed where it stands. -/
theorem allowed_at {events : List ε} (chronicle : Chronicle allowed events) :
    ∀ before e after, events = before ++ e :: after → allowed before e := by
  induction chronicle with
  | nil => simp
  | snoc _ last ih =>
    intro earlier e after split
    rcases List.eq_nil_or_concat after with rfl | ⟨rest, final, rfl⟩
    · obtain ⟨rfl, same⟩ := List.append_inj' split rfl
      obtain rfl := List.head_eq_of_cons_eq same
      exact last
    · rw [List.concat_eq_append, ← List.cons_append, ← List.append_assoc] at split
      exact ih earlier e rest (List.append_inj' split rfl).1

theorem imp {allowed' : List ε → ε → Prop} {events : List ε} (chronicle : Chronicle allowed events)
    (more : ∀ before e, before ++ [e] <+: events → allowed before e → allowed' before e) :
    Chronicle allowed' events := by
  induction chronicle with
  | nil => exact .nil
  | snoc _ last ih =>
    exact .snoc (ih fun b a within => more b a (within.trans (List.prefix_append _ _)))
      (more _ _ (List.prefix_refl _) last)

end Chronicle

/-- What an observer last read from the events. -/
def latest (read : ε → Option β) (events : List ε) : Option β := events.reverse.findSome? read

@[simp] theorem latest_snoc (read : ε → Option β) (events : List ε) (e : ε) :
    latest read (events ++ [e]) = (read e).or (latest read events) := by
  unfold latest
  rw [List.reverse_append, List.reverse_singleton, List.singleton_append, List.findSome?_cons]
  cases read e <;> rfl

theorem exists_of_latest {read : ε → Option β} {events : List ε} {b : β} (found : latest read events = some b) :
    ∃ e ∈ events, read e = some b := by
  obtain ⟨e, member, same⟩ := List.exists_of_findSome?_eq_some found
  exact ⟨e, List.mem_reverse.mp member, same⟩
