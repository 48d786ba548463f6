import Mathlib.Data.List.Induction
import Mathlib.Tactic.Common

/-! A chain of digests: each body is hashed onto the digest before it, from a
genesis value that is no digest. The last digest commits to every body. -/
namespace HashChain

variable {H B : Type} (hash : H → B → H)

/-- The digest after the bodies. -/
def head (genesis : H) (bodies : List B) : H := bodies.foldl hash genesis

/-- The digest and the body that each step hashes. -/
def inputs : H → List B → List (H × B)
  | _, [] => []
  | previous, b :: rest => (previous, b) :: inputs (hash previous b) rest

@[simp] theorem head_concat (genesis : H) (bodies : List B) (b : B) :
    head hash genesis (bodies ++ [b]) = hash (head hash genesis bodies) b := by
  simp [head]

theorem inputs_concat (genesis : H) (bodies : List B) (b : B) :
    inputs hash genesis (bodies ++ [b]) =
      inputs hash genesis bodies ++ [(head hash genesis bodies, b)] := by
  induction bodies generalizing genesis with
  | nil => rfl
  | cons c rest ih => simp [inputs, ih, head]

variable {hash}

theorem head_mem_inputs (genesis : H) (bodies : List B) (b : B) :
    (head hash genesis bodies, b) ∈ inputs hash genesis (bodies ++ [b]) := by
  simp [inputs_concat]

theorem inputs_subset (genesis : H) (bodies : List B) (b : B) {p : H × B}
    (member : p ∈ inputs hash genesis bodies) : p ∈ inputs hash genesis (bodies ++ [b]) := by
  rw [inputs_concat]
  exact List.mem_append_left _ member

/-- Equal last digests come from equal bodies, while no two inputs of the chains
collide and none is hashed to the genesis value. -/
theorem bodies_eq (hash : H → B → H) (genesis : H) {xs ys : List B}
    (free : ∀ p ∈ inputs hash genesis xs, ∀ q ∈ inputs hash genesis ys,
      hash p.1 p.2 = hash q.1 q.2 → p = q)
    (freshLeft : ∀ p ∈ inputs hash genesis xs, hash p.1 p.2 ≠ genesis)
    (freshRight : ∀ p ∈ inputs hash genesis ys, hash p.1 p.2 ≠ genesis)
    (same : head hash genesis xs = head hash genesis ys) : xs = ys := by
  induction xs using List.reverseRecOn generalizing ys with
  | nil =>
    cases ys using List.reverseRecOn with
    | nil => rfl
    | append_singleton ys b =>
      rw [head_concat] at same
      exact absurd same.symm (freshRight _ (head_mem_inputs genesis ys b))
  | append_singleton xs a ih =>
    cases ys using List.reverseRecOn with
    | nil =>
      rw [head_concat] at same
      exact absurd same (freshLeft _ (head_mem_inputs genesis xs a))
    | append_singleton ys b =>
      rw [head_concat, head_concat] at same
      have last := free _ (head_mem_inputs genesis xs a) _ (head_mem_inputs genesis ys b) same
      obtain ⟨heads, bodies⟩ := Prod.mk.inj last
      rw [ih (fun p left q right => free p (inputs_subset _ _ _ left) q (inputs_subset _ _ _ right))
        (fun p left => freshLeft p (inputs_subset _ _ _ left))
        (fun p right => freshRight p (inputs_subset _ _ _ right)) heads, bodies]

end HashChain
