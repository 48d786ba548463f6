import Mathlib.Data.List.Chain
import Mathlib.Order.Lattice
import Mathlib.Tactic.Common

/-! Rotation chains: records that each name their predecessor and start exactly
where it ends, so that their half-open windows are disjoint. -/

/-- How a record is identified, which record it continues, and its window. -/
structure Rotation (K ι T : Type) where
  id : K → ι
  previous : K → Option ι
  starts : K → T
  ends : K → T

namespace Rotation

variable {K ι T : Type} {r : Rotation K ι T} {keys : List K}

def Links (r : Rotation K ι T) (p k : K) : Prop := r.previous k = some (r.id p) ∧ r.starts k = r.ends p

/-- In a chain, a record is the last one or has a successor. -/
theorem last_or_linked (links : keys.IsChain r.Links) {p : K} (member : p ∈ keys) :
    keys.getLast? = some p ∨ ∃ k ∈ keys, r.previous k = some (r.id p) := by
  induction keys with
  | nil => cases member
  | cons a rest ih =>
    cases rest with
    | nil =>
      obtain rfl := List.mem_singleton.mp member
      exact .inl rfl
    | cons b rest =>
      obtain ⟨link, links⟩ := List.isChain_cons_cons.mp links
      rcases List.mem_cons.mp member with rfl | member
      · exact .inr ⟨b, by simp, link.1⟩
      · rcases ih links member with last | ⟨k, inside, named⟩
        · exact .inl (by rw [List.getLast?_cons_cons]; exact last)
        · exact .inr ⟨k, List.mem_cons_of_mem _ inside, named⟩

variable [LinearOrder T]

structure Chain (r : Rotation K ι T) (keys : List K) : Prop where
  genesis : ∀ k ∈ keys.head?, r.previous k = none
  links : keys.IsChain r.Links
  windows : ∀ k ∈ keys, r.starts k < r.ends k

theorem chain_nil : r.Chain ([] : List K) := ⟨by simp, .nil, by simp⟩

theorem chain_single {k : K} (genesis : r.previous k = none) (window : r.starts k < r.ends k) : r.Chain [k] :=
  ⟨by simpa using genesis, .singleton _, by simpa using window⟩

/-- A record that continues one without successor extends the chain. -/
theorem Chain.append (chain : r.Chain keys) {p k : K} (member : p ∈ keys)
    (free : ∀ q ∈ keys, r.previous q ≠ some (r.id p)) (link : r.Links p k) (window : r.starts k < r.ends k) :
    r.Chain (keys ++ [k]) := by
  have last : keys.getLast? = some p := by
    rcases last_or_linked chain.links member with last | ⟨q, inside, named⟩
    · exact last
    · exact absurd named (free q inside)
  refine ⟨?_, ?_, ?_⟩
  · intro first isFirst
    cases keys with
    | nil => cases member
    | cons a rest => exact chain.genesis first isFirst
  · refine List.isChain_append.mpr ⟨chain.links, .singleton _, ?_⟩
    intro q isLast other isFirst
    obtain rfl : q = p := by simpa [last] using isLast.symm
    obtain rfl : other = k := by simpa using isFirst.symm
    exact link
  · intro q inside
    rcases List.mem_append.mp inside with inside | inside
    · exact chain.windows q inside
    · obtain rfl := List.mem_singleton.mp inside
      exact window

/-- Every later window starts at or after the end of an earlier one. -/
theorem Chain.disjoint (chain : r.Chain keys) : keys.Pairwise (fun p k => r.ends p ≤ r.starts k) := by
  have links := chain.links
  have windows := chain.windows
  clear chain
  induction keys with
  | nil => exact .nil
  | cons a rest ih =>
    cases rest with
    | nil => exact List.pairwise_singleton _ _
    | cons b rest =>
      obtain ⟨link, links⟩ := List.isChain_cons_cons.mp links
      have tail := ih links (fun k inside => windows k (List.mem_cons_of_mem _ inside))
      refine List.pairwise_cons.mpr ⟨?_, tail⟩
      intro k inside
      rcases List.mem_cons.mp inside with rfl | inside
      · exact link.2.ge
      · have later := (List.pairwise_cons.mp tail).1 k inside
        exact (link.2.ge.trans (windows b (by simp)).le).trans later

theorem Chain.effective_le_one (chain : r.Chain keys) (t : T) :
    (keys.filter (fun k => r.starts k ≤ t ∧ t < r.ends k)).length ≤ 1 := by
  have apart := chain.disjoint.filter (fun k => decide (r.starts k ≤ t ∧ t < r.ends k))
  cases list : keys.filter (fun k => decide (r.starts k ≤ t ∧ t < r.ends k)) with
  | nil => simp
  | cons a rest =>
    cases rest with
    | nil => simp
    | cons b rest =>
      rw [list] at apart
      have later := (List.pairwise_cons.mp apart).1 b (by simp)
      have inside (k : K) (member : k ∈ a :: b :: rest) : r.starts k ≤ t ∧ t < r.ends k := by
        rw [← list] at member
        simpa using (List.mem_filter.mp member).2
      exact absurd ((inside a (by simp)).2.trans_le (later.trans (inside b (by simp)).1)) (lt_irrefl t)

/-- Only the first record of a chain names no predecessor. -/
theorem Chain.first_of_none (chain : r.Chain keys) {k : K} (member : k ∈ keys)
    (none : r.previous k = none) : keys.head? = some k := by
  cases keys with
  | nil => cases member
  | cons a rest =>
    rcases List.mem_cons.mp member with rfl | member
    · rfl
    · exfalso
      have links := chain.links
      clear chain
      induction rest generalizing a with
      | nil => cases member
      | cons b rest ih =>
        obtain ⟨link, links⟩ := List.isChain_cons_cons.mp links
        rcases List.mem_cons.mp member with rfl | inside
        · rw [link.1] at none
          cases none
        · exact ih b (List.mem_cons_of_mem _ inside) inside links

/-- A map that keeps identity, predecessor and window keeps the chain. -/
theorem Chain.map (chain : r.Chain keys) {f : K → K} (id : ∀ k, r.id (f k) = r.id k)
    (previous : ∀ k, r.previous (f k) = r.previous k) (starts : ∀ k, r.starts (f k) = r.starts k)
    (ends : ∀ k, r.ends (f k) = r.ends k) : r.Chain (keys.map f) := by
  refine ⟨?_, ?_, ?_⟩
  · intro k isFirst
    rw [List.head?_map, Option.mem_def, Option.map_eq_some_iff] at isFirst
    obtain ⟨a, first, rfl⟩ := isFirst
    rw [previous]
    exact chain.genesis a first
  · apply List.isChain_map_of_isChain f _ chain.links
    intro a b link
    exact ⟨by rw [previous, id]; exact link.1, by rw [starts, ends]; exact link.2⟩
  · intro k inside
    obtain ⟨a, member, rfl⟩ := List.mem_map.mp inside
    rw [starts, ends]
    exact chain.windows a member

end Rotation
