import Mathlib.Algebra.GroupWithZero.Nat
import Mathlib.Data.String.Basic
import Mathlib.Data.List.Nodup
import Mathlib.Data.List.Pairwise
import Mathlib.Tactic.Common

/-! Dictionaries as association lists in strictly increasing key order. A
dictionary has one such list, so two of them are equal as soon as their lookups
agree; `ofPairs` is construction from pairs, the later pair of a key winning. -/
namespace Dict

variable {κ α β : Type} [LinearOrder κ]

def insert (key : κ) (value : α) : List (κ × α) → List (κ × α)
  | [] => [(key, value)]
  | (k, v) :: rest =>
    if key < k then (key, value) :: (k, v) :: rest
    else if key = k then (key, value) :: rest
    else (k, v) :: insert key value rest

def get? (key : κ) : List (κ × α) → Option α
  | [] => none
  | (k, v) :: rest => if key = k then some v else get? key rest

def erase (key : κ) : List (κ × α) → List (κ × α)
  | [] => []
  | (k, v) :: rest => if key = k then rest else (k, v) :: erase key rest

def insertAll (d : List (κ × α)) : List (κ × α) → List (κ × α)
  | [] => d
  | (k, v) :: rest => insertAll (insert k v d) rest

def ofPairs (pairs : List (κ × α)) : List (κ × α) := insertAll [] pairs

/-- Strictly increasing keys: each dictionary has exactly one such list. -/
def Sorted (d : List (κ × α)) : Prop := d.Pairwise (fun a b => a.1 < b.1)

instance (d : List (κ × α)) : Decidable (Sorted d) :=
  inferInstanceAs (Decidable (List.Pairwise _ _))

@[simp] theorem get?_nil (key : κ) : get? key ([] : List (κ × α)) = none := rfl

@[simp] theorem get?_cons (key k : κ) (v : α) (rest : List (κ × α)) :
    get? key ((k, v) :: rest) = if key = k then some v else get? key rest := rfl

@[simp] theorem sorted_nil : Sorted ([] : List (κ × α)) := List.Pairwise.nil

theorem sorted_cons {k : κ} {v : α} {rest : List (κ × α)} :
    Sorted ((k, v) :: rest) ↔ (∀ p ∈ rest, k < p.1) ∧ Sorted rest := by
  simp [Sorted]

theorem get?_mem {d : List (κ × α)} {key : κ} {value : α} (h : get? key d = some value) :
    (key, value) ∈ d := by
  induction d with
  | nil => simp at h
  | cons p rest ih =>
    obtain ⟨k, v⟩ := p
    by_cases same : key = k
    · simp only [get?_cons, same, if_true, Option.some.injEq] at h
      simp [same, h]
    · simp only [get?_cons, same, if_false] at h
      exact List.mem_cons_of_mem _ (ih h)

theorem get?_eq_none_of_lt {d : List (κ × α)} {key : κ} (h : ∀ p ∈ d, key < p.1) :
    get? key d = none := by
  induction d with
  | nil => rfl
  | cons p rest ih =>
    obtain ⟨k, v⟩ := p
    have before : key < k := h (k, v) (by simp)
    simp only [get?_cons, before.ne, if_false]
    exact ih (fun q hq => h q (List.mem_cons_of_mem _ hq))

theorem mem_insert {d : List (κ × α)} {key : κ} {value : α} {p : κ × α}
    (h : p ∈ insert key value d) : p = (key, value) ∨ p ∈ d := by
  induction d with
  | nil => simpa [insert] using h
  | cons q rest ih =>
    obtain ⟨k, v⟩ := q
    simp only [insert] at h
    split_ifs at h with before same
    · simpa using h
    · rcases List.mem_cons.mp h with h | h
      · exact .inl h
      · exact .inr (List.mem_cons_of_mem _ h)
    · rcases List.mem_cons.mp h with h | h
      · exact .inr (by simp [h])
      · exact (ih h).imp_right (List.mem_cons_of_mem _)

theorem sorted_insert {d : List (κ × α)} (key : κ) (value : α) (sorted : Sorted d) :
    Sorted (insert key value d) := by
  induction d with
  | nil => simp [insert, Sorted]
  | cons q rest ih =>
    obtain ⟨k, v⟩ := q
    obtain ⟨above, sortedRest⟩ := sorted_cons.mp sorted
    simp only [insert]
    split_ifs with before same
    · refine sorted_cons.mpr ⟨?_, sorted⟩
      intro p hp
      rcases List.mem_cons.mp hp with rfl | hp
      · exact before
      · exact before.trans (above p hp)
    · exact sorted_cons.mpr ⟨fun p hp => same ▸ above p hp, sortedRest⟩
    · refine sorted_cons.mpr ⟨?_, ih sortedRest⟩
      intro p hp
      rcases mem_insert hp with rfl | hp
      · exact lt_of_le_of_ne (not_lt.mp before) (Ne.symm same)
      · exact above p hp

@[simp] theorem get?_insert_self (key : κ) (value : α) (d : List (κ × α)) :
    get? key (insert key value d) = some value := by
  induction d with
  | nil => simp [insert]
  | cons q rest ih =>
    obtain ⟨k, v⟩ := q
    simp only [insert]
    split_ifs with before same
    · simp
    · simp
    · simp [same, ih]

theorem get?_insert_of_ne {key other : κ} (different : other ≠ key) (value : α)
    (d : List (κ × α)) : get? other (insert key value d) = get? other d := by
  induction d with
  | nil => simp [insert, different]
  | cons q rest ih =>
    obtain ⟨k, v⟩ := q
    simp only [insert]
    split_ifs with before same
    · simp [different]
    · subst same; simp [different]
    · simp [ih]

theorem get?_insert (key other : κ) (value : α) (d : List (κ × α)) :
    get? other (insert key value d) = if other = key then some value else get? other d := by
  by_cases same : other = key
  · subst same; simp
  · simp [same, get?_insert_of_ne same]

theorem sorted_insertAll {d : List (κ × α)} (pairs : List (κ × α)) (sorted : Sorted d) :
    Sorted (insertAll d pairs) := by
  induction pairs generalizing d with
  | nil => exact sorted
  | cons p rest ih => exact ih (sorted_insert _ _ sorted)

@[simp] theorem sorted_ofPairs (pairs : List (κ × α)) : Sorted (ofPairs pairs) :=
  sorted_insertAll pairs sorted_nil

theorem mem_insertAll {d pairs : List (κ × α)} {p : κ × α} (h : p ∈ insertAll d pairs) :
    p ∈ d ∨ p ∈ pairs := by
  induction pairs generalizing d with
  | nil => exact .inl h
  | cons q rest ih =>
    rcases ih h with h | h
    · rcases mem_insert h with rfl | h
      · exact .inr (by simp)
      · exact .inl h
    · exact .inr (List.mem_cons_of_mem _ h)

theorem mem_ofPairs {pairs : List (κ × α)} {p : κ × α} (h : p ∈ ofPairs pairs) : p ∈ pairs := by
  simpa using mem_insertAll h

/-- Two dictionaries with the same lookups are the same list. -/
theorem ext_of_sorted {d e : List (κ × α)} (hd : Sorted d) (he : Sorted e)
    (same : ∀ key, get? key d = get? key e) : d = e := by
  induction d generalizing e with
  | nil =>
    cases e with
    | nil => rfl
    | cons q rest =>
      obtain ⟨k, v⟩ := q
      simpa using same k
  | cons p rest ih =>
    obtain ⟨k, v⟩ := p
    obtain ⟨above, sortedRest⟩ := sorted_cons.mp hd
    cases e with
    | nil => simpa using same k
    | cons q rest' =>
      obtain ⟨k', v'⟩ := q
      obtain ⟨above', sortedRest'⟩ := sorted_cons.mp he
      have keys : k = k' := by
        rcases lt_trichotomy k k' with lt | eq | gt
        · have missing : get? k ((k', v') :: rest') = none :=
            get?_eq_none_of_lt (by
              intro p hp
              rcases List.mem_cons.mp hp with rfl | hp
              · exact lt
              · exact lt.trans (above' p hp))
          simpa [missing] using same k
        · exact eq
        · have missing : get? k' ((k, v) :: rest) = none :=
            get?_eq_none_of_lt (by
              intro p hp
              rcases List.mem_cons.mp hp with rfl | hp
              · exact gt
              · exact gt.trans (above p hp))
          simpa [missing] using same k'
      subst keys
      have values : v = v' := by simpa using same k
      subst values
      have tails : rest = rest' := by
        apply ih sortedRest sortedRest'
        intro key
        by_cases here : key = k
        · subst here
          rw [get?_eq_none_of_lt above, get?_eq_none_of_lt above']
        · simpa [here] using same key
      rw [tails]

theorem get?_insertAll_of_sorted {d pairs : List (κ × α)} (sorted : Sorted pairs) (key : κ) :
    get? key (insertAll d pairs) = (get? key pairs).or (get? key d) := by
  induction pairs generalizing d with
  | nil => simp [insertAll]
  | cons p rest ih =>
    obtain ⟨k, v⟩ := p
    obtain ⟨above, sortedRest⟩ := sorted_cons.mp sorted
    rw [insertAll, ih sortedRest, get?_insert]
    by_cases here : key = k
    · subst here; simp [get?_eq_none_of_lt above]
    · simp [here]

/-- A list already in key order is its own dictionary. -/
theorem ofPairs_of_sorted {d : List (κ × α)} (sorted : Sorted d) : ofPairs d = d :=
  ext_of_sorted (sorted_ofPairs d) sorted (by
    intro key
    rw [ofPairs, get?_insertAll_of_sorted sorted key]
    simp)

theorem get?_insertAll (d pairs : List (κ × α)) (key : κ) :
    get? key (insertAll d pairs) = (get? key (ofPairs pairs)).or (get? key d) := by
  induction pairs generalizing d with
  | nil => simp [insertAll, ofPairs]
  | cons p rest ih =>
    obtain ⟨k, v⟩ := p
    rw [insertAll, ofPairs, insertAll, ih, ih, get?_insert]
    by_cases here : key = k
    · subst here; simp [insert]
    · simp [here, insert]

theorem insert_ne_nil (key : κ) (value : α) (d : List (κ × α)) : insert key value d ≠ [] := by
  cases d with
  | nil => simp [insert]
  | cons p rest =>
    simp only [insert]
    split_ifs <;> simp

theorem insertAll_ne_nil {d : List (κ × α)} (pairs : List (κ × α)) (nonempty : d ≠ []) :
    insertAll d pairs ≠ [] := by
  induction pairs generalizing d with
  | nil => exact nonempty
  | cons p rest ih => exact ih (insert_ne_nil _ _ _)

theorem ofPairs_ne_nil {pairs : List (κ × α)} (nonempty : pairs ≠ []) : ofPairs pairs ≠ [] := by
  cases pairs with
  | nil => exact absurd rfl nonempty
  | cons p rest => exact insertAll_ne_nil rest (insert_ne_nil _ _ _)

@[simp] theorem ofPairs_nil : ofPairs ([] : List (κ × α)) = [] := rfl

@[simp] theorem get?_ofPairs_cons (key k : κ) (v : α) (rest : List (κ × α)) :
    get? key (ofPairs ((k, v) :: rest)) =
      (get? key (ofPairs rest)).or (if key = k then some v else none) := by
  rw [ofPairs, insertAll, get?_insertAll]
  simp [insert]

theorem get?_ofPairs_of_mem {pairs : List (κ × α)} {key : κ} {value : α} (member : (key, value) ∈ pairs) :
    ∃ found, get? key (ofPairs pairs) = some found := by
  induction pairs with
  | nil => simp at member
  | cons p rest ih =>
    obtain ⟨k, v⟩ := p
    rw [get?_ofPairs_cons]
    rcases List.mem_cons.mp member with same | member
    · obtain ⟨rfl, rfl⟩ := Prod.mk.inj same
      cases get? key (ofPairs rest) <;> simp
    · obtain ⟨found, later⟩ := ih member
      exact ⟨found, by simp [later]⟩

theorem get?_of_mem {d : List (κ × α)} (sorted : Sorted d) {key : κ} {value : α}
    (member : (key, value) ∈ d) : get? key d = some value := by
  induction d with
  | nil => simp at member
  | cons p rest ih =>
    obtain ⟨k, v⟩ := p
    obtain ⟨above, sortedRest⟩ := sorted_cons.mp sorted
    rcases List.mem_cons.mp member with same | member
    · obtain ⟨rfl, rfl⟩ := Prod.mk.inj same
      simp
    · have before : k < key := above _ member
      simpa [before.ne'] using ih sortedRest member

/-- The order in which distinct keys were inserted leaves no trace. -/
theorem ofPairs_of_perm {pairs d : List (κ × α)} (perm : pairs.Perm d) (sorted : Sorted d) :
    ofPairs pairs = d := by
  apply ext_of_sorted (sorted_ofPairs _) sorted
  intro key
  cases found : get? key (ofPairs pairs) with
  | some value => exact (get?_of_mem sorted (perm.mem_iff.mp (mem_ofPairs (get?_mem found)))).symm
  | none =>
    cases listed : get? key d with
    | none => rfl
    | some value =>
      obtain ⟨other, here⟩ := get?_ofPairs_of_mem (perm.mem_iff.mpr (get?_mem listed))
      rw [found] at here
      cases here

/-- Pairs of distinct keys make one dictionary, whatever their order. -/
theorem ofPairs_perm {xs ys : List (κ × α)} (perm : xs.Perm ys) (distinct : (ys.map Prod.fst).Nodup) :
    ofPairs xs = ofPairs ys := by
  apply ext_of_sorted (sorted_ofPairs _) (sorted_ofPairs _)
  intro key
  cases here : get? key (ofPairs xs) with
  | none =>
    cases there : get? key (ofPairs ys) with
    | none => rfl
    | some value =>
      obtain ⟨other, found⟩ := get?_ofPairs_of_mem (perm.mem_iff.mpr (mem_ofPairs (get?_mem there)))
      rw [here] at found
      cases found
  | some value =>
    have member := perm.mem_iff.mp (mem_ofPairs (get?_mem here))
    obtain ⟨other, there⟩ := get?_ofPairs_of_mem member
    have same := List.inj_on_of_nodup_map distinct member (mem_ofPairs (get?_mem there)) rfl
    rw [there, (Prod.mk.inj same).2]

theorem erase_sublist (key : κ) (d : List (κ × α)) : (erase key d).Sublist d := by
  induction d with
  | nil => exact List.Sublist.slnil
  | cons p rest ih =>
    obtain ⟨k, v⟩ := p
    simp only [erase]
    split_ifs
    · exact List.sublist_cons_self _ _
    · exact ih.cons_cons _

theorem sorted_erase {d : List (κ × α)} (key : κ) (sorted : Sorted d) : Sorted (erase key d) :=
  List.Pairwise.sublist (erase_sublist key d) sorted

theorem get?_erase {d : List (κ × α)} (sorted : Sorted d) (key other : κ) :
    get? other (erase key d) = if other = key then none else get? other d := by
  induction d with
  | nil => simp [erase]
  | cons p rest ih =>
    obtain ⟨k, v⟩ := p
    obtain ⟨above, sortedRest⟩ := sorted_cons.mp sorted
    simp only [erase]
    by_cases here : key = k
    · subst here
      by_cases same : other = key
      · subst same
        simpa using get?_eq_none_of_lt above
      · simp [same]
    · simp only [here, if_false, get?_cons, ih sortedRest]
      by_cases same : other = k
      · subst same
        simp [Ne.symm here]
      · simp [same]

theorem get?_ofPairs_append (xs ys : List (κ × α)) (key : κ) :
    get? key (ofPairs (xs ++ ys)) = (get? key (ofPairs ys)).or (get? key (ofPairs xs)) := by
  induction xs with
  | nil => simp
  | cons p xs ih =>
    obtain ⟨k, v⟩ := p
    rw [List.cons_append, get?_ofPairs_cons, get?_ofPairs_cons, ih, Option.or_assoc]

theorem get?_ofPairs_eq_none {pairs : List (κ × α)} {key : κ} (missing : ∀ p ∈ pairs, p.1 ≠ key) :
    get? key (ofPairs pairs) = none := by
  cases found : get? key (ofPairs pairs) with
  | none => rfl
  | some v => exact absurd rfl (missing _ (mem_ofPairs (get?_mem found)))

theorem insert_appended (pairs : List (κ × α)) (key : κ) (a b : α) :
    insert key b (ofPairs (pairs ++ [(key, a)])) = ofPairs (pairs ++ [(key, b)]) := by
  apply ext_of_sorted (sorted_insert _ _ (sorted_ofPairs _)) (sorted_ofPairs _)
  intro other
  rw [get?_insert, get?_ofPairs_append, get?_ofPairs_append]
  by_cases same : other = key
  · subst same
    simp
  · simp [same]

theorem erase_appended {pairs : List (κ × α)} {key : κ} (absent : ∀ p ∈ pairs, p.1 ≠ key) (a : α) :
    erase key (ofPairs (pairs ++ [(key, a)])) = ofPairs pairs := by
  have sorted := sorted_ofPairs (pairs ++ [(key, a)])
  apply ext_of_sorted (sorted_erase _ sorted) (sorted_ofPairs _)
  intro other
  rw [get?_erase sorted, get?_ofPairs_append]
  by_cases same : other = key
  · subst same
    simp [get?_ofPairs_eq_none absent]
  · simp [same]

/-- Taking out the two keys a dictionary was extended by gives it back. -/
theorem erase_extended {pairs : List (κ × α)} {first second : κ} {a b : α}
    (noFirst : ∀ p ∈ pairs, p.1 ≠ first) (noSecond : ∀ p ∈ pairs, p.1 ≠ second) :
    erase first (erase second (ofPairs (pairs ++ [(first, a), (second, b)]))) = ofPairs pairs := by
  have sorted := sorted_ofPairs (pairs ++ [(first, a), (second, b)])
  apply ext_of_sorted (sorted_erase _ (sorted_erase _ sorted)) (sorted_ofPairs _)
  intro key
  rw [get?_erase (sorted_erase _ sorted), get?_erase sorted, get?_ofPairs_append]
  by_cases isFirst : key = first
  · subst isFirst
    simp [get?_ofPairs_eq_none noFirst]
  · by_cases isSecond : key = second
    · subst isSecond
      simp [get?_ofPairs_eq_none noSecond]
    · simp [isFirst, isSecond]

/-- A measure summed over the values. -/
def total (f : α → Nat) (d : List (κ × α)) : Nat := (d.map (fun p => f p.2)).sum

theorem total_insert_new (f : α → Nat) {d : List (κ × α)} {key : κ} (absent : get? key d = none) (value : α) :
    total f (insert key value d) = total f d + f value := by
  induction d with
  | nil => simp [insert, total]
  | cons q rest ih =>
    obtain ⟨k, v⟩ := q
    by_cases same : key = k
    · simp [same] at absent
    · have later := ih (by simpa [same] using absent)
      simp only [total] at later
      simp only [insert, same, if_false]
      split
      · simp [total, Nat.add_comm]
      · simp only [total, List.map_cons, List.sum_cons, later]
        omega

theorem total_insert_known (f : α → Nat) {d : List (κ × α)} (sorted : Sorted d) {key : κ} {old : α}
    (found : get? key d = some old) (value : α) : total f (insert key value d) + f old = total f d + f value := by
  induction d with
  | nil => simp at found
  | cons q rest ih =>
    obtain ⟨k, v⟩ := q
    obtain ⟨above, sortedRest⟩ := sorted_cons.mp sorted
    by_cases same : key = k
    · obtain rfl : v = old := by simpa [same] using found
      simp only [insert, same, lt_irrefl, if_false, if_true, total, List.map_cons, List.sum_cons]
      omega
    · rw [get?_cons, if_neg same] at found
      have after : ¬key < k := fun before => before.not_gt (above _ (get?_mem found))
      have later := ih sortedRest found
      simp only [total] at later
      simp only [insert, same, after, if_false, total, List.map_cons, List.sum_cons]
      omega

theorem sorted_map {f : α → β} {d : List (κ × α)} (sorted : Sorted d) :
    Sorted (d.map (fun p => (p.1, f p.2))) := by
  simpa [Sorted, List.pairwise_map] using sorted

theorem get?_map (f : α → β) (d : List (κ × α)) (key : κ) :
    get? key (d.map (fun p => (p.1, f p.2))) = (get? key d).map f := by
  induction d with
  | nil => rfl
  | cons p rest ih =>
    obtain ⟨k, v⟩ := p
    by_cases here : key = k <;> simp [here, ih]

theorem erase_map (f : α → β) (key : κ) (d : List (κ × α)) :
    (erase key d).map (fun p => (p.1, f p.2)) = erase key (d.map (fun p => (p.1, f p.2))) := by
  induction d with
  | nil => rfl
  | cons p rest ih =>
    obtain ⟨k, v⟩ := p
    simp only [erase, List.map_cons]
    split_ifs <;> simp [ih]

theorem insert_map (f : α → β) (key : κ) (value : α) (d : List (κ × α)) :
    (insert key value d).map (fun p => (p.1, f p.2)) =
      insert key (f value) (d.map (fun p => (p.1, f p.2))) := by
  induction d with
  | nil => rfl
  | cons p rest ih =>
    obtain ⟨k, v⟩ := p
    simp only [insert, List.map_cons]
    split_ifs <;> simp [ih]

theorem insertAll_map (f : α → β) (d pairs : List (κ × α)) :
    (insertAll d pairs).map (fun p => (p.1, f p.2)) =
      insertAll (d.map (fun p => (p.1, f p.2))) (pairs.map (fun p => (p.1, f p.2))) := by
  induction pairs generalizing d with
  | nil => rfl
  | cons p rest ih =>
    obtain ⟨k, v⟩ := p
    rw [insertAll, ih, insert_map]
    rfl

theorem ofPairs_map (f : α → β) (pairs : List (κ × α)) :
    (ofPairs pairs).map (fun p => (p.1, f p.2)) =
      ofPairs (pairs.map (fun p => (p.1, f p.2))) :=
  insertAll_map f [] pairs

end Dict
