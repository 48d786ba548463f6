import MatVerse.Lib.Dict
import MatVerse.Lib.Binary64

/-! JSON values as a dynamic language holds them. A raw object is its pairs in
written order, the later pair of a key winning; a normal value has every object
in key order, so equal dictionaries are equal terms. -/

inductive Json where
  | null
  | bool (value : Bool)
  | int (value : Int)
  | float (value : Binary64)
  | str (value : String)
  | arr (items : List Json)
  | obj (entries : List (String × Json))

namespace Json

/-- Induction over a value, with a hypothesis for each element and each entry. -/
@[elab_as_elim]
theorem induction {motive : Json → Prop} (null : motive null) (bool : ∀ b, motive (bool b))
    (int : ∀ i, motive (int i)) (float : ∀ x, motive (float x)) (str : ∀ s, motive (str s))
    (arr : ∀ items, (∀ v ∈ items, motive v) → motive (arr items))
    (obj : ∀ entries, (∀ p ∈ entries, motive p.2) → motive (obj entries)) (v : Json) : motive v :=
  @Json.rec motive (fun items => ∀ v ∈ items, motive v) (fun entries => ∀ p ∈ entries, motive p.2)
    (fun p => motive p.2)
    null bool int float str (fun items ih => arr items ih) (fun entries ih => obj entries ih)
    (by simp) (by simp +contextual) (by simp) (by simp +contextual) (fun _ _ h => h) v

def dict (pairs : List (String × Json)) : Json := obj (Dict.ofPairs pairs)

mutual
def norm : Json → Json
  | null => null
  | bool b => bool b
  | int i => int i
  | float x => float x
  | str s => str s
  | arr items => arr (normItems items)
  | obj entries => dict (normEntries entries)
def normItems : List Json → List Json
  | [] => []
  | v :: rest => norm v :: normItems rest
def normEntries : List (String × Json) → List (String × Json)
  | [] => []
  | (k, v) :: rest => (k, norm v) :: normEntries rest
end

theorem normItems_eq (items : List Json) : normItems items = items.map norm := by
  induction items with
  | nil => rfl
  | cons v rest ih => simp [normItems, ih]

theorem normEntries_eq (entries : List (String × Json)) :
    normEntries entries = entries.map (fun p => (p.1, norm p.2)) := by
  induction entries with
  | nil => rfl
  | cons p rest ih => simp [normEntries, ih]

@[simp] theorem norm_null : norm null = null := rfl
@[simp] theorem norm_bool (b : Bool) : norm (bool b) = bool b := rfl
@[simp] theorem norm_int (i : Int) : norm (int i) = int i := rfl
@[simp] theorem norm_float (x : Binary64) : norm (float x) = float x := rfl
@[simp] theorem norm_str (s : String) : norm (str s) = str s := rfl
@[simp] theorem norm_arr (items : List Json) : norm (arr items) = arr (items.map norm) := by
  rw [norm, normItems_eq]

theorem norm_obj (entries : List (String × Json)) :
    norm (obj entries) = dict (entries.map (fun p => (p.1, norm p.2))) := by
  rw [norm, normEntries_eq]

@[simp] theorem norm_dict (pairs : List (String × Json)) :
    norm (dict pairs) = dict (pairs.map (fun p => (p.1, norm p.2))) := by
  rw [dict, norm_obj, Dict.ofPairs_map, dict, Dict.ofPairs_of_sorted (Dict.sorted_ofPairs _)]
  rfl

@[simp] theorem norm_norm (v : Json) : norm (norm v) = norm v := by
  induction v using Json.induction with
  | null => rfl
  | bool => rfl
  | int => rfl
  | float => rfl
  | str => rfl
  | arr items ih => simpa using ih
  | obj entries ih =>
    rw [norm_obj, norm_dict, List.map_map]
    congr 1
    exact List.map_congr_left (fun p member => by simp [ih p member])

def Normal (v : Json) : Prop := norm v = v

@[simp] theorem normal_norm (v : Json) : (norm v).Normal := norm_norm v

def get? (key : String) : Json → Option Json
  | obj entries => Dict.get? key entries
  | _ => none

@[simp] theorem get?_dict (key : String) (pairs : List (String × Json)) :
    (dict pairs).get? key = Dict.get? key (Dict.ofPairs pairs) := rfl

theorem map_eq_self {α : Type} {f : α → α} {items : List α} :
    items.map f = items ↔ ∀ v ∈ items, f v = v := by
  simpa using List.map_inj_left (l := items) (f := f) (g := id)

theorem normal_obj {entries : List (String × Json)} :
    (obj entries).Normal ↔ Dict.Sorted entries ∧ ∀ p ∈ entries, p.2.Normal := by
  unfold Normal
  rw [norm_obj, dict]
  constructor
  · intro h
    have shape := Json.obj.inj h
    rw [← Dict.ofPairs_map] at shape
    have sorted : Dict.Sorted entries := by
      rw [← shape, Dict.ofPairs_map]
      exact Dict.sorted_ofPairs _
    refine ⟨sorted, ?_⟩
    rw [Dict.ofPairs_of_sorted sorted] at shape
    intro p member
    have := (map_eq_self.mp shape) p member
    exact congrArg Prod.snd this
  · rintro ⟨sorted, values⟩
    rw [Dict.ofPairs_of_sorted (Dict.sorted_map sorted)]
    congr 1
    exact map_eq_self.mpr (fun p member => Prod.ext rfl (values p member))

theorem normal_arr {items : List Json} : (arr items).Normal ↔ ∀ v ∈ items, v.Normal := by
  unfold Normal
  simp [map_eq_self]

theorem normal_dict {pairs : List (String × Json)} (values : ∀ p ∈ pairs, p.2.Normal) :
    (dict pairs).Normal :=
  normal_obj.mpr ⟨Dict.sorted_ofPairs _, fun p member => values p (Dict.mem_ofPairs member)⟩

/-- The normal form of an object whose values are normal is the dictionary of its pairs. -/
theorem norm_obj_of_normal {pairs : List (String × Json)} (values : ∀ p ∈ pairs, p.2.Normal) :
    norm (obj pairs) = dict pairs := by
  have itself : pairs.map (fun p => (p.1, norm p.2)) = pairs :=
    map_eq_self.mpr (fun p member => Prod.ext rfl (values p member))
  rw [norm_obj, itself]

theorem Normal.get? {v w : Json} (normal : v.Normal) {key : String} (found : v.get? key = some w) :
    w.Normal := by
  cases v with
  | obj entries => exact (normal_obj.mp normal).2 _ (Dict.get?_mem found)
  | _ => cases found

/-! ## Comparison and truth of dynamic values -/

/-- The exact number a boolean, an integer or a finite float stands for. -/
def number? : Json → Option ℚ
  | bool b => some (if b then 1 else 0)
  | int i => some i
  | float x => x.toRat?
  | _ => none

def isNan : Json → Bool
  | float .nan => true
  | _ => false

mutual
/-- `==` between normal values: numbers by value across their types, nan equal
to nothing. Inside a container the reader's one nan object equals itself. -/
def pyEq : Json → Json → Bool
  | null, null => true
  | str a, str b => a == b
  | arr xs, arr ys => pyEqItems xs ys
  | obj xs, obj ys => pyEqEntries xs ys
  | float x, float y => x.eqv y
  | v, w =>
    match v.number?, w.number? with
    | some x, some y => x == y
    | _, _ => false
def pyEqItems : List Json → List Json → Bool
  | [], [] => true
  | v :: xs, w :: ys => ((v.isNan && w.isNan) || pyEq v w) && pyEqItems xs ys
  | _, _ => false
def pyEqEntries : List (String × Json) → List (String × Json) → Bool
  | [], [] => true
  | (k, v) :: xs, (l, w) :: ys => k == l && ((v.isNan && w.isNan) || pyEq v w) && pyEqEntries xs ys
  | _, _ => false
end

theorem pyEq_refl {v : Json} (number : v.isNan = false) : v.pyEq v = true := by
  induction v using Json.induction with
  | null => rfl
  | bool b => cases b <;> simp [pyEq, number?]
  | int i => simp [pyEq, number?]
  | float x =>
    cases x with
    | nan => simp [isNan] at number
    | inf => simp [pyEq, Binary64.eqv]
    | finite => simp [pyEq, Binary64.eqv]
  | str s => simp [pyEq]
  | arr items ih =>
    rw [pyEq]
    clear number
    induction items with
    | nil => rfl
    | cons v rest tail =>
      have head : (v.isNan && v.isNan || v.pyEq v) = true := by
        cases nan : v.isNan with
        | true => rfl
        | false => simpa using ih v (by simp) nan
      simp only [pyEqItems, head, Bool.true_and]
      exact tail (fun w member => ih w (List.mem_cons_of_mem _ member))
  | obj entries ih =>
    rw [pyEq]
    clear number
    induction entries with
    | nil => rfl
    | cons p rest tail =>
      obtain ⟨k, v⟩ := p
      have head : (v.isNan && v.isNan || v.pyEq v) = true := by
        cases nan : v.isNan with
        | true => rfl
        | false => simpa using ih (k, v) (by simp) nan
      simp only [pyEqEntries, head, beq_self_eq_true, Bool.true_and]
      exact tail (fun w member => ih w (List.mem_cons_of_mem _ member))

theorem pyEq_str {v : Json} {s : String} : v.pyEq (str s) = true ↔ v = str s := by
  cases v <;> simp [pyEq, number?]

/-- An object equal to one that holds only strings is that object. -/
theorem pyEq_strs {v : Json} {entries : List (String × Json)} (strs : ∀ p ∈ entries, ∃ s, p.2 = str s)
    (equal : v.pyEq (obj entries) = true) : v = obj entries := by
  cases v with
  | obj xs =>
    rw [pyEq] at equal
    congr 1
    induction entries generalizing xs with
    | nil =>
      cases xs with
      | nil => rfl
      | cons p rest => simp [pyEqEntries] at equal
    | cons p rest ih =>
      obtain ⟨k, w⟩ := p
      obtain ⟨s, rfl⟩ := strs (k, w) (by simp)
      cases xs with
      | nil => simp [pyEqEntries] at equal
      | cons q xs =>
        obtain ⟨l, v⟩ := q
        simp only [pyEqEntries, isNan, Bool.and_false, Bool.false_or, Bool.and_eq_true, beq_iff_eq] at equal
        obtain ⟨⟨rfl, same⟩, others⟩ := equal
        rw [pyEq_str.mp same, ih (fun p member => strs p (List.mem_cons_of_mem _ member)) xs others]
  | _ => simp [pyEq, number?] at equal

def truthy : Json → Bool
  | null => false
  | bool b => b
  | int i => i != 0
  | float x => !x.eqv (.zero false)
  | str s => s != ""
  | arr items => !items.isEmpty
  | obj entries => !entries.isEmpty

def entries : Json → List (String × Json)
  | obj entries => entries
  | _ => []

def isObj : Json → Bool
  | obj _ => true
  | _ => false

/-! ## Nesting -/

mutual
/-- How many arrays and objects lie around the innermost value. -/
def depth : Json → Nat
  | null => 0
  | bool _ => 0
  | int _ => 0
  | float _ => 0
  | str _ => 0
  | arr items => depthItems items + 1
  | obj entries => depthEntries entries + 1
def depthItems : List Json → Nat
  | [] => 0
  | v :: rest => max (depth v) (depthItems rest)
def depthEntries : List (String × Json) → Nat
  | [] => 0
  | (_, v) :: rest => max (depth v) (depthEntries rest)
end

theorem depthItems_le {items : List Json} {n : Nat} : depthItems items ≤ n ↔ ∀ v ∈ items, v.depth ≤ n := by
  induction items with
  | nil => simp [depthItems]
  | cons v rest ih => simp [depthItems, ih]

theorem depthEntries_le {entries : List (String × Json)} {n : Nat} :
    depthEntries entries ≤ n ↔ ∀ p ∈ entries, p.2.depth ≤ n := by
  induction entries with
  | nil => simp [depthEntries]
  | cons p rest ih =>
    obtain ⟨k, v⟩ := p
    simp [depthEntries, ih]

@[simp] theorem depth_null : depth null = 0 := rfl
@[simp] theorem depth_bool (b : Bool) : depth (bool b) = 0 := rfl
@[simp] theorem depth_str (s : String) : depth (str s) = 0 := rfl

theorem depth_arr_le {items : List Json} {n : Nat} : (arr items).depth ≤ n + 1 ↔ ∀ v ∈ items, v.depth ≤ n := by
  rw [depth, Nat.add_le_add_iff_right, depthItems_le]

theorem depth_obj_le {entries : List (String × Json)} {n : Nat} :
    (obj entries).depth ≤ n + 1 ↔ ∀ p ∈ entries, p.2.depth ≤ n := by
  rw [depth, Nat.add_le_add_iff_right, depthEntries_le]

theorem depth_dict_le {pairs : List (String × Json)} {n : Nat} (each : ∀ p ∈ pairs, p.2.depth ≤ n) :
    (dict pairs).depth ≤ n + 1 :=
  depth_obj_le.mpr fun p member => each p (Dict.mem_ofPairs member)

theorem depth_item {items : List Json} {v : Json} (member : v ∈ items) : v.depth + 1 ≤ (arr items).depth := by
  rw [depth, Nat.add_le_add_iff_right]
  exact depthItems_le.mp (Nat.le_refl _) v member

theorem depth_field {v w : Json} {key : String} (found : v.get? key = some w) : w.depth + 1 ≤ v.depth := by
  cases v with
  | obj entries =>
    rw [depth, Nat.add_le_add_iff_right]
    exact depthEntries_le.mp (Nat.le_refl _) _ (Dict.get?_mem found)
  | _ => cases found

end Json
