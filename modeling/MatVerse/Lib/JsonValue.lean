import MatVerse.Lib.Json

/-! The JSON value that a dynamic value stands for: a number is its exact value, held as
an integer or as a float. Host equality of documents is equality of these values once
booleans are read as numbers. -/

inductive JsonValue where
  | null
  | bool (value : Bool)
  | number (value : ℚ)
  | str (value : String)
  | arr (items : List JsonValue)
  | obj (entries : List (String × JsonValue))

namespace JsonValue

inductive Kind where
  | null
  | boolean
  | number
  | string
  | array
  | object
  deriving DecidableEq

def kind : JsonValue → Kind
  | null => .null
  | bool _ => .boolean
  | number _ => .number
  | str _ => .string
  | arr _ => .array
  | obj _ => .object

mutual
/-- Booleans read as numbers. -/
def numbered : JsonValue → JsonValue
  | null => null
  | bool b => number (if b then 1 else 0)
  | number q => number q
  | str s => str s
  | arr items => arr (numberedItems items)
  | obj entries => obj (numberedEntries entries)
def numberedItems : List JsonValue → List JsonValue
  | [] => []
  | v :: rest => numbered v :: numberedItems rest
def numberedEntries : List (String × JsonValue) → List (String × JsonValue)
  | [] => []
  | (k, v) :: rest => (k, numbered v) :: numberedEntries rest
end

theorem numberedItems_eq (items : List JsonValue) : numberedItems items = items.map numbered := by
  induction items with
  | nil => rfl
  | cons v rest ih => simp [numberedItems, ih]

theorem numberedEntries_eq (entries : List (String × JsonValue)) :
    numberedEntries entries = entries.map (fun p => (p.1, numbered p.2)) := by
  induction entries with
  | nil => rfl
  | cons p rest ih => simp [numberedEntries, ih]

end JsonValue

namespace Json

mutual
def meaning : Json → JsonValue
  | null => .null
  | bool b => .bool b
  | int i => .number i
  | float x => .number (x.toRat?.getD 0)
  | str s => .str s
  | arr items => .arr (meaningItems items)
  | obj entries => .obj (meaningEntries entries)
def meaningItems : List Json → List JsonValue
  | [] => []
  | v :: rest => meaning v :: meaningItems rest
def meaningEntries : List (String × Json) → List (String × JsonValue)
  | [] => []
  | (k, v) :: rest => (k, meaning v) :: meaningEntries rest
end

theorem meaningItems_eq (items : List Json) : meaningItems items = items.map meaning := by
  induction items with
  | nil => rfl
  | cons v rest ih => simp [meaningItems, ih]

theorem meaningEntries_eq (entries : List (String × Json)) :
    meaningEntries entries = entries.map (fun p => (p.1, meaning p.2)) := by
  induction entries with
  | nil => rfl
  | cons p rest ih => simp [meaningEntries, ih]

@[simp] theorem meaning_arr (items : List Json) : meaning (arr items) = .arr (items.map meaning) := by
  rw [meaning, meaningItems_eq]

@[simp] theorem meaning_obj (entries : List (String × Json)) :
    meaning (obj entries) = .obj (entries.map (fun p => (p.1, meaning p.2))) := by
  rw [meaning, meaningEntries_eq]

mutual
def finite : Json → Bool
  | float x => x.isFinite
  | arr items => finiteItems items
  | obj entries => finiteEntries entries
  | null | bool _ | int _ | str _ => true
def finiteItems : List Json → Bool
  | [] => true
  | v :: rest => finite v && finiteItems rest
def finiteEntries : List (String × Json) → Bool
  | [] => true
  | (_, v) :: rest => finite v && finiteEntries rest
end

theorem finite_arr {items : List Json} : (arr items).finite = true ↔ ∀ v ∈ items, v.finite = true := by
  rw [finite]
  induction items with
  | nil => simp [finiteItems]
  | cons v rest ih => simp [finiteItems, ih]

theorem finite_obj {entries : List (String × Json)} : (obj entries).finite = true ↔
    ∀ p ∈ entries, p.2.finite = true := by
  rw [finite]
  induction entries with
  | nil => simp [finiteEntries]
  | cons p rest ih => simp only [finiteEntries, Bool.and_eq_true, ih, List.forall_mem_cons]

/-- The value with its booleans read as numbers. -/
def loose (v : Json) : JsonValue := v.meaning.numbered

@[simp] theorem loose_null : loose null = .null := rfl
@[simp] theorem loose_bool (b : Bool) : loose (bool b) = .number (if b then 1 else 0) := rfl
@[simp] theorem loose_int (i : Int) : loose (int i) = .number i := rfl
@[simp] theorem loose_float (x : Binary64) : loose (float x) = .number (x.toRat?.getD 0) := rfl
@[simp] theorem loose_str (s : String) : loose (str s) = .str s := rfl
@[simp] theorem loose_arr (items : List Json) : loose (arr items) = .arr (items.map loose) := by
  rw [loose, meaning_arr, JsonValue.numbered, JsonValue.numberedItems_eq, List.map_map]
  rfl
@[simp] theorem loose_obj (entries : List (String × Json)) :
    loose (obj entries) = .obj (entries.map (fun p => (p.1, loose p.2))) := by
  rw [loose, meaning_obj, JsonValue.numbered, JsonValue.numberedEntries_eq, List.map_map]
  rfl

theorem isNan_of_finite {v : Json} (finite : v.finite = true) : v.isNan = false := by
  cases v with
  | float x => cases x <;> first | rfl | cases finite
  | _ => rfl

theorem pyEqItems_iff {xs ys : List Json} (number : ∀ v ∈ xs, v.isNan = false)
    (each : ∀ v ∈ xs, ∀ w ∈ ys, v.pyEq w = true ↔ v.loose = w.loose) :
    pyEqItems xs ys = true ↔ xs.map loose = ys.map loose := by
  induction xs generalizing ys with
  | nil => cases ys <;> simp [pyEqItems]
  | cons v xs ih =>
    cases ys with
    | nil => simp [pyEqItems]
    | cons w ys =>
      rw [pyEqItems, number v (by simp), Bool.false_and, Bool.false_or, Bool.and_eq_true, each v (by simp) w (by simp),
        ih (fun x member => number x (by simp [member]))
        (fun x member y other => each x (by simp [member]) y (by simp [other])),
        List.map_cons, List.map_cons, List.cons.injEq]

theorem pyEqEntries_iff {xs ys : List (String × Json)} (number : ∀ p ∈ xs, p.2.isNan = false)
    (each : ∀ p ∈ xs, ∀ q ∈ ys, p.2.pyEq q.2 = true ↔ p.2.loose = q.2.loose) :
    pyEqEntries xs ys = true ↔ xs.map (fun p => (p.1, loose p.2)) = ys.map (fun p => (p.1, loose p.2)) := by
  induction xs generalizing ys with
  | nil => cases ys <;> simp [pyEqEntries]
  | cons p xs ih =>
    cases ys with
    | nil => simp [pyEqEntries]
    | cons q ys =>
      rw [pyEqEntries, number p (by simp), Bool.false_and, Bool.false_or, Bool.and_eq_true, Bool.and_eq_true,
        beq_iff_eq, each p (by simp) q (by simp),
        ih (fun x member => number x (by simp [member]))
        (fun x member y other => each x (by simp [member]) y (by simp [other])),
        List.map_cons, List.map_cons, List.cons.injEq, Prod.mk.injEq]

theorem toRat?_of_finite {x : Binary64} (finite : (float x).finite = true) : ∃ q, x.toRat? = some q := by
  cases x with
  | finite negative m e canonical => exact ⟨_, rfl⟩
  | _ => cases finite

theorem eqv_iff {x y : Binary64} (left : (float x).finite = true) (right : (float y).finite = true) :
    x.eqv y = true ↔ x.toRat? = y.toRat? := by
  cases x with
  | finite negative m e canonical =>
    cases y with
    | finite negative' m' e' canonical' => exact beq_iff_eq
    | _ => cases right
  | _ => cases left

theorem pyEq_iff {v w : Json} (left : v.finite = true) (right : w.finite = true) :
    v.pyEq w = true ↔ v.loose = w.loose := by
  induction v using Json.induction generalizing w with
  | null => cases w <;> simp [pyEq, number?]
  | bool b =>
    cases w with
    | float y =>
      obtain ⟨q, number⟩ := toRat?_of_finite right
      simp [pyEq, number?, number]
    | _ => simp [pyEq, number?]
  | int i =>
    cases w with
    | float y =>
      obtain ⟨q, number⟩ := toRat?_of_finite right
      simp [pyEq, number?, number]
    | _ => simp [pyEq, number?]
  | float x =>
    obtain ⟨p, number⟩ := toRat?_of_finite left
    cases w with
    | float y =>
      obtain ⟨q, number'⟩ := toRat?_of_finite right
      rw [pyEq, eqv_iff left right]
      simp [number, number']
    | _ => simp [pyEq, number?, number]
  | str s => cases w <;> simp [pyEq, number?]
  | arr items ih =>
    rw [finite_arr] at left
    cases w with
    | arr others =>
      rw [finite_arr] at right
      rw [pyEq, pyEqItems_iff (fun v member => isNan_of_finite (left v member))
        (fun v member w other => ih v member (left v member) (right w other))]
      simp
    | _ => simp [pyEq, number?]
  | obj entries ih =>
    rw [finite_obj] at left
    cases w with
    | obj others =>
      rw [finite_obj] at right
      rw [pyEq, pyEqEntries_iff (fun p member => isNan_of_finite (left p member))
        (fun p member q other => ih p member (left p member) (right q other))]
      simp
    | _ => simp [pyEq, number?]

end Json
