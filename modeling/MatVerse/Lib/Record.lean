import MatVerse.Lib.Json

/-! Validation of a JSON object against a declared record: which keys it may
have, and what each field accepts. Extra keys are refused; an absent optional
field takes its default. -/
namespace Record

/-- A dictionary in normal form. -/
abbrev Object := { v : Json // v.isObj = true ∧ v.Normal }

/-- The value is an object with no keys but the known ones. -/
def closed (known : List String) : Json → Bool
  | .obj entries => entries.all (fun p => known.contains p.1)
  | _ => false

def text : Option Json → Option String
  | some (.str s) => some s
  | _ => none

/-- An optional text: absent and null are `None`. -/
def optText : Option Json → Option (Option String)
  | none => some none
  | some .null => some none
  | some (.str s) => some (some s)
  | _ => none

/-- A field with one admitted text, which is also its default. -/
def constant (value : String) : Option Json → Option Unit
  | none => some ()
  | some (.str s) => if s = value then some () else none
  | _ => none

def oneOf (values : List String) : Option Json → Option String
  | some (.str s) => if values.contains s then some s else none
  | _ => none

def texts : Option Json → Option (List String)
  | some (.arr items) => items.mapM (fun v => text (some v))
  | _ => none

/-- A list of texts, empty when absent. -/
def textsOrEmpty : Option Json → Option (List String)
  | none => some []
  | v => texts v

def trueWords : List String := ["1", "on", "t", "true", "y", "yes"]
def falseWords : List String := ["0", "off", "f", "false", "n", "no"]

/-- An optional flag, with the numbers and words a lax validator takes for one. -/
def optFlag : Option Json → Option (Option Bool)
  | none => some none
  | some .null => some none
  | some (.bool b) => some (some b)
  | some (.str s) =>
    if trueWords.contains s.toLower then some (some true)
    else if falseWords.contains s.toLower then some (some false)
    else none
  | some v =>
    if v.pyEq (.int 1) then some (some true)
    else if v.pyEq (.int 0) then some (some false)
    else none

def object : Option Json → Option Object
  | some v => if h : v.isObj = true then some ⟨v.norm, by
      cases v with
      | obj entries => simp [Json.norm_obj, Json.dict, Json.isObj]
      | _ => simp [Json.isObj] at h, Json.normal_norm v⟩ else none
  | none => none

/-- A text whose length is within bounds, in characters. -/
def sized (least : Nat) (most : Option Nat) (s : String) : Option String :=
  if least ≤ s.length ∧ (∀ m ∈ most, s.length ≤ m) then some s else none

/-! ## What a validator that accepted has read -/

theorem bind_some {α β : Type} {x : Option α} {f : α → Option β} {r : β} :
    (x >>= f) = some r ↔ ∃ a, x = some a ∧ f a = some r := Option.bind_eq_some_iff

theorem pure_some {α : Type} {a r : α} : (pure a : Option α) = some r ↔ a = r := by
  simp [pure]

@[simp] theorem text_str (s : String) : text (some (.str s)) = some s := rfl
@[simp] theorem constant_str (s : String) : constant s (some (.str s)) = some () := by simp [constant]
@[simp] theorem object_val (o : Object) : object (some o.1) = some o := by
  have h : o.1.isObj = true := o.2.1
  simp only [object, h, dite_true, Option.some.injEq]
  exact Subtype.ext o.2.2

theorem mapM_text (ss : List String) : (ss.map Json.str).mapM (fun v => text (some v)) = some ss := by
  induction ss with
  | nil => rfl
  | cons s ss ih => simp [ih]

@[simp] theorem texts_arr (ss : List String) : texts (some (.arr (ss.map .str))) = some ss := mapM_text ss

/-- The pairs of a dictionary have known keys when the pairs it is built from do. -/
theorem closed_dict {known : List String} {pairs : List (String × Json)}
    (within : ∀ p ∈ pairs, p.1 ∈ known) : closed known (.dict pairs) = true := by
  apply List.all_eq_true.mpr
  intro p member
  simpa using within p (Dict.mem_ofPairs member)

end Record
