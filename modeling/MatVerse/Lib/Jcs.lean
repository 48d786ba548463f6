import MatVerse.Lib.JsonRoundTrip

/-! Canonical JSON text: the entries of an object in the order of the UTF-16 code
units of their keys, integral floats written as integers. The text determines the
value up to that reading of floats. -/
namespace Jcs

def codeUnits (c : Char) : List Nat :=
  if c.toNat < 0x10000 then [c.toNat]
  else [0xD800 + (c.toNat - 0x10000) / 1024, 0xDC00 + (c.toNat - 0x10000) % 1024]

/-- The UTF-16 code units of a key. -/
def sortKey (key : String) : List Nat := key.toList.flatMap codeUnits

def entryLe (a b : String × Json) : Bool := !decide (sortKey b.1 < sortKey a.1)

/-- The integer an integral float stands for. -/
def integral (x : Binary64) : Option Int :=
  match x.toRat? with
  | some q => if q.den = 1 then some q.num else none
  | none => none

/-- The largest magnitude at which every integer is a binary64. -/
def safeInteger : Nat := 9007199254740991

def isSafe (i : Int) : Bool := i.natAbs ≤ safeInteger

theorem integral_ofSigned {i : Int} (safe : isSafe i = true) : integral (Binary64.ofSigned i) = some i := by
  have small : i.natAbs < 2 ^ 53 := by
    have : i.natAbs ≤ safeInteger := by simpa [isSafe] using safe
    exact lt_of_le_of_lt this (by decide)
  rw [integral, Binary64.toRat?_ofSigned_intCast small]
  simp
mutual
/-- A value with its integral floats read as integers. -/
def plain : Json → Json
  | .float x => (integral x).elim (.float x) .int
  | .arr items => .arr (plainItems items)
  | .obj entries => .obj (plainEntries entries)
  | .null => .null
  | .bool b => .bool b
  | .int i => .int i
  | .str s => .str s
def plainItems : List Json → List Json
  | [] => []
  | v :: rest => plain v :: plainItems rest
def plainEntries : List (String × Json) → List (String × Json)
  | [] => []
  | (k, v) :: rest => (k, plain v) :: plainEntries rest
end

mutual
/-- A value with the entries of its objects in canonical order. -/
def ordered : Json → Json
  | .arr items => .arr (orderedItems items)
  | .obj entries => .obj ((orderedEntries entries).mergeSort entryLe)
  | .null => .null
  | .bool b => .bool b
  | .int i => .int i
  | .float x => .float x
  | .str s => .str s
def orderedItems : List Json → List Json
  | [] => []
  | v :: rest => ordered v :: orderedItems rest
def orderedEntries : List (String × Json) → List (String × Json)
  | [] => []
  | (k, v) :: rest => (k, ordered v) :: orderedEntries rest
end

def text (v : Json) : String := JsonText.dumps JsonText.compact (ordered (plain v.norm))

mutual
/-- Only safe integers and floats that stand for one. -/
def isPlainable : Json → Bool
  | .int i => isSafe i
  | .float x => (integral x).any isSafe
  | .arr items => arePlainable items
  | .obj entries => entriesPlainable entries
  | .null | .bool _ | .str _ => true
def arePlainable : List Json → Bool
  | [] => true
  | v :: rest => isPlainable v && arePlainable rest
def entriesPlainable : List (String × Json) → Bool
  | [] => true
  | (_, v) :: rest => isPlainable v && entriesPlainable rest
end

theorem plainItems_eq (items : List Json) : plainItems items = items.map plain := by
  induction items with
  | nil => rfl
  | cons v rest ih => simp [plainItems, ih]

theorem plainEntries_eq (entries : List (String × Json)) :
    plainEntries entries = entries.map (fun p => (p.1, plain p.2)) := by
  induction entries with
  | nil => rfl
  | cons p rest ih => simp [plainEntries, ih]

theorem orderedItems_eq (items : List Json) : orderedItems items = items.map ordered := by
  induction items with
  | nil => rfl
  | cons v rest ih => simp [orderedItems, ih]

theorem orderedEntries_eq (entries : List (String × Json)) :
    orderedEntries entries = entries.map (fun p => (p.1, ordered p.2)) := by
  induction entries with
  | nil => rfl
  | cons p rest ih => simp [orderedEntries, ih]

theorem normal_plain {v : Json} (normal : v.Normal) : (plain v).Normal := by
  induction v using Json.induction with
  | null => rfl
  | bool => rfl
  | int => rfl
  | float x =>
    rw [plain]
    cases integral x <;> rfl
  | str => rfl
  | arr items ih =>
    rw [plain, plainItems_eq]
    apply Json.normal_arr.mpr
    intro w member
    obtain ⟨v, listed, rfl⟩ := List.mem_map.mp member
    exact ih v listed (Json.normal_arr.mp normal v listed)
  | obj entries ih =>
    rw [plain, plainEntries_eq]
    obtain ⟨sorted, values⟩ := Json.normal_obj.mp normal
    refine Json.normal_obj.mpr ⟨Dict.sorted_map sorted, ?_⟩
    intro p member
    obtain ⟨q, listed, rfl⟩ := List.mem_map.mp member
    exact ih q listed (values q listed)

theorem get?_plain (key : String) (v : Json) : (plain v).get? key = (v.get? key).map plain := by
  cases v with
  | obj entries => rw [plain, plainEntries_eq, Json.get?, Json.get?, Dict.get?_map]
  | float x =>
    rw [plain]
    cases integral x <;> rfl
  | _ => rfl

/-- Reordering the entries of a normal value does not change the value. -/
theorem norm_ordered {v : Json} (normal : v.Normal) : (ordered v).norm = v := by
  induction v using Json.induction with
  | null => rfl
  | bool => rfl
  | int => rfl
  | float => rfl
  | str => rfl
  | arr items ih =>
    rw [ordered, orderedItems_eq, Json.norm_arr, List.map_map]
    congr 1
    exact Json.map_eq_self.mpr (fun v member => ih v member (Json.normal_arr.mp normal v member))
  | obj entries ih =>
    obtain ⟨sorted, values⟩ := Json.normal_obj.mp normal
    have same : (orderedEntries entries).map (fun p => (p.1, p.2.norm)) = entries := by
      rw [orderedEntries_eq, List.map_map]
      exact Json.map_eq_self.mpr (fun p member => Prod.ext rfl (ih p member (values p member)))
    have perm := (List.mergeSort_perm (orderedEntries entries) entryLe).map (fun p => (p.1, p.2.norm))
    rw [same] at perm
    rw [ordered, Json.norm_obj, Json.dict, Dict.ofPairs_of_perm perm sorted]

/-- Reading a canonical text gives the value back, its integral floats as integers. -/
@[simp] theorem loads_text (v : Json) : JsonText.loads (text v) = some (plain v.norm) := by
  rw [text, JsonText.loads_dumps, norm_ordered (normal_plain (Json.normal_norm v))]

theorem text_injective {v w : Json} (same : text v = text w) : plain v.norm = plain w.norm := by
  have read := congrArg JsonText.loads same
  simpa using read

@[simp] theorem text_norm (v : Json) : text v.norm = text v := by
  simp [text]

theorem head_text_dict (pairs : List (String × Json)) : (text (.dict pairs)).toList.head? = some '{' := by
  rw [text, JsonText.dumps, String.toList_ofList, Json.norm_dict, Json.dict, plain, ordered]
  cases List.mergeSort (orderedEntries (plainEntries (Dict.ofPairs _))) entryLe with
  | nil => rfl
  | cons p rest => rfl

/-! ## Plain values -/

@[simp] theorem plain_plain (v : Json) : plain (plain v) = plain v := by
  induction v using Json.induction with
  | null => rfl
  | bool => rfl
  | int => rfl
  | float x =>
    rw [plain]
    cases whole : integral x with
    | none => simp [plain, whole]
    | some i => simp [plain]
  | str => rfl
  | arr items ih =>
    simp only [plain, plainItems_eq, List.map_map]
    congr 1
    exact List.map_congr_left ih
  | obj entries ih =>
    simp only [plain, plainEntries_eq, List.map_map]
    congr 1
    exact List.map_congr_left fun p member => Prod.ext rfl (ih p member)

theorem arePlainable_iff {items : List Json} : arePlainable items = true ↔ ∀ v ∈ items, isPlainable v = true := by
  induction items with
  | nil => simp [arePlainable]
  | cons v rest ih => simp [arePlainable, ih]

theorem entriesPlainable_iff {entries : List (String × Json)} :
    entriesPlainable entries = true ↔ ∀ p ∈ entries, isPlainable p.2 = true := by
  induction entries with
  | nil => simp [entriesPlainable]
  | cons p rest ih =>
    obtain ⟨k, v⟩ := p
    simp [entriesPlainable, ih]

theorem isPlainable_dict {pairs : List (String × Json)} (values : ∀ p ∈ pairs, isPlainable p.2 = true) :
    isPlainable (.dict pairs) = true := by
  rw [Json.dict, isPlainable, entriesPlainable_iff]
  exact fun p member => values p (Dict.mem_ofPairs member)

theorem isPlainable_norm {v : Json} (safe : isPlainable v = true) : isPlainable v.norm = true := by
  induction v using Json.induction with
  | null => rfl
  | bool => rfl
  | int => exact safe
  | float => exact safe
  | str => rfl
  | arr items ih =>
    rw [isPlainable, arePlainable_iff] at safe
    rw [Json.norm_arr, isPlainable, arePlainable_iff]
    intro w member
    obtain ⟨v, listed, rfl⟩ := List.mem_map.mp member
    exact ih v listed (safe v listed)
  | obj entries ih =>
    rw [isPlainable, entriesPlainable_iff] at safe
    rw [Json.norm_obj]
    apply isPlainable_dict
    intro p member
    obtain ⟨q, listed, rfl⟩ := List.mem_map.mp member
    exact ih q listed (safe q listed)

/-- Reading integral floats as integers leaves the safe values safe. -/
theorem isPlainable_plain {v : Json} (safe : isPlainable v = true) : isPlainable (plain v) = true := by
  induction v using Json.induction with
  | null => rfl
  | bool => rfl
  | int => exact safe
  | float x =>
    rw [isPlainable] at safe
    cases whole : integral x with
    | none => simp [whole] at safe
    | some i => simpa [plain, isPlainable, whole] using safe
  | str => rfl
  | arr items ih =>
    rw [isPlainable, arePlainable_iff] at safe
    rw [plain, plainItems_eq, isPlainable, arePlainable_iff]
    intro w member
    obtain ⟨v, listed, rfl⟩ := List.mem_map.mp member
    exact ih v listed (safe v listed)
  | obj entries ih =>
    rw [isPlainable, entriesPlainable_iff] at safe
    rw [plain, plainEntries_eq, isPlainable, entriesPlainable_iff]
    intro p member
    obtain ⟨q, listed, rfl⟩ := List.mem_map.mp member
    exact ih q listed (safe q listed)

theorem text_plain {v : Json} (normal : v.Normal) : text (plain v) = text v := by
  have inner : v.norm = v := normal
  have outer : (plain v).norm = plain v := normal_plain normal
  rw [text, text, outer, plain_plain, inner]

end Jcs
