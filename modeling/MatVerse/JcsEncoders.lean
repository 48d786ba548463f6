import MatVerse.CloudflareState

/-! Canonical JSON is written twice: by the adapter, which sorts keys by the bytes of
their big-endian UTF-16 form, and by the worker, whose texts are code units. On every
value that the adapter accepts the two write one text, and it determines the value. -/
namespace MatVerse

/-! ## The adapter -/

def utf16SortKey (key : String) : List Nat := (Jcs.sortKey key).flatMap (fun u => [u / 256, u % 256])

def keyLe (a b : String × List Char) : Bool := !decide (utf16SortKey b.1 < utf16SortKey a.1)

/-- `int(value)` of a finite float. -/
def truncated (x : Binary64) : Int := (x.toRat?.map (fun q => q.num.tdiv q.den)).getD 0

def fieldText (p : String × List Char) : List Char := JsonText.quote p.1 ++ ':' :: p.2

mutual
def jcsSubsetText : Json → List Char
  | .null => ['n', 'u', 'l', 'l']
  | .bool true => ['t', 'r', 'u', 'e']
  | .bool false => ['f', 'a', 'l', 's', 'e']
  | .str s => JsonText.quote s
  | .int i => (NumberText.intLiteral i).text
  | .float x => (NumberText.intLiteral (truncated x)).text
  | .arr items => '[' :: ([','].intercalate (itemTexts items) ++ [']'])
  | .obj entries =>
    '{' :: ([','].intercalate (((Dict.ofPairs (entryTexts entries)).mergeSort keyLe).map fieldText) ++ ['}'])
def itemTexts : List Json → List (List Char)
  | [] => []
  | v :: rest => jcsSubsetText v :: itemTexts rest
def entryTexts : List (String × Json) → List (String × List Char)
  | [] => []
  | (k, v) :: rest => (k, jcsSubsetText v) :: entryTexts rest
end

def jcsSubsetBytes (v : Json) : Except PyError ByteArray := do
  assertJcsSubset "$" v
  return (String.ofList (jcsSubsetText v)).toUTF8

/-! ## The worker -/

/-- A text by its UTF-16 code units. -/
abbrev JsString := List Nat

def units (cs : List Char) : JsString := cs.flatMap Jcs.codeUnits

inductive JsValue where
  | null
  | bool (value : Bool)
  | number (value : Binary64)
  | string (value : JsString)
  | array (items : List JsValue)
  /-- The own properties of a plain object. -/
  | object (props : List (JsString × JsValue))
  /-- A value of another type, by its `typeof`. -/
  | other (type : String)

namespace Cloudflare

def isLead (u : Nat) : Bool := decide (0xD800 ≤ u ∧ u < 0xDC00)

def isTrail (u : Nat) : Bool := decide (0xDC00 ≤ u ∧ u < 0xE000)

/-- A code unit that is not half of a pair: an escape, or itself. -/
def escapeUnit (u : Nat) : JsString :=
  if isLead u || isTrail u then
    units ['\\', 'u', Nat.digitChar (u / 4096), Nat.digitChar (u / 256 % 16), Nat.digitChar (u / 16 % 16),
      Nat.digitChar (u % 16)]
  else units (JsonText.escapeChar (Char.ofNat u))

def escapeUnits : JsString → JsString
  | [] => []
  | [u] => escapeUnit u
  | u :: v :: rest =>
    if isLead u && isTrail v then u :: v :: escapeUnits rest else escapeUnit u ++ escapeUnits (v :: rest)

/-- `JSON.stringify` of a string. -/
def stringify (s : JsString) : JsString := units ['"'] ++ escapeUnits s ++ units ['"']

def isSafeInteger (x : Binary64) : Bool := (Jcs.integral x).any Jcs.isSafe

/-- `String(value)` of a safe integer. -/
def numberString (x : Binary64) : JsString := (Jcs.integral x).elim [] (fun i => units (NumberText.intLiteral i).text)

def unitsLe (a b : JsString × Except StateHttpError JsString) : Bool := !decide (b.1 < a.1)

def field (p : JsString × Except StateHttpError JsString) : Except StateHttpError JsString :=
  p.2.map (fun text => stringify p.1 ++ units [':'] ++ text)

end Cloudflare

mutual
def JsValue.jcs : JsValue → Except StateHttpError JsString
  | .null => .ok (units ['n', 'u', 'l', 'l'])
  | .bool true => .ok (units ['t', 'r', 'u', 'e'])
  | .bool false => .ok (units ['f', 'a', 'l', 's', 'e'])
  | .string s => .ok (Cloudflare.stringify s)
  | .number x =>
    if Cloudflare.isSafeInteger x then .ok (Cloudflare.numberString x)
    else .error ⟨400, "JCS numbers must be safe integers"⟩
  | .array items => (JsValue.jcsItems items).map
      (fun texts => units ['['] ++ (units [',']).intercalate texts ++ units [']'])
  | .object props => (((JsValue.jcsProps props).mergeSort Cloudflare.unitsLe).mapM Cloudflare.field).map
      (fun texts => units ['{'] ++ (units [',']).intercalate texts ++ units ['}'])
  | .other type => .error ⟨400, "unsupported JCS type: " ++ type⟩
def JsValue.jcsItems : List JsValue → Except StateHttpError (List JsString)
  | [] => .ok []
  | v :: rest => do
    let text ← JsValue.jcs v
    let texts ← JsValue.jcsItems rest
    return text :: texts
def JsValue.jcsProps : List (JsString × JsValue) → List (JsString × Except StateHttpError JsString)
  | [] => []
  | (name, v) :: rest => (name, JsValue.jcs v) :: JsValue.jcsProps rest
end

/-! ## Code units -/

/-- The order of the bytes is the order of the code units. -/
theorem bytes_lt {us vs : List Nat} :
    us.flatMap (fun u => [u / 256, u % 256]) < vs.flatMap (fun u => [u / 256, u % 256]) ↔ us < vs := by
  induction us generalizing vs with
  | nil => cases vs <;> simp
  | cons u us ih =>
    cases vs with
    | nil => simp
    | cons v vs =>
      simp only [List.flatMap_cons, List.cons_append, List.nil_append, List.cons_lt_cons_iff, ih]
      constructor
      · rintro (high | ⟨high, low | ⟨low, rest⟩⟩)
        · exact .inl (by omega)
        · exact .inl (by omega)
        · exact .inr ⟨by omega, rest⟩
      · rintro (less | ⟨rfl, rest⟩)
        · by_cases high : u / 256 = v / 256
          · exact .inr ⟨high, .inl (by omega)⟩
          · exact .inl (by omega)
        · exact .inr ⟨rfl, .inr ⟨rfl, rest⟩⟩

theorem keyLe_eq (a b : String × List Char) : keyLe a b = !decide (Jcs.sortKey b.1 < Jcs.sortKey a.1) := by
  unfold keyLe utf16SortKey
  simp only [bytes_lt]

/-- A key beyond the basic plane comes before one at its end, unlike by code points. -/
example : keyLe ("😀", []) ("\ue000", []) = true ∧ ¬"😀" < "\ue000" := by decide

@[simp] theorem units_nil : units [] = [] := rfl

@[simp] theorem units_cons (c : Char) (cs : List Char) : units (c :: cs) = Jcs.codeUnits c ++ units cs := rfl

@[simp] theorem units_append (cs ds : List Char) : units (cs ++ ds) = units cs ++ units ds := List.flatMap_append

theorem units_intercalate (sep : List Char) (texts : List (List Char)) :
    units (sep.intercalate texts) = (units sep).intercalate (texts.map units) := by
  induction texts with
  | nil => rfl
  | cons text rest ih =>
    cases rest with
    | nil => simp
    | cons next rest =>
      rw [List.map_cons] at ih
      rw [List.intercalate_cons_cons, units_append, units_append, ih, List.map_cons, List.map_cons,
        List.intercalate_cons_cons]

/-- A character of the basic plane is one unit, which is no surrogate. -/
theorem codeUnits_basic {c : Char} (basic : c.toNat < 0x10000) :
    Jcs.codeUnits c = [c.toNat] ∧ Cloudflare.isLead c.toNat = false ∧ Cloudflare.isTrail c.toNat = false := by
  have valid : c.toNat < 0xD800 ∨ 0xDFFF < c.toNat ∧ c.toNat < 0x110000 := c.valid
  refine ⟨by simp [Jcs.codeUnits, basic], ?_, ?_⟩
  · exact decide_eq_false (by omega)
  · exact decide_eq_false (by omega)

/-- Any other character is a pair, which no writer escapes. -/
theorem codeUnits_astral {c : Char} (astral : ¬c.toNat < 0x10000) :
    ∃ lead trail, Jcs.codeUnits c = [lead, trail] ∧ Cloudflare.isLead lead = true ∧ Cloudflare.isTrail trail = true ∧
      lead = 0xD800 + (c.toNat - 0x10000) / 1024 ∧ trail = 0xDC00 + (c.toNat - 0x10000) % 1024 := by
  have valid : c.toNat < 0xD800 ∨ 0xDFFF < c.toNat ∧ c.toNat < 0x110000 := c.valid
  refine ⟨_, _, if_neg astral, decide_eq_true ?_, decide_eq_true ?_, rfl, rfl⟩
  · omega
  · omega

theorem escapeChar_astral {c : Char} (astral : ¬c.toNat < 0x10000) : JsonText.escapeChar c = [c] := by
  have other {d : Char} (small : d.toNat < 0x10000) : c ≠ d := fun same => astral (same ▸ small)
  rw [JsonText.escapeChar, if_neg (other (by decide)), if_neg (other (by decide)), if_neg (other (by decide)),
    if_neg (other (by decide)), if_neg (other (by decide)), if_neg (by omega), if_neg (by omega), if_neg (by omega)]

theorem units_injective {cs ds : List Char} (same : units cs = units ds) : cs = ds := by
  have some (c : Char) : ∃ u us, Jcs.codeUnits c = u :: us := by
    by_cases basic : c.toNat < 0x10000
    · exact ⟨_, _, (codeUnits_basic basic).1⟩
    · obtain ⟨lead, trail, two, _⟩ := codeUnits_astral basic
      exact ⟨_, _, two⟩
  induction cs generalizing ds with
  | nil =>
    cases ds with
    | nil => rfl
    | cons d ds =>
      obtain ⟨u, us, found⟩ := some d
      simp [found] at same
  | cons c cs ih =>
    cases ds with
    | nil =>
      obtain ⟨u, us, found⟩ := some c
      simp [found] at same
    | cons d ds =>
      rw [units_cons, units_cons] at same
      by_cases first : c.toNat < 0x10000
      · obtain ⟨one, single, _⟩ := codeUnits_basic first
        by_cases second : d.toNat < 0x10000
        · rw [one, (codeUnits_basic second).1] at same
          obtain ⟨head, tail⟩ := List.cons.inj same
          rw [Char.toNat_inj.mp head, ih tail]
        · obtain ⟨lead, trail, two, isLead, _⟩ := codeUnits_astral second
          rw [one, two] at same
          obtain ⟨head, _⟩ := List.cons.inj same
          rw [head, isLead] at single
          cases single
      · obtain ⟨lead, trail, two, isLead, _, high, low⟩ := codeUnits_astral first
        by_cases second : d.toNat < 0x10000
        · obtain ⟨one, single, _⟩ := codeUnits_basic second
          rw [one, two] at same
          obtain ⟨head, _⟩ := List.cons.inj same
          rw [← head, isLead] at single
          cases single
        · obtain ⟨lead', trail', two', _, _, high', low'⟩ := codeUnits_astral second
          rw [two, two'] at same
          simp only [List.cons_append, List.nil_append, List.cons.injEq] at same
          obtain ⟨head, next, tail⟩ := same
          have code : c.toNat = d.toNat := by omega
          rw [Char.toNat_inj.mp code, ih tail]

namespace Cloudflare

theorem escapeUnits_cons {u : Nat} (single : isLead u = false) (us : JsString) :
    escapeUnits (u :: us) = escapeUnit u ++ escapeUnits us := by
  cases us with
  | nil => simp [escapeUnits]
  | cons v rest => simp [escapeUnits, single]

theorem escapeUnits_units (cs : List Char) : escapeUnits (units cs) = units (cs.flatMap JsonText.escapeChar) := by
  induction cs with
  | nil => rfl
  | cons c rest ih =>
    rw [units_cons, List.flatMap_cons, units_append, ← ih]
    by_cases basic : c.toNat < 0x10000
    · obtain ⟨one, lead, trail⟩ := codeUnits_basic basic
      rw [one, List.singleton_append, escapeUnits_cons lead, escapeUnit, lead, trail, Char.ofNat_toNat]
      rfl
    · obtain ⟨lead, trail, two, isLead, isTrail, _⟩ := codeUnits_astral basic
      rw [escapeChar_astral basic, units_cons, two, units_nil, List.append_nil]
      simp [escapeUnits, isLead, isTrail]

theorem stringify_units (s : String) : stringify (units s.toList) = units (JsonText.quote s) := by
  rw [stringify, escapeUnits_units, JsonText.quote]
  simp

end Cloudflare

/-! ## The adapter writes canonical text -/

theorem itemTexts_eq (items : List Json) : itemTexts items = items.map jcsSubsetText := by
  induction items with
  | nil => rfl
  | cons v rest ih => rw [itemTexts, ih, List.map_cons]

theorem entryTexts_eq (entries : List (String × Json)) :
    entryTexts entries = entries.map (fun p => (p.1, jcsSubsetText p.2)) := by
  induction entries with
  | nil => rfl
  | cons p rest ih => rw [entryTexts, ih, List.map_cons]

theorem render_arr (depth : Nat) (items : List Json) : JsonText.render JsonText.compact depth (.arr items) =
    '[' :: ([','].intercalate (items.map (JsonText.render JsonText.compact (depth + 1))) ++ [']']) := by
  have rest (items : List Json) (v : Json) : JsonText.render JsonText.compact (depth + 1) v ++
      JsonText.renderItems JsonText.compact (depth + 1) items =
        [','].intercalate ((v :: items).map (JsonText.render JsonText.compact (depth + 1))) := by
    induction items generalizing v with
    | nil => simp [JsonText.renderItems]
    | cons w items ih =>
      rw [JsonText.renderItems, ih w, List.map_cons, List.map_cons, List.map_cons, List.intercalate_cons_cons]
      simp [JsonText.compact]
  cases items with
  | nil => rfl
  | cons v items =>
    rw [JsonText.render, ← rest]
    simp [JsonText.compact]

theorem render_obj (depth : Nat) (entries : List (String × Json)) :
    JsonText.render JsonText.compact depth (.obj entries) = '{' :: ([','].intercalate
      (entries.map (fun p => fieldText (p.1, JsonText.render JsonText.compact (depth + 1) p.2))) ++ ['}']) := by
  have rest (entries : List (String × Json)) (p : String × Json) :
      fieldText (p.1, JsonText.render JsonText.compact (depth + 1) p.2) ++
        JsonText.renderEntries JsonText.compact (depth + 1) entries = [','].intercalate
          ((p :: entries).map (fun p => fieldText (p.1, JsonText.render JsonText.compact (depth + 1) p.2))) := by
    induction entries generalizing p with
    | nil => simp [JsonText.renderEntries]
    | cons q entries ih =>
      rw [List.map_cons, List.map_cons, List.intercalate_cons_cons]
      have further := ih q
      rw [List.map_cons] at further
      rw [← further]
      obtain ⟨k, v⟩ := q
      rw [JsonText.renderEntries]
      simp [JsonText.compact, fieldText]
  cases entries with
  | nil => rfl
  | cons p entries =>
    have further := rest entries p
    obtain ⟨k, v⟩ := p
    rw [← further, JsonText.render]
    simp [JsonText.compact, fieldText]

theorem truncated_of {x : Binary64} {i : Int} (whole : Jcs.integral x = some i) : truncated x = i := by
  unfold Jcs.integral at whole
  unfold truncated
  cases value : x.toRat? with
  | none => simp [value] at whole
  | some q =>
    simp only [value] at whole
    split at whole
    · next unit =>
      obtain rfl := Option.some.inj whole
      simp [unit]
    · cases whole

theorem jcsSubsetText_eq {v : Json} (safe : Jcs.isPlainable v = true) (depth : Nat) :
    jcsSubsetText v = JsonText.render JsonText.compact depth (Jcs.ordered (Jcs.plain v.norm)) := by
  induction v using Json.induction generalizing depth with
  | null => rfl
  | bool b => cases b <;> rfl
  | int => rfl
  | float x =>
    cases whole : Jcs.integral x with
    | none => simp [Jcs.isPlainable, whole] at safe
    | some i => simp [jcsSubsetText, truncated_of whole, Jcs.plain, whole, Jcs.ordered, JsonText.render]
  | str => rfl
  | arr items ih =>
    rw [Jcs.isPlainable, Jcs.arePlainable_iff] at safe
    rw [Json.norm_arr, Jcs.plain, Jcs.plainItems_eq, Jcs.ordered, Jcs.orderedItems_eq, render_arr, jcsSubsetText,
      itemTexts_eq, List.map_map, List.map_map, List.map_map]
    congr 3
    exact List.map_congr_left fun v member => ih v member (safe v member) (depth + 1)
  | obj entries ih =>
    rw [Jcs.isPlainable, Jcs.entriesPlainable_iff] at safe
    have texts : entryTexts entries = entries.map (fun p => (p.1,
        JsonText.render JsonText.compact (depth + 1) (Jcs.ordered (Jcs.plain p.2.norm)))) := by
      rw [entryTexts_eq]
      exact List.map_congr_left fun p member => Prod.ext rfl (ih p member (safe p member) (depth + 1))
    rw [Json.norm_obj, Json.dict, Jcs.plain, Jcs.plainEntries_eq, Jcs.ordered, Jcs.orderedEntries_eq, render_obj,
      jcsSubsetText, texts, Dict.ofPairs_map, Dict.ofPairs_map, List.map_map, List.map_map]
    have sorted := List.map_mergeSort (r := Jcs.entryLe) (s := keyLe)
      (f := fun p : String × Json => (p.1, JsonText.render JsonText.compact (depth + 1) p.2))
      (l := Dict.ofPairs (entries.map (fun p => (p.1, Jcs.ordered (Jcs.plain p.2.norm)))))
      fun a _ b _ => by rw [keyLe_eq, Jcs.entryLe]
    rw [Dict.ofPairs_map, List.map_map] at sorted
    have fields := congrArg (List.map fieldText) sorted
    rw [List.map_map] at fields
    exact congrArg (fun texts => '{' :: ([','].intercalate texts ++ ['}'])) fields.symm

/-! ## One value -/

/-- The exact value of a number. -/
def numberOf : Json → Option ℚ
  | .int i => some i
  | .float x => x.toRat?
  | _ => none

/-- The value of a key in the dictionary that the pairs build. -/
def held (key : String) (entries : List (String × Json)) : Option Json := Dict.get? key (Dict.ofPairs entries)

/-- The same JSON value: numbers by their value, objects without their order. -/
inductive SameValue : Json → Json → Prop where
  | null : SameValue .null .null
  | bool (b : Bool) : SameValue (.bool b) (.bool b)
  | str (s : String) : SameValue (.str s) (.str s)
  | number {v w : Json} {q : ℚ} : numberOf v = some q → numberOf w = some q → SameValue v w
  | arr {vs ws : List Json} : List.Forall₂ SameValue vs ws → SameValue (.arr vs) (.arr ws)
  | obj {vs ws : List (String × Json)} : (∀ key, (held key vs).isSome = (held key ws).isSome) →
      (∀ key v w, held key vs = some v → held key ws = some w → SameValue v w) → SameValue (.obj vs) (.obj ws)

/-- A value of the worker for a value of the adapter: an integer is the nearest binary64,
and the properties of an object may come in any order. -/
inductive Represents : Json → JsValue → Prop where
  | null : Represents .null .null
  | bool (b : Bool) : Represents (.bool b) (.bool b)
  | int (i : Int) : Represents (.int i) (.number (.ofSigned i))
  | float (x : Binary64) : Represents (.float x) (.number x)
  | str (s : String) : Represents (.str s) (.string (units s.toList))
  | arr {vs : List Json} {items : List JsValue} : List.Forall₂ Represents vs items → Represents (.arr vs) (.array items)
  | obj {vs : List (String × Json)} {props : List (JsString × JsValue)} (values : String → JsValue) :
      props.Perm ((Dict.ofPairs vs).map (fun p => (units p.1.toList, values p.1))) →
      (∀ key v, held key vs = some v → Represents v (values key)) → Represents (.obj vs) (.object props)

theorem plain_norm_obj (entries : List (String × Json)) :
    Jcs.plain (Json.obj entries).norm = .obj ((Dict.ofPairs entries).map (fun p => (p.1, Jcs.plain p.2.norm))) := by
  rw [Json.norm_obj, Json.dict, Jcs.plain, Jcs.plainEntries_eq, ← Dict.ofPairs_map, List.map_map]
  rfl

theorem held_mem {entries : List (String × Json)} {key : String} {v : Json} (found : held key entries = some v) :
    (key, v) ∈ entries := Dict.mem_ofPairs (Dict.get?_mem found)

theorem plain_number {v : Json} {q : ℚ} (safe : Jcs.isPlainable v = true) :
    numberOf v = some q ↔ ∃ i : Int, q = i ∧ Jcs.plain v.norm = .int i := by
  cases v with
  | int j =>
    simp only [numberOf, Option.some.injEq, Json.norm_int, Jcs.plain, Json.int.injEq]
    constructor
    · rintro rfl
      exact ⟨j, rfl, rfl⟩
    · rintro ⟨i, rfl, rfl⟩
      rfl
  | float x =>
    simp only [numberOf, Json.norm_float, Jcs.plain]
    cases whole : Jcs.integral x with
    | none => simp [Jcs.isPlainable, whole] at safe
    | some j =>
      have value : x.toRat? = some (j : ℚ) := by
        unfold Jcs.integral at whole
        cases value : x.toRat? with
        | none => simp [value] at whole
        | some r =>
          simp only [value] at whole
          split at whole
          · next unit =>
            obtain rfl := Option.some.inj whole
            rw [Rat.coe_int_num_of_den_eq_one unit]
          · cases whole
      simp only [value, Option.some.injEq, Option.elim, Json.int.injEq]
      constructor
      · rintro rfl
        exact ⟨j, rfl, rfl⟩
      · rintro ⟨i, rfl, rfl⟩
        rfl
  | null => simp [numberOf, Jcs.plain]
  | bool => simp [numberOf, Jcs.plain]
  | str => simp [numberOf, Jcs.plain]
  | arr => simp [numberOf, Jcs.plain]
  | obj => simp [numberOf, plain_norm_obj]

theorem plain_cases {v : Json} (safe : Jcs.isPlainable v = true) :
    match Jcs.plain v.norm with
    | .null => v = .null
    | .bool b => v = .bool b
    | .str s => v = .str s
    | .int i => numberOf v = some (i : ℚ)
    | .float _ => False
    | .arr ws => ∃ vs, v = .arr vs ∧ ws = vs.map (fun v => Jcs.plain v.norm)
    | .obj ws => ∃ vs, v = .obj vs ∧ ws = (Dict.ofPairs vs).map (fun p => (p.1, Jcs.plain p.2.norm)) := by
  cases v with
  | null => rfl
  | bool => rfl
  | str => rfl
  | int => rfl
  | float x =>
    cases whole : Jcs.integral x with
    | none => simp [Jcs.isPlainable, whole] at safe
    | some i =>
      have shape : Jcs.plain (Json.float x).norm = .int i := by simp [Jcs.plain, whole]
      rw [shape]
      exact (plain_number safe).mpr ⟨i, rfl, shape⟩
  | arr vs =>
    rw [Json.norm_arr, Jcs.plain, Jcs.plainItems_eq, List.map_map]
    exact ⟨vs, rfl, rfl⟩
  | obj vs =>
    rw [plain_norm_obj]
    exact ⟨vs, rfl, rfl⟩

theorem forall₂_iff {α β : Type} {r s : α → β → Prop} {xs : List α} {ys : List β}
    (each : ∀ x ∈ xs, ∀ y ∈ ys, (r x y ↔ s x y)) : List.Forall₂ r xs ys ↔ List.Forall₂ s xs ys := by
  induction xs generalizing ys with
  | nil => cases ys <;> simp
  | cons x xs ih =>
    cases ys with
    | nil => simp
    | cons y ys =>
      rw [List.forall₂_cons, List.forall₂_cons, each x (by simp) y (by simp),
        ih fun a member b member' => each a (List.mem_cons_of_mem x member) b (List.mem_cons_of_mem y member')]

theorem plain_of_numbers {v w : Json} {q : ℚ} (first : Jcs.isPlainable v = true) (second : Jcs.isPlainable w = true)
    (left : numberOf v = some q) (right : numberOf w = some q) : Jcs.plain v.norm = Jcs.plain w.norm := by
  obtain ⟨i, rfl, one⟩ := (plain_number first).mp left
  obtain ⟨j, same, two⟩ := (plain_number second).mp right
  rw [one, two, Rat.intCast_injective same]

theorem sameValue_arr {vs ws : List Json}
    (each : ∀ v ∈ vs, ∀ w ∈ ws, (SameValue v w ↔ Jcs.plain v.norm = Jcs.plain w.norm)) :
    List.Forall₂ SameValue vs ws ↔ vs.map (fun v => Jcs.plain v.norm) = ws.map (fun v => Jcs.plain v.norm) := by
  rw [forall₂_iff each, ← List.forall₂_eq_eq_eq, List.forall₂_map_left_iff, List.forall₂_map_right_iff]

theorem sameValue_obj {vs ws : List (String × Json)}
    (each : ∀ p ∈ vs, ∀ q ∈ ws, (SameValue p.2 q.2 ↔ Jcs.plain p.2.norm = Jcs.plain q.2.norm)) :
    ((∀ key, (held key vs).isSome = (held key ws).isSome) ∧
      ∀ key v w, held key vs = some v → held key ws = some w → SameValue v w) ↔
    (Dict.ofPairs vs).map (fun p => (p.1, Jcs.plain p.2.norm)) =
      (Dict.ofPairs ws).map (fun p => (p.1, Jcs.plain p.2.norm)) := by
  have lookup (entries : List (String × Json)) (key : String) :
      Dict.get? key ((Dict.ofPairs entries).map (fun p => (p.1, Jcs.plain p.2.norm))) =
        (held key entries).map (fun v => Jcs.plain v.norm) := Dict.get?_map (fun v : Json => Jcs.plain v.norm) _ _
  constructor
  · rintro ⟨keys, values⟩
    have sorted (entries : List (String × Json)) :
        Dict.Sorted ((Dict.ofPairs entries).map (fun p => (p.1, Jcs.plain p.2.norm))) :=
      Dict.sorted_map (f := fun v : Json => Jcs.plain v.norm) (Dict.sorted_ofPairs entries)
    refine Dict.ext_of_sorted (sorted vs) (sorted ws) fun key => ?_
    rw [lookup, lookup]
    have both := keys key
    cases left : held key vs with
    | none =>
      cases right : held key ws with
      | none => rfl
      | some w => simp [left, right] at both
    | some v =>
      cases right : held key ws with
      | none => simp [left, right] at both
      | some w =>
        exact congrArg some ((each _ (held_mem left) _ (held_mem right)).mp (values key v w left right))
  · intro same
    have lookups (key : String) := congrArg (Dict.get? key) same
    simp only [lookup] at lookups
    constructor
    · intro key
      simpa using congrArg Option.isSome (lookups key)
    · intro key v w left right
      have one := lookups key
      rw [left, right] at one
      exact (each _ (held_mem left) _ (held_mem right)).mpr (Option.some.inj one)

/-- Safe values are the same exactly when they have one plain form. -/
theorem sameValue_iff {v w : Json} (first : Jcs.isPlainable v = true) (second : Jcs.isPlainable w = true) :
    SameValue v w ↔ Jcs.plain v.norm = Jcs.plain w.norm := by
  have other := plain_cases second
  induction v using Json.induction generalizing w with
  | null =>
    refine ⟨fun same => ?_, fun same => ?_⟩
    · cases same with
      | null => rfl
      | number left right => exact plain_of_numbers first second left right
    · rw [← same] at other
      obtain rfl := other
      exact .null
  | bool b =>
    refine ⟨fun same => ?_, fun same => ?_⟩
    · cases same with
      | bool => rfl
      | number left right => exact plain_of_numbers first second left right
    · rw [← same] at other
      obtain rfl := other
      exact .bool b
  | str s =>
    refine ⟨fun same => ?_, fun same => ?_⟩
    · cases same with
      | str => rfl
      | number left right => exact plain_of_numbers first second left right
    · rw [← same] at other
      obtain rfl := other
      exact .str s
  | int i =>
    refine ⟨fun same => ?_, fun same => ?_⟩
    · cases same with
      | number left right => exact plain_of_numbers first second left right
    · rw [← same] at other
      exact .number (plain_cases first) other
  | float x =>
    refine ⟨fun same => ?_, fun same => ?_⟩
    · cases same with
      | number left right => exact plain_of_numbers first second left right
    · cases whole : Jcs.integral x with
      | none => simp [Jcs.isPlainable, whole] at first
      | some i =>
        have shape : Jcs.plain (Json.float x).norm = .int i := by simp [Jcs.plain, whole]
        rw [← same, shape] at other
        exact .number ((plain_number first).mpr ⟨i, rfl, shape⟩) other
  | arr vs ih =>
    have safe := Jcs.arePlainable_iff.mp first
    have shape (items : List Json) : Jcs.plain (Json.arr items).norm = .arr
        (items.map (fun v => Jcs.plain v.norm)) := by
      rw [Json.norm_arr, Jcs.plain, Jcs.plainItems_eq, List.map_map]
      rfl
    have each {ws : List Json} (safe' : Jcs.isPlainable (.arr ws) = true) : ∀ v ∈ vs, ∀ w ∈ ws,
        (SameValue v w ↔ Jcs.plain v.norm = Jcs.plain w.norm) := fun v member w member' =>
      ih v member (safe v member) (Jcs.arePlainable_iff.mp safe' w member')
        (plain_cases (Jcs.arePlainable_iff.mp safe' w member'))
    refine ⟨fun same => ?_, fun same => ?_⟩
    · cases same with
      | number left right => exact plain_of_numbers first second left right
      | arr items => rw [shape, shape, (sameValue_arr (each second)).mp items]
    · rw [← same, shape] at other
      obtain ⟨ws, rfl, maps⟩ := other
      exact .arr ((sameValue_arr (each second)).mpr maps)
  | obj vs ih =>
    have safe := Jcs.entriesPlainable_iff.mp first
    have each {ws : List (String × Json)} (safe' : Jcs.isPlainable (.obj ws) = true) : ∀ p ∈ vs, ∀ q ∈ ws,
        (SameValue p.2 q.2 ↔ Jcs.plain p.2.norm = Jcs.plain q.2.norm) := fun p member q member' =>
      ih p member (safe p member) (Jcs.entriesPlainable_iff.mp safe' q member')
        (plain_cases (Jcs.entriesPlainable_iff.mp safe' q member'))
    refine ⟨fun same => ?_, fun same => ?_⟩
    · cases same with
      | number left right => exact plain_of_numbers first second left right
      | obj keys values => rw [plain_norm_obj, plain_norm_obj, (sameValue_obj (each second)).mp ⟨keys, values⟩]
    · rw [← same, plain_norm_obj] at other
      obtain ⟨ws, rfl, maps⟩ := other
      obtain ⟨keys, values⟩ := (sameValue_obj (each second)).mpr maps
      exact .obj keys values

/-! ## The worker writes the same text -/

theorem jcsProps_eq (props : List (JsString × JsValue)) :
    JsValue.jcsProps props = props.map (fun p => (p.1, p.2.jcs)) := by
  induction props with
  | nil => rfl
  | cons p rest ih => rw [JsValue.jcsProps, ih, List.map_cons]

/-- Sorting does not depend on the order before, where no two items are of one rank. -/
theorem mergeSort_perm_eq {α : Type} {le : α → α → Bool} (trans : ∀ a b c, le a b → le b c → le a c)
    (total : ∀ a b, le a b || le b a) {xs ys : List α} (perm : xs.Perm ys)
    (antisymm : ∀ a ∈ ys, ∀ b ∈ ys, le a b → le b a → a = b) : xs.mergeSort le = ys.mergeSort le := by
  refine List.Perm.eq_of_pairwise (fun a b left right => ?_) (List.pairwise_mergeSort trans total xs)
    (List.pairwise_mergeSort trans total ys)
    ((List.mergeSort_perm xs le).trans (perm.trans (List.mergeSort_perm ys le).symm))
  exact antisymm a (perm.mem_iff.mp (List.mem_mergeSort.mp left)) b (List.mem_mergeSort.mp right)

/-- The properties that a property list of texts has. -/
def textProp (p : String × List Char) : JsString × Except StateHttpError JsString := (units p.1.toList, .ok (units p.2))

theorem keyLe_textProp (a b : String × List Char) : keyLe a b = Cloudflare.unitsLe (textProp a) (textProp b) := by
  rw [keyLe_eq]
  rfl

/-- In whichever order the properties come, the worker writes them as the adapter does. -/
theorem sort_props {props : List (JsString × Except StateHttpError JsString)} {texts : List (String × List Char)}
    (sorted : Dict.Sorted texts) (perm : props.Perm (texts.map textProp)) :
    (props.mergeSort Cloudflare.unitsLe).mapM Cloudflare.field =
      .ok (((texts.mergeSort keyLe).map fieldText).map units) := by
  have arranged : props.mergeSort Cloudflare.unitsLe = (texts.mergeSort keyLe).map textProp := by
    rw [List.map_mergeSort fun a _ b _ => keyLe_textProp a b]
    refine mergeSort_perm_eq ?_ ?_ perm ?_
    · intro a b c first second
      simp only [Cloudflare.unitsLe, Bool.not_eq_true', decide_eq_false_iff_not, not_lt] at first second ⊢
      exact le_trans first second
    · intro a b
      simp only [Cloudflare.unitsLe, Bool.or_eq_true, Bool.not_eq_true', decide_eq_false_iff_not, not_lt]
      exact le_total _ _
    · intro a left b right first second
      simp only [Cloudflare.unitsLe, Bool.not_eq_true', decide_eq_false_iff_not, not_lt] at first second
      obtain ⟨p, member, rfl⟩ := List.mem_map.mp left
      obtain ⟨q, member', rfl⟩ := List.mem_map.mp right
      have name : p.1 = q.1 := String.toList_inj.mp (units_injective (le_antisymm first second))
      have one := Dict.get?_of_mem sorted member
      have two := Dict.get?_of_mem sorted member'
      rw [name, two] at one
      rw [Prod.ext name (Option.some.inj one).symm]
  rw [arranged]
  induction texts.mergeSort keyLe with
  | nil => rfl
  | cons p rest ih =>
    have one : Cloudflare.field (textProp p) = .ok (units (fieldText p)) := by
      simp [Cloudflare.field, textProp, fieldText, Cloudflare.stringify_units, Except.map]
    rw [List.map_cons, List.mapM_cons, one, ih]
    rfl

theorem jcsItems_represents {vs : List Json} {items : List JsValue} (each : List.Forall₂ Represents vs items)
    (written : ∀ v ∈ vs, ∀ {js : JsValue}, Represents v js → js.jcs = .ok (units (jcsSubsetText v))) :
    JsValue.jcsItems items = .ok ((vs.map jcsSubsetText).map units) := by
  induction each with
  | nil => rfl
  | cons head _ ih =>
    rw [JsValue.jcsItems, written _ (by simp) head, ih fun v member => written v (List.mem_cons_of_mem _ member)]
    rfl

theorem jcsProps_represents {vs : List (String × Json)} {props : List (JsString × JsValue)} {values : String → JsValue}
    (listed : props.Perm ((Dict.ofPairs vs).map (fun p => (units p.1.toList, values p.1))))
    (written : ∀ key v, held key vs = some v → (values key).jcs = .ok (units (jcsSubsetText v))) :
    (JsValue.jcsProps props).Perm ((Dict.ofPairs (entryTexts vs)).map textProp) := by
  have texts := listed.map (fun p => (p.1, p.2.jcs))
  rw [List.map_map] at texts
  rw [jcsProps_eq, entryTexts_eq, ← Dict.ofPairs_map, List.map_map]
  refine texts.trans (List.Perm.of_eq (List.map_congr_left fun p member => ?_))
  have found : held p.1 vs = some p.2 := Dict.get?_of_mem (Dict.sorted_ofPairs vs) member
  exact Prod.ext rfl (written p.1 p.2 found)

/-- On what the adapter accepts the worker succeeds and writes the adapter's text. -/
theorem jcs_represents {v : Json} (safe : Jcs.isPlainable v = true) {js : JsValue} (same : Represents v js) :
    js.jcs = .ok (units (jcsSubsetText v)) := by
  induction v using Json.induction generalizing js with
  | null =>
    cases same
    rfl
  | bool b =>
    cases same
    cases b <;> rfl
  | int i =>
    cases same
    have whole := Jcs.integral_ofSigned (i := i) (by simpa [Jcs.isPlainable] using safe)
    rw [Jcs.isPlainable] at safe
    simp [JsValue.jcs, Cloudflare.isSafeInteger, Cloudflare.numberString, whole, safe, jcsSubsetText]
  | float x =>
    cases same
    cases whole : Jcs.integral x with
    | none => simp [Jcs.isPlainable, whole] at safe
    | some i =>
      have bounded : Jcs.isSafe i = true := by simpa [Jcs.isPlainable, whole] using safe
      simp [JsValue.jcs, Cloudflare.isSafeInteger, Cloudflare.numberString, whole, bounded, jcsSubsetText,
        truncated_of whole]
  | str s =>
    cases same
    rw [JsValue.jcs, Cloudflare.stringify_units, jcsSubsetText]
  | arr vs ih =>
    rw [Jcs.isPlainable, Jcs.arePlainable_iff] at safe
    cases same with
    | arr each =>
      have texts := jcsItems_represents each fun v member {js} => ih v member (safe v member)
      rw [JsValue.jcs, texts, jcsSubsetText, itemTexts_eq]
      simp [Except.map, units_intercalate]
  | obj vs ih =>
    rw [Jcs.isPlainable, Jcs.entriesPlainable_iff] at safe
    cases same with
    | obj values listed each =>
      have perm := jcsProps_represents listed fun key v found =>
        ih _ (held_mem found) (safe _ (held_mem found)) (each key v found)
      rw [JsValue.jcs, sort_props (Dict.sorted_ofPairs _) perm, jcsSubsetText]
      simp [Except.map, units_intercalate]

/-! ## The encoding -/

/-- What a reader of the bytes gets. -/
def jcsRead (bytes : ByteArray) : Option Json := (String.fromUTF8? bytes).bind JsonText.loads

theorem jcsSubsetBytes_ok {v : Json} {bytes : ByteArray} : jcsSubsetBytes v = .ok bytes ↔
    Jcs.isPlainable v = true ∧ bytes = (Jcs.text v).toUTF8 := by
  simp only [jcsSubsetBytes, Fallible.check_ok, Fallible.pure_ok, assertJcsSubset_ok]
  constructor
  · rintro ⟨safe, rfl⟩
    rw [jcsSubsetText_eq safe 0]
    exact ⟨safe, rfl⟩
  · rintro ⟨safe, rfl⟩
    rw [jcsSubsetText_eq safe 0]
    exact ⟨safe, rfl⟩

theorem exists_represents (v : Json) : ∃ js, Represents v js := by
  induction v using Json.induction with
  | null => exact ⟨_, .null⟩
  | bool b => exact ⟨_, .bool b⟩
  | int i => exact ⟨_, .int i⟩
  | float x => exact ⟨_, .float x⟩
  | str s => exact ⟨_, .str s⟩
  | arr vs ih =>
    have each : ∃ items, List.Forall₂ Represents vs items := by
      induction vs with
      | nil => exact ⟨[], .nil⟩
      | cons v rest further =>
        obtain ⟨js, head⟩ := ih v (by simp)
        obtain ⟨items, tail⟩ := further fun w member => ih w (List.mem_cons_of_mem v member)
        exact ⟨js :: items, .cons head tail⟩
    obtain ⟨items, each⟩ := each
    exact ⟨_, .arr each⟩
  | obj vs ih =>
    have each (key : String) : ∃ js, ∀ v, held key vs = some v → Represents v js := by
      cases found : held key vs with
      | none => exact ⟨.null, nofun⟩
      | some v =>
        obtain ⟨js, same⟩ := ih _ (held_mem found)
        exact ⟨js, fun w other => Option.some.inj other ▸ same⟩
    choose values each using each
    exact ⟨_, .obj values (.refl _) fun key v found => each key v found⟩

/-- On accepted values the encodings are equal exactly for one JSON value, reading gives the
value back, and the worker, given the value in its own form, writes the same text. -/
theorem jcs_subset_agrees {v w : Json} {first second : ByteArray} (left : jcsSubsetBytes v = .ok first)
    (right : jcsSubsetBytes w = .ok second) : (first = second ↔ SameValue v w) ∧
      (∃ u, jcsRead first = some u ∧ SameValue u v) ∧
      (∃ js, Represents v js) ∧
      ∀ js, Represents v js → ∃ text : String, first = text.toUTF8 ∧ js.jcs = .ok (units text.toList) := by
  obtain ⟨safe, rfl⟩ := jcsSubsetBytes_ok.mp left
  obtain ⟨safe', rfl⟩ := jcsSubsetBytes_ok.mp right
  refine ⟨?_, ⟨Jcs.plain v.norm, ?_, ?_⟩, exists_represents v, fun js same => ⟨Jcs.text v, rfl, ?_⟩⟩
  · rw [sameValue_iff safe safe']
    refine ⟨fun same => Jcs.text_injective (String.toByteArray_inj.mp same), fun same => ?_⟩
    rw [Jcs.text, Jcs.text, same]
  · rw [jcsRead, Text.fromUTF8?_toUTF8, Option.bind_some, Jcs.loads_text]
  · have plainable := Jcs.isPlainable_plain (Jcs.isPlainable_norm safe)
    have normal : (Jcs.plain v.norm).Normal := Jcs.normal_plain (Json.normal_norm v)
    rw [sameValue_iff plainable safe, show (Jcs.plain v.norm).norm = Jcs.plain v.norm from normal, Jcs.plain_plain]
  · rw [jcs_represents safe same, jcsSubsetText_eq safe 0, Jcs.text, JsonText.dumps, String.toList_ofList]

def sampleKeys : Json := .obj [("\ue000", .int 1), ("😀", .int 2)]

def sampleKeysReordered : Json := .obj [("😀", .float (.ofRat 2)), ("\ue000", .int 1)]

theorem jcs_subset_agrees_sample :
    ((Jcs.text sampleKeys).toUTF8 = (Jcs.text sampleKeysReordered).toUTF8 ↔
      SameValue sampleKeys sampleKeysReordered) ∧
    (∃ u, jcsRead (Jcs.text sampleKeys).toUTF8 = some u ∧ SameValue u sampleKeys) ∧
    (∃ js, Represents sampleKeys js) ∧
    ∀ js, Represents sampleKeys js →
      ∃ text : String, (Jcs.text sampleKeys).toUTF8 = text.toUTF8 ∧ js.jcs = .ok (units text.toList) :=
  jcs_subset_agrees (jcsSubsetBytes_ok.mpr ⟨by decide, rfl⟩) (jcsSubsetBytes_ok.mpr ⟨by decide +kernel, rfl⟩)

end MatVerse
