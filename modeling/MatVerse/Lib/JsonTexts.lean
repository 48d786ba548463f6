import MatVerse.Lib.JsonText

/-! The texts inside a JSON value. A writer that leaves characters beyond ASCII as they
are prints the characters of these texts and ASCII ones. -/
namespace Json

mutual
def texts : Json → List String
  | null => []
  | bool _ => []
  | int _ => []
  | float _ => []
  | str s => [s]
  | arr items => textsItems items
  | obj entries => textsEntries entries
def textsItems : List Json → List String
  | [] => []
  | v :: rest => texts v ++ textsItems rest
def textsEntries : List (String × Json) → List String
  | [] => []
  | (k, v) :: rest => k :: (texts v ++ textsEntries rest)
end

/-- Every character of the texts of a value has a property. -/
def Written (P : Char → Prop) (v : Json) : Prop := ∀ text ∈ v.texts, ∀ c ∈ text.toList, P c

variable {P : Char → Prop}

theorem mem_textsItems {items : List Json} {text : String} :
    text ∈ textsItems items ↔ ∃ v ∈ items, text ∈ v.texts := by
  induction items with
  | nil => simp [textsItems]
  | cons v rest ih => simp [textsItems, ih]

theorem mem_textsEntries {entries : List (String × Json)} {text : String} :
    text ∈ textsEntries entries ↔ ∃ p ∈ entries, text = p.1 ∨ text ∈ p.2.texts := by
  induction entries with
  | nil => simp [textsEntries]
  | cons p rest ih =>
    obtain ⟨k, v⟩ := p
    simp [textsEntries, ih, or_assoc]

@[simp] theorem written_str (s : String) : Written P (.str s) ↔ ∀ c ∈ s.toList, P c := by
  simp [Written, texts]

@[simp] theorem written_null : Written P .null := by simp [Written, texts]
@[simp] theorem written_bool (b : Bool) : Written P (.bool b) := by simp [Written, texts]
@[simp] theorem written_int (i : Int) : Written P (.int i) := by simp [Written, texts]
@[simp] theorem written_float (x : Binary64) : Written P (.float x) := by simp [Written, texts]

@[simp] theorem written_arr (items : List Json) : Written P (.arr items) ↔ ∀ v ∈ items, Written P v := by
  simp only [Written, texts, mem_textsItems]
  constructor
  · intro all v member text inside
    exact all text ⟨v, member, inside⟩
  · rintro all text ⟨v, member, inside⟩
    exact all v member text inside

theorem written_obj (entries : List (String × Json)) :
    Written P (.obj entries) ↔ ∀ p ∈ entries, (∀ c ∈ p.1.toList, P c) ∧ Written P p.2 := by
  simp only [Written, texts, mem_textsEntries]
  constructor
  · intro all p member
    exact ⟨all p.1 ⟨p, member, .inl rfl⟩, fun text inside => all text ⟨p, member, .inr inside⟩⟩
  · rintro all text ⟨p, member, rfl | inside⟩
    · exact (all p member).1
    · exact (all p member).2 text inside

theorem written_dict {pairs : List (String × Json)}
    (each : ∀ p ∈ pairs, (∀ c ∈ p.1.toList, P c) ∧ Written P p.2) : Written P (.dict pairs) :=
  (written_obj _).mpr fun p member => each p (Dict.mem_ofPairs member)

theorem Written.get? {v w : Json} {key : String} (written : Written P v) (found : v.get? key = some w) :
    Written P w := by
  cases v with
  | obj entries => exact ((written_obj entries).mp written _ (Dict.get?_mem found)).2
  | _ => cases found

end Json

namespace JsonText

open Json

variable {P : Char → Prop}

theorem ascii_digitChar {n : Nat} (small : n < 16) : (Nat.digitChar n).toNat < 128 := by
  have all : (List.range 16).all (fun n => (Nat.digitChar n).toNat < 128) = true := by decide
  simpa using List.all_eq_true.mp all n (List.mem_range.mpr small)

theorem ascii_isDigit {c : Char} (digit : c.isDigit = true) : c.toNat < 128 := by
  simp only [Char.isDigit, Bool.and_eq_true, decide_eq_true_eq] at digit
  have high : c.toNat ≤ 57 := digit.2
  omega

theorem ascii_isBlank {c : Char} (blank : isBlank c = true) : c.toNat < 128 := by
  simp only [isBlank, Bool.or_eq_true, beq_iff_eq] at blank
  rcases blank with ((rfl | rfl) | rfl) | rfl <;> decide

theorem escapeChar_forall (ascii : ∀ c : Char, c.toNat < 128 → P c) (c : Char) :
    (∀ d ∈ escapeChar c, P d) ↔ P c := by
  have both {c : Char} {ds : List Char} (known : c.toNat < 128) (all : ∀ d ∈ ds, d.toNat < 128) :
      (∀ d ∈ ds, P d) ↔ P c := ⟨fun _ => ascii c known, fun _ d member => ascii d (all d member)⟩
  unfold escapeChar
  split_ifs with h1 h2 h3 h4 h5 h6 h7 h8
  · exact both (by rw [h1]; decide) (by simp)
  · exact both (by rw [h2]; decide) (by simp)
  · exact both (by rw [h3]; decide) (by simp)
  · exact both (by rw [h4]; decide) (by simp)
  · exact both (by rw [h5]; decide) (by simp)
  · exact both (by omega) (by simp)
  · exact both (by omega) (by simp)
  · have first : (Nat.digitChar (c.toNat / 16)).toNat < 128 := ascii_digitChar (by omega)
    have second : (Nat.digitChar (c.toNat % 16)).toNat < 128 := ascii_digitChar (by omega)
    exact both (by omega) (by simp [first, second])
  · simp

theorem quote_forall (ascii : ∀ c : Char, c.toNat < 128 → P c) (s : String) :
    (∀ c ∈ quote s, P c) ↔ ∀ c ∈ s.toList, P c := by
  have mark : P '"' := ascii '"' (by decide)
  simp only [quote, List.mem_cons, List.mem_append, List.mem_flatMap, List.not_mem_nil, or_false]
  constructor
  · intro all c member
    exact (escapeChar_forall ascii c).mp fun d inside => all d (.inr (.inl ⟨c, member, inside⟩))
  · rintro all d (rfl | ⟨c, member, inside⟩ | rfl)
    · exact mark
    · exact (escapeChar_forall ascii c).mpr (all c member) d inside
    · exact mark

theorem literal_forall {l : NumberText.Literal} (valid : l.WellFormed) (numeral : ∀ c : Char, c.isDigit = true → P c)
    (marks : ∀ c ∈ ['-', '+', '.', 'e'], P c) : ∀ c ∈ l.text, P c := by
  have digits {ds : List Char} (all : NumberText.AllDigits ds) : ∀ c ∈ ds, P c :=
    fun c member => numeral c (all.2 c member)
  intro c member
  simp only [NumberText.Literal.text, List.mem_append] at member
  rcases member with sign | whole | frac | exponent
  · unfold NumberText.signText at sign
    split at sign
    · obtain rfl := List.mem_singleton.mp sign
      exact marks _ (by decide)
    · cases sign
  · exact digits valid.whole c whole
  · unfold NumberText.fracText at frac
    split at frac
    next ds found =>
      rcases List.mem_cons.mp frac with rfl | inside
      · exact marks _ (by decide)
      · exact digits (valid.frac ds found) c inside
    · cases frac
  · unfold NumberText.exponentText at exponent
    split at exponent
    next negative ds found =>
      rcases List.mem_cons.mp exponent with rfl | inside
      · exact marks _ (by decide)
      · rcases List.mem_cons.mp inside with rfl | inside
        · cases negative <;> exact marks _ (by decide)
        · exact digits (valid.exponent _ found) c inside
    · cases exponent

theorem ascii_literal (ascii : ∀ c : Char, c.toNat < 128 → P c) {l : NumberText.Literal} (valid : l.WellFormed) :
    ∀ c ∈ l.text, P c :=
  literal_forall valid (fun c digit => ascii c (ascii_isDigit digit)) fun c mark => ascii c (by
    simp only [List.mem_cons, List.not_mem_nil, or_false] at mark
    rcases mark with rfl | rfl | rfl | rfl <;> decide)

theorem blank_forall (ascii : ∀ c : Char, c.toNat < 128 → P c) {cs : List Char}
    (blank : ∀ c ∈ cs, isBlank c = true) : ∀ c ∈ cs, P c :=
  fun c member => ascii c (ascii_isBlank (blank c member))

section

variable (layout : Layout) (ascii : ∀ c : Char, c.toNat < 128 → P c)

include ascii

/-- The blanks and punctuation of a layout change nothing. -/
theorem forall_punctuation {c : Char} {blanks rest : List Char} (known : c.toNat < 128)
    (blank : ∀ c ∈ blanks, isBlank c = true) : (∀ d ∈ c :: (blanks ++ rest), P d) ↔ ∀ d ∈ rest, P d := by
  have all := blank_forall ascii blank
  simp only [List.forall_mem_cons, List.forall_mem_append, ascii c known, true_and]
  exact ⟨fun both => both.2, fun right => ⟨all, right⟩⟩

theorem forall_closing {c : Char} {blanks : List Char} (known : c.toNat < 128)
    (blank : ∀ c ∈ blanks, isBlank c = true) : ∀ d ∈ blanks ++ [c], P d := by
  have all := blank_forall ascii blank
  simp only [List.forall_mem_append, List.forall_mem_singleton]
  exact ⟨all, ascii c known⟩

mutual
/-- What is printed of a value has a property of all ASCII characters exactly when the
texts of the value have it. -/
theorem render_forall (depth : Nat) : (v : Json) → ((∀ c ∈ render layout depth v, P c) ↔ v.Written P)
  | .null => by
    have all : ∀ c ∈ render layout depth .null, P c := by simp [render, ascii]
    exact iff_of_true all written_null
  | .bool b => by
    have all : ∀ c ∈ render layout depth (.bool b), P c := by cases b <;> simp [render, ascii]
    exact iff_of_true all (written_bool b)
  | .int i => by
    have all : ∀ c ∈ render layout depth (.int i), P c :=
      ascii_literal ascii (NumberText.intLiteral_wellFormed i)
    exact iff_of_true all (written_int i)
  | .float x => by
    have all : ∀ c ∈ render layout depth (.float x), P c := by
      cases x with
      | nan => simp [render, floatText, ascii]
      | inf negative => cases negative <;> simp [render, floatText, ascii]
      | finite negative m e canonical =>
        exact ascii_literal ascii (NumberText.floatLiteral_wellFormed negative canonical)
    exact iff_of_true all (written_float x)
  | .str s => by rw [render, quote_forall ascii, written_str]
  | .arr [] => by simp [render, ascii]
  | .arr (v :: rest) => by
    rw [render, forall_punctuation ascii (by decide) (layout.leadBlank _), written_arr, List.forall_mem_append,
      List.forall_mem_append, render_forall (depth + 1) v, renderItems_forall (depth + 1) rest,
      List.forall_mem_cons]
    exact ⟨fun h => ⟨h.1, h.2.1⟩, fun h => ⟨h.1, h.2, forall_closing ascii (by decide) (layout.leadBlank _)⟩⟩
  | .obj [] => by simp [render, ascii, written_obj]
  | .obj ((k, v) :: rest) => by
    rw [render, forall_punctuation ascii (by decide) (layout.leadBlank _), written_obj, List.forall_mem_append,
      quote_forall ascii, forall_punctuation ascii (by decide) layout.colonBlank, List.forall_mem_append,
      List.forall_mem_append, render_forall (depth + 1) v, renderEntries_forall (depth + 1) rest,
      List.forall_mem_cons, and_assoc]
    exact ⟨fun h => ⟨h.1, h.2.1, h.2.2.1⟩,
      fun h => ⟨h.1, h.2.1, h.2.2, forall_closing ascii (by decide) (layout.leadBlank _)⟩⟩
theorem renderItems_forall (depth : Nat) : (items : List Json) →
    ((∀ c ∈ renderItems layout depth items, P c) ↔ ∀ v ∈ items, v.Written P)
  | [] => by simp [renderItems]
  | v :: rest => by
    rw [renderItems, forall_punctuation ascii (by decide) (layout.sepBlank _), List.forall_mem_append,
      render_forall depth v, renderItems_forall depth rest, List.forall_mem_cons]
theorem renderEntries_forall (depth : Nat) : (entries : List (String × Json)) →
    ((∀ c ∈ renderEntries layout depth entries, P c) ↔
      ∀ p ∈ entries, (∀ c ∈ p.1.toList, P c) ∧ p.2.Written P)
  | [] => by simp [renderEntries]
  | (k, v) :: rest => by
    rw [renderEntries, forall_punctuation ascii (by decide) (layout.sepBlank _), List.forall_mem_append,
      quote_forall ascii, forall_punctuation ascii (by decide) layout.colonBlank, List.forall_mem_append,
      render_forall depth v, renderEntries_forall depth rest, List.forall_mem_cons, and_assoc]
end

theorem dumps_forall (v : Json) : (∀ c ∈ (dumps layout v).toList, P c) ↔ v.Written P := by
  rw [dumps, String.toList_ofList, render_forall layout ascii 0 v]

end

end JsonText
