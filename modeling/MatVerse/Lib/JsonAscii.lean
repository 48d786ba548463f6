import MatVerse.Lib.JsonRoundTrip
import MatVerse.Lib.JsonTexts

/-! The ASCII writer of JSON texts: what it makes of two values is the same only if the
values are. -/
namespace JsonText

/-- What the printer makes: quotes and blanks as they are, and all other characters
escaped. -/
inductive Escaped : List Char → Prop where
  | nil : Escaped []
  | mark {c rest} (plain : c = '"' ∨ c.toNat < 32) (tail : Escaped rest) : Escaped (c :: rest)
  | char {c rest} (tail : Escaped rest) : Escaped (escapeChar c ++ rest)

theorem Escaped.append {cs rest : List Char} (first : Escaped cs) (second : Escaped rest) : Escaped (cs ++ rest) := by
  induction first with
  | nil => exact second
  | mark plain _ ih => exact .mark plain ih
  | char _ ih =>
    rw [List.append_assoc]
    exact .char ih

/-- A character that is printed as it is, in a string and outside. -/
def Bare (c : Char) : Prop := c = '"' ∨ c.toNat < 32 ∨ escapeChar c = [c]

theorem Escaped.bare {c : Char} {rest : List Char} (bare : Bare c) (tail : Escaped rest) : Escaped (c :: rest) := by
  rcases bare with quote | control | same
  · exact .mark (.inl quote) tail
  · exact .mark (.inr control) tail
  · have := Escaped.char (c := c) tail
    rwa [same] at this

theorem Escaped.all {cs : List Char} (bare : ∀ c ∈ cs, Bare c) : Escaped cs := by
  induction cs with
  | nil => exact .nil
  | cons c rest ih => exact .bare (bare c (by simp)) (ih fun d member => bare d (List.mem_cons_of_mem _ member))

theorem bare_blank {c : Char} (blank : isBlank c = true) : Bare c := by
  simp only [isBlank, Bool.or_eq_true, beq_iff_eq] at blank
  rcases blank with ((rfl | rfl) | rfl) | rfl
  · exact .inr (.inr rfl)
  · exact .inr (.inl (by decide))
  · exact .inr (.inl (by decide))
  · exact .inr (.inl (by decide))

theorem escapeChar_bare {c : Char} (printable : 32 ≤ c.toNat) (quote : c ≠ '"') (backslash : c ≠ '\\') :
    escapeChar c = [c] := by
  have others {d : Char} (control : d.toNat < 32) : c ≠ d := by
    rintro rfl
    omega
  simp only [escapeChar, quote, backslash, if_false]
  rw [if_neg (others (by decide)), if_neg (others (by decide)), if_neg (others (by decide)), if_neg (by omega),
    if_neg (by omega), if_neg (by omega)]

theorem bare_digit {c : Char} (digit : c.isDigit = true) : Bare c := by
  simp only [Char.isDigit, Bool.and_eq_true, decide_eq_true_eq] at digit
  have low : 48 ≤ c.toNat := digit.1
  have high : c.toNat ≤ 57 := digit.2
  refine .inr (.inr (escapeChar_bare (by omega) ?_ ?_))
  all_goals
    rintro rfl
    revert low high
    decide

theorem escaped_literal {l : NumberText.Literal} (valid : l.WellFormed) : Escaped l.text := by
  refine .all (literal_forall valid (fun c digit => bare_digit digit) fun c mark => ?_)
  simp only [List.mem_cons, List.not_mem_nil, or_false] at mark
  rcases mark with rfl | rfl | rfl | rfl <;> exact .inr (.inr rfl)

theorem escaped_quote (s : String) : Escaped (quote s) := by
  have inside (cs : List Char) : Escaped (cs.flatMap escapeChar ++ ['"']) := by
    induction cs with
    | nil => exact .mark (.inl rfl) .nil
    | cons c rest ih =>
      rw [List.flatMap_cons, List.append_assoc]
      exact .char ih
  exact .mark (.inl rfl) (inside s.toList)

section
variable {layout : Layout}

theorem escaped_open {c : Char} {blanks rest : List Char} (bare : Bare c) (blank : ∀ d ∈ blanks, isBlank d = true)
    (tail : Escaped rest) : Escaped (c :: (blanks ++ rest)) :=
  .bare bare (.append (.all fun d member => bare_blank (blank d member)) tail)

theorem escaped_close {c : Char} {blanks : List Char} (bare : Bare c) (blank : ∀ d ∈ blanks, isBlank d = true) :
    Escaped (blanks ++ [c]) :=
  .append (.all fun d member => bare_blank (blank d member)) (.bare bare .nil)

mutual
theorem escaped_render (depth : Nat) : (v : Json) → Escaped (render layout depth v)
  | .null => .all (by simp [render, Bare, escapeChar])
  | .bool b => by
    cases b
    all_goals exact .all (by simp [render, Bare, escapeChar])
  | .int i => escaped_literal (NumberText.intLiteral_wellFormed i)
  | .float x => by
    cases x with
    | nan => exact .all (by simp [render, floatText, Bare, escapeChar])
    | inf negative =>
      cases negative
      all_goals exact .all (by simp [render, floatText, Bare, escapeChar])
    | finite negative m e canonical => exact escaped_literal (NumberText.floatLiteral_wellFormed negative canonical)
  | .str s => escaped_quote s
  | .arr [] => .all (by simp [render, Bare, escapeChar])
  | .arr (v :: rest) =>
    escaped_open (.inr (.inr rfl)) (layout.leadBlank _) (.append (escaped_render (depth + 1) v)
      (.append (escaped_renderItems (depth + 1) rest) (escaped_close (.inr (.inr rfl)) (layout.leadBlank _))))
  | .obj [] => .all (by simp [render, Bare, escapeChar])
  | .obj ((k, v) :: rest) =>
    escaped_open (.inr (.inr rfl)) (layout.leadBlank _) (.append (escaped_quote k)
      (escaped_open (.inr (.inr rfl)) layout.colonBlank (.append (escaped_render (depth + 1) v)
        (.append (escaped_renderEntries (depth + 1) rest) (escaped_close (.inr (.inr rfl)) (layout.leadBlank _))))))
theorem escaped_renderItems (depth : Nat) : (items : List Json) → Escaped (renderItems layout depth items)
  | [] => .nil
  | v :: rest => escaped_open (.inr (.inr rfl)) (layout.sepBlank _)
      (.append (escaped_render depth v) (escaped_renderItems depth rest))
theorem escaped_renderEntries (depth : Nat) : (entries : List (String × Json)) →
    Escaped (renderEntries layout depth entries)
  | [] => .nil
  | (k, v) :: rest => escaped_open (.inr (.inr rfl)) (layout.sepBlank _) (.append (escaped_quote k)
      (escaped_open (.inr (.inr rfl)) layout.colonBlank
        (.append (escaped_render depth v) (escaped_renderEntries depth rest))))
end

end

/-! ## Reading the escapes back -/

theorem hex4_hexDigits {n : Nat} (small : n < 0x10000) (rest : List Char) :
    hex4 (hexDigits n ++ rest) = some (n, rest) := by
  have digit (k : Nat) : hexValue (Nat.digitChar (k % 16)) = some (k % 16) :=
    hexValue_digitChar (Nat.mod_lt _ (by decide))
  have parts : ((n / 4096 % 16 * 16 + n / 256 % 16) * 16 + n / 16 % 16) * 16 + n % 16 = n := by omega
  simp only [hexDigits, List.cons_append, List.nil_append, hex4, digit, bind, Option.bind]
  exact congrArg (fun m => some (m, rest)) parts

theorem toNat_scalar (c : Char) : c.toNat < 0xD800 ∨ 0xE000 ≤ c.toNat ∧ c.toNat < 0x110000 := by
  rcases c.valid with low | ⟨high, last⟩
  · exact .inl low
  · exact .inr ⟨by have : 0xDFFF < c.toNat := high; omega, last⟩

theorem unicode_basic {c : Char} (basic : c.toNat < 0x10000) (rest : List Char) :
    unicode (hexDigits c.toNat ++ rest) = some (c, rest) := by
  have scalar := toNat_scalar c
  have high : ¬(0xD800 ≤ c.toNat ∧ c.toNat < 0xDC00) := by omega
  have low : ¬(0xDC00 ≤ c.toNat ∧ c.toNat < 0xE000) := by omega
  simp only [unicode, hex4_hexDigits basic, bind, Option.bind, high, low, if_false]
  rw [Char.ofNat_toNat]
  rfl

theorem unicode_surrogates {h l : Nat} (high : 0xD800 ≤ h ∧ h < 0xDC00) (low : 0xDC00 ≤ l ∧ l < 0xE000)
    (rest : List Char) : unicode (hexDigits h ++ '\\' :: 'u' :: (hexDigits l ++ rest)) =
      some (Char.ofNat (0x10000 + (h - 0xD800) * 1024 + (l - 0xDC00)), rest) := by
  have first : h < 0x10000 := by omega
  have second : l < 0x10000 := by omega
  simp only [unicode, hex4_hexDigits first, hex4_hexDigits second, bind, Option.bind, high, low, and_self, if_true]
  rfl

theorem unicode_pair {c : Char} (beyond : 0x10000 ≤ c.toNat) (rest : List Char) :
    unicode (hexDigits (0xD800 + (c.toNat - 0x10000) / 1024) ++
      '\\' :: 'u' :: (hexDigits (0xDC00 + (c.toNat - 0x10000) % 1024) ++ rest)) = some (c, rest) := by
  have scalar := toNat_scalar c
  generalize high : 0xD800 + (c.toNat - 0x10000) / 1024 = h
  generalize low : 0xDC00 + (c.toNat - 0x10000) % 1024 = l
  have code : 0x10000 + (h - 0xD800) * 1024 + (l - 0xDC00) = c.toNat := by omega
  rw [unicode_surrogates (by omega) (by omega), code, Char.ofNat_toNat]

theorem asciiChar_small {c : Char} (small : c.toNat < 127) : asciiChar c = [c] := by
  rw [asciiChar, if_pos small]

theorem flatMap_asciiChar_small {cs : List Char} (small : ∀ c ∈ cs, c.toNat < 127) : cs.flatMap asciiChar = cs := by
  induction cs with
  | nil => rfl
  | cons c rest ih =>
    rw [List.flatMap_cons, asciiChar_small (small c (by simp)),
      ih fun d member => small d (List.mem_cons_of_mem _ member)]
    rfl

theorem digitChar_small {n : Nat} (small : n < 16) : (Nat.digitChar n).toNat < 127 := by
  interval_cases n <;> decide

theorem escapeChar_small {c : Char} (small : c.toNat < 127) : ∀ d ∈ escapeChar c, d.toNat < 127 := by
  unfold escapeChar
  split_ifs
  all_goals simp
  · exact ⟨digitChar_small (by omega), digitChar_small (by omega)⟩
  · exact small

theorem nextChar_ascii (c : Char) (rest : List Char) :
    nextChar ((escapeChar c).flatMap asciiChar ++ rest) = some (some c, rest) := by
  by_cases small : c.toNat < 127
  · rw [flatMap_asciiChar_small (escapeChar_small small), nextChar_escapeChar]
  · have bare : escapeChar c = [c] := by
      refine escapeChar_bare (by omega) ?_ ?_
      all_goals
        rintro rfl
        exact small (by decide)
    rw [bare, List.flatMap_singleton, asciiChar, if_neg small]
    split_ifs with basic
    · show (unicode (hexDigits c.toNat ++ rest)).map _ = _
      rw [unicode_basic basic]
      rfl
    · show (unicode (_ ++ _ ++ rest)).map _ = _
      rw [List.append_assoc]
      exact congrArg (Option.map _) (unicode_pair (by omega) rest)

theorem nextChar_control {c : Char} (control : c.toNat < 32) (rest : List Char) : nextChar (c :: rest) = none := by
  unfold nextChar
  split <;> simp_all

theorem nextChar_mark {c : Char} (plain : c = '"' ∨ c.toNat < 32) (rest : List Char) {d : Char} {after : List Char} :
    nextChar (c :: rest) ≠ some (some d, after) := by
  rcases plain with rfl | control
  · show some (none, rest) ≠ _
    simp
  · rw [nextChar_control control]
    simp

theorem flatMap_mark {c : Char} (plain : c = '"' ∨ c.toNat < 32) (rest : List Char) :
    (c :: rest).flatMap asciiChar = c :: rest.flatMap asciiChar := by
  rw [List.flatMap_cons, asciiChar_small]
  · rfl
  · rcases plain with rfl | control
    · decide
    · omega

theorem mark_apart {c d : Char} (plain : c = '"' ∨ c.toNat < 32) (rest others : List Char) :
    c :: rest ≠ (escapeChar d).flatMap asciiChar ++ others := by
  intro same
  have read := nextChar_ascii d others
  rw [← same] at read
  exact nextChar_mark plain rest read

theorem flatMap_char_ne_nil (c : Char) (rest : List Char) : (escapeChar c).flatMap asciiChar ++ rest ≠ [] := by
  intro empty
  have read := nextChar_ascii c rest
  rw [empty] at read
  cases read

/-- The ASCII writer loses nothing of an escaped text. -/
theorem Escaped.ascii_injective {s t : List Char} (first : Escaped s) (second : Escaped t)
    (same : s.flatMap asciiChar = t.flatMap asciiChar) : s = t := by
  induction first generalizing t with
  | nil =>
    cases second with
    | nil => rfl
    | mark plain _ =>
      rw [flatMap_mark plain] at same
      cases same
    | char _ =>
      rw [List.flatMap_append] at same
      exact absurd same.symm (flatMap_char_ne_nil _ _)
  | mark plain _ ih =>
    rw [flatMap_mark plain] at same
    cases second with
    | nil => cases same
    | mark other tail =>
      rw [flatMap_mark other] at same
      obtain ⟨rfl, rest⟩ := List.cons.inj same
      rw [ih tail rest]
    | char tail =>
      rw [List.flatMap_append] at same
      exact absurd same (mark_apart plain _ _)
  | char _ ih =>
    rw [List.flatMap_append] at same
    cases second with
    | nil => exact absurd same (flatMap_char_ne_nil _ _)
    | mark plain tail =>
      rw [flatMap_mark plain] at same
      exact absurd same.symm (mark_apart plain _ _)
    | char tail =>
      rw [List.flatMap_append] at same
      have read := congrArg nextChar same
      rw [nextChar_ascii, nextChar_ascii] at read
      simp only [Option.some.injEq, Prod.mk.injEq] at read
      obtain ⟨rfl, rest⟩ := read
      rw [ih tail rest]

theorem dumpsAscii_injective {layout : Layout} {v w : Json}
    (same : dumpsAscii layout v = dumpsAscii layout w) : v = w := by
  have texts : (render layout 0 v).flatMap asciiChar = (render layout 0 w).flatMap asciiChar := by
    simpa [dumpsAscii] using congrArg String.toList same
  have equal := (escaped_render 0 v).ascii_injective (escaped_render 0 w) texts
  exact dumps_injective (congrArg String.ofList equal)

end JsonText
