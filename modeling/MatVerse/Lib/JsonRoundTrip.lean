import MatVerse.Lib.JsonText

/-! Parsing a printed value gives it back, whatever the layout. Each lemma about
the parser leaves the rest of the text to its caller. -/
namespace JsonText

/-- What may follow a printed value: nothing, a blank, a comma or a closing bracket. -/
def Ends (rest : List Char) : Prop :=
  ∀ c, rest.head? = some c → isBlank c = true ∨ c = ',' ∨ c = ']' ∨ c = '}'

theorem Ends.stops {rest : List Char} (ends : Ends rest) : NumberText.Stops rest := by
  intro c head
  rcases ends c head with blank | rfl | rfl | rfl
  · simp only [isBlank, Bool.or_eq_true, beq_iff_eq] at blank
    rcases blank with ((rfl | rfl) | rfl) | rfl <;> decide
  all_goals decide

theorem ends_cons {c : Char} {rest : List Char} (h : isBlank c = true ∨ c = ',' ∨ c = ']' ∨ c = '}') :
    Ends (c :: rest) := by
  intro d head
  obtain rfl : c = d := by simpa using head
  exact h

theorem ends_blank_append {blank rest : List Char} (all : ∀ c ∈ blank, isBlank c = true)
    (ends : Ends rest) : Ends (blank ++ rest) := by
  cases blank with
  | nil => exact ends
  | cons c blank => exact ends_cons (.inl (all c (by simp)))

theorem skip_append {blank : List Char} (all : ∀ c ∈ blank, isBlank c = true) (rest : List Char) :
    skip (blank ++ rest) = skip rest :=
  List.dropWhile_append_of_pos all

theorem skip_cons {c : Char} {rest : List Char} (solid : isBlank c = false) :
    skip (c :: rest) = c :: rest := by
  simp [skip, solid]

theorem hexValue_digitChar {n : Nat} (h : n < 16) : hexValue (Nat.digitChar n) = some n := by
  interval_cases n <;> rfl

theorem nextChar_escapeChar (c : Char) (rest : List Char) :
    nextChar (escapeChar c ++ rest) = some (some c, rest) := by
  unfold escapeChar
  split_ifs with quote backslash newline carriage tab feed back control
  · subst quote; rfl
  · subst backslash; rfl
  · subst newline; rfl
  · subst carriage; rfl
  · subst tab; rfl
  · obtain rfl : c = Char.ofNat 12 := Char.toNat_inj.mp (by simpa using feed)
    rfl
  · obtain rfl : c = Char.ofNat 8 := Char.toNat_inj.mp (by simpa using back)
    rfl
  · obtain ⟨n, small, rfl⟩ : ∃ n < 32, c = Char.ofNat n := ⟨c.toNat, control, (Char.ofNat_toNat c).symm⟩
    clear control quote backslash newline carriage tab feed back
    interval_cases n <;> rfl
  · have printable : ¬ (c.toNat < 32 ∨ c = '\\') := by simp [control, backslash]
    simp only [List.singleton_append]
    unfold nextChar
    split <;> simp_all

theorem unquoteFrom_append (s rest : List Char) {fuel : Nat} (enough : s.length < fuel) :
    unquoteFrom fuel (s.flatMap escapeChar ++ '"' :: rest) = some (s, rest) := by
  induction s generalizing fuel with
  | nil =>
    obtain ⟨fuel, rfl⟩ : ∃ n, fuel = n + 1 := ⟨fuel - 1, by simp at enough; omega⟩
    rfl
  | cons c s ih =>
    obtain ⟨fuel, rfl⟩ : ∃ n, fuel = n + 1 := ⟨fuel - 1, by simp at enough; omega⟩
    rw [List.flatMap_cons, List.append_assoc, unquoteFrom, nextChar_escapeChar]
    simp [ih (by simpa using enough)]

theorem length_escapeChar (c : Char) : 1 ≤ (escapeChar c).length := by
  unfold escapeChar
  split_ifs <;> simp

theorem length_flatMap_escapeChar (s : List Char) : s.length ≤ (s.flatMap escapeChar).length := by
  induction s with
  | nil => simp
  | cons c s ih =>
    have := length_escapeChar c
    simp only [List.flatMap_cons, List.length_append, List.length_cons]
    omega

theorem unquote_quote (s : String) (rest : List Char) :
    unquote (s.toList.flatMap escapeChar ++ '"' :: rest) = some (s, rest) := by
  have long := length_flatMap_escapeChar s.toList
  rw [unquote, unquoteFrom_append s.toList rest (by simp only [List.length_append]; omega)]
  simp

/-! ## Numbers and words -/

theorem number_int (i : Int) {rest : List Char} (ends : Ends rest) :
    number ((NumberText.intLiteral i).text ++ rest) = some (.int i, rest) := by
  rw [number, NumberText.scan_text (NumberText.intLiteral_wellFormed i) ends.stops]
  simp [show (NumberText.intLiteral i).frac = none ∧ (NumberText.intLiteral i).exponent = none from
    ⟨rfl, rfl⟩]

theorem number_float (negative : Bool) {m : Nat} {e : Int} (canonical : Binary64.Canonical m e)
    {rest : List Char} (ends : Ends rest) :
    number ((NumberText.floatLiteral negative m e).text ++ rest) =
      some (.float (.finite negative m e canonical), rest) := by
  rw [number, NumberText.scan_text (NumberText.floatLiteral_wellFormed negative canonical) ends.stops]
  have shape := NumberText.floatLiteral_not_int negative m e
  rw [← Option.isNone_iff_eq_none, ← Option.isNone_iff_eq_none, ← Bool.and_eq_true] at shape
  simp only [Option.map_some, shape, Bool.false_eq_true, if_false,
    NumberText.toFloat_floatLiteral negative canonical]

/-- A number starts with a sign or a digit, never with a quote or a bracket. -/
theorem text_head {l : NumberText.Literal} (valid : l.WellFormed) :
    ∃ c tail, l.text = c :: tail ∧ c ≠ '"' ∧ c ≠ '[' ∧ c ≠ '{' ∧ isBlank c = false := by
  obtain ⟨nonempty, all⟩ := valid.whole
  rw [NumberText.Literal.text]
  cases l.negative with
  | true => exact ⟨'-', _, rfl, by decide⟩
  | false =>
    cases shape : l.whole with
    | nil => exact absurd shape nonempty
    | cons c digits =>
      have digit := all c (by simp [shape])
      refine ⟨c, _, rfl, ?_⟩
      have ne {d : Char} (hd : d.isDigit = false) : c ≠ d := NumberText.digit_ne digit hd
      refine ⟨ne (by decide), ne (by decide), ne (by decide), ?_⟩
      simp [isBlank, ne (by decide : ' '.isDigit = false), ne (by decide : '\n'.isDigit = false),
        ne (by decide : '\t'.isDigit = false), ne (by decide : '\r'.isDigit = false)]

theorem value_scalar {fuel : Nat} {c : Char} {cs : List Char} (quote : c ≠ '"') (bracket : c ≠ '[')
    (brace : c ≠ '{') : value (fuel + 1) (c :: cs) = (number (c :: cs)).or (word (c :: cs)) := by
  unfold value
  split <;> simp_all

/-! ## Fuel -/

mutual
/-- The fuel a printed value needs. -/
def size : Json → Nat
  | .arr items => 1 + sizeItems items
  | .obj entries => 1 + sizeEntries entries
  | _ => 1
def sizeItems : List Json → Nat
  | [] => 1
  | v :: rest => 1 + size v + sizeItems rest
def sizeEntries : List (String × Json) → Nat
  | [] => 1
  | (_, v) :: rest => 2 + size v + sizeEntries rest
end

theorem size_pos (v : Json) : 1 ≤ size v := by
  cases v <;> simp [size]

theorem length_word_or_number (layout : Layout) (depth : Nat) (v : Json) :
    1 ≤ (render layout depth v).length := by
  have literal {l : NumberText.Literal} (valid : l.WellFormed) : 1 ≤ l.text.length := by
    obtain ⟨c, tail, shape, _⟩ := text_head valid
    simp [shape]
  cases v with
  | null => simp [render]
  | bool b => cases b <;> simp [render]
  | int i => simpa [render] using literal (NumberText.intLiteral_wellFormed i)
  | float x =>
    cases x with
    | nan => simp [render, floatText]
    | inf negative => cases negative <;> simp [render, floatText]
    | finite negative m e canonical =>
      simpa [render, floatText] using literal (NumberText.floatLiteral_wellFormed negative canonical)
  | str s => simp [render, quote]
  | arr items => cases items <;> simp [render]
  | obj entries =>
    cases entries with
    | nil => simp [render]
    | cons p rest => simp [render]

/-- The printed text is long enough to fuel its own parse. -/
theorem size_le_length (layout : Layout) (v : Json) :
    ∀ depth, size v ≤ 2 * (render layout depth v).length := by
  induction v using Json.induction with
  | null => intro depth; simp [render, size]
  | bool b => intro depth; cases b <;> simp [render, size]
  | int i =>
    intro depth
    have := length_word_or_number layout depth (.int i)
    simp only [size]
    omega
  | float x =>
    intro depth
    have := length_word_or_number layout depth (.float x)
    simp only [size]
    omega
  | str s => intro depth; simp [render, size, quote]; omega
  | arr items ih =>
    intro depth
    have tail : ∀ rest : List Json, (∀ v ∈ rest, ∀ depth, size v ≤ 2 * (render layout depth v).length) →
        sizeItems rest ≤ 1 + 2 * (renderItems layout (depth + 1) rest).length := by
      intro rest all
      induction rest with
      | nil => simp [sizeItems]
      | cons v rest more =>
        have head := all v (by simp) (depth + 1)
        have rest := more (fun w member => all w (List.mem_cons_of_mem _ member))
        simp only [sizeItems, renderItems, List.length_cons, List.length_append]
        omega
    cases items with
    | nil => simp [render, size, sizeItems]
    | cons v rest =>
      have head := ih v (by simp) (depth + 1)
      have rest := tail rest (fun w member => ih w (List.mem_cons_of_mem _ member))
      simp only [size, sizeItems, render, List.length_cons, List.length_append]
      omega
  | obj entries ih =>
    intro depth
    have tail : ∀ rest : List (String × Json),
        (∀ p ∈ rest, ∀ depth, size p.2 ≤ 2 * (render layout depth p.2).length) →
        sizeEntries rest ≤ 1 + 2 * (renderEntries layout (depth + 1) rest).length := by
      intro rest all
      induction rest with
      | nil => simp [sizeEntries]
      | cons p rest more =>
        have head := all p (by simp) (depth + 1)
        have rest := more (fun w member => all w (List.mem_cons_of_mem _ member))
        simp only [sizeEntries, renderEntries, List.length_cons, List.length_append]
        omega
    cases entries with
    | nil => simp [render, size, sizeEntries]
    | cons p rest =>
      have head := ih p (by simp) (depth + 1)
      have rest := tail rest (fun w member => ih w (List.mem_cons_of_mem _ member))
      simp only [size, sizeEntries, render, List.length_cons, List.length_append]
      omega

/-! ## Round trip -/

theorem value_quote (s : String) (rest : List Char) (fuel : Nat) :
    value (fuel + 1) (quote s ++ rest) = some (.str s, rest) := by
  simp [quote, value, unquote_quote]

theorem value_number {fuel : Nat} {l : NumberText.Literal} (valid : l.WellFormed) {rest : List Char}
    {v : Json} (read : number (l.text ++ rest) = some (v, rest)) :
    value (fuel + 1) (l.text ++ rest) = some (v, rest) := by
  obtain ⟨c, tail, shape, quote, bracket, brace, _⟩ := text_head valid
  rw [shape, List.cons_append] at read ⊢
  rw [value_scalar quote bracket brace, read]
  rfl

/-- The first character of a value is neither blank nor a closing bracket. -/
theorem render_head (layout : Layout) (depth : Nat) (v : Json) :
    ∃ c tail, render layout depth v = c :: tail ∧ isBlank c = false ∧ c ≠ ']' := by
  have literal {l : NumberText.Literal} (valid : l.WellFormed) :
      ∃ c tail, l.text = c :: tail ∧ isBlank c = false ∧ c ≠ ']' := by
    obtain ⟨nonempty, all⟩ := valid.whole
    obtain ⟨c, tail, shape, _, _, _, solid⟩ := text_head valid
    refine ⟨c, tail, shape, solid, ?_⟩
    rintro rfl
    rw [NumberText.Literal.text] at shape
    cases negative : l.negative with
    | true => simp [negative, NumberText.signText] at shape
    | false =>
      cases digits : l.whole with
      | nil => exact nonempty digits
      | cons d digits' =>
        have same : d = ']' := by
          simpa [negative, NumberText.signText, digits] using congrArg List.head? shape
        have := all d (by simp [digits])
        rw [same] at this
        exact absurd this (by decide)
  cases v with
  | null => exact ⟨_, _, rfl, by decide⟩
  | bool b => cases b <;> exact ⟨_, _, rfl, by decide⟩
  | int i => simpa [render] using literal (NumberText.intLiteral_wellFormed i)
  | float x =>
    cases x with
    | nan => exact ⟨_, _, rfl, by decide⟩
    | inf negative => cases negative <;> exact ⟨_, _, rfl, by decide⟩
    | finite negative m e canonical =>
      simpa [render, floatText] using literal (NumberText.floatLiteral_wellFormed negative canonical)
  | str s => exact ⟨_, _, rfl, by decide⟩
  | arr items => cases items <;> exact ⟨_, _, by rw [render], by decide⟩
  | obj entries =>
    cases entries with
    | nil => exact ⟨_, _, by rw [render], by decide⟩
    | cons p rest => exact ⟨_, _, by rw [render], by decide⟩

/-- Parsing a printed value returns it and stops where it ends. -/
def Reads (layout : Layout) (v : Json) : Prop :=
  ∀ fuel depth rest, size v ≤ fuel → Ends rest →
    value fuel (render layout depth v ++ rest) = some (v, rest)

theorem ends_items (layout : Layout) (vs : List Json) (depth outer : Nat) (rest : List Char) :
    Ends (renderItems layout depth vs ++ (layout.lead outer ++ ']' :: rest)) := by
  cases vs with
  | nil =>
    rw [renderItems, List.nil_append]
    exact ends_blank_append (layout.leadBlank outer) (ends_cons (by simp))
  | cons => exact ends_cons (by simp)

theorem ends_entries (layout : Layout) (ps : List (String × Json)) (depth outer : Nat)
    (rest : List Char) :
    Ends (renderEntries layout depth ps ++ (layout.lead outer ++ '}' :: rest)) := by
  cases ps with
  | nil =>
    rw [renderEntries, List.nil_append]
    exact ends_blank_append (layout.leadBlank outer) (ends_cons (by simp))
  | cons => exact ends_cons (by simp)

theorem skip_render (layout : Layout) (depth : Nat) (v : Json) (rest : List Char) :
    skip (render layout depth v ++ rest) = render layout depth v ++ rest := by
  obtain ⟨c, tail, shape, solid, _⟩ := render_head layout depth v
  rw [shape]
  exact skip_cons solid

theorem items_render {layout : Layout} {vs : List Json} (reads : ∀ v ∈ vs, Reads layout v)
    {fuel depth outer : Nat} {rest : List Char} (enough : sizeItems vs ≤ fuel) :
    items fuel (renderItems layout depth vs ++ (layout.lead outer ++ ']' :: rest)) =
      some (vs, rest) := by
  induction vs generalizing fuel with
  | nil =>
    obtain ⟨fuel, rfl⟩ : ∃ n, fuel = n + 1 := ⟨fuel - 1, by simp [sizeItems] at enough; omega⟩
    have solid : skip (']' :: rest) = ']' :: rest := skip_cons (by decide)
    simp only [renderItems, List.nil_append, items, skip_append (layout.leadBlank outer), solid]
  | cons v vs ih =>
    obtain ⟨fuel, rfl⟩ : ∃ n, fuel = n + 1 := ⟨fuel - 1, by simp [sizeItems] at enough; omega⟩
    simp only [sizeItems] at enough
    have head := reads v (by simp) fuel depth _ (by omega) (ends_items layout vs depth outer rest)
    have tail : items fuel (renderItems layout depth vs ++ (layout.lead outer ++ ']' :: rest)) =
        some (vs, rest) := ih (fun w member => reads w (List.mem_cons_of_mem _ member)) (by omega)
    have comma (cs : List Char) : skip (',' :: cs) = ',' :: cs := skip_cons (by decide)
    simp only [renderItems, List.cons_append, List.append_assoc, items, comma,
      skip_append (layout.sepBlank depth), skip_render, head, tail,
      Option.bind_eq_bind, Option.bind_some, Option.pure_def]

theorem entry_render {layout : Layout} (k : String) {v : Json} (reads : Reads layout v)
    {fuel depth : Nat} {rest : List Char} (enough : 1 + size v ≤ fuel) (ends : Ends rest) :
    entry fuel (quote k ++ ':' :: (layout.colon ++ (render layout depth v ++ rest))) =
      some ((k, v), rest) := by
  obtain ⟨fuel, rfl⟩ : ∃ n, fuel = n + 1 := ⟨fuel - 1, by omega⟩
  have head := reads fuel depth rest (by omega) ends
  have colon (cs : List Char) : skip (':' :: cs) = ':' :: cs := skip_cons (by decide)
  simp only [quote, List.cons_append, List.append_assoc, List.nil_append, entry, unquote_quote, colon,
    skip_append layout.colonBlank, skip_render, head, Option.bind_eq_bind, Option.bind_some,
    Option.pure_def]

theorem entries_render {layout : Layout} {ps : List (String × Json)}
    (reads : ∀ p ∈ ps, Reads layout p.2) {fuel depth outer : Nat} {rest : List Char}
    (enough : sizeEntries ps ≤ fuel) :
    entries fuel (renderEntries layout depth ps ++ (layout.lead outer ++ '}' :: rest)) =
      some (ps, rest) := by
  induction ps generalizing fuel with
  | nil =>
    obtain ⟨fuel, rfl⟩ : ∃ n, fuel = n + 1 := ⟨fuel - 1, by simp [sizeEntries] at enough; omega⟩
    have solid : skip ('}' :: rest) = '}' :: rest := skip_cons (by decide)
    simp only [renderEntries, List.nil_append, entries, skip_append (layout.leadBlank outer), solid]
  | cons p ps ih =>
    obtain ⟨k, v⟩ := p
    obtain ⟨fuel, rfl⟩ : ∃ n, fuel = n + 1 := ⟨fuel - 1, by simp [sizeEntries] at enough; omega⟩
    simp only [sizeEntries] at enough
    have head : entry fuel (quote k ++ ':' :: (layout.colon ++ (render layout depth v ++
        (renderEntries layout depth ps ++ (layout.lead outer ++ '}' :: rest))))) =
        some ((k, v), renderEntries layout depth ps ++ (layout.lead outer ++ '}' :: rest)) :=
      entry_render k (reads (k, v) (by simp)) (by simp only; omega)
        (ends_entries layout ps depth outer rest)
    have tail : entries fuel (renderEntries layout depth ps ++ (layout.lead outer ++ '}' :: rest)) =
        some (ps, rest) := ih (fun w member => reads w (List.mem_cons_of_mem _ member)) (by omega)
    have first (cs : List Char) : skip (quote k ++ cs) = quote k ++ cs := skip_cons (by decide)
    have comma (cs : List Char) : skip (',' :: cs) = ',' :: cs := skip_cons (by decide)
    simp only [renderEntries, List.cons_append, List.append_assoc, entries, comma,
      skip_append (layout.sepBlank depth), first, head, tail, Option.bind_eq_bind, Option.bind_some,
      Option.pure_def]

theorem floatText_reads (x : Binary64) (fuel : Nat) {rest : List Char} (ends : Ends rest) :
    value (fuel + 1) (floatText x ++ rest) = some (.float x, rest) := by
  cases x with
  | nan => rfl
  | inf negative => cases negative <;> rfl
  | finite negative m e canonical =>
    exact value_number (NumberText.floatLiteral_wellFormed negative canonical)
      (number_float negative canonical ends)

theorem arr_reads {layout : Layout} {v : Json} {vs : List Json}
    (reads : ∀ w ∈ v :: vs, Reads layout w) : Reads layout (.arr (v :: vs)) := by
  intro fuel depth rest enough ends
  obtain ⟨fuel, rfl⟩ : ∃ n, fuel = n + 1 := ⟨fuel - 1, by simp only [size] at enough; omega⟩
  simp only [size, sizeItems] at enough
  have head := reads v (by simp) fuel (depth + 1) _ (by omega)
    (ends_items layout vs (depth + 1) depth rest)
  have tail : items fuel (renderItems layout (depth + 1) vs ++ (layout.lead depth ++ ']' :: rest)) =
      some (vs, rest) :=
    items_render (fun w member => reads w (List.mem_cons_of_mem _ member)) (by omega)
  obtain ⟨c, text, shape, solid, notClosing⟩ := render_head layout (depth + 1) v
  simp only [render, List.cons_append, List.append_assoc, List.nil_append, value,
    skip_append (layout.leadBlank _), skip_render]
  rw [shape, List.cons_append] at head ⊢
  split
  · simp_all
  · simp only [head, tail, Option.bind_eq_bind, Option.bind_some, Option.pure_def]

theorem obj_reads {layout : Layout} {p : String × Json} {ps : List (String × Json)}
    (reads : ∀ q ∈ p :: ps, Reads layout q.2) : Reads layout (.obj (p :: ps)) := by
  obtain ⟨k, v⟩ := p
  intro fuel depth rest enough ends
  obtain ⟨fuel, rfl⟩ : ∃ n, fuel = n + 1 := ⟨fuel - 1, by simp only [size] at enough; omega⟩
  simp only [size, sizeEntries] at enough
  have head : entry fuel (quote k ++ ':' :: (layout.colon ++ (render layout (depth + 1) v ++
      (renderEntries layout (depth + 1) ps ++ (layout.lead depth ++ '}' :: rest))))) =
      some ((k, v), renderEntries layout (depth + 1) ps ++ (layout.lead depth ++ '}' :: rest)) :=
    entry_render k (reads (k, v) (by simp)) (by simp only; omega)
      (ends_entries layout ps (depth + 1) depth rest)
  have tail : entries fuel (renderEntries layout (depth + 1) ps ++ (layout.lead depth ++ '}' :: rest)) =
      some (ps, rest) :=
    entries_render (fun q member => reads q (List.mem_cons_of_mem _ member)) (by omega)
  have first (cs : List Char) : skip (quote k ++ cs) = quote k ++ cs := skip_cons (by decide)
  simp only [render, List.cons_append, List.append_assoc, List.nil_append, value,
    skip_append (layout.leadBlank _), first]
  rw [quote, List.cons_append] at head ⊢
  split
  · simp_all
  · simp only [head, tail, Option.bind_eq_bind, Option.bind_some, Option.pure_def]

theorem reads_render (layout : Layout) (v : Json) : Reads layout v := by
  have scalar {w : Json} {text : List Char} (printed : ∀ depth, render layout depth w = text)
      (one : size w = 1)
      (read : ∀ fuel rest, Ends rest → value (fuel + 1) (text ++ rest) = some (w, rest)) :
      Reads layout w := by
    intro fuel depth rest enough ends
    obtain ⟨fuel, rfl⟩ : ∃ n, fuel = n + 1 := ⟨fuel - 1, by omega⟩
    rw [printed]
    exact read fuel rest ends
  have empty {w : Json} {text : List Char} (printed : ∀ depth, render layout depth w = text)
      (read : ∀ fuel rest, value (fuel + 1) (text ++ rest) = some (w, rest)) : Reads layout w := by
    intro fuel depth rest enough _
    have := size_pos w
    obtain ⟨fuel, rfl⟩ : ∃ n, fuel = n + 1 := ⟨fuel - 1, by omega⟩
    rw [printed]
    exact read fuel rest
  induction v using Json.induction with
  | null => exact empty (fun _ => rfl) (fun _ _ => rfl)
  | bool b => cases b <;> exact empty (fun _ => rfl) (fun _ _ => rfl)
  | int i =>
    exact scalar (fun _ => rfl) rfl (fun fuel rest ends =>
      value_number (NumberText.intLiteral_wellFormed i) (number_int i ends))
  | float x => exact scalar (fun _ => rfl) rfl (fun fuel rest ends => floatText_reads x fuel ends)
  | str s => exact empty (fun _ => rfl) (fun fuel rest => value_quote s rest fuel)
  | arr items ih =>
    cases items with
    | nil => exact empty (fun _ => by rw [render]) (fun _ _ => rfl)
    | cons v vs => exact arr_reads ih
  | obj entries ih =>
    cases entries with
    | nil => exact empty (fun _ => by rw [render]) (fun _ _ => rfl)
    | cons p ps => exact obj_reads ih

/-- A printed value followed by blanks parses to the value. -/
theorem parse_render (layout : Layout) (depth : Nat) (v : Json) {blank : List Char}
    (all : ∀ c ∈ blank, isBlank c = true) : parse (render layout depth v ++ blank) = some v := by
  have ends : Ends blank := by
    intro c head
    exact .inl (all c (List.mem_of_mem_head? (by simp [head])))
  have finished : skip blank = [] := by
    have := skip_append all []
    rwa [List.append_nil] at this
  have long := size_le_length layout v depth
  have read := reads_render layout v (2 * (render layout depth v ++ blank).length + 1) depth blank
    (by simp only [List.length_append]; omega) ends
  rw [parse, skip_render, read]
  simp [finished]

theorem render_injective (layout : Layout) (depth : Nat) {v w : Json}
    (same : render layout depth v = render layout depth w) : v = w := by
  have read (u : Json) : parse (render layout depth u) = some u := by
    have nothing : ∀ c ∈ ([] : List Char), isBlank c = true := by simp
    simpa using parse_render layout depth u nothing
  exact Option.some.inj (by rw [← read v, same, read w])

@[simp] theorem loads_dumps (layout : Layout) (v : Json) : loads (dumps layout v) = some v.norm := by
  have nothing : ∀ c ∈ ([] : List Char), isBlank c = true := by simp
  have read := parse_render layout 0 v nothing
  rw [List.append_nil] at read
  rw [loads, dumps, String.toList_ofList, read]
  rfl

theorem dumps_injective {layout : Layout} {v w : Json} (same : dumps layout v = dumps layout w) :
    v = w := by
  apply render_injective layout 0
  simpa [dumps] using congrArg String.toList same

theorem normal_loads {text : String} {v : Json} (read : loads text = some v) : v.Normal := by
  obtain ⟨raw, _, rfl⟩ := Option.map_eq_some_iff.mp read
  exact Json.normal_norm raw

end JsonText
