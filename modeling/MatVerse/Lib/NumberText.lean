import MatVerse.Lib.Binary64
import Mathlib.Tactic.IntervalCases

/-! Decimal number literals: the grammar a JSON number has, the literal Python
prints for an integer or a float, and reading it back. -/
namespace NumberText

structure Literal where
  negative : Bool
  whole : List Char
  frac : Option (List Char)
  exponent : Option (Bool × List Char)

def digitsText (n : Nat) : List Char := Nat.toDigits 10 n
def digitsValue (digits : List Char) : Nat := Nat.ofDigitChars 10 digits 0

def signText (negative : Bool) : List Char := if negative then ['-'] else []

def fracText : Option (List Char) → List Char
  | some digits => '.' :: digits
  | none => []

/-- The exponent always carries a sign, as `repr` writes it. -/
def exponentText : Option (Bool × List Char) → List Char
  | some (negative, digits) => 'e' :: (if negative then '-' else '+') :: digits
  | none => []

def Literal.text (l : Literal) : List Char :=
  signText l.negative ++ (l.whole ++ (fracText l.frac ++ exponentText l.exponent))

def AllDigits (digits : List Char) : Prop := digits ≠ [] ∧ ∀ c ∈ digits, c.isDigit = true

structure Literal.WellFormed (l : Literal) : Prop where
  whole : AllDigits l.whole
  noLeadingZero : l.whole.head? = some '0' → l.whole = ['0']
  frac : ∀ digits, l.frac = some digits → AllDigits digits
  exponent : ∀ p, l.exponent = some p → AllDigits p.2

/-- What follows a number must not continue it. -/
def Stops (rest : List Char) : Prop :=
  ∀ c, rest.head? = some c → c.isDigit = false ∧ c ≠ '.' ∧ c ≠ 'e' ∧ c ≠ 'E'

def scanDigits (cs : List Char) : Option (List Char × List Char) :=
  match cs.takeWhile Char.isDigit with
  | [] => none
  | digits => some (digits, cs.dropWhile Char.isDigit)

def scanWhole : List Char → Option (List Char × List Char)
  | '0' :: cs => some (['0'], cs)
  | cs => scanDigits cs

def scanFrac : List Char → Option (List Char) × List Char
  | '.' :: cs =>
    match scanDigits cs with
    | some (digits, rest) => (some digits, rest)
    | none => (none, '.' :: cs)
  | cs => (none, cs)

def scanSign : List Char → Bool × List Char
  | '-' :: cs => (true, cs)
  | '+' :: cs => (false, cs)
  | cs => (false, cs)

/-- A dangling `e` is not part of the number. -/
def scanExponent : List Char → Option (Bool × List Char) × List Char
  | [] => (none, [])
  | c :: cs =>
    if c = 'e' ∨ c = 'E' then
      match scanDigits (scanSign cs).2 with
      | some (digits, rest) => (some ((scanSign cs).1, digits), rest)
      | none => (none, c :: cs)
    else (none, c :: cs)

def scanMinus : List Char → Bool × List Char
  | '-' :: cs => (true, cs)
  | cs => (false, cs)

def scan (cs : List Char) : Option (Literal × List Char) :=
  match scanWhole (scanMinus cs).2 with
  | none => none
  | some (whole, afterWhole) =>
    let (frac, afterFrac) := scanFrac afterWhole
    let (exponent, rest) := scanExponent afterFrac
    some (⟨(scanMinus cs).1, whole, frac, exponent⟩, rest)

theorem scanDigits_append {digits rest : List Char} (all : AllDigits digits)
    (stop : ∀ c, rest.head? = some c → c.isDigit = false) :
    scanDigits (digits ++ rest) = some (digits, rest) := by
  have taken : (digits ++ rest).takeWhile Char.isDigit = digits := by
    rw [List.takeWhile_append_of_pos all.2]
    cases rest with
    | nil => simp
    | cons c rest => simp [stop c rfl]
  have dropped : (digits ++ rest).dropWhile Char.isDigit = rest := by
    rw [List.dropWhile_append_of_pos all.2]
    cases rest with
    | nil => simp
    | cons c rest => simp [stop c rfl]
  unfold scanDigits
  rw [taken, dropped]
  cases digits with
  | nil => exact absurd rfl all.1
  | cons => rfl

theorem digit_ne {c d : Char} (h : c.isDigit = true) (hd : d.isDigit = false) : c ≠ d := by
  rintro rfl
  simp [h] at hd

theorem scanWhole_append {l : Literal} (valid : l.WellFormed) {rest : List Char}
    (stop : ∀ c, rest.head? = some c → c.isDigit = false) :
    scanWhole (l.whole ++ rest) = some (l.whole, rest) := by
  by_cases zero : l.whole.head? = some '0'
  · rw [valid.noLeadingZero zero]
    rfl
  · rw [← scanDigits_append valid.whole stop]
    cases shape : l.whole with
    | nil => exact absurd shape valid.whole.1
    | cons c digits =>
      have : c ≠ '0' := by simpa [shape] using zero
      simp only [List.cons_append]
      unfold scanWhole
      split
      · simp_all
      · rfl

theorem scanExponent_append {exponent : Option (Bool × List Char)}
    (all : ∀ p, exponent = some p → AllDigits p.2) {rest : List Char} (stop : Stops rest) :
    scanExponent (exponentText exponent ++ rest) = (exponent, rest) := by
  cases exponent with
  | none =>
    cases rest with
    | nil => rfl
    | cons c rest =>
      obtain ⟨_, _, lower, upper⟩ := stop c rfl
      simp [exponentText, scanExponent, lower, upper]
  | some p =>
    obtain ⟨negative, digits⟩ := p
    have read := scanDigits_append (all _ rfl) (fun c h => (stop c h).1)
    cases negative <;> simp [exponentText, scanExponent, scanSign, read]

theorem exponentText_head {exponent : Option (Bool × List Char)} {rest : List Char}
    (stop : Stops rest) {c : Char} (head : (exponentText exponent ++ rest).head? = some c) :
    c.isDigit = false ∧ c ≠ '.' := by
  cases exponent with
  | none => exact ⟨(stop c head).1, (stop c head).2.1⟩
  | some p =>
    have : 'e' = c := by simpa [exponentText] using head
    subst this
    decide

theorem scanFrac_append {frac : Option (List Char)} (all : ∀ digits, frac = some digits → AllDigits digits)
    {rest : List Char} (stop : ∀ c, rest.head? = some c → c.isDigit = false ∧ c ≠ '.') :
    scanFrac (fracText frac ++ rest) = (frac, rest) := by
  cases frac with
  | none =>
    simp only [fracText, List.nil_append]
    unfold scanFrac
    split
    · exact absurd rfl (stop _ rfl).2
    · rfl
  | some digits =>
    have read := scanDigits_append (all _ rfl) (fun c h => (stop c h).1)
    simp [fracText, scanFrac, read]

theorem fracText_head {frac : Option (List Char)} {rest : List Char}
    (stop : ∀ c, rest.head? = some c → c.isDigit = false) {c : Char}
    (head : (fracText frac ++ rest).head? = some c) : c.isDigit = false := by
  cases frac with
  | none => exact stop c head
  | some digits =>
    have : '.' = c := by simpa [fracText] using head
    subst this
    decide

theorem scanMinus_append {negative : Bool} {whole rest : List Char} (all : AllDigits whole) :
    scanMinus (signText negative ++ (whole ++ rest)) = (negative, whole ++ rest) := by
  cases negative with
  | true => rfl
  | false =>
    cases shape : whole with
    | nil => exact absurd shape all.1
    | cons c digits =>
      have : c ≠ '-' := digit_ne (all.2 c (by simp [shape])) (by decide)
      simp only [signText, Bool.false_eq_true, if_false, List.nil_append, List.cons_append]
      unfold scanMinus
      split
      · simp_all
      · rfl

/-- Scanning a printed literal stops exactly where the literal ends. -/
theorem scan_text {l : Literal} (valid : l.WellFormed) {rest : List Char} (stop : Stops rest) :
    scan (l.text ++ rest) = some (l, rest) := by
  have exponentHead (c : Char) (head : (exponentText l.exponent ++ rest).head? = some c) :
      c.isDigit = false ∧ c ≠ '.' := exponentText_head stop head
  have fracHead (c : Char)
      (head : (fracText l.frac ++ (exponentText l.exponent ++ rest)).head? = some c) :
      c.isDigit = false := fracText_head (fun c h => (exponentHead c h).1) head
  have minus : scanMinus (signText l.negative ++
      (l.whole ++ (fracText l.frac ++ (exponentText l.exponent ++ rest)))) =
      (l.negative, l.whole ++ (fracText l.frac ++ (exponentText l.exponent ++ rest))) :=
    scanMinus_append valid.whole
  have whole := scanWhole_append valid fracHead
  have frac := scanFrac_append valid.frac exponentHead
  have exponent := scanExponent_append valid.exponent stop
  simp only [Literal.text, List.append_assoc, scan, minus, whole, frac, exponent]

/-! ## The literals Python prints -/

def intLiteral (value : Int) : Literal :=
  ⟨decide (value < 0), digitsText value.natAbs, none, none⟩

/-- The exponent has at least two digits. -/
def exponentDigits (n : Nat) : List Char :=
  if n < 10 then '0' :: digitsText n else digitsText n

def signedExponent (x : Int) : Bool × List Char := (decide (x < 0), exponentDigits x.natAbs)

/-- `float.__repr__` of a decimal: positional while the point stands at most
sixteen places right or three zeros left of the digits, scientific otherwise. -/
def reprLiteral (negative : Bool) (d : Binary64.Decimal) : Literal :=
  let digits := digitsText d.digits
  let point : Int := digits.length + d.exponent
  if -4 < point ∧ point ≤ 16 then
    if point ≤ 0 then
      ⟨negative, ['0'], some (List.replicate (-point).toNat '0' ++ digits), none⟩
    else if point < digits.length then
      ⟨negative, digits.take point.toNat, some (digits.drop point.toNat), none⟩
    else
      ⟨negative, digits ++ List.replicate (point.toNat - digits.length) '0', some ['0'], none⟩
  else
    ⟨negative, digits.take 1, if digits.drop 1 = [] then none else some (digits.drop 1),
      some (signedExponent (point - 1))⟩

def floatLiteral (negative : Bool) (m : Nat) (e : Int) : Literal :=
  reprLiteral negative (if m = 0 then ⟨0, 0⟩ else Binary64.shortest m e)

/-! ## Reading a literal back -/

def Literal.toInt (l : Literal) : Int :=
  if l.negative then -digitsValue l.whole else digitsValue l.whole

def exponentValue : Option (Bool × List Char) → Int
  | some (true, digits) => -digitsValue digits
  | some (false, digits) => digitsValue digits
  | none => 0

def Literal.decimal (l : Literal) : Binary64.Decimal :=
  ⟨digitsValue (l.whole ++ l.frac.getD []), exponentValue l.exponent - (l.frac.getD []).length⟩

def Literal.toFloat (l : Literal) : Binary64 := Binary64.ofDecimal l.negative l.decimal

@[simp] theorem digitsValue_digitsText (n : Nat) : digitsValue (digitsText n) = n :=
  Nat.ofDigitChars_ten_toDigits

theorem digitsValue_append (ds es : List Char) :
    digitsValue (ds ++ es) = digitsValue ds * 10 ^ es.length + digitsValue es := by
  simp only [digitsValue, Nat.ofDigitChars_append]
  rw [Nat.ofDigitChars_eq_ofDigitChars_zero, Nat.mul_comm]

@[simp] theorem digitsValue_zeros (n : Nat) : digitsValue (List.replicate n '0') = 0 := by
  simp [digitsValue, Nat.ofDigitChars_replicate_zero]

theorem allDigits_digitsText (n : Nat) : AllDigits (digitsText n) :=
  ⟨Nat.toDigits_ne_nil, fun _ h => Nat.isDigit_of_mem_toDigits (by decide) (by decide) h⟩

theorem head_digitsText {n : Nat} (positive : 0 < n) : (digitsText n).head? ≠ some '0' := by
  induction n using Nat.strongRecOn with
  | ind n ih =>
    rw [digitsText, Nat.toDigits_eq_if (by decide)]
    split_ifs with small
    · interval_cases n <;> decide
    · have above : 0 < n / 10 := by omega
      have before := ih (n / 10) (by omega) above
      rw [List.head?_append_of_ne_nil _ Nat.toDigits_ne_nil]
      exact before

theorem digitsText_zero : digitsText 0 = ['0'] := Nat.toDigits_zero 10

theorem noLeadingZero_digitsText (n : Nat) (zero : (digitsText n).head? = some '0') :
    digitsText n = ['0'] := by
  rcases Nat.eq_zero_or_pos n with rfl | positive
  · exact digitsText_zero
  · exact absurd zero (head_digitsText positive)

theorem intLiteral_wellFormed (value : Int) : (intLiteral value).WellFormed where
  whole := allDigits_digitsText _
  noLeadingZero := noLeadingZero_digitsText _
  frac := by simp [intLiteral]
  exponent := by simp [intLiteral]

@[simp] theorem toInt_intLiteral (value : Int) : (intLiteral value).toInt = value := by
  simp only [Literal.toInt, intLiteral, digitsValue_digitsText, decide_eq_true_eq]
  split_ifs <;> omega

theorem allDigits_exponentDigits (n : Nat) : AllDigits (exponentDigits n) := by
  obtain ⟨_, all⟩ := allDigits_digitsText n
  unfold exponentDigits
  split_ifs
  · refine ⟨by simp, ?_⟩
    intro c member
    rcases List.mem_cons.mp member with rfl | member
    · decide
    · exact all c member
  · exact allDigits_digitsText n

@[simp] theorem digitsValue_exponentDigits (n : Nat) : digitsValue (exponentDigits n) = n := by
  unfold exponentDigits
  split_ifs
  · have split := digitsValue_append ['0'] (digitsText n)
    have zero : digitsValue ['0'] = 0 := by decide
    rw [zero, digitsValue_digitsText] at split
    simpa using split
  · simp

@[simp] theorem exponentValue_signed (x : Int) : exponentValue (some (signedExponent x)) = x := by
  unfold signedExponent
  by_cases below : x < 0
  · simp only [below, decide_true, exponentValue, digitsValue_exponentDigits]
    omega
  · simp only [below, decide_false, exponentValue, digitsValue_exponentDigits]
    omega

theorem AllDigits.append {ds es : List Char} (left : AllDigits ds) (right : ∀ c ∈ es, c.isDigit = true) :
    AllDigits (ds ++ es) := by
  refine ⟨by simp [left.1], ?_⟩
  intro c member
  rcases List.mem_append.mp member with member | member
  · exact left.2 c member
  · exact right c member

theorem isDigit_zeros {n : Nat} {c : Char} (member : c ∈ List.replicate n '0') :
    c.isDigit = true := by
  rw [List.eq_of_mem_replicate member]
  decide

theorem reprLiteral_value (negative : Bool) (d : Binary64.Decimal) :
    (reprLiteral negative d).decimal.value = d.value := by
  obtain ⟨n, x⟩ := d
  have whole (k : Nat) : digitsValue ((digitsText n).take k ++ (digitsText n).drop k) = n := by
    rw [List.take_append_drop, digitsValue_digitsText]
  have nonempty : 0 < (digitsText n).length := List.length_pos_of_ne_nil Nat.toDigits_ne_nil
  simp only [reprLiteral]
  split_ifs with fixed left inside short
  · -- 0.000ddd
    have zeros := digitsValue_append ['0'] (List.replicate (-((digitsText n).length + x)).toNat '0' ++ digitsText n)
    have rest := digitsValue_append (List.replicate (-((digitsText n).length + x)).toNat '0') (digitsText n)
    have zero : digitsValue ['0'] = 0 := by decide
    rw [zero, Nat.zero_mul, Nat.zero_add] at zeros
    rw [digitsValue_zeros, Nat.zero_mul, Nat.zero_add, digitsValue_digitsText] at rest
    have exponent : -(((-((digitsText n).length + x)).toNat + (digitsText n).length : Nat) : Int) = x := by
      omega
    simp only [Literal.decimal, Option.getD_some, zeros, rest, exponentValue, List.length_append,
      List.length_replicate, zero_sub, exponent]
  · -- dd.ddd
    have exponent : -(((digitsText n).length - ((digitsText n).length + x).toNat : Nat) : Int) = x := by
      omega
    simp only [Literal.decimal, Option.getD_some, whole, exponentValue, List.length_drop, zero_sub,
      exponent]
  · -- ddd000.0
    obtain ⟨k, hk⟩ := Int.eq_ofNat_of_zero_le (by omega : 0 ≤ x)
    subst hk
    have zeros : (((digitsText n).length + (k : Int)).toNat - (digitsText n).length) = k := by omega
    have digits := digitsValue_append (digitsText n ++ List.replicate k '0') ['0']
    have rest := digitsValue_append (digitsText n) (List.replicate k '0')
    have zero : digitsValue ['0'] = 0 := by decide
    rw [digitsValue_digitsText, digitsValue_zeros, List.length_replicate, Nat.add_zero] at rest
    rw [rest, zero, Nat.add_zero] at digits
    simp only [Literal.decimal, Option.getD_some, exponentValue, zeros, digits, Binary64.Decimal.value,
      List.length_singleton]
    push_cast
    rw [zpow_neg_one, zpow_natCast]
    field_simp
  · -- de+XX
    have one : (digitsText n).length = 1 := by
      have := congrArg List.length short
      simp at this
      omega
    have text : (digitsText n).take 1 = digitsText n := List.take_of_length_le (by omega)
    simp [Literal.decimal, text, one]
  · -- d.ddde+XX
    have exponent : ((digitsText n).length : Int) + x - 1 - ((digitsText n).length - 1 : Nat) = x := by
      omega
    simp only [Literal.decimal, Option.getD_some, whole, List.length_drop, exponentValue_signed, exponent]

theorem AllDigits.of_subset {ds es : List Char} (all : AllDigits ds) (nonempty : es ≠ [])
    (within : ∀ c ∈ es, c ∈ ds) : AllDigits es :=
  ⟨nonempty, fun c member => all.2 c (within c member)⟩

theorem reprLiteral_wellFormed (negative : Bool) {d : Binary64.Decimal} (nonzero : 0 < d.digits) :
    (reprLiteral negative d).WellFormed := by
  have all := allDigits_digitsText d.digits
  have head := head_digitsText nonzero
  have nonempty : 0 < (digitsText d.digits).length := List.length_pos_of_ne_nil all.1
  have headTake {k : Nat} (positive : 0 < k) : ((digitsText d.digits).take k).head? ≠ some '0' := by
    rw [List.head?_take]
    simpa [positive.ne'] using head
  have allTake {k : Nat} (positive : 0 < k) : AllDigits ((digitsText d.digits).take k) := by
    refine all.of_subset ?_ (fun c member => List.mem_of_mem_take member)
    intro empty
    have := congrArg List.length empty
    rw [List.length_take, List.length_nil] at this
    omega
  have allDrop {k : Nat} (rest : (digitsText d.digits).drop k ≠ []) :
      AllDigits ((digitsText d.digits).drop k) :=
    all.of_subset rest (fun c member => List.mem_of_mem_drop member)
  have zero : AllDigits ['0'] := ⟨by simp, by simp⟩
  simp only [reprLiteral]
  split_ifs with fixed left inside short
  · constructor
    · exact zero
    · exact fun _ => rfl
    · intro digits eq
      obtain rfl := Option.some.inj eq
      refine ⟨by simp [all.1], ?_⟩
      intro c member
      rcases List.mem_append.mp member with member | member
      · exact isDigit_zeros member
      · exact all.2 c member
    · intro p eq
      cases eq
  · constructor
    · exact allTake (by omega)
    · exact fun h => absurd h (headTake (by omega))
    · intro digits eq
      obtain rfl := Option.some.inj eq
      apply allDrop
      intro empty
      have := congrArg List.length empty
      simp at this
      omega
    · intro p eq
      cases eq
  · constructor
    · exact all.append (fun c member => isDigit_zeros member)
    · intro h
      rw [List.head?_append_of_ne_nil _ all.1] at h
      exact absurd h head
    · intro digits eq
      obtain rfl := Option.some.inj eq
      exact zero
    · intro p eq
      cases eq
  · constructor
    · exact allTake (by omega)
    · exact fun h => absurd h (headTake (by omega))
    · intro digits eq
      cases eq
    · intro p eq
      obtain rfl := Option.some.inj eq
      exact allDigits_exponentDigits _
  · constructor
    · exact allTake (by omega)
    · exact fun h => absurd h (headTake (by omega))
    · intro digits eq
      obtain rfl := Option.some.inj eq
      exact allDrop short
    · intro p eq
      obtain rfl := Option.some.inj eq
      exact allDigits_exponentDigits _

theorem shortest_positive {m : Nat} {e : Int} (canonical : Binary64.Canonical m e) (nonzero : m ≠ 0) :
    0 < (Binary64.shortest m e).digits := by
  apply Nat.pos_of_ne_zero
  intro empty
  have reads := Binary64.shortest_reads m e
  rw [Binary64.ofRat_magnitude canonical nonzero] at reads
  simp only [Binary64.Decimal.value, empty, Nat.cast_zero, zero_mul, Binary64.ofRat, if_true,
    Binary64.zero] at reads
  cases reads
  exact nonzero rfl

theorem floatLiteral_wellFormed (negative : Bool) {m : Nat} {e : Int}
    (canonical : Binary64.Canonical m e) : (floatLiteral negative m e).WellFormed := by
  unfold floatLiteral
  split_ifs with zero
  · have digit : AllDigits ['0'] := by simp [AllDigits]
    refine ⟨digit, fun _ => rfl, ?_, ?_⟩
    · intro digits eq
      obtain rfl := Option.some.inj eq
      exact digit
    · intro p eq
      cases eq
  · exact reprLiteral_wellFormed negative (shortest_positive canonical zero)

@[simp] theorem reprLiteral_negative (negative : Bool) (d : Binary64.Decimal) :
    (reprLiteral negative d).negative = negative := by
  simp only [reprLiteral]
  split_ifs <;> rfl

/-- The literal printed for a finite float reads back as that float. -/
theorem toFloat_floatLiteral (negative : Bool) {m : Nat} {e : Int}
    (canonical : Binary64.Canonical m e) :
    (floatLiteral negative m e).toFloat = .finite negative m e canonical := by
  unfold floatLiteral Literal.toFloat Binary64.ofDecimal
  split_ifs with zero
  · subst zero
    have smallest : e = -1074 := by
      rcases canonical with ⟨_, eq⟩ | ⟨large, _⟩
      · exact eq
      · simp at large
    subst smallest
    rw [reprLiteral_value, reprLiteral_negative]
    simp [Binary64.Decimal.value, Binary64.ofRat, Binary64.zero, Binary64.withSign]
  · rw [reprLiteral_value, reprLiteral_negative]
    exact Binary64.ofDecimal_shortest negative canonical zero

/-- Every float literal has a point or an exponent, so it is not read as an integer. -/
theorem floatLiteral_not_int (negative : Bool) (m : Nat) (e : Int) :
    ¬ ((floatLiteral negative m e).frac = none ∧ (floatLiteral negative m e).exponent = none) := by
  unfold floatLiteral
  generalize (if m = 0 then (⟨0, 0⟩ : Binary64.Decimal) else Binary64.shortest m e) = d
  simp only [reprLiteral]
  split_ifs <;> simp

end NumberText
