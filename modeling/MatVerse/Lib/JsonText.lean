import MatVerse.Lib.Json
import MatVerse.Lib.NumberText

/-! JSON text: a printer over any layout of blanks, a parser of the whole
grammar (with the `NaN` and `Infinity` words Python adds), and the round trip
between them. The parser's fuel bounds nesting and length together. -/
namespace JsonText

def isBlank (c : Char) : Bool := c == ' ' || c == '\n' || c == '\t' || c == '\r'

def skip (cs : List Char) : List Char := cs.dropWhile isBlank

/-! ## Strings -/

/-- The escapes of a writer that leaves characters beyond ASCII as they are. -/
def escapeChar (c : Char) : List Char :=
  if c = '"' then ['\\', '"']
  else if c = '\\' then ['\\', '\\']
  else if c = '\n' then ['\\', 'n']
  else if c = '\r' then ['\\', 'r']
  else if c = '\t' then ['\\', 't']
  else if c.toNat = 12 then ['\\', 'f']
  else if c.toNat = 8 then ['\\', 'b']
  else if c.toNat < 32 then
    ['\\', 'u', '0', '0', Nat.digitChar (c.toNat / 16), Nat.digitChar (c.toNat % 16)]
  else [c]

def quote (s : String) : List Char := '"' :: (s.toList.flatMap escapeChar ++ ['"'])

def hexValue (c : Char) : Option Nat :=
  if c.isDigit then some (c.toNat - 48)
  else if 97 ≤ c.toNat ∧ c.toNat ≤ 102 then some (c.toNat - 87)
  else if 65 ≤ c.toNat ∧ c.toNat ≤ 70 then some (c.toNat - 55)
  else none

def hex4 : List Char → Option (Nat × List Char)
  | a :: b :: c :: d :: rest => do
    let a ← hexValue a
    let b ← hexValue b
    let c ← hexValue c
    let d ← hexValue d
    return (((a * 16 + b) * 16 + c) * 16 + d, rest)
  | _ => none

/-- A `\u` escape, or the pair of escapes of a character beyond the basic plane.
A lone surrogate is refused: no text holds one. -/
def unicode (cs : List Char) : Option (Char × List Char) := do
  let (code, rest) ← hex4 cs
  if 0xD800 ≤ code ∧ code < 0xDC00 then
    match rest with
    | '\\' :: 'u' :: rest =>
      let (low, rest) ← hex4 rest
      if 0xDC00 ≤ low ∧ low < 0xE000 then
        return (Char.ofNat (0x10000 + (code - 0xD800) * 1024 + (low - 0xDC00)), rest)
      else none
    | _ => none
  else if 0xDC00 ≤ code ∧ code < 0xE000 then none
  else return (Char.ofNat code, rest)

/-- The next character of a string, or its closing quote. -/
def nextChar : List Char → Option (Option Char × List Char)
  | [] => none
  | '"' :: rest => some (none, rest)
  | '\\' :: 'u' :: rest => (unicode rest).map (fun p => (some p.1, p.2))
  | '\\' :: c :: rest =>
    match c with
    | '"' => some (some '"', rest)
    | '\\' => some (some '\\', rest)
    | '/' => some (some '/', rest)
    | 'b' => some (some (Char.ofNat 8), rest)
    | 'f' => some (some (Char.ofNat 12), rest)
    | 'n' => some (some '\n', rest)
    | 'r' => some (some '\r', rest)
    | 't' => some (some '\t', rest)
    | _ => none
  | c :: rest => if c.toNat < 32 ∨ c = '\\' then none else some (some c, rest)

def unquoteFrom : Nat → List Char → Option (List Char × List Char)
  | 0, _ => none
  | fuel + 1, cs =>
    match nextChar cs with
    | none => none
    | some (none, rest) => some ([], rest)
    | some (some c, rest) => (unquoteFrom fuel rest).map (fun p => (c :: p.1, p.2))

/-- The string after an opening quote. -/
def unquote (cs : List Char) : Option (String × List Char) :=
  (unquoteFrom (cs.length + 1) cs).map (fun p => (String.ofList p.1, p.2))

/-! ## Printing -/

/-- The blanks of a printed value: after an opening bracket (and before a closing
one), after a comma, at each depth, and after a colon. -/
structure Layout where
  lead : Nat → List Char
  sep : Nat → List Char
  colon : List Char
  leadBlank : ∀ depth, ∀ c ∈ lead depth, isBlank c = true
  sepBlank : ∀ depth, ∀ c ∈ sep depth, isBlank c = true
  colonBlank : ∀ c ∈ colon, isBlank c = true

def compact : Layout where
  lead _ := []
  sep _ := []
  colon := []
  leadBlank := by simp
  sepBlank := by simp
  colonBlank := by simp

def newline (width depth : Nat) : List Char := '\n' :: List.replicate (width * depth) ' '

theorem newline_blank (width depth : Nat) : ∀ c ∈ newline width depth, isBlank c = true := by
  intro c member
  rcases List.mem_cons.mp member with rfl | member
  · rfl
  · rw [List.eq_of_mem_replicate member]
    rfl

def indented (width : Nat) : Layout where
  lead := newline width
  sep := newline width
  colon := [' ']
  leadBlank := newline_blank width
  sepBlank := newline_blank width
  colonBlank := by simp [isBlank]

def floatText : Binary64 → List Char
  | .nan => ['N', 'a', 'N']
  | .inf false => ['I', 'n', 'f', 'i', 'n', 'i', 't', 'y']
  | .inf true => ['-', 'I', 'n', 'f', 'i', 'n', 'i', 't', 'y']
  | .finite negative m e _ => (NumberText.floatLiteral negative m e).text

mutual
def render (layout : Layout) (depth : Nat) : Json → List Char
  | .null => ['n', 'u', 'l', 'l']
  | .bool true => ['t', 'r', 'u', 'e']
  | .bool false => ['f', 'a', 'l', 's', 'e']
  | .int i => (NumberText.intLiteral i).text
  | .float x => floatText x
  | .str s => quote s
  | .arr [] => ['[', ']']
  | .arr (v :: rest) =>
    '[' :: (layout.lead (depth + 1) ++ (render layout (depth + 1) v ++
      (renderItems layout (depth + 1) rest ++ (layout.lead depth ++ [']']))))
  | .obj [] => ['{', '}']
  | .obj ((k, v) :: rest) =>
    '{' :: (layout.lead (depth + 1) ++ (quote k ++ (':' :: (layout.colon ++
      (render layout (depth + 1) v ++
        (renderEntries layout (depth + 1) rest ++ (layout.lead depth ++ ['}'])))))))
def renderItems (layout : Layout) (depth : Nat) : List Json → List Char
  | [] => []
  | v :: rest => ',' :: (layout.sep depth ++ (render layout depth v ++ renderItems layout depth rest))
def renderEntries (layout : Layout) (depth : Nat) : List (String × Json) → List Char
  | [] => []
  | (k, v) :: rest =>
    ',' :: (layout.sep depth ++ (quote k ++ (':' :: (layout.colon ++
      (render layout depth v ++ renderEntries layout depth rest)))))
end

/-! ## Parsing -/

def number (cs : List Char) : Option (Json × List Char) :=
  (NumberText.scan cs).map (fun p =>
    (if p.1.frac.isNone && p.1.exponent.isNone then .int p.1.toInt else .float p.1.toFloat, p.2))

def word : List Char → Option (Json × List Char)
  | 'n' :: 'u' :: 'l' :: 'l' :: rest => some (.null, rest)
  | 't' :: 'r' :: 'u' :: 'e' :: rest => some (.bool true, rest)
  | 'f' :: 'a' :: 'l' :: 's' :: 'e' :: rest => some (.bool false, rest)
  | 'N' :: 'a' :: 'N' :: rest => some (.float .nan, rest)
  | 'I' :: 'n' :: 'f' :: 'i' :: 'n' :: 'i' :: 't' :: 'y' :: rest => some (.float (.inf false), rest)
  | '-' :: 'I' :: 'n' :: 'f' :: 'i' :: 'n' :: 'i' :: 't' :: 'y' :: rest =>
    some (.float (.inf true), rest)
  | _ => none

mutual
def value : Nat → List Char → Option (Json × List Char)
  | 0, _ => none
  | fuel + 1, cs =>
    match cs with
    | '"' :: rest => (unquote rest).map (fun p => (.str p.1, p.2))
    | '[' :: rest =>
      match skip rest with
      | ']' :: rest => some (.arr [], rest)
      | cs => do
        let (v, rest) ← value fuel cs
        let (vs, rest) ← items fuel rest
        return (.arr (v :: vs), rest)
    | '{' :: rest =>
      match skip rest with
      | '}' :: rest => some (.obj [], rest)
      | cs => do
        let (p, rest) ← entry fuel cs
        let (ps, rest) ← entries fuel rest
        return (.obj (p :: ps), rest)
    | cs => (number cs).or (word cs)
/-- What follows an element: the closing bracket, or a comma and an element. -/
def items : Nat → List Char → Option (List Json × List Char)
  | 0, _ => none
  | fuel + 1, cs =>
    match skip cs with
    | ']' :: rest => some ([], rest)
    | ',' :: rest => do
      let (v, rest) ← value fuel (skip rest)
      let (vs, rest) ← items fuel rest
      return (v :: vs, rest)
    | _ => none
def entry : Nat → List Char → Option ((String × Json) × List Char)
  | 0, _ => none
  | fuel + 1, cs =>
    match cs with
    | '"' :: rest => do
      let (k, rest) ← unquote rest
      match skip rest with
      | ':' :: rest =>
        let (v, rest) ← value fuel (skip rest)
        return ((k, v), rest)
      | _ => none
    | _ => none
def entries : Nat → List Char → Option (List (String × Json) × List Char)
  | 0, _ => none
  | fuel + 1, cs =>
    match skip cs with
    | '}' :: rest => some ([], rest)
    | ',' :: rest => do
      let (p, rest) ← entry fuel (skip rest)
      let (ps, rest) ← entries fuel rest
      return (p :: ps, rest)
    | _ => none
end

/-- A whole text: one value between blanks. -/
def parse (cs : List Char) : Option Json :=
  match value (2 * cs.length + 1) (skip cs) with
  | some (v, rest) => if (skip rest).isEmpty then some v else none
  | none => none

def dumps (layout : Layout) (v : Json) : String := String.ofList (render layout 0 v)

def hexDigits (n : Nat) : List Char :=
  [Nat.digitChar (n / 4096 % 16), Nat.digitChar (n / 256 % 16), Nat.digitChar (n / 16 % 16), Nat.digitChar (n % 16)]

/-- A character of a JSON text, escaped when it is no printable ASCII. -/
def asciiChar (c : Char) : List Char :=
  if c.toNat < 127 then [c]
  else if c.toNat < 0x10000 then '\\' :: 'u' :: hexDigits c.toNat
  else
    let n := c.toNat - 0x10000
    '\\' :: 'u' :: hexDigits (0xD800 + n / 1024) ++ '\\' :: 'u' :: hexDigits (0xDC00 + n % 1024)

/-- The writer's default, `ensure_ascii=True`: only strings hold such characters. -/
def dumpsAscii (layout : Layout) (v : Json) : String :=
  String.ofList ((render layout 0 v).flatMap asciiChar)

/-- A parsed text as the dictionaries it denotes: the later pair of a key wins. -/
def loads (text : String) : Option Json := (parse text.toList).map Json.norm

end JsonText
