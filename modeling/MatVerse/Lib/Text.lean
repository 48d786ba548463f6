import Mathlib.Data.List.TakeWhile
import Mathlib.Tactic.Common

/-! Blanks around a text, by the Unicode notion of white space, and texts joined
by newlines. -/
namespace Text

def isSpace (c : Char) : Bool :=
  (9 ≤ c.toNat && c.toNat ≤ 13) || (28 ≤ c.toNat && c.toNat ≤ 32) ||
  (8192 ≤ c.toNat && c.toNat ≤ 8202) ||
  [133, 160, 5760, 8232, 8233, 8239, 8287, 12288].contains c.toNat

def strip (s : String) : String :=
  String.ofList (((s.toList.dropWhile isSpace).reverse.dropWhile isSpace).reverse)

theorem fromUTF8?_toUTF8 (s : String) : String.fromUTF8? s.toUTF8 = some s := by
  simp only [String.fromUTF8?, Option.dite_none_right_eq_some]
  exact ⟨s.isValidUTF8, rfl⟩

theorem dropWhile_of_head {cs : List Char} (head : ∀ c ∈ cs.head?, isSpace c = false) :
    cs.dropWhile isSpace = cs := by
  cases cs with
  | nil => rfl
  | cons c rest => simp [List.dropWhile, head c (by simp)]

/-- A text that neither begins nor ends with a blank is its own stripped form. -/
theorem strip_of_ends {s : String} (first : ∀ c ∈ s.toList.head?, isSpace c = false)
    (last : ∀ c ∈ s.toList.getLast?, isSpace c = false) : strip s = s := by
  have tail : s.toList.reverse.dropWhile isSpace = s.toList.reverse := by
    apply dropWhile_of_head
    rwa [List.head?_reverse]
  rw [strip, dropWhile_of_head first, tail, List.reverse_reverse, String.ofList_toList]

/-- A text that does not begin with a blank is not stripped to nothing. -/
theorem strip_ne_empty {s : String} {c : Char} (first : s.toList.head? = some c) (mark : isSpace c = false) :
    strip s ≠ "" := by
  have head : s.toList.dropWhile isSpace = s.toList := by
    apply dropWhile_of_head
    rw [first]
    simp [mark]
  intro empty
  have none := congrArg String.toList empty
  rw [strip, String.toList_ofList, head, String.toList_empty, List.reverse_eq_nil_iff, List.dropWhile_eq_nil_iff]
    at none
  have blank := none c (List.mem_reverse.mpr (List.mem_of_mem_head? first))
  rw [mark] at blank
  cases blank

theorem head_dropWhile {cs : List Char} : ∀ c ∈ (cs.dropWhile isSpace).head?, isSpace c = false := by
  induction cs with
  | nil => simp
  | cons d rest ih =>
    rw [List.dropWhile_cons]
    split
    · exact ih
    next mark => simpa using mark

@[simp] theorem strip_strip (s : String) : strip (strip s) = strip s := by
  have ends : ((strip s).toList.reverse) = (s.toList.dropWhile isSpace).reverse.dropWhile isSpace := by simp [strip]
  apply strip_of_ends
  · intro c head
    have start : (strip s).toList <+: s.toList.dropWhile isSpace := by
      rw [← List.reverse_suffix, ends]
      exact List.dropWhile_suffix _
    obtain ⟨more, whole⟩ := start
    refine @head_dropWhile s.toList c ?_
    rw [← whole, List.head?_append, head]
    rfl
  · intro c last
    refine @head_dropWhile (s.toList.dropWhile isSpace).reverse c ?_
    rw [← ends, List.head?_reverse]
    exact last

/-- A text that neither begins nor ends with a blank. -/
def Marked (s : String) : Prop :=
  (∃ c, s.toList.head? = some c ∧ isSpace c = false) ∧ ∃ c, s.toList.getLast? = some c ∧ isSpace c = false

theorem Marked.prefix_strip {a : String} (marked : Marked a) (b : String) : a.toList <+: (strip (a ++ b)).toList := by
  obtain ⟨⟨first, starts, mark⟩, last, ends, mark'⟩ := marked
  have head : (a ++ b).toList.dropWhile isSpace = a.toList ++ b.toList := by
    rw [String.toList_append]
    apply dropWhile_of_head
    rw [List.head?_append, starts]
    simp [mark]
  have tail : a.toList.reverse.dropWhile isSpace = a.toList.reverse := by
    apply dropWhile_of_head
    rw [List.head?_reverse, ends]
    simp [mark']
  rw [strip, String.toList_ofList, head, List.reverse_append, List.dropWhile_append, tail]
  split
  · exact ⟨[], by rw [List.append_nil, List.reverse_reverse]⟩
  · rw [List.reverse_append, List.reverse_reverse]
    exact List.prefix_append _ _

/-- Two such beginnings make different texts, unless one begins with the other. -/
theorem Marked.strip_ne {a b : String} (marked : Marked a) (marked' : Marked b)
    (apart : ¬a.toList <+: b.toList ∧ ¬b.toList <+: a.toList) (s t : String) : strip (a ++ s) ≠ strip (b ++ t) := by
  intro same
  have left := marked.prefix_strip s
  rw [same] at left
  exact (List.prefix_or_prefix_of_prefix left (marked'.prefix_strip t)).elim apart.1 apart.2

theorem length_strip_le (s : String) : (strip s).length ≤ s.length := by
  have first := (List.dropWhile_suffix (l := s.toList) isSpace).length_le
  have second := (List.dropWhile_suffix (l := (s.toList.dropWhile isSpace).reverse) isSpace).length_le
  rw [List.length_reverse] at second
  have lists : (strip s).toList.length ≤ s.toList.length := by simpa [strip] using second.trans first
  exact lists

theorem toLower_eq {s t : String} (chars : s.toList.map Char.toLower = t.toList) : s.toLower = t := by
  apply String.toList_inj.mp
  change (s.map Char.toLower).toList = t.toList
  rw [String.toList_map, chars]

/-- A text of one line. -/
def OneLine (s : String) : Prop := '\n' ∉ s.toList

theorem append_sep_inj (sep : Char) {xs ys us vs : List Char} (first : sep ∉ xs) (second : sep ∉ ys)
    (same : xs ++ sep :: us = ys ++ sep :: vs) : xs = ys ∧ us = vs := by
  induction xs generalizing ys with
  | nil =>
    cases ys with
    | nil => simpa using same
    | cons y ys =>
      obtain ⟨head, _⟩ := List.cons.inj same
      exact absurd (by simp [head]) second
  | cons x xs ih =>
    cases ys with
    | nil =>
      obtain ⟨head, _⟩ := List.cons.inj same
      exact absurd (by simp [head]) first
    | cons y ys =>
      obtain ⟨rfl, tail⟩ := List.cons.inj same
      obtain ⟨rfl, rest⟩ := ih (fun member => first (by simp [member])) (fun member => second (by simp [member])) tail
      exact ⟨rfl, rest⟩

theorem line_append_inj {a b x y : String} (first : OneLine a) (second : OneLine b)
    (same : a ++ "\n" ++ x = b ++ "\n" ++ y) : a = b ∧ x = y := by
  have lists := congrArg String.toList same
  simp only [String.toList_append, List.append_assoc] at lists
  obtain ⟨heads, tails⟩ := append_sep_inj _ first second lists
  exact ⟨String.toList_inj.mp heads, String.toList_inj.mp tails⟩

theorem append_line_inj {a b x y : String} (first : OneLine x) (second : OneLine y)
    (same : a ++ "\n" ++ x = b ++ "\n" ++ y) : a = b ∧ x = y := by
  have lists := congrArg (fun s => s.toList.reverse) same
  simp only [String.toList_append, List.reverse_append, List.append_assoc] at lists
  obtain ⟨heads, tails⟩ := append_sep_inj '\n' (by simpa [OneLine] using first)
    (by simpa [OneLine] using second) lists
  exact ⟨String.toList_inj.mp (List.reverse_inj.mp tails),
    String.toList_inj.mp (List.reverse_inj.mp heads)⟩

end Text
