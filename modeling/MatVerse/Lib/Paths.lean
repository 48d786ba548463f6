import Mathlib.Data.List.Basic
import Mathlib.Data.List.Induction
import Mathlib.Logic.Function.Iterate
import Mathlib.Tactic.Common

/-! Paths over a file system with symbolic links. A path is read against a directory,
name by name; where it leads depends on the links on its way. Read without the file
system, `..` simply drops a name; the two readings agree on a way without links. -/
namespace Paths

structure Path where
  absolute : Bool
  parts : List String
  deriving DecidableEq

/-- A text read as a path: empty names and single dots are dropped. -/
def Path.parse (s : String) : Path where
  absolute := s.toList.head? = some '/'
  parts := ((s.toList.splitOn '/').map String.ofList).filter (fun part => part != "" && part != ".")

def Path.text (p : Path) : String :=
  let joined := String.intercalate "/" p.parts
  if p.absolute then "/" ++ joined else if p.parts.isEmpty then "." else joined

/-- What a name stands for: a link is given by the real path it ends at. -/
inductive Entry where
  | plain
  | link (target : List String)
  | loop

/-- A path of names from the root with no link on it. -/
def IsReal (entry : List String → Entry) (p : List String) : Prop :=
  ∀ q name, q ++ [name] <+: p → entry (q ++ [name]) = .plain ∧ name ≠ ".."

/-- Links end at real paths, and what exists lies in a directory. -/
structure FileSystem where
  entry : List String → Entry
  contents : List String → Option ByteArray
  isDirectory : List String → Bool
  cwd : List String
  targetReal : ∀ p target, entry p = .link target → IsReal entry target
  cwdReal : IsReal entry cwd
  within : ∀ p name, (contents (p ++ [name])).isSome = true ∨ isDirectory (p ++ [name]) = true → isDirectory p = true

/-- One name further. -/
def step (entry : List String → Entry) (dir : List String) (name : String) : Option (List String) :=
  if name = ".." then some dir.dropLast
  else
    match entry (dir ++ [name]) with
    | .plain => some (dir ++ [name])
    | .link target => some target
    | .loop => none

/-- Where names lead from a real directory, also beyond what exists. -/
def follow (entry : List String → Entry) (dir : List String) (parts : List String) : Option (List String) :=
  parts.foldlM (step entry) dir

namespace FileSystem
variable (fs : FileSystem)

/-- Where a path is read from. -/
def start (p : Path) : List String := if p.absolute then [] else fs.cwd

/-- `Path.resolve()`; `none` is a loop of links. -/
def resolve (p : Path) : Option (List String) := follow fs.entry (fs.start p) p.parts

/-- The walk of the operating system, through directories that exist. -/
def reach (p : Path) : Option (List String) :=
  p.parts.foldlM (fun dir name => if fs.isDirectory dir then step fs.entry dir name else none) (fs.start p)

def isFile (p : Path) : Bool := (fs.reach p).any (fun real => (fs.contents real).isSome)

end FileSystem

/-- Names read without a file system. -/
def spell (dir parts : List String) : List String :=
  parts.foldl (fun dir name => if name = ".." then dir.dropLast else dir ++ [name]) dir

/-- No name on the way is a link. -/
def Plain (entry : List String → Entry) : List String → List String → Prop
  | _, [] => True
  | dir, name :: rest =>
    (name ≠ ".." → entry (dir ++ [name]) = .plain) ∧ Plain entry (spell dir [name]) rest

variable {entry : List String → Entry} {fs : FileSystem} {dir p real : List String}

theorem follow_append (xs ys : List String) :
    follow entry dir (xs ++ ys) = (follow entry dir xs).bind (follow entry · ys) :=
  List.foldlM_append

theorem follow_cons (name : String) (rest : List String) :
    follow entry dir (name :: rest) = (step entry dir name).bind (follow entry · rest) := rfl

theorem IsReal.shortened {q : List String} (isReal : IsReal entry p) (part : q <+: p) : IsReal entry q :=
  fun first name inside => isReal first name (inside.trans part)

theorem IsReal.dropLast (isReal : IsReal entry p) : IsReal entry p.dropLast := isReal.shortened (List.dropLast_prefix p)

theorem isReal_nil : IsReal entry [] := by
  intro q name inside
  simp at inside

theorem IsReal.snoc {name : String} (isReal : IsReal entry p) (plain : entry (p ++ [name]) = .plain)
    (proper : name ≠ "..") : IsReal entry (p ++ [name]) := by
  intro q other inside
  rcases List.prefix_concat_iff.mp inside with same | inside
  · obtain ⟨rfl, last⟩ := List.append_inj' same rfl
    obtain rfl : other = name := by simpa using last
    exact ⟨plain, proper⟩
  · exact isReal q other inside

theorem step_real (fs : FileSystem) {name : String} (isReal : IsReal fs.entry dir)
    (led : step fs.entry dir name = some real) : IsReal fs.entry real := by
  unfold step at led
  split at led
  · obtain rfl := Option.some.inj led
    exact isReal.dropLast
  next proper =>
    split at led
    next plain =>
      obtain rfl := Option.some.inj led
      exact isReal.snoc plain proper
    next target found =>
      obtain rfl := Option.some.inj led
      exact fs.targetReal _ _ found
    · cases led

theorem follow_real (fs : FileSystem) (isReal : IsReal fs.entry dir) {parts : List String}
    (led : follow fs.entry dir parts = some real) : IsReal fs.entry real := by
  induction parts generalizing dir with
  | nil =>
    obtain rfl := Option.some.inj led
    exact isReal
  | cons name rest ih =>
    rw [follow_cons, Option.bind_eq_some_iff] at led
    obtain ⟨next, first, others⟩ := led
    exact ih (step_real fs isReal first) others

theorem start_real (fs : FileSystem) (path : Path) : IsReal fs.entry (fs.start path) := by
  unfold FileSystem.start
  split
  · exact isReal_nil
  · exact fs.cwdReal

theorem resolve_real {path : Path} (resolved : fs.resolve path = some real) : IsReal fs.entry real :=
  follow_real fs (start_real fs path) resolved

theorem follow_self (isReal : IsReal entry p) : follow entry [] p = some p := by
  induction p using List.reverseRecOn with
  | nil => rfl
  | append_singleton q name ih =>
    obtain ⟨plain, proper⟩ := isReal q name (List.prefix_refl _)
    rw [follow_append, ih (isReal.shortened (List.prefix_append _ _)), Option.bind_some, follow_cons, step,
      if_neg proper, plain]
    rfl

/-- A path under a real directory is followed from there. -/
theorem resolve_under (isReal : IsReal fs.entry dir) (parts : List String) :
    fs.resolve ⟨true, dir ++ parts⟩ = follow fs.entry dir parts := by
  show follow fs.entry [] (dir ++ parts) = _
  rw [follow_append, follow_self isReal]
  rfl

theorem resolve_self (isReal : IsReal fs.entry p) : fs.resolve ⟨true, p⟩ = some p := follow_self isReal

/-- What the operating system reaches is where the path resolves to. -/
theorem resolve_of_reach {path : Path} (reached : fs.reach path = some real) : fs.resolve path = some real := by
  obtain ⟨absolute, parts⟩ := path
  unfold FileSystem.resolve
  unfold FileSystem.reach at reached
  dsimp only at reached ⊢
  generalize fs.start ⟨absolute, parts⟩ = dir at reached
  induction parts generalizing dir with
  | nil => exact reached
  | cons name rest ih =>
    rw [List.foldlM_cons] at reached
    split at reached
    · obtain ⟨next, first, others⟩ := Option.bind_eq_some_iff.mp reached
      rw [follow_cons, first]
      exact ih _ others
    · cases reached

theorem isDirectory_prefix (q name : List String) (more : name ≠ [])
    (found : (fs.contents (q ++ name)).isSome = true ∨ fs.isDirectory (q ++ name) = true) :
    fs.isDirectory q = true := by
  induction name using List.reverseRecOn with
  | nil => exact absurd rfl more
  | append_singleton front last ih =>
    have inside : fs.isDirectory (q ++ front) = true := by
      apply fs.within _ last
      rwa [List.append_assoc]
    cases front with
    | nil => simpa using inside
    | cons first rest => exact ih (by simp) (.inr inside)

theorem isFile_real (isReal : IsReal fs.entry p) (found : (fs.contents p).isSome = true) :
    fs.isFile ⟨true, p⟩ = true := by
  have reached : ∀ q rest, q ++ rest = p →
      rest.foldlM (fun dir name => if fs.isDirectory dir then step fs.entry dir name else none) q = some p := by
    intro q rest whole
    induction rest generalizing q with
    | nil =>
      rw [List.append_nil] at whole
      rw [whole]
      rfl
    | cons name rest ih =>
      have inside : fs.isDirectory q = true := by
        refine isDirectory_prefix q (name :: rest) (by simp) (.inl ?_)
        rwa [whole]
      obtain ⟨plain, proper⟩ := isReal q name ⟨rest, by rw [← whole, List.append_assoc]; rfl⟩
      rw [List.foldlM_cons, if_pos inside, step, if_neg proper, plain]
      exact ih (q ++ [name]) (by rw [← whole, List.append_assoc]; rfl)
  have start : fs.reach ⟨true, p⟩ = some p := reached [] p rfl
  rw [FileSystem.isFile, start]
  exact found

theorem contents_of_isFile {path : Path} (file : fs.isFile path = true) :
    ∃ real, fs.resolve path = some real ∧ (fs.contents real).isSome = true := by
  rw [FileSystem.isFile, Option.any_eq_true] at file
  obtain ⟨real, reached, found⟩ := file
  exact ⟨real, resolve_of_reach reached, found⟩

/-- On a way without links the spelling leads where the names lead. -/
theorem follow_plain {parts : List String} (plain : Plain entry dir parts) :
    follow entry dir parts = some (spell dir parts) := by
  induction parts generalizing dir with
  | nil => rfl
  | cons name rest ih =>
    obtain ⟨first, others⟩ := plain
    rw [follow_cons]
    have led : step entry dir name = some (spell dir [name]) := by
      unfold step
      split
      next up => simp [spell, up]
      next proper =>
        rw [first proper]
        simp [spell, proper]
    rw [led, Option.bind_some, ih others]
    rfl

theorem follow_climb (levels : Nat) (rest : List String) :
    follow entry dir (List.replicate levels ".." ++ rest) = follow entry (List.dropLast^[levels] dir) rest := by
  induction levels generalizing dir with
  | zero => rfl
  | succ levels ih =>
    rw [List.replicate_succ, List.cons_append, follow_cons, step, if_pos rfl, Option.bind_some, ih,
      Function.iterate_succ_apply]

/-! ## File systems without links -/

theorem lookup_mem {α β : Type} [BEq α] [LawfulBEq α] {l : List (α × β)} {a : α} {b : β} (found : l.lookup a = some b) :
    (a, b) ∈ l := by
  induction l with
  | nil => cases found
  | cons p rest ih =>
    obtain ⟨k, v⟩ := p
    rw [List.lookup_cons] at found
    split at found
    next same =>
      obtain rfl := beq_iff_eq.mp same
      obtain rfl := Option.some.inj found
      simp
    · exact List.mem_cons_of_mem _ (ih found)

/-- The directories around some files. -/
def around (files : List (List String × ByteArray)) (p : List String) : Bool :=
  files.any (fun file => p.isPrefixOf file.1 && p != file.1)

theorem around_of_mem {files : List (List String × ByteArray)} {file : List String × ByteArray} {p : List String}
    {name : String} (member : file ∈ files) (inside : p ++ [name] <+: file.1) : around files p = true := by
  have above : p <+: file.1 := (List.prefix_append p [name]).trans inside
  have apart : p ≠ file.1 := by
    intro same
    have lengths := inside.length_le
    rw [← same, List.length_append, List.length_singleton] at lengths
    omega
  exact List.any_eq_true.mpr ⟨file, member, by simpa [apart] using above⟩

theorem isReal_plain {p : List String} (proper : ".." ∉ p) : IsReal (fun _ => .plain) p := by
  intro q name inside
  refine ⟨rfl, ?_⟩
  rintro rfl
  exact proper (inside.subset (by simp))

theorem ofFiles_within (files : List (List String × ByteArray)) (p : List String) (name : String)
    (found : (files.lookup (p ++ [name])).isSome = true ∨ around files (p ++ [name]) = true) :
    around files p = true := by
  rcases found with file | directory
  · obtain ⟨bytes, here⟩ := Option.isSome_iff_exists.mp file
    exact around_of_mem (lookup_mem here) (List.prefix_refl _)
  · obtain ⟨file, member, inside⟩ := List.any_eq_true.mp directory
    rw [Bool.and_eq_true, List.isPrefixOf_iff_prefix] at inside
    exact around_of_mem member inside.1

/-- Files at their paths, in the directories around them. -/
def FileSystem.ofFiles (files : List (List String × ByteArray)) : FileSystem where
  entry _ := .plain
  contents p := files.lookup p
  isDirectory := around files
  cwd := []
  targetReal _ _ found := by cases found
  cwdReal := isReal_nil
  within := ofFiles_within files

end Paths
