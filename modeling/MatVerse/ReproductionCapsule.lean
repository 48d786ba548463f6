import Mathlib.Data.List.DropRight
import MatVerse.Lib.Fallible
import MatVerse.Lib.Record
import MatVerse.OrganismLoop

/-! Reproduction capsules: the files a list of paths selects, in an archive behind a
manifest of their digests, and the checks of such an archive. -/
namespace MatVerse.Capsule

open Fallible

def schemaVersion : String := "matverse.reproduction-capsule.v1"
def manifestName : String := "capsule_manifest.json"

inductive CapsuleError where
  | valueError (message : String)
  | typeError
  | keyError (key : String)
  | attributeError
  | overflowError
  | unicodeError
  | jsonDecodeError
  | fileNotFound (path : String)
  | isADirectory (path : String)
  | fileExists (path : String)
  | osError
  | tarError
  deriving DecidableEq

/-! ## Paths -/

/-- `text.split("/")`. -/
def pieces : List Char → List (List Char)
  | [] => [[]]
  | c :: rest =>
    if c = '/' then [] :: pieces rest
    else
      match pieces rest with
      | [] => [[c]]
      | first :: others => (c :: first) :: others

/-- `Path(text).parts` of a relative path. -/
def pathParts (text : String) : List String :=
  ((pieces text.toList).filter fun piece => piece != [] && piece != ['.']).map String.ofList

def isAbsolute (text : String) : Bool := text.toList.head? == some '/'

def posixChars : List String → List Char
  | [] => []
  | [part] => part.toList
  | part :: rest => part.toList ++ '/' :: posixChars rest

/-- `as_posix` of the relative path with the given parts. -/
def posix (parts : List String) : String := String.ofList (posixChars parts)

/-- What a directory may call an entry. -/
def IsName (part : String) : Prop := part ≠ "" ∧ part ≠ "." ∧ part ≠ ".." ∧ '/' ∉ part.toList

instance (part : String) : Decidable (IsName part) := inferInstanceAs (Decidable (_ ∧ _))

theorem pieces_of_plain {text : List Char} (plain : '/' ∉ text) : pieces text = [text] := by
  induction text with
  | nil => rfl
  | cons c rest ih =>
    obtain ⟨other, later⟩ := not_or.mp (List.mem_cons.not.mp plain)
    rw [pieces, if_neg (Ne.symm other), ih later]

theorem pieces_append {text : List Char} (plain : '/' ∉ text) (rest : List Char) :
    pieces (text ++ '/' :: rest) = text :: pieces rest := by
  induction text with
  | nil => simp [pieces]
  | cons c tail ih =>
    obtain ⟨other, later⟩ := not_or.mp (List.mem_cons.not.mp plain)
    rw [List.cons_append, pieces, if_neg (Ne.symm other), ih later]

theorem pieces_posixChars {parts : List String} (named : ∀ part ∈ parts, IsName part) (some : parts ≠ []) :
    pieces (posixChars parts) = parts.map String.toList := by
  induction parts with
  | nil => exact absurd rfl some
  | cons part rest ih =>
    have plain := (named part (by simp)).2.2.2
    cases rest with
    | nil => simp [posixChars, pieces_of_plain plain]
    | cons next rest =>
      rw [posixChars, pieces_append plain, ih (fun other member => named other (List.mem_cons_of_mem _ member))
        (by simp)]
      · rfl
      · simp

theorem pathParts_posix {parts : List String} (named : ∀ part ∈ parts, IsName part) (some : parts ≠ []) :
    pathParts (posix parts) = parts := by
  have kept : ∀ piece ∈ parts.map String.toList, (piece != [] && piece != ['.']) = true := by
    intro piece member
    obtain ⟨part, listed, rfl⟩ := List.mem_map.mp member
    obtain ⟨nonempty, notDot, -, -⟩ := named part listed
    have first : part.toList ≠ [] := fun same => nonempty (String.toList_injective same)
    have second : part.toList ≠ ['.'] := fun same => notDot (String.toList_injective same)
    simp [first, second]
  rw [pathParts, posix, String.toList_ofList, pieces_posixChars named some, List.filter_eq_self.mpr kept,
    List.map_map]
  simp

theorem posix_relative {parts : List String} (named : ∀ part ∈ parts, IsName part) (some : parts ≠ []) :
    isAbsolute (posix parts) = false := by
  cases parts with
  | nil => exact absurd rfl some
  | cons part rest =>
    obtain ⟨nonempty, -, -, plain⟩ := named part (by simp)
    cases chars : part.toList with
    | nil => exact absurd (String.toList_injective chars) nonempty
    | cons c tail =>
      rw [chars] at plain
      have other : c ≠ '/' := fun same => plain (by simp [same])
      cases rest <;> simp [isAbsolute, posix, posixChars, chars, other]

theorem getLast_posixChars {parts : List String} (named : ∀ part ∈ parts, IsName part)
    (some : posixChars parts ≠ []) : (posixChars parts).getLast some ≠ '/' := by
  induction parts with
  | nil => exact absurd rfl some
  | cons part rest ih =>
    obtain ⟨nonempty, -, -, plain⟩ := named part (by simp)
    have letters : part.toList ≠ [] := fun same => nonempty (String.toList_injective same)
    cases rest with
    | nil => exact fun same => plain (same ▸ List.getLast_mem letters)
    | cons next rest =>
      have later : ∀ part ∈ next :: rest, IsName part := fun other member => named other (List.mem_cons_of_mem _ member)
      have more : posixChars (next :: rest) ≠ [] := by
        have filled : next.toList ≠ [] := fun same => (later next (by simp)).1 (String.toList_injective same)
        cases rest <;> simp [posixChars, filled]
      have last : (posixChars (part :: next :: rest)).getLast some = (posixChars (next :: rest)).getLast more := by
        simp only [posixChars]
        rw [List.getLast_append_of_ne_nil _ (by simp), List.getLast_cons more]
      exact last ▸ ih later more

/-! ## Directory trees -/

structure RegularFile where
  content : ByteArray
  mode : Nat

/-- A directory tree of regular files: the files and the directories below the root,
by their parts. -/
structure Tree where
  files : List (List String × RegularFile)
  dirs : List (List String)
  named : ∀ file ∈ files, file.1 ≠ [] ∧ ∀ part ∈ file.1, IsName part
  distinct : (files.map Prod.fst).Nodup
  leaves : ∀ file ∈ files, ∀ path, path ∈ dirs ∨ path ∈ files.map Prod.fst → file.1 <+: path → file.1 = path ∧
    path ∉ dirs

def Tree.file? (tree : Tree) (path : List String) : Option RegularFile :=
  (tree.files.find? fun file => file.1 == path).map Prod.snd

def Tree.isDir (tree : Tree) (path : List String) : Bool :=
  path == [] || tree.dirs.contains path ||
    (tree.files.map Prod.fst ++ tree.dirs).any fun other => path != other && path.isPrefixOf other

/-- The output path; `inside` are its parts when it lies below the root. -/
structure Output where
  path : String
  inside : Option (List String)
  /-- Outside of the root: whether it is a directory. -/
  directory : Bool

/-! ## Collecting -/

/-- `_safe_relative`, where no path is a symlink. -/
def safeRelative (candidate : String) : Except CapsuleError (List String) :=
  if isAbsolute candidate then .error (.valueError "capsule paths must be relative")
  else if (pathParts candidate).contains ".." then .error (.valueError "capsule path escapes root")
  else .ok (pathParts candidate)

/-- The files of a path in the tree, by their relative paths. -/
def collectOne (tree : Tree) (files : List (String × List String)) (raw : String) :
    Except CapsuleError (List (String × List String)) := do
  let resolved ← safeRelative raw
  if tree.isDir resolved then
    return (tree.files.filter fun file => resolved.isPrefixOf file.1).foldl
      (fun files file => Dict.insert (posix file.1) file.1 files) files
  else if (tree.file? resolved).isSome then return Dict.insert (posix resolved) resolved files
  else throw (.fileNotFound raw)

def collectFiles (tree : Tree) (selection : List String) : Except CapsuleError (List (List String)) := do
  return (← selection.foldlM (collectOne tree) []).map Prod.snd

/-- The file is selected itself or lies below a selected directory. -/
def Tree.Selected (tree : Tree) (selection : List String) (path : List String) : Prop :=
  path ∈ tree.files.map Prod.fst ∧ ∃ raw ∈ selection, pathParts raw <+: path

/-- What the loop over the selection has collected. -/
structure Collected (tree : Tree) (selection : List String) (files : List (String × List String)) : Prop where
  sorted : Dict.Sorted files
  keyed : ∀ p ∈ files, p.1 = posix p.2 ∧ tree.Selected selection p.2
  complete : ∀ path, tree.Selected selection path → ∃ value, Dict.get? (posix path) files = some value

theorem Tree.Selected.mono {tree : Tree} {selection more : List String} {path : List String}
    (selected : tree.Selected selection path) (sub : ∀ raw ∈ selection, raw ∈ more) : tree.Selected more path := by
  obtain ⟨listed, raw, member, below⟩ := selected
  exact ⟨listed, raw, sub raw member, below⟩

theorem Tree.file?_isSome {tree : Tree} {path : List String} :
    (tree.file? path).isSome = true ↔ path ∈ tree.files.map Prod.fst := by
  simp [file?, List.find?_isSome]

/-- The files of one path, added one after the other. -/
theorem foldl_insert (paths : List (List String × RegularFile)) {files : List (String × List String)}
    (sorted : Dict.Sorted files) :
    let added := paths.foldl (fun files file => Dict.insert (posix file.1) file.1 files) files
    Dict.Sorted added ∧ (∀ p ∈ added, p ∈ files ∨ ∃ file ∈ paths, p = (posix file.1, file.1)) ∧
      (∀ key, (∃ value, Dict.get? key files = some value) → ∃ value, Dict.get? key added = some value) ∧
      ∀ file ∈ paths, ∃ value, Dict.get? (posix file.1) added = some value := by
  induction paths generalizing files with
  | nil => exact ⟨sorted, fun p member => .inl member, fun _ held => held, by simp⟩
  | cons file rest ih =>
    obtain ⟨ordered, sources, kept, reached⟩ := ih (Dict.sorted_insert (posix file.1) file.1 sorted)
    have persists (key : String) (held : ∃ value, Dict.get? key files = some value) :
        ∃ value, Dict.get? key (Dict.insert (posix file.1) file.1 files) = some value := by
      rw [Dict.get?_insert]
      split
      · exact ⟨_, rfl⟩
      · exact held
    refine ⟨ordered, fun p member => ?_, fun key held => kept key (persists key held), ?_⟩
    · rcases sources p member with inserted | ⟨other, listed, same⟩
      · rcases Dict.mem_insert inserted with rfl | before
        · exact .inr ⟨file, by simp, rfl⟩
        · exact .inl before
      · exact .inr ⟨other, List.mem_cons_of_mem _ listed, same⟩
    · refine List.forall_mem_cons.mpr ⟨kept _ ⟨file.1, Dict.get?_insert_self _ _ _⟩, reached⟩

theorem collectOne_collected {tree : Tree} {earlier : List String} {files files' : List (String × List String)}
    {raw : String} (collected : Collected tree earlier files) (done : collectOne tree files raw = .ok files') :
    Collected tree (earlier ++ [raw]) files' := by
  simp only [collectOne, bind_ok] at done
  obtain ⟨resolved, safe, done⟩ := done
  obtain rfl : pathParts raw = resolved := by
    simp only [safeRelative] at safe
    split at safe
    · cases safe
    split at safe
    · cases safe
    · exact Except.ok.inj safe
  -- what was collected for the earlier paths, with the files of this one
  have extend (paths : List (List String × RegularFile))
      (sound : ∀ file ∈ paths, file ∈ tree.files ∧ pathParts raw <+: file.1)
      (all : ∀ file ∈ tree.files, pathParts raw <+: file.1 → file ∈ paths) :
      Collected tree (earlier ++ [raw])
        (paths.foldl (fun files file => Dict.insert (posix file.1) file.1 files) files) := by
    obtain ⟨sorted, sources, kept, reached⟩ := foldl_insert paths collected.sorted
    refine ⟨sorted, fun p member => ?_, fun path selected => ?_⟩
    · rcases sources p member with before | ⟨file, listed, rfl⟩
      · obtain ⟨key, selected⟩ := collected.keyed p before
        exact ⟨key, selected.mono fun _ => List.mem_append_left _⟩
      · obtain ⟨held, below⟩ := sound file listed
        exact ⟨rfl, List.mem_map_of_mem held, raw, by simp, below⟩
    · obtain ⟨listed, chosen, member, below⟩ := selected
      rcases List.mem_append.mp member with before | last
      · exact kept _ (collected.complete path ⟨listed, chosen, before, below⟩)
      · obtain rfl := List.mem_singleton.mp last
        obtain ⟨file, held, rfl⟩ := List.mem_map.mp listed
        exact reached file (all file held below)
  split at done
  next directory =>
    obtain rfl := Except.ok.inj done
    refine extend _ (fun file member => ?_) fun file held below => ?_
    · obtain ⟨held, below⟩ := List.mem_filter.mp member
      exact ⟨held, List.isPrefixOf_iff_prefix.mp below⟩
    · exact List.mem_filter.mpr ⟨held, List.isPrefixOf_iff_prefix.mpr below⟩
  next =>
    split at done
    next found =>
      obtain rfl := Except.ok.inj done
      obtain ⟨file, held, own⟩ := List.mem_map.mp (Tree.file?_isSome.mp found)
      rw [← own]
      refine extend [file] (fun other member => ?_) fun other held' below => ?_
      · obtain rfl := List.mem_singleton.mp member
        exact ⟨held, own ▸ List.prefix_rfl⟩
      · -- no other file lies below a file
        have same := (tree.leaves file held other.1 (.inr (List.mem_map_of_mem held')) (own ▸ below)).1
        exact List.mem_singleton.mpr (List.inj_on_of_nodup_map tree.distinct held' held same.symm)
    next => cases done

theorem foldlM_collected {tree : Tree} (selection : List String) {earlier : List String}
    {files files' : List (String × List String)} (collected : Collected tree earlier files)
    (done : selection.foldlM (collectOne tree) files = .ok files') : Collected tree (earlier ++ selection) files' := by
  induction selection generalizing earlier files with
  | nil =>
    obtain rfl := Except.ok.inj done
    simpa using collected
  | cons raw rest ih =>
    rw [List.foldlM_cons, bind_ok] at done
    obtain ⟨files'', first, others⟩ := done
    simpa using ih (collectOne_collected collected first) others

theorem Collected.nothing (tree : Tree) : Collected tree [] [] := by
  refine ⟨List.Pairwise.nil, by simp, ?_⟩
  rintro path ⟨-, raw, member, -⟩
  cases member

/-- The collected files are those selected, each once, in the order of their paths. -/
theorem collectFiles_spec {tree : Tree} {selection : List String} {paths : List (List String)}
    (done : collectFiles tree selection = .ok paths) :
    (∀ path, path ∈ paths → tree.Selected selection path) ∧
      (∀ path, tree.Selected selection path → posix path ∈ paths.map posix) ∧ (paths.map posix).Nodup := by
  simp only [collectFiles, bind_ok, pure_ok] at done
  obtain ⟨files, collected, rfl⟩ := done
  have held := foldlM_collected selection (.nothing tree) collected
  have keys : (files.map Prod.snd).map posix = files.map Prod.fst := by
    rw [List.map_map]
    exact List.map_congr_left fun p member => ((held.keyed p member).1).symm
  refine ⟨fun path member => ?_, fun path selected => ?_, ?_⟩
  · obtain ⟨p, listed, rfl⟩ := List.mem_map.mp member
    exact (held.keyed p listed).2
  · obtain ⟨value, found⟩ := held.complete path selected
    rw [keys]
    exact List.mem_map.mpr ⟨_, Dict.get?_mem found, rfl⟩
  · rw [keys]
    exact (List.pairwise_map.mpr held.sorted).imp fun less => less.ne

/-! ## Archives -/

structure Member where
  name : String
  data : ByteArray
  mode : Nat
  regular : Bool

/-- `tarfile`: reading an archive gives back the members it was written with. -/
structure TarFormat where
  write : List Member → ByteArray
  read : ByteArray → Option (List Member)
  reads : ∀ members, read (write members) = some members

structure CapsuleEntry where
  path : String
  sha256 : String
  size : Nat
  mode : Nat

structure CapsuleResult where
  archivePath : String
  archiveSha256 : String
  manifestSha256 : String
  entries : List CapsuleEntry

def CapsuleEntry.json (entry : CapsuleEntry) : Json :=
  .dict [("path", .str entry.path), ("sha256", .str entry.sha256), ("size", .int entry.size), ("mode", .int entry.mode)]

section
variable (host : Host) (tar : TarFormat)

def entryOf (tree : Tree) (path : List String) : Except CapsuleError CapsuleEntry :=
  match tree.file? path with
  | none => .error (.fileNotFound (posix path))
  | some file => .ok ⟨posix path, host.sha256 file.content, file.content.size, file.mode % 512⟩

def manifest (metadata : Mapping) (entries : List CapsuleEntry) : Json :=
  .dict [("schema", .str schemaVersion), ("metadata", jsonClone (.dict metadata)),
    ("entries", .arr (entries.map CapsuleEntry.json))]

def manifestBytes (metadata : Mapping) (entries : List CapsuleEntry) : ByteArray :=
  (canonicalJson (manifest metadata entries)).toUTF8

/-- `archive.addfile`, with what opening the file gives while the archive is written:
the file itself, or for the output path what was written to it so far. -/
def addFile (tree : Tree) (output : Output) (reread : ByteArray) (entry : CapsuleEntry) (path : List String) :
    Except CapsuleError Member :=
  match if output.inside = some path then some reread else (tree.file? path).map RegularFile.content with
  | none => .error (.fileNotFound (posix path))
  | some data =>
    if data.size < entry.size then .error .osError
    else .ok ⟨entry.path, data.extract 0 entry.size, entry.mode, true⟩

/-- The directory of the output is made when it is missing. -/
def prepareOutput (tree : Tree) (output : Output) : Except CapsuleError Unit :=
  match output.inside with
  | none => if output.directory then .error (.isADirectory output.path) else .ok ()
  | some path =>
    if tree.isDir path then .error (.isADirectory output.path)
    else if tree.files.any fun file => file.1.isPrefixOf path && file.1 != path then .error (.fileExists output.path)
    else .ok ()

/-- `build_capsule`, with the bytes it leaves at the output path. -/
def buildCapsule (tree : Tree) (selection : List String) (output : Output) (reread : ByteArray) (metadata : Mapping) :
    Except CapsuleError (CapsuleResult × ByteArray) := do
  let files ← collectFiles tree selection
  if files.isEmpty then throw (.valueError "capsule must contain at least one file")
  prepareOutput tree output
  let entries ← files.mapM (entryOf host tree)
  let bytes := manifestBytes metadata entries
  let members ← (entries.zip files).mapM fun (entry, path) => addFile tree output reread entry path
  let archive := tar.write (⟨manifestName, bytes, 0o644, true⟩ :: members)
  return (⟨output.path, host.sha256 archive, host.sha256 bytes, entries⟩, archive)

/-! ## Verification -/

structure VerifiedEntry where
  path : String
  sha256 : String
  size : Nat
  deriving DecidableEq

structure Verification where
  archiveSha256 : String
  manifestSha256 : String
  entries : List VerifiedEntry

/-- What `verify_capsule` reports of an entry. -/
def CapsuleEntry.verified (entry : CapsuleEntry) : VerifiedEntry := ⟨entry.path, entry.sha256, entry.size⟩

/-- `name.rstrip("/")`. -/
def withoutSlashes (name : String) : String := String.ofList (name.toList.rdropWhile (· == '/'))

/-- `archive.extractfile(name)`: the last member of the name without its last slashes, when
it is a regular file. -/
def extract (members : List Member) (name : String) : Except CapsuleError (Option ByteArray) :=
  match members.reverse.find? fun member => member.name == withoutSlashes name with
  | none => .error (.keyError name)
  | some member => .ok (if member.regular then some member.data else none)

/-- `value[key]`. -/
def item (key : String) : Json → Except CapsuleError Json
  | .obj entries =>
    match Dict.get? key entries with
    | some value => .ok value
    | none => .error (.keyError key)
  | _ => .error .typeError

variable (intText : String → Option Int)

/-- `int(value)`; `intText` reads a text. -/
def intOf : Json → Except CapsuleError Int
  | .int i => .ok i
  | .bool b => .ok (if b then 1 else 0)
  | .str s =>
    match intText s with
    | some i => .ok i
    | none => .error (.valueError s)
  | .float x =>
    match x.toRat? with
    | some q => .ok (if q < 0 then -⌊-q⌋ else ⌊q⌋)
    | none => .error (if x = .nan then .valueError "cannot convert float NaN to integer" else .overflowError)
  | _ => .error .typeError

def checkMember (member : Member) : Except CapsuleError Unit :=
  if isAbsolute member.name || (pathParts member.name).contains ".." then
    .error (.valueError "unsafe path in capsule")
  else if !member.regular then .error (.valueError "capsule may only contain regular files")
  else .ok ()

/-- The checks of one entry of the manifest against its member. -/
def verifyEntry (members : List Member) (expected : Json) : Except CapsuleError VerifiedEntry := do
  let name := pyStr host (← item "path" expected)
  match ← extract members name with
  | none => throw (.valueError ("capsule member unreadable: " ++ name))
  | some data =>
    let digest := host.sha256 data
    if digest ≠ pyStr host (← item "sha256" expected) then throw (.valueError ("hash mismatch: " ++ name))
    if (data.size : Int) ≠ (← intOf intText (← item "size" expected)) then
      throw (.valueError ("size mismatch: " ++ name))
    return ⟨name, digest, data.size⟩

/-- The checks of the manifest against the members. -/
def verifyManifest (members : List Member) (manifest : Json) : Except CapsuleError (List VerifiedEntry) := do
  match manifest with
  | .obj fields =>
    if Record.text (Dict.get? "schema" fields) ≠ some schemaVersion then
      throw (.valueError "unsupported capsule schema")
    match Dict.get? "entries" fields with
    | some (.arr (first :: rest)) =>
      let paths ← (first :: rest).mapM fun expected => do return pyStr host (← item "path" expected)
      if members.map (fun member => member.name) ≠ manifestName :: paths then
        throw (.valueError "capsule members do not match manifest order/content")
      (first :: rest).mapM (verifyEntry host intText members)
    | _ => throw (.valueError "capsule manifest entries are missing")
  | _ => throw .attributeError

/-- `verify_capsule` of the bytes at a path. -/
def verifyCapsule (path : String) (file : Option ByteArray) : Except CapsuleError Verification := do
  match file with
  | none => throw (.fileNotFound path)
  | some bytes =>
    match tar.read bytes with
    | none => throw .tarError
    | some members =>
      let names := members.map fun member => member.name
      if names.head? ≠ some manifestName then throw (.valueError "capsule manifest must be the first member")
      if ¬names.Nodup then throw (.valueError "duplicate members in capsule")
      members.forM checkMember
      match ← extract members manifestName with
      | none => throw (.valueError "capsule manifest is unreadable")
      | some manifestBytes =>
        match String.fromUTF8? manifestBytes with
        | none => throw .unicodeError
        | some text =>
          match JsonText.loads text with
          | none => throw .jsonDecodeError
          | some manifest =>
            let entries ← verifyManifest host intText members manifest
            return ⟨host.sha256 bytes, host.sha256 manifestBytes, entries⟩

end

end MatVerse.Capsule
