import MatVerse.CapsuleRoundTrip
import Mathlib.Data.List.Forall2

/-! Two builds of the same files give one archive, unless one of them writes over a file
it packs; and what an archive that is accepted holds. -/
namespace MatVerse.Capsule

open Fallible

/-! ## Two builds -/

/-- A call of `build_capsule`; `reread` is what opening the output gives while it is written. -/
structure BuildCall where
  selection : List String
  output : Output
  reread : ByteArray
  metadata : Mapping

namespace BuildCall

def run (host : Host) (tar : TarFormat) (tree : Tree) (call : BuildCall) :
    Except CapsuleError (CapsuleResult × ByteArray) :=
  buildCapsule host tar tree call.selection call.output call.reread call.metadata

def opened (call : BuildCall) (path : List String) (file : RegularFile) : ByteArray :=
  if call.output.inside = some path then call.reread else file.content

/-- The bytes of a file that reach the archive: as many as the file had before the output was opened. -/
def archived (tree : Tree) (call : BuildCall) (path : List String) : Option ByteArray := do
  let file ← tree.file? path
  guard (file.content.size ≤ (call.opened path file).size)
  return (call.opened path file).extract 0 file.content.size

/-- The files were collected and the output can be opened. -/
structure Starts (tree : Tree) (call : BuildCall) (paths : List (List String)) : Prop where
  collected : collectFiles tree call.selection = .ok paths
  nonempty : paths ≠ []
  prepared : prepareOutput tree call.output = .ok ()

end BuildCall

section
variable {host : Host} {tar : TarFormat} {tree : Tree} {call : BuildCall}

theorem archived_packed (packed : Packed tree call.output call.reread) :
    call.archived tree packed.path = some packed.stored := by
  have opened : call.opened packed.path packed.file = packed.data := packed.data_eq.symm
  simp [BuildCall.archived, packed.found, opened, packed.enough, Packed.stored]

theorem exists_packed {path : List String} {data : ByteArray} (archived : call.archived tree path = some data) :
    ∃ packed : Packed tree call.output call.reread, packed.path = path := by
  simp only [BuildCall.archived, Option.bind_eq_bind, Option.bind_eq_some_iff] at archived
  obtain ⟨file, found, _, checked, -⟩ := archived
  have enough : file.content.size ≤ (call.opened path file).size := by
    by_contra short
    simp [guard, short] at checked
  exact ⟨⟨path, file, call.opened path file, found, rfl, enough⟩, rfl⟩

/-- Every file is packed when the bytes of each are there. -/
theorem exists_packed_all (paths : List (List String))
    (archived : ∀ path ∈ paths, ∃ data, call.archived tree path = some data) :
    ∃ packed : List (Packed tree call.output call.reread), packed.map Packed.path = paths := by
  induction paths with
  | nil => exact ⟨[], rfl⟩
  | cons path rest ih =>
    obtain ⟨first, others⟩ := List.forall_mem_cons.mp archived
    obtain ⟨data, first⟩ := first
    obtain ⟨packed, rfl⟩ := exists_packed first
    obtain ⟨later, rfl⟩ := ih others
    exact ⟨packed :: later, rfl⟩

theorem entryOf_packed (packed : Packed tree call.output call.reread) :
    entryOf host tree packed.path = .ok (packed.entry host) := by
  simp only [entryOf, packed.found]
  rfl

theorem addFile_packed (packed : Packed tree call.output call.reread) :
    addFile tree call.output call.reread (packed.entry host) packed.path = .ok packed.member := by
  have data : (if call.output.inside = some packed.path then some call.reread
      else (tree.file? packed.path).map RegularFile.content) = some packed.data := by
    rw [packed.data_eq, packed.found, Option.map_some]
    split <;> rfl
  simp only [addFile, data]
  exact if_neg (not_lt.mpr packed.enough)

/-- A build that starts and finds the bytes of each file returns. -/
theorem run_packed {packed : List (Packed tree call.output call.reread)}
    (starts : call.Starts tree (packed.map Packed.path)) :
    ∃ result, call.run host tar tree = .ok (result, tar.write (membersOf host call.metadata packed)) := by
  have entries : (packed.map Packed.path).mapM (entryOf host tree) = .ok (packed.map fun p => p.entry host) := by
    rw [List.mapM_map]
    exact mapM_eq fun p _ => entryOf_packed p
  have members : ((packed.map fun p => p.entry host).zip (packed.map Packed.path)).mapM
      (fun p => addFile tree call.output call.reread p.1 p.2) = .ok (packed.map Packed.member) := by
    rw [List.zip_map', List.mapM_map]
    exact mapM_eq fun p _ => addFile_packed p
  have some : (packed.map Packed.path).isEmpty = false := by simpa using starts.nonempty
  simp only [BuildCall.run, buildCapsule, starts.collected, ok_bind, some, Bool.false_eq_true, if_false,
    starts.prepared, entries, members]
  exact ⟨_, rfl⟩

/-- A build returns exactly when it starts and finds the bytes of each file. -/
theorem run_iff {archive : ByteArray} :
    (∃ result, call.run host tar tree = .ok (result, archive)) ↔
      ∃ packed : List (Packed tree call.output call.reread), call.Starts tree (packed.map Packed.path) ∧
        archive = tar.write (membersOf host call.metadata packed) := by
  constructor
  · rintro ⟨result, returned⟩
    obtain ⟨packed, nonempty, collected, entries, -, rfl⟩ := build_packed returned
    have prepared : prepareOutput tree call.output = .ok () := by
      simp only [BuildCall.run, buildCapsule, collected, ok_bind] at returned
      rw [guard_ok, bind_ok] at returned
      obtain ⟨-, _, prepared, -⟩ := returned
      exact prepared
    exact ⟨packed, ⟨collected, by simpa using nonempty, prepared⟩, by rw [entries, membersOf]⟩
  · rintro ⟨packed, starts, rfl⟩
    exact run_packed starts

end

section
variable {tree : Tree}

theorem collectFiles_sorted {selection : List String} {paths : List (List String)}
    (done : collectFiles tree selection = .ok paths) : paths.Pairwise fun a b => posix a < posix b := by
  simp only [collectFiles, bind_ok, pure_ok] at done
  obtain ⟨files, collected, rfl⟩ := done
  have held := foldlM_collected selection (.nothing tree) collected
  refine List.pairwise_map.mpr (held.sorted.imp_of_mem fun {a b} first second less => ?_)
  rwa [← (held.keyed a first).1, ← (held.keyed b second).1]

/-- The files of a list of paths come in one order, however the paths were listed. -/
theorem collectFiles_unique {selection selection' : List String} {paths paths' : List (List String)}
    (done : collectFiles tree selection = .ok paths) (done' : collectFiles tree selection' = .ok paths')
    (same : ∀ path, path ∈ paths ↔ path ∈ paths') : paths = paths' := by
  have sorted := collectFiles_sorted done
  have sorted' := collectFiles_sorted done'
  have once {paths : List (List String)} (sorted : paths.Pairwise fun a b => posix a < posix b) : paths.Nodup :=
    sorted.imp fun less equal => (equal ▸ less).ne rfl
  have perm := (List.perm_ext_iff_of_nodup (once sorted) (once sorted')).mpr same
  exact perm.eq_of_pairwise (fun a b _ _ less more => absurd less more.asymm) sorted sorted'

variable {host : Host} {tar : TarFormat} {c d : BuildCall}

theorem manifestBytes_congr {metadata metadata' : Mapping}
    (same : (Json.dict metadata).norm = (Json.dict metadata').norm) (entries : List CapsuleEntry) :
    manifestBytes metadata entries = manifestBytes metadata' entries := by
  simp only [manifestBytes, manifest, jsonClone_eq, same]

/-- Of one list of files two builds pack the same members exactly when the bytes agree. -/
theorem members_eq_iff {packed : List (Packed tree c.output c.reread)} {packed' : List (Packed tree d.output d.reread)}
    (paths : packed.map Packed.path = packed'.map Packed.path) :
    packed.map Packed.member = packed'.map Packed.member ↔
      ∀ path ∈ packed.map Packed.path, ∃ data, c.archived tree path = some data ∧ d.archived tree path = some data := by
  induction packed generalizing packed' with
  | nil =>
    obtain rfl : packed' = [] := by simpa using paths.symm
    simp
  | cons p rest ih =>
    cases packed' with
    | nil => cases paths
    | cons q rest' =>
      obtain ⟨path, others⟩ := List.cons.inj paths
      have file : p.file = q.file := Option.some.inj (p.found.symm.trans (path ▸ q.found))
      have stored : p.member = q.member ↔
          ∃ data, c.archived tree p.path = some data ∧ d.archived tree p.path = some data := by
        rw [archived_packed p, path, archived_packed q]
        simp [Packed.member, Packed.name, path, file, eq_comm]
      simp only [List.map_cons, List.cons.injEq, stored, ih others, List.forall_mem_cons]

theorem entries_eq {packed : List (Packed tree c.output c.reread)} {packed' : List (Packed tree d.output d.reread)}
    (paths : packed.map Packed.path = packed'.map Packed.path) :
    (packed.map fun p => p.entry host) = packed'.map fun p => p.entry host := by
  induction packed generalizing packed' with
  | nil =>
    obtain rfl : packed' = [] := by simpa using paths.symm
    rfl
  | cons p rest ih =>
    cases packed' with
    | nil => cases paths
    | cons q rest' =>
      obtain ⟨path, others⟩ := List.cons.inj paths
      have file : p.file = q.file := Option.some.inj (p.found.symm.trans (path ▸ q.found))
      have entry : p.entry host = q.entry host := by simp [Packed.entry, Packed.name, path, file]
      simp only [List.map_cons, entry, ih others]

/-- Two builds of one set of files, under one metadata, return the same archive exactly
when both start and the bytes they archive of each file agree. -/
theorem builds_agree_iff {paths paths' : List (List String)} (collected : collectFiles tree c.selection = .ok paths)
    (collected' : collectFiles tree d.selection = .ok paths') (same : ∀ path, path ∈ paths ↔ path ∈ paths')
    (metadata : (Json.dict c.metadata).norm = (Json.dict d.metadata).norm) :
    (∃ archive, (∃ result, c.run host tar tree = .ok (result, archive)) ∧
        ∃ result, d.run host tar tree = .ok (result, archive)) ↔
      c.Starts tree paths ∧ d.Starts tree paths ∧
        ∀ path ∈ paths, ∃ data, c.archived tree path = some data ∧ d.archived tree path = some data := by
  obtain rfl := collectFiles_unique collected collected' same
  simp only [run_iff]
  constructor
  · rintro ⟨archive, ⟨packed, starts, written⟩, packed', starts', written'⟩
    obtain rfl := Except.ok.inj (collected.symm.trans starts.collected)
    have paths' := Except.ok.inj (collected'.symm.trans starts'.collected)
    refine ⟨starts, paths' ▸ starts', (members_eq_iff paths').mp ?_⟩
    have read : some (membersOf host c.metadata packed) = some (membersOf host d.metadata packed') := by
      rw [← tar.reads, ← tar.reads, ← written, ← written']
    exact (List.cons.inj (Option.some.inj read)).2
  · rintro ⟨starts, starts', agree⟩
    obtain ⟨packed, rfl⟩ := exists_packed_all paths fun path member => by
      obtain ⟨data, first, -⟩ := agree path member
      exact ⟨data, first⟩
    obtain ⟨packed', path⟩ := exists_packed_all (packed.map Packed.path) fun path member => by
      obtain ⟨data, -, second⟩ := agree path member
      exact ⟨data, second⟩
    have members := (members_eq_iff path.symm).mpr agree
    have entries : (packed.map fun p => p.entry host) = packed'.map fun p => p.entry host := entries_eq path.symm
    refine ⟨_, ⟨packed, starts, rfl⟩, packed', path ▸ starts', ?_⟩
    simp only [membersOf, manifestMember, members, entries, manifestBytes_congr metadata]

end

/-! ## What an accepted archive holds -/

/-- The name is relative and does not lead out of the directory it is unpacked in. -/
def Member.Safe (member : Member) : Prop := isAbsolute member.name = false ∧ ".." ∉ pathParts member.name

theorem checkMember_ok {member : Member} : checkMember member = .ok () ↔ member.Safe ∧ member.regular = true := by
  simp only [checkMember, Member.Safe, Bool.or_eq_true, List.contains_iff_mem, Bool.not_eq_true']
  by_cases unsafeName : isAbsolute member.name = true ∨ ".." ∈ pathParts member.name
  · rw [if_pos unsafeName]
    refine iff_of_false (fun ok => by cases ok) fun held => ?_
    rcases unsafeName with absolute | upward
    · exact absurd absolute (by simp [held.1.1])
    · exact held.1.2 upward
  · rw [if_neg unsafeName]
    obtain ⟨relative, inside⟩ := not_or.mp unsafeName
    have safe : isAbsolute member.name = false := Bool.eq_false_iff.mpr relative
    cases member.regular <;> simp [safe, inside]

theorem forM_checked_ok {members : List Member} (done : members.forM checkMember = .ok ()) :
    ∀ member ∈ members, member.Safe ∧ member.regular = true := by
  induction members with
  | nil => simp
  | cons member rest ih =>
    have first : (member :: rest).forM checkMember = (checkMember member >>= fun _ => rest.forM checkMember) := rfl
    rw [first, bind_ok] at done
    obtain ⟨_, checked, others⟩ := done
    exact List.forall_mem_cons.mpr ⟨checkMember_ok.mp checked, ih others⟩

section
variable (host : Host) (intText : String → Option Int)

variable (members : List Member) in
/-- The entry names the member, and lists what its path opens, by what `str` and `int` read
of its values. -/
structure Lists (entry : Json) (member : Member) : Prop where
  path : ∃ value, item "path" entry = .ok value ∧ pyStr host value = member.name
  opened : ∃ opened ∈ members, opened.name = withoutSlashes member.name ∧
    (∃ value, item "sha256" entry = .ok value ∧ pyStr host value = host.sha256 opened.data) ∧
    ∃ value, item "size" entry = .ok value ∧ intOf intText value = .ok (opened.data.size : Int)

/-- The entry lists the member by its very values. -/
structure ListsExactly (entry : Json) (member : Member) : Prop where
  path : item "path" entry = .ok (.str member.name)
  digest : item "sha256" entry = .ok (.str (host.sha256 member.data))
  size : item "size" entry = .ok (.int member.data.size)

/-- What the member's name opens has its digest and size; so it is when the name does not
end in a slash. -/
def OpensAlike (members : List Member) (member : Member) : Prop :=
  ∀ opened ∈ members, opened.name = withoutSlashes member.name →
    host.sha256 opened.data = host.sha256 member.data ∧ opened.data.size = member.data.size

end

/-- The path and the digest of the entry are texts, and its size is an integer. -/
structure Typed (entry : Json) : Prop where
  path : ∃ s, item "path" entry = .ok (.str s)
  digest : ∃ s, item "sha256" entry = .ok (.str s)
  size : ∃ i, item "size" entry = .ok (.int i)

section
variable {host : Host} {intText : String → Option Int}

theorem listsExactly_iff {members : List Member} {entry : Json} {member : Member}
    (distinct : (members.map fun member => member.name).Nodup) (lists : Lists host intText members entry member) :
    ListsExactly host entry member ↔ Typed entry ∧ OpensAlike host members member := by
  obtain ⟨⟨path, pathAt, pathText⟩, opened, within, named, ⟨digest, digestAt, digestText⟩, size, sizeAt, sizeRead⟩ :=
    lists
  have only : ∀ other ∈ members, other.name = withoutSlashes member.name → other = opened := fun other held same =>
    List.inj_on_of_nodup_map distinct held within (same.trans named.symm)
  constructor
  · intro exactly
    obtain rfl := Except.ok.inj (exactly.digest.symm.trans digestAt)
    obtain rfl := Except.ok.inj (exactly.size.symm.trans sizeAt)
    refine ⟨⟨⟨_, exactly.path⟩, ⟨_, exactly.digest⟩, ⟨_, exactly.size⟩⟩, fun other held same => ?_⟩
    obtain rfl := only other held same
    have sizes : (member.data.size : Int) = other.data.size := Except.ok.inj sizeRead
    exact ⟨digestText.symm, by exact_mod_cast sizes.symm⟩
  · rintro ⟨⟨⟨s, pathIs⟩, ⟨d, digestIs⟩, i, sizeIs⟩, alike⟩
    obtain rfl := Except.ok.inj (pathIs.symm.trans pathAt)
    obtain rfl := Except.ok.inj (digestIs.symm.trans digestAt)
    obtain rfl := Except.ok.inj (sizeIs.symm.trans sizeAt)
    obtain ⟨sameDigest, sameSize⟩ := alike opened within named
    obtain rfl : s = member.name := pathText
    obtain rfl : d = host.sha256 opened.data := digestText
    obtain rfl : i = (opened.data.size : Int) := Except.ok.inj sizeRead
    exact ⟨pathIs, sameDigest ▸ digestIs, sameSize ▸ sizeIs⟩

theorem extract_some {members : List Member} {name : String} {data : ByteArray}
    (extracted : extract members name = .ok (some data)) :
    ∃ opened ∈ members, opened.name = withoutSlashes name ∧ opened.data = data := by
  unfold extract at extracted
  split at extracted
  · cases extracted
  next opened found =>
    have held := List.mem_reverse.mp (List.mem_of_find?_eq_some found)
    split at extracted
    · exact ⟨opened, held, by simpa using List.find?_some found, Option.some.inj (Except.ok.inj extracted)⟩
    · cases extracted

theorem verifyEntry_ok {members : List Member} {entry : Json} {verified : VerifiedEntry} {member : Member}
    (path : ∃ value, item "path" entry = .ok value ∧ pyStr host value = member.name)
    (done : verifyEntry host intText members entry = .ok verified) : Lists host intText members entry member := by
  obtain ⟨value, named, same⟩ := path
  simp only [verifyEntry, named, ok_bind, same] at done
  rw [bind_ok] at done
  obtain ⟨handle, extracted, done⟩ := done
  cases handle with
  | none => cases done
  | some data =>
    obtain ⟨opened, within, found, rfl⟩ := extract_some extracted
    dsimp only at done
    rw [bind_ok] at done
    obtain ⟨digest, digestAt, done⟩ := done
    rw [guard_ok] at done
    obtain ⟨sameDigest, done⟩ := done
    simp only [bind_ok] at done
    obtain ⟨size, sizeAt, whole, read, done⟩ := done
    rw [guard_ok] at done
    obtain ⟨sameSize, -⟩ := done
    obtain rfl := not_not.mp sameSize
    exact ⟨⟨value, named, same⟩, opened, within, found, ⟨digest, digestAt, (not_not.mp sameDigest).symm⟩,
      size, sizeAt, read⟩

theorem text_some {value : Option Json} {s : String} (read : Record.text value = some s) : value = some (.str s) := by
  unfold Record.text at read
  split at read
  · rw [Option.some.inj read]
  · cases read

theorem verifyManifest_ok {members : List Member} {manifest : Json} {verified : List VerifiedEntry}
    (done : verifyManifest host intText members manifest = .ok verified) :
    ∃ fields listed, manifest = .obj fields ∧ Dict.get? "schema" fields = some (.str schemaVersion) ∧
      Dict.get? "entries" fields = some (.arr listed) ∧ listed ≠ [] ∧
      (∃ paths, (listed.mapM fun expected => do return pyStr host (← item "path" expected)) =
          (.ok paths : Except CapsuleError _) ∧
        members.map (fun member => member.name) = manifestName :: paths) ∧
      listed.mapM (verifyEntry host intText members) = .ok verified := by
  cases manifest with
  | obj fields =>
    simp only [verifyManifest] at done
    rw [guard_ok] at done
    obtain ⟨schema, done⟩ := done
    split at done
    next first rest entries =>
      rw [bind_ok] at done
      obtain ⟨paths, named, done⟩ := done
      rw [guard_ok] at done
      obtain ⟨order, done⟩ := done
      exact ⟨fields, first :: rest, rfl, text_some (not_not.mp schema), entries, by simp,
        ⟨paths, named, not_not.mp order⟩, done⟩
    · cases done
  | null | bool | int | float | str | arr => cases done

/-- An archive by its members: the manifest, with the entries it lists, and the files behind it. -/
structure Contents where
  manifest : Member
  fields : List (String × Json)
  listed : List Json
  files : List Member

variable (host intText) in
structure Contents.Sound (tar : TarFormat) (archive : ByteArray) (contents : Contents) : Prop where
  read : tar.read archive = some (contents.manifest :: contents.files)
  named : contents.manifest.name = manifestName
  parsed : (String.fromUTF8? contents.manifest.data).bind JsonText.loads = some (.obj contents.fields)
  schema : Dict.get? "schema" contents.fields = some (.str schemaVersion)
  entries : Dict.get? "entries" contents.fields = some (.arr contents.listed)
  nonempty : contents.listed ≠ []
  safe : ∀ member ∈ contents.manifest :: contents.files, member.Safe ∧ member.regular = true
  distinct : ((contents.manifest :: contents.files).map fun member => member.name).Nodup
  lists : List.Forall₂ (Lists host intText (contents.manifest :: contents.files)) contents.listed contents.files

theorem forall₂_lists {members files : List Member} {listed : List Json} {paths : List String}
    {verified : List VerifiedEntry}
    (named : (listed.mapM fun expected => do return pyStr host (← item "path" expected)) =
      (.ok paths : Except CapsuleError _))
    (order : files.map (fun member => member.name) = paths)
    (done : listed.mapM (verifyEntry host intText members) = .ok verified) :
    List.Forall₂ (Lists host intText members) listed files := by
  induction listed generalizing files paths verified with
  | nil =>
    cases named
    obtain rfl : files = [] := by simpa using order
    exact .nil
  | cons entry rest ih =>
    simp only [List.mapM_cons, bind_ok, pure_ok] at named done
    obtain ⟨name, ⟨value, at', text⟩, names, others, rfl⟩ := named
    obtain ⟨result, first, results, further, rfl⟩ := done
    cases files with
    | nil => cases order
    | cons file files =>
      obtain ⟨same, order⟩ := List.cons.inj order
      exact .cons (verifyEntry_ok ⟨value, at', text.trans same.symm⟩ first) (ih others order further)

/-- An archive that is accepted holds the manifest and then the files it lists, each of
the digest and the size that are listed. -/
theorem verify_sound {tar : TarFormat} {path : String} {archive : ByteArray} {report : Verification}
    (accepted : verifyCapsule host tar intText path (some archive) = .ok report) :
    ∃ contents : Contents, contents.Sound host intText tar archive := by
  simp only [verifyCapsule] at accepted
  split at accepted
  · cases accepted
  next members read =>
    rw [guard_ok, guard_ok, bind_ok] at accepted
    obtain ⟨-, distinct, _, checked, accepted⟩ := accepted
    have safe := forM_checked_ok checked
    rw [bind_ok] at accepted
    obtain ⟨handle, extracted, accepted⟩ := accepted
    split at accepted
    · cases accepted
    next bytes =>
      split at accepted
      · cases accepted
      next text decoded =>
        split at accepted
        · cases accepted
        next manifest loaded =>
          rw [bind_ok] at accepted
          obtain ⟨entries, verified, -⟩ := accepted
          obtain ⟨fields, listed, rfl, schema, entries, nonempty, ⟨paths, named, order⟩, verified⟩ :=
            verifyManifest_ok verified
          cases members with
          | nil => cases order
          | cons first files =>
            obtain ⟨own, order⟩ := List.cons.inj order
            have nodup := not_not.mp distinct
            have data : first.data = bytes := by
              have opened := extract_opened nodup List.mem_cons_self (safe first (by simp)).2
                (own.trans withoutSlashes_manifestName.symm)
              rw [extracted] at opened
              exact (Option.some.inj (Except.ok.inj opened)).symm
            refine ⟨⟨first, fields, listed, files⟩, read, own, by simp [data, decoded, loaded], schema, entries,
              nonempty, safe, nodup, ?_⟩
            exact forall₂_lists named order verified

theorem exactly_iff {members files : List Member} {listed : List Json}
    (distinct : (members.map fun member => member.name).Nodup)
    (lists : List.Forall₂ (Lists host intText members) listed files) :
    List.Forall₂ (ListsExactly host) listed files ↔
      (∀ entry ∈ listed, Typed entry) ∧ ∀ file ∈ files, OpensAlike host members file := by
  induction lists with
  | nil => simp
  | cons first others ih =>
    simp only [List.forall₂_cons, listsExactly_iff distinct first, ih, List.forall_mem_cons]
    exact and_and_and_comm

/-- In an archive whose member names differ, a name that does not end in a slash opens its own member. -/
theorem opensAlike_of_plain {members : List Member} (distinct : (members.map fun member => member.name).Nodup)
    {member : Member} (within : member ∈ members) (plain : withoutSlashes member.name = member.name) :
    OpensAlike host members member := by
  intro opened held named
  rw [List.inj_on_of_nodup_map distinct held within (named.trans plain)]
  exact ⟨rfl, rfl⟩

end

/-- Two builds of one set of files, under metadata of one meaning, return the same
archive exactly when both start and archive the same bytes of each file. An archive that is
accepted lists its members by what `str` and `int` read of the manifest, and by the very
values exactly when these are texts and integers and each name that ends in a slash opens
a member of the same digest and size as its own. -/
theorem capsule_archives (host : Host) (tar : TarFormat) (intText : String → Option Int) :
    (∀ tree (c d : BuildCall) paths paths', collectFiles tree c.selection = .ok paths →
      collectFiles tree d.selection = .ok paths' → (∀ path, path ∈ paths ↔ path ∈ paths') →
      (Json.dict c.metadata).norm = (Json.dict d.metadata).norm →
      ((∃ archive, (∃ result, c.run host tar tree = .ok (result, archive)) ∧
          ∃ result, d.run host tar tree = .ok (result, archive)) ↔
        c.Starts tree paths ∧ d.Starts tree paths ∧
          ∀ path ∈ paths, ∃ data, c.archived tree path = some data ∧ d.archived tree path = some data)) ∧
    ∀ path archive report, verifyCapsule host tar intText path (some archive) = .ok report →
      ∃ contents : Contents, contents.Sound host intText tar archive ∧
        (List.Forall₂ (ListsExactly host) contents.listed contents.files ↔
          (∀ entry ∈ contents.listed, Typed entry) ∧ ∀ file ∈ contents.files,
            withoutSlashes file.name ≠ file.name → OpensAlike host (contents.manifest :: contents.files) file) := by
  refine ⟨fun tree c d paths paths' collected collected' same metadata =>
    builds_agree_iff collected collected' same metadata, fun path archive report accepted => ?_⟩
  obtain ⟨contents, sound⟩ := verify_sound accepted
  refine ⟨contents, sound, (exactly_iff sound.distinct sound.lists).trans (and_congr_right fun _ => ?_)⟩
  refine ⟨fun alike file member _ => alike file member, fun alike file member => ?_⟩
  by_cases plain : withoutSlashes file.name = file.name
  · exact opensAlike_of_plain sound.distinct (List.mem_cons_of_mem _ member) plain
  · exact alike file member plain

/-! A build that writes over the one file it packs. -/

def letterFile : Tree where
  files := [(["a"], ⟨⟨#[120]⟩, 0o644⟩)]
  dirs := []
  named := by decide
  distinct := by simp
  leaves := by simp

def overwriting : BuildCall := ⟨["a"], ⟨"/root/a", some ["a"], false⟩, ByteArray.empty, []⟩
def beside : BuildCall := ⟨["a"], elsewhere, ByteArray.empty, []⟩

/-- The file is cut to nothing when the output is opened, before it is read again. -/
theorem overwriting_fails :
    collectFiles letterFile overwriting.selection = .ok [["a"]] ∧ collectFiles letterFile beside.selection =
    .ok [["a"]] ∧
      overwriting.metadata = beside.metadata ∧
      (∃ result, beside.run zeroHost jsonTar letterFile = .ok result) ∧
      overwriting.run zeroHost jsonTar letterFile = .error .osError := by
  refine ⟨rfl, rfl, rfl, ⟨_, rfl⟩, rfl⟩

end MatVerse.Capsule
