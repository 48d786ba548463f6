import MatVerse.ReproductionCapsule
import MatVerse.Lib.Files

/-! A capsule that was built is verified, unless a collected file has the name of
the manifest or the archive was read while it was being written. -/
namespace MatVerse.Capsule

open Fallible

/-! ## What a build packs -/

/-- A collected file with the bytes that reach the archive. -/
structure Packed (tree : Tree) (output : Output) (reread : ByteArray) where
  path : List String
  file : RegularFile
  data : ByteArray
  found : tree.file? path = some file
  data_eq : data = if output.inside = some path then reread else file.content
  enough : file.content.size ≤ data.size

namespace Packed

variable {tree : Tree} {output : Output} {reread : ByteArray} (packed : Packed tree output reread)

def name : String := posix packed.path

def entry (host : Host) : CapsuleEntry :=
  ⟨packed.name, host.sha256 packed.file.content, packed.file.content.size, packed.file.mode % 512⟩

def stored : ByteArray := packed.data.extract 0 packed.file.content.size

def member : Member := ⟨packed.name, packed.stored, packed.file.mode % 512, true⟩

theorem stored_size : packed.stored.size = packed.file.content.size := by
  simp [stored, packed.enough]

theorem listed : packed.path ∈ tree.files.map Prod.fst := by
  rw [← Tree.file?_isSome, packed.found]
  rfl

theorem named : packed.path ≠ [] ∧ ∀ part ∈ packed.path, IsName part := by
  obtain ⟨file, held, same⟩ := List.mem_map.mp packed.listed
  exact same ▸ tree.named file held

/-- The name of a packed file passes the checks of a member. -/
theorem checked : checkMember packed.member = .ok () := by
  obtain ⟨some, named⟩ := packed.named
  have inside : (pathParts packed.name).contains ".." = false := by
    rw [name, pathParts_posix named some]
    exact Bool.eq_false_iff.mpr fun member => (named ".." (List.contains_iff_mem.mp member)).2.2.1 rfl
  have relative : isAbsolute packed.name = false := posix_relative named some
  simp only [checkMember, member, relative, inside]
  rfl

end Packed

section
variable {host : Host} {tar : TarFormat} {tree : Tree} {selection : List String} {output : Output}
  {reread : ByteArray} {metadata : Mapping}

theorem mapM_packed (paths : List (List String)) {entries : List CapsuleEntry} {members : List Member}
    (made : paths.mapM (entryOf host tree) = .ok entries)
    (added : ((entries.zip paths).mapM fun (entry, path) => addFile tree output reread entry path) = .ok members) :
    ∃ packed : List (Packed tree output reread), paths = packed.map Packed.path ∧
      entries = packed.map (fun p => p.entry host) ∧ members = packed.map Packed.member := by
  induction paths generalizing entries members with
  | nil =>
    cases made
    cases added
    exact ⟨[], rfl, rfl, rfl⟩
  | cons path rest ih =>
    simp only [List.mapM_cons, bind_ok, pure_ok] at made
    obtain ⟨entry, first, entries, others, rfl⟩ := made
    simp only [List.zip_cons_cons, List.mapM_cons, bind_ok, pure_ok] at added
    obtain ⟨member, first', members, others', rfl⟩ := added
    obtain ⟨packed, rfl, rfl, rfl⟩ := ih others others'
    simp only [entryOf] at first
    split at first
    · cases first
    next file found =>
      obtain rfl := Except.ok.inj first
      simp only [addFile] at first'
      split at first'
      · cases first'
      next data opened =>
        split at first'
        · cases first'
        next enough =>
          obtain rfl := Except.ok.inj first'
          have content : data = if output.inside = some path then reread else file.content := by
            split at opened
            next same =>
              rw [if_pos same]
              exact (Option.some.inj opened).symm
            next other =>
              rw [if_neg other]
              rw [found] at opened
              exact (Option.some.inj opened).symm
          exact ⟨⟨path, file, data, found, content, not_lt.mp enough⟩ :: packed, rfl, rfl, rfl⟩

def manifestMember (metadata : Mapping) (entries : List CapsuleEntry) : Member :=
  ⟨manifestName, manifestBytes metadata entries, 0o644, true⟩

theorem build_packed {result : CapsuleResult} {archive : ByteArray}
    (built : buildCapsule host tar tree selection output reread metadata = .ok (result, archive)) :
    ∃ packed : List (Packed tree output reread), packed ≠ [] ∧
      collectFiles tree selection = .ok (packed.map Packed.path) ∧
      result.entries = packed.map (fun p => p.entry host) ∧
      result.manifestSha256 = host.sha256 (manifestBytes metadata result.entries) ∧
      archive = tar.write (manifestMember metadata result.entries :: packed.map Packed.member) := by
  simp only [buildCapsule, bind_ok] at built
  obtain ⟨files, collected, built⟩ := built
  rw [guard_ok] at built
  obtain ⟨some, built⟩ := built
  simp only [bind_ok, pure_ok] at built
  obtain ⟨-, -, entries, made, members, added, same⟩ := built
  obtain ⟨rfl, rfl⟩ := Prod.mk.inj same
  obtain ⟨packed, rfl, rfl, rfl⟩ := mapM_packed files made added
  exact ⟨packed, by simpa using some, collected, rfl, rfl, rfl⟩

end

/-! ## What the verifier reads -/

/-- Of members with names of their own, the one that the name finds. -/
theorem extract_opened {members : List Member} (distinct : (members.map fun member => member.name).Nodup)
    {opened : Member} (listed : opened ∈ members) (regular : opened.regular = true) {name : String}
    (named : opened.name = withoutSlashes name) : extract members name = .ok (some opened.data) := by
  simp only [extract, ← named]
  cases found : members.reverse.find? fun other => other.name == opened.name with
  | none => exact absurd (List.find?_eq_none.mp found opened (List.mem_reverse.mpr listed)) (by simp)
  | some other =>
    have same : other.name = opened.name := by simpa using List.find?_some found
    have held := List.mem_reverse.mp (List.mem_of_find?_eq_some found)
    obtain rfl := List.inj_on_of_nodup_map distinct held listed same
    simp [regular]

theorem withoutSlashes_posix {path : List String} (named : ∀ part ∈ path, IsName part) :
    withoutSlashes (posix path) = posix path := by
  have kept : (posixChars path).rdropWhile (· == '/') = posixChars path :=
    List.rdropWhile_eq_self_iff.mpr fun some => by simpa using getLast_posixChars named some
  rw [withoutSlashes, posix, String.toList_ofList, kept]

theorem withoutSlashes_manifestName : withoutSlashes manifestName = manifestName := by decide

theorem norm_entry (entry : CapsuleEntry) : entry.json.norm = entry.json := by
  simp [CapsuleEntry.json]

theorem item_dict (key : String) (pairs : List (String × Json)) {value : Json}
    (found : Dict.get? key (Dict.ofPairs pairs) = some value) : item key (.dict pairs) = .ok value := by
  simp only [item, Json.dict, found]

section
variable {host : Host} {intText : String → Option Int} {members : List Member}

/-- The check of an entry that was written down compares the digest of its member. -/
theorem verifyEntry_json (entry : CapsuleEntry) {data : ByteArray}
    (extracted : extract members entry.path = .ok (some data)) (size : data.size = entry.size) :
    verifyEntry host intText members entry.json =
      if host.sha256 data = entry.sha256 then .ok entry.verified
      else .error (.valueError ("hash mismatch: " ++ entry.path)) := by
  have path : item "path" entry.json = .ok (.str entry.path) := item_dict _ _ (by simp)
  have digest : item "sha256" entry.json = .ok (.str entry.sha256) := item_dict _ _ (by simp)
  have length : item "size" entry.json = .ok (.int entry.size) := item_dict _ _ (by simp)
  have text (s : String) : pyStr host (.str s) = s := rfl
  have whole (i : Int) : intOf intText (.int i) = .ok i := rfl
  simp only [verifyEntry, path, digest, length, ok_bind, text, extracted, whole]
  by_cases same : host.sha256 data = entry.sha256
  · simp only [same, ne_eq, not_true, if_false, if_true, size, CapsuleEntry.verified]
    rfl
  · simp only [same, ne_eq, not_false_iff, if_true, if_false]
    rfl

theorem forM_checked (members : List Member) (checked : ∀ member ∈ members, checkMember member = .ok ()) :
    members.forM checkMember = .ok () := by
  induction members with
  | nil => rfl
  | cons member rest ih =>
    have first : (member :: rest).forM checkMember = (checkMember member >>= fun _ => rest.forM checkMember) := rfl
    rw [first, checked member (by simp), ok_bind]
    exact ih fun other later => checked other (List.mem_cons_of_mem _ later)

end

section
variable {host : Host} {intText : String → Option Int} {tree : Tree} {output : Output} {reread : ByteArray}
  {metadata : Mapping}

def membersOf (host : Host) (metadata : Mapping) (packed : List (Packed tree output reread)) : List Member :=
  manifestMember metadata (packed.map fun p => p.entry host) :: packed.map Packed.member

variable (host metadata) in
theorem names_membersOf (packed : List (Packed tree output reread)) :
    (membersOf host metadata packed).map (fun member => member.name) = manifestName :: packed.map Packed.name := by
  simp [membersOf, manifestMember, Packed.member]

variable (metadata) in
theorem norm_manifest (entries : List CapsuleEntry) : ∃ fields, (manifest metadata entries).norm = .obj fields ∧
    Dict.get? "schema" fields = some (.str schemaVersion) ∧
    Dict.get? "entries" fields = some (.arr (entries.map CapsuleEntry.json)) := by
  refine ⟨_, by rw [manifest, Json.norm_dict, Json.dict], ?_, ?_⟩
  · simp
  · simp [norm_entry]

variable (host intText) in
/-- Each entry is checked against the member that was packed for it. -/
theorem mapM_verifyEntry {members : List Member} (packed : List (Packed tree output reread))
    (extracted : ∀ p ∈ packed, extract members p.name = .ok (some p.stored)) :
    (∃ verified, (packed.map fun p => (p.entry host).json).mapM (verifyEntry host intText members) = .ok verified ∧
        verified = packed.map fun p => (p.entry host).verified) ↔
      ∀ p ∈ packed, host.sha256 p.stored = host.sha256 p.file.content := by
  have each : ∀ p ∈ packed, verifyEntry host intText members (p.entry host).json =
      if host.sha256 p.stored = host.sha256 p.file.content then .ok (p.entry host).verified
      else .error (.valueError ("hash mismatch: " ++ p.name)) := fun p member =>
    verifyEntry_json (p.entry host) (extracted p member) p.stored_size
  constructor
  · rintro ⟨verified, done, -⟩ p member
    obtain ⟨result, returned⟩ := mapM_each done _ (List.mem_map_of_mem member)
    rw [each p member] at returned
    by_contra other
    rw [if_neg other] at returned
    cases returned
  · intro same
    refine ⟨_, ?_, rfl⟩
    rw [List.mapM_map]
    exact mapM_eq fun p member => by rw [Function.comp_apply, each p member, if_pos (same p member)]

variable (host) in
theorem mapM_paths (packed : List (Packed tree output reread)) :
    ((packed.map fun p => (p.entry host).json).mapM fun expected => do
      return pyStr host (← item "path" expected)) = (.ok (packed.map Packed.name) : Except CapsuleError _) := by
  rw [List.mapM_map]
  refine mapM_eq fun p _ => ?_
  have path : item "path" (p.entry host).json = .ok (.str p.name) := item_dict _ _ (by simp [Packed.entry])
  simp only [Function.comp_apply, path, ok_bind]
  rfl

variable (host intText) in
theorem verifyManifest_eq {members : List Member} {fields : List (String × Json)}
    {packed : List (Packed tree output reread)} (nonempty : packed ≠ [])
    (schema : Dict.get? "schema" fields = some (.str schemaVersion))
    (entries : Dict.get? "entries" fields = some (.arr (packed.map fun p => (p.entry host).json)))
    (names : members.map (fun member => member.name) = manifestName :: packed.map Packed.name) :
    verifyManifest host intText members (.obj fields) =
      (packed.map fun p => (p.entry host).json).mapM (verifyEntry host intText members) := by
  have paths := mapM_paths host packed
  cases packed with
  | nil => exact absurd rfl nonempty
  | cons p rest =>
    rw [List.map_cons] at entries paths
    simp only [verifyManifest, schema, Record.text, entries, paths, ok_bind, names, ne_eq, not_true, if_false,
      List.map_cons]

theorem verified_distinct {tar : TarFormat} {path : String} {members : List Member} {report : Verification}
    (verified : verifyCapsule host tar intText path (some (tar.write members)) = .ok report) :
    (members.map fun member => member.name).Nodup := by
  simp only [verifyCapsule, tar.reads] at verified
  rw [guard_ok, guard_ok] at verified
  exact not_not.mp verified.2.1

theorem verify_packed {tar : TarFormat} (path : String) {packed : List (Packed tree output reread)}
    (nonempty : packed ≠ []) (distinct : (packed.map Packed.name).Nodup) :
    (∃ report, verifyCapsule host tar intText path (some (tar.write (membersOf host metadata packed))) = .ok report ∧
        report.manifestSha256 = host.sha256 (manifestBytes metadata (packed.map fun p => p.entry host)) ∧
        report.entries = packed.map fun p => (p.entry host).verified) ↔
      manifestName ∉ packed.map Packed.name ∧ ∀ p ∈ packed, host.sha256 p.stored = host.sha256 p.file.content := by
  have names := names_membersOf host metadata packed
  by_cases reserved : manifestName ∈ packed.map Packed.name
  · refine iff_of_false ?_ fun held => held.1 reserved
    rintro ⟨report, verified, -⟩
    have unique := verified_distinct verified
    rw [names] at unique
    exact (List.nodup_cons.mp unique).1 reserved
  · have unique : ((membersOf host metadata packed).map fun member => member.name).Nodup := by
      rw [names]
      exact List.nodup_cons.mpr ⟨reserved, distinct⟩
    have nodup : (manifestName :: packed.map Packed.name).Nodup := names ▸ unique
    have own : checkMember (manifestMember metadata (packed.map fun p => p.entry host)) = .ok () := by
      have relative : isAbsolute manifestName = false := by decide
      have inside : (pathParts manifestName).contains ".." = false := by decide
      simp only [checkMember, manifestMember, relative, inside]
      rfl
    have checked := forM_checked (membersOf host metadata packed) fun member listed => by
      rcases List.mem_cons.mp listed with rfl | later
      · exact own
      · obtain ⟨p, -, rfl⟩ := List.mem_map.mp later
        exact p.checked
    have first : extract (membersOf host metadata packed) manifestName =
        .ok (some (manifestBytes metadata (packed.map fun p => p.entry host))) :=
      extract_opened unique List.mem_cons_self rfl withoutSlashes_manifestName.symm
    have decoded : String.fromUTF8? (manifestBytes metadata (packed.map fun p => p.entry host)) =
        some (canonicalJson (manifest metadata (packed.map fun p => p.entry host))) := Text.fromUTF8?_toUTF8 _
    have extracted : ∀ p ∈ packed, extract (membersOf host metadata packed) p.name = .ok (some p.stored) :=
      fun p member => extract_opened unique (List.mem_cons_of_mem _ (List.mem_map_of_mem member)) rfl
        (withoutSlashes_posix p.named.2).symm
    obtain ⟨fields, normal, schema, entries⟩ := norm_manifest metadata (packed.map fun p => p.entry host)
    rw [List.map_map] at entries
    have checks := verifyManifest_eq host intText nonempty schema entries names
    have each := mapM_verifyEntry host intText packed extracted
    rw [and_iff_right reserved, ← each]
    simp only [verifyCapsule, tar.reads, names, List.head?_cons, ne_eq, not_true, if_false, nodup, checked, ok_bind,
      first, decoded, loads_canonicalJson, normal, checks, bind_ok, pure_ok]
    constructor
    · rintro ⟨_, ⟨verified, done, rfl⟩, -, same⟩
      exact ⟨verified, done, same⟩
    · rintro ⟨verified, done, same⟩
      exact ⟨_, ⟨verified, done, rfl⟩, rfl, same⟩

theorem posix_injective {path path' : List String} (named : path ≠ [] ∧ ∀ part ∈ path, IsName part)
    (named' : path' ≠ [] ∧ ∀ part ∈ path', IsName part) (same : posix path = posix path') : path = path' := by
  rw [← pathParts_posix named.2 named.1, same, pathParts_posix named'.2 named'.1]

theorem isName_manifestName : IsName manifestName := by
  refine ⟨by decide, by decide, by decide, by decide⟩

theorem Tree.Selected.named {selection : List String} {path : List String} (selected : tree.Selected selection path) :
    path ≠ [] ∧ ∀ part ∈ path, IsName part := by
  obtain ⟨file, held, rfl⟩ := List.mem_map.mp selected.1
  exact tree.named file held

/-- What a build returned is verified, with the entries and the manifest digest it
returned, unless a file at the root that has the name of the manifest was selected, or
the output was, and what was read of it while it was written has another digest. -/
theorem verify_build_iff {host : Host} {tar : TarFormat} {intText : String → Option Int} {selection : List String}
    {result : CapsuleResult} {archive : ByteArray}
    (built : buildCapsule host tar tree selection output reread metadata = .ok (result, archive)) :
    (∃ report, verifyCapsule host tar intText result.archivePath (some archive) = .ok report ∧
        report.manifestSha256 = result.manifestSha256 ∧
        report.entries = result.entries.map CapsuleEntry.verified) ↔
      ¬tree.Selected selection [manifestName] ∧
        ∀ path file, output.inside = some path → tree.Selected selection path → tree.file? path = some file →
          host.sha256 (reread.extract 0 file.content.size) = host.sha256 file.content := by
  obtain ⟨packed, nonempty, collected, entries, digest, rfl⟩ := build_packed built
  obtain ⟨selected, complete, distinct⟩ := collectFiles_spec collected
  have names : (packed.map Packed.path).map posix = packed.map Packed.name := by
    rw [List.map_map]
    rfl
  rw [names] at complete distinct
  have chosen : ∀ p ∈ packed, tree.Selected selection p.path := fun p member =>
    selected p.path (List.mem_map_of_mem member)
  have find {path : List String} (wanted : tree.Selected selection path) : ∃ p ∈ packed, p.path = path := by
    obtain ⟨p, member, same⟩ := List.mem_map.mp (complete path wanted)
    exact ⟨p, member, posix_injective p.named wanted.named same⟩
  have verified : result.entries.map CapsuleEntry.verified = packed.map fun p => (p.entry host).verified := by
    rw [entries, List.map_map]
    rfl
  rw [digest, verified, entries]
  refine (verify_packed result.archivePath nonempty distinct).trans (and_congr ?_ ?_)
  · refine not_congr ⟨fun member => ?_, fun wanted => complete _ wanted⟩
    obtain ⟨p, listed, same⟩ := List.mem_map.mp member
    have root : posix [manifestName] = manifestName := String.ofList_toList
    have path : p.path = [manifestName] :=
      posix_injective p.named ⟨by simp, by simp [isName_manifestName]⟩ (same.trans root.symm)
    exact path ▸ chosen p listed
  · constructor
    · intro same path file inside wanted found
      obtain ⟨p, member, rfl⟩ := find wanted
      obtain rfl := Option.some.inj (p.found.symm.trans found)
      have stored := same p member
      rwa [Packed.stored, p.data_eq, if_pos inside] at stored
    · intro same p member
      rw [Packed.stored, p.data_eq]
      split
      next inside => exact same p.path p.file inside (chosen p member) p.found
      next => rw [ByteArray.extract_zero_size]

end

/-! An archive format that lists its members as JSON, and two trees of one file. -/

def Member.json (member : Member) : Json :=
  .arr [.str member.name, .arr (member.data.data.toList.map fun byte => .int byte.toNat), .int member.mode,
    .bool member.regular]

def byteOf : Json → Option UInt8
  | .int i => some (UInt8.ofNat i.toNat)
  | _ => none

def memberOf : Json → Option Member
  | .arr [.str name, .arr bytes, .int mode, .bool regular] => do
    return ⟨name, ⟨(← bytes.mapM byteOf).toArray⟩, mode.toNat, regular⟩
  | _ => none

theorem mapM_byteOf (bytes : List UInt8) : (bytes.map fun byte => Json.int byte.toNat).mapM byteOf = some bytes := by
  induction bytes with
  | nil => rfl
  | cons byte rest ih => simp [byteOf, ih]

theorem memberOf_json (member : Member) : memberOf member.json = some member := by
  simp only [Member.json, memberOf, mapM_byteOf]
  simp

theorem mapM_memberOf (members : List Member) : (members.map Member.json).mapM memberOf = some members := by
  induction members with
  | nil => rfl
  | cons member rest ih => simp [memberOf_json, ih]

theorem norm_member (member : Member) : member.json.norm = member.json := by
  simp [Member.json]

def jsonTar : TarFormat where
  write members := (canonicalJson (.arr (members.map Member.json))).toUTF8
  read bytes := do
    match JsonText.loads (← String.fromUTF8? bytes) with
    | some (.arr items) => items.mapM memberOf
    | _ => none
  reads members := by
    have normal : (Json.arr (members.map Member.json)).norm = .arr (members.map Member.json) := by
      simp [norm_member]
    simp only [Text.fromUTF8?_toUTF8, Option.bind_eq_bind, Option.bind_some, loads_canonicalJson, normal,
      mapM_memberOf]

def oneFile (name : String) (content : ByteArray) (valid : IsName name) : Tree where
  files := [([name], ⟨content, 0o644⟩)]
  dirs := []
  named := by simp [valid]
  distinct := by simp
  leaves := by simp

def elsewhere : Output := ⟨"/tmp/capsule.tar", none, false⟩

/-- The output is written beside the file, or over it. -/
def Output.Beside (output : Output) (name : String) : Prop :=
  output.inside = none ∧ output.directory = false ∨ output.inside = some [name]

theorem oneFile_built (host : Host) (tar : TarFormat) {name : String} (valid : IsName name) (content reread : ByteArray)
    (long : content.size ≤ reread.size) {output : Output} (place : output.Beside name) : ∃ result archive,
      buildCapsule host tar (oneFile name content valid) [name] output reread [] = .ok (result, archive) := by
  have text : posix [name] = name := String.ofList_toList
  have named : ∀ part ∈ [name], IsName part := by simpa using valid
  have parts : pathParts name = [name] := by simpa [text] using pathParts_posix named (by simp)
  have relative : isAbsolute name = false := by simpa [text] using posix_relative named (by simp)
  have found : (oneFile name content valid).file? [name] = some ⟨content, 0o644⟩ := by
    simp [oneFile, Tree.file?]
  have upward : [name].contains ".." = false :=
    Bool.eq_false_iff.mpr fun member => valid.2.2.1 (List.mem_singleton.mp (List.contains_iff_mem.mp member)).symm
  have directory : (oneFile name content valid).isDir [name] = false := by simp [oneFile, Tree.isDir]
  have collected : collectFiles (oneFile name content valid) [name] = .ok [[name]] := by
    have resolved : safeRelative name = .ok [name] := by
      simp only [safeRelative, relative, parts, upward, Bool.false_eq_true, if_false]
    have one : collectOne (oneFile name content valid) [] name = .ok [(posix [name], [name])] := by
      simp only [collectOne, resolved, ok_bind, directory, found]
      rfl
    simp only [collectFiles, List.foldlM_cons, List.foldlM_nil, one, ok_bind]
    rfl
  let entry : CapsuleEntry := ⟨posix [name], host.sha256 content, content.size, 0o644 % 512⟩
  have entries : [[name]].mapM (entryOf host (oneFile name content valid)) = .ok [entry] := by
    rw [List.mapM_cons, entryOf, found]
    rfl
  have added : ∃ member, addFile (oneFile name content valid) output reread entry [name] = .ok member := by
    unfold addFile
    rcases place with ⟨outside, -⟩ | own
    · rw [outside, found]
      exact ⟨_, if_neg (Nat.lt_irrefl _)⟩
    · rw [own, if_pos rfl]
      exact ⟨_, if_neg (Nat.not_lt.mpr long)⟩
  obtain ⟨member, added⟩ := added
  have members : ([entry].zip [[name]]).mapM (fun (entry, path) =>
      addFile (oneFile name content valid) output reread entry path) = .ok [member] := by
    simp only [List.zip_cons_cons, List.mapM_cons, added, ok_bind]
    rfl
  have prepared : prepareOutput (oneFile name content valid) output = .ok () := by
    unfold prepareOutput
    rcases place with ⟨outside, plain⟩ | own
    · rw [outside, plain]
      rfl
    · simp only [own, directory, Bool.false_eq_true, if_false]
      simp [oneFile]
  simp only [buildCapsule, collected, ok_bind, List.isEmpty_cons, Bool.false_eq_true, if_false, prepared, entries,
    members]
  exact ⟨_, _, rfl⟩

def letter (byte : UInt8) : ByteArray := ⟨#[byte]⟩

/-- The capsule is written over the one file it packs. -/
def overFile : Output := ⟨"/root/a", some ["a"], false⟩

/-- A capsule written over the file it packs verifies when the file was read again as it was, and
not when another letter was read. -/
theorem verify_build_sample :
    (∃ result archive report, buildCapsule hexHost jsonTar (oneFile "a" (letter 120) (by decide)) ["a"] overFile
      (letter 120) [] =
        .ok (result, archive) ∧
      verifyCapsule hexHost jsonTar (fun _ => none) result.archivePath (some archive) = .ok report ∧
      report.manifestSha256 = result.manifestSha256 ∧ report.entries = result.entries.map CapsuleEntry.verified) ∧
    ∃ result archive, buildCapsule hexHost jsonTar (oneFile "a" (letter 120) (by decide)) ["a"] overFile
    (letter 121) [] =
        .ok (result, archive) ∧
      ¬∃ report, verifyCapsule hexHost jsonTar (fun _ => none) result.archivePath (some archive) = .ok report ∧
        report.manifestSha256 = result.manifestSha256 ∧ report.entries = result.entries.map CapsuleEntry.verified := by
  have own : IsName "a" := by decide
  constructor
  · obtain ⟨result, archive, built⟩ := oneFile_built hexHost jsonTar own (letter 120) (letter 120) (Nat.le_refl 1)
      (.inr rfl : overFile.Beside "a")
    have unreserved : ¬(oneFile "a" (letter 120) own).Selected ["a"] [manifestName] := fun selected =>
      absurd selected.1 (by simp [oneFile, manifestName])
    obtain ⟨report, verified⟩ := (verify_build_iff built).mpr ⟨unreserved, fun path file inside _ found => by
      obtain rfl := Option.some.inj inside
      obtain rfl := Option.some.inj found
      rfl⟩
    exact ⟨result, archive, report, built, verified⟩
  · obtain ⟨result, archive, built⟩ := oneFile_built hexHost jsonTar own (letter 120) (letter 121) (Nat.le_refl 1)
      (.inr rfl : overFile.Beside "a")
    refine ⟨result, archive, built, fun verified => ?_⟩
    have chosen : (oneFile "a" (letter 120) own).Selected ["a"] ["a"] :=
      ⟨.head _, "a", .head _, by decide⟩
    have same := ((verify_build_iff built).mp verified).2 ["a"] ⟨letter 120, 0o644⟩ rfl chosen rfl
    exact absurd (congrArg (fun bytes => bytes.data.toList) (hexHost_collisionFree same)) (by decide)

/-- The capsule of a file that is named like the manifest is built and then refused. -/
theorem manifest_named_refused :
    ∃ result archive,
      buildCapsule hexHost jsonTar (oneFile manifestName ByteArray.empty isName_manifestName) [manifestName] elsewhere
        ByteArray.empty [] = .ok (result, archive) ∧
      ∀ report, verifyCapsule hexHost jsonTar (fun _ => none) result.archivePath (some archive) ≠ .ok report := by
  obtain ⟨result, archive, built⟩ := oneFile_built hexHost jsonTar isName_manifestName ByteArray.empty ByteArray.empty
    (Nat.le_refl 0) (.inl ⟨rfl, rfl⟩ : elsewhere.Beside manifestName)
  refine ⟨result, archive, built, fun report verified => ?_⟩
  obtain ⟨packed, nonempty, collected, entries, -, rfl⟩ := build_packed built
  have unique := verified_distinct verified
  rw [entries, ← membersOf, names_membersOf] at unique
  obtain ⟨p, member⟩ := List.exists_mem_of_ne_nil _ nonempty
  obtain ⟨listed, -⟩ := (collectFiles_spec collected).1 p.path (List.mem_map_of_mem member)
  have path : p.path = [manifestName] := by simpa [oneFile] using listed
  have named : p.name = manifestName := by
    rw [Packed.name, path]
    exact String.ofList_toList
  exact (List.nodup_cons.mp unique).1 (List.mem_map.mpr ⟨p, member, named⟩)

end MatVerse.Capsule
