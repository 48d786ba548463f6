import MatVerse.ScientificObject

/-! Two readings of one manuscript reference: the assessment reads it against the
directory of the preflight, the publisher reads it, without surrounding blanks, against
the directory of the written object. When they find the same file. -/
namespace MatVerse.Marxiv

open Fallible Paths Record

/-- The manuscript reference of a preflight. -/
def PaperPreflight.reference (preflight : PaperPreflight) : String :=
  preflight.publicationIntent.manuscriptFile.getD ""

/-- Where a candidate is read from, in a document at a real path. -/
def base (candidate : Path) (document : List String) : List String :=
  if candidate.absolute then [] else document.dropLast

/-- A promotion that succeeded and wrote its object, and a path to the written object. -/
structure Promotion (home : String → Option Path) (before after : FileSystem)
    (preflightPath outputPath objectPath : Path) (path output : List String) (preflight : PaperPreflight)
    (object : MarxivScientificObject) : Prop where
  promoted : promote home before preflightPath = .ok object
  found : before.resolve preflightPath = some path
  loaded : loadPreflight before path = .ok preflight
  wrote : Wrote before after outputPath object.toJson
  target : before.resolve outputPath = some output
  reads : after.resolve objectPath = some output

/-- The publisher takes the file that the assessment found. -/
def SameManuscript (home : String → Option Path) (before after : FileSystem) (objectPath : Path)
    (path : List String) (preflight : PaperPreflight) : Prop :=
  ∃ manuscript real, manuscriptPath home before path preflight.reference = .ok manuscript ∧
    before.resolve manuscript = some real ∧ sourceManuscript home after objectPath = .ok real

/-- Two characters are left of every author's name. -/
def LongNames (preflight : PaperPreflight) : Prop :=
  ∀ a ∈ preflight.publicationIntent.authors.getD [], 2 ≤ (Text.strip a.name).length

section
variable (home : String → Option Path) (path output : List String) (reference : String)

def Candidates (first second : Path) : Prop :=
  expanduser home (Path.parse reference) = .ok first ∧
    expanduser home (Path.parse (Text.strip reference)) = .ok second

/-- The two readings lead to one place. -/
def Meet (fs : FileSystem) : Prop :=
  ∃ first second, Candidates home reference first second ∧
    follow fs.entry (base first path) first.parts = follow fs.entry (base second output) second.parts

/-- One candidate, read from one place: it is absolute, or the two directories agree above
the levels it climbs first. -/
def SameWay : Prop :=
  ∃ candidate, Candidates home reference candidate candidate ∧
    (candidate.absolute = true ∨ ∃ levels rest, candidate.parts = List.replicate levels ".." ++ rest ∧
      List.dropLast^[levels] path.dropLast = List.dropLast^[levels] output.dropLast)

/-- The two readings spell one path. -/
def SameSpelling : Prop :=
  ∃ first second, Candidates home reference first second ∧
    spell (base first path) first.parts = spell (base second output) second.parts

/-- No link is on either way. -/
def PlainWays (fs : FileSystem) : Prop :=
  ∀ first second, Candidates home reference first second →
    Plain fs.entry (base first path) first.parts ∧ Plain fs.entry (base second output) second.parts

end

variable {home : String → Option Path} {before after fs : FileSystem} {preflightPath outputPath objectPath : Path}
variable {path output : List String} {preflight : PaperPreflight} {object : MarxivScientificObject}

/-! ## The assessment -/

theorem resolved_ok {p : Path} {real : List String} : resolved fs p = .ok real ↔ fs.resolve p = some real := by
  unfold resolved
  cases fs.resolve p <;> simp

theorem manuscriptPath_resolves (isReal : IsReal fs.entry path) {reference : String} {manuscript : Path}
    (done : manuscriptPath home fs path reference = .ok manuscript) :
    ∃ candidate, expanduser home (Path.parse reference) = .ok candidate ∧
      fs.resolve manuscript = follow fs.entry (base candidate path) candidate.parts := by
  simp only [manuscriptPath, bind_ok] at done
  obtain ⟨candidate, expanded, done⟩ := done
  refine ⟨candidate, expanded, ?_⟩
  by_cases absolute : candidate.absolute = true
  · rw [if_pos absolute, pure_ok] at done
    subst done
    simp [FileSystem.resolve, FileSystem.start, base, absolute]
  · rw [if_neg absolute] at done
    simp only [bind_ok, pure_ok, resolved_ok, resolve_under isReal.dropLast] at done
    obtain ⟨real, led, rfl⟩ := done
    have home' : base candidate path = path.dropLast := if_neg absolute
    rw [home', led]
    exact resolve_self (follow_real fs isReal.dropLast led)

theorem blockIf_nil {c : Bool} {blocker : String} : blockIf c blocker = [] ↔ c = false := by
  cases c <;> simp [blockIf]

theorem assess_ready (isReal : IsReal fs.entry path) (loaded : loadPreflight fs path = .ok preflight)
    {assessment : PreflightAssessment} (assessed : assess home fs ⟨true, path⟩ = .ok assessment)
    (ready : assessment.ready = true) :
    ∃ manuscript, manuscriptPath home fs path preflight.reference = .ok manuscript ∧ fs.isFile manuscript = true := by
  simp only [assess, bind_ok, pure_ok, Prod.exists, resolved_ok.mpr (resolve_self isReal)] at assessed
  obtain ⟨_, found, obj, read, manuscript, blockers, searched, rfl⟩ := assessed
  cases found
  rw [loaded] at read
  cases read
  simp only [List.isEmpty_iff, List.append_eq_nil_iff] at ready
  obtain ⟨⟨-, clean⟩, -⟩ := ready
  unfold assessManuscript at searched
  split at searched
  · cases searched
    cases clean
  · simp only [bind_ok, pure_ok, Prod.mk.injEq] at searched
    obtain ⟨manuscript, named, -, rfl⟩ := searched
    simp only [List.append_eq_nil_iff, blockIf_nil, Bool.not_eq_false'] at clean
    exact ⟨manuscript, named, clean.1⟩

/-! ## The written object -/

theorem authors_promoted {authors : List PreflightAuthor} {others : List MarxivAuthor}
    (read : (authors.map promotedAuthor).mapM MarxivAuthor.ofJson = some others) :
    others.map MarxivAuthor.name = authors.map (fun a => Text.strip a.name) := by
  induction authors generalizing others with
  | nil =>
    cases read
    rfl
  | cons a rest ih =>
    simp only [List.map_cons, List.mapM_cons, bind_some, pure_some] at read
    obtain ⟨first, head, tail, more, rfl⟩ := read
    have name : first.name = Text.strip a.name := by
      simp only [MarxivAuthor.ofJson, bind_some, pure_some, Option.guard_eq_some'] at head
      obtain ⟨-, -, name, ⟨text, found, sized⟩, -, -, -, -, -, -, -, -, rfl⟩ := head
      obtain ⟨rfl, -⟩ := sized_ok sized
      have same : (promotedAuthor a).get? "name" = some (.str a.name) := by simp [promotedAuthor]
      rw [same] at found
      cases found
      rfl
    rw [List.map_cons, List.map_cons, name, ih more]

theorem object_promoted {reference : String}
    (read : MarxivScientificObject.ofJson (promotedPayload preflight reference) = some object) :
    object.Valid ∧ object.manuscriptFile = reference ∧
      ((∀ a ∈ object.authors, 2 ≤ a.name.length) ↔ LongNames preflight) := by
  refine ⟨MarxivScientificObject.valid_of_ofJson read, ?_⟩
  simp only [MarxivScientificObject.ofJson, bind_some, pure_some, Option.guard_eq_some'] at read
  obtain ⟨-, -, -, -, -, -, -, -, -, -, -, -, -, -, authors, listed, -, -, -, -, manuscript, ⟨_, found, sized⟩, -, -, -,
    -, -, -, -, -, -, -, rfl⟩ := read
  obtain ⟨rfl, -⟩ := sized_ok sized
  have file : (promotedPayload preflight reference).get? "manuscript_file" = some (.str reference) := by
    simp [promotedPayload]
  have list : (promotedPayload preflight reference).get? "authors" =
      some (.arr ((preflight.publicationIntent.authors.getD []).map promotedAuthor)) := by
    simp [promotedPayload]
  rw [file] at found
  rw [list] at listed
  cases found
  have names := authors_promoted listed
  refine ⟨rfl, ?_⟩
  have all : (∀ name ∈ authors.map MarxivAuthor.name, 2 ≤ name.length) ↔
      ∀ name ∈ (preflight.publicationIntent.authors.getD []).map (fun a => Text.strip a.name), 2 ≤ name.length := by
    rw [names]
  simpa [LongNames] using all

theorem promote_ok (done : promote home fs preflightPath = .ok object) (found : fs.resolve preflightPath = some path)
    (loaded : loadPreflight fs path = .ok preflight) :
    (∃ manuscript, manuscriptPath home fs path preflight.reference = .ok manuscript ∧ fs.isFile manuscript = true) ∧
      MarxivScientificObject.ofJson (promotedPayload preflight (Text.strip preflight.reference)) = some object := by
  simp only [promote, bind_ok, guard_ok, resolved_ok] at done
  obtain ⟨_, same, assessment, assessed, ready, obj, read, -, done⟩ := done
  rw [found] at same
  cases same
  rw [loaded] at read
  cases read
  refine ⟨assess_ready (resolve_real found) loaded assessed (by simpa using ready), ?_⟩
  split at done
  next scientificObject valid =>
    cases done
    exact valid
  · cases done

/-- A preflight without blockers is promoted to the object that its payload reads as. -/
theorem promote_clear {manuscript : Option Path} {reference : String} (found : fs.resolve preflightPath = some path)
    (loaded : loadPreflight fs path = .ok preflight)
    (searched : assessManuscript home fs path preflight.publicationIntent = .ok (manuscript, []))
    (clear : authorBlockers preflight.publicationIntent.authors ++ [] ++ intentBlockers preflight.publicationIntent =
      [])
    (stripped : Text.strip preflight.reference = reference) (given : reference ≠ "")
    (read : MarxivScientificObject.ofJson (promotedPayload preflight reference) = some object) :
    promote home fs preflightPath = .ok object := by
  have again : fs.resolve ⟨true, path⟩ = some path := resolve_self (resolve_real found)
  have named : (Text.strip (preflight.publicationIntent.manuscriptFile.getD "") == "") = false := by
    simpa [← stripped, PaperPreflight.reference] using given
  subst stripped
  simp only [PaperPreflight.reference] at read
  simp only [promote, assess, resolved_ok.mpr found, resolved_ok.mpr again, ok_bind, loaded, searched, clear, named]
  simp [read, pure, Except.pure, ok_bind]

theorem normal_strs (items : List String) : (strs items).Normal := by
  apply Json.normal_arr.mpr
  intro v member
  obtain ⟨s, _, rfl⟩ := List.mem_map.mp member
  rfl

theorem normal_optText (s : Option String) : (optText s).Normal := by cases s <;> rfl

theorem MarxivAuthor.normal_toJson (a : MarxivAuthor) : a.toJson.Normal := by
  apply Json.normal_dict
  simp [normal_optText]
  rfl

theorem ArxivTarget.normal_toJson (t : ArxivTarget) : t.toJson.Normal := by
  have flag : (t.keepAllFiles.elim Json.null Json.bool).Normal := by cases t.keepAllFiles <;> rfl
  have text (s : String) : (Json.str s).Normal := rfl
  apply Json.normal_dict
  simp [metadata, normal_strs, normal_optText, flag, text]

theorem MarxivScientificObject.normal_toJson (o : MarxivScientificObject) : o.toJson.Normal := by
  have authors : (Json.arr (o.authors.map MarxivAuthor.toJson)).Normal := by
    apply Json.normal_arr.mpr
    intro v member
    obtain ⟨a, _, rfl⟩ := List.mem_map.mp member
    exact a.normal_toJson
  have target : (Json.dict (("venue", .str "arxiv") :: o.publication.metadata)).Normal := o.publication.normal_toJson
  have text (s : String) : (Json.str s).Normal := rfl
  apply Json.normal_dict
  simp [normal_strs, normal_optText, authors, target, text]

theorem readAt_document {real : List String} {v : Json}
    (written : fs.contents real = some (Files.documentText v).toUTF8) : readAt fs real = .ok v.norm := by
  have read : Files.readJson (fun _ => fs.contents real) "" = .ok v.norm := Files.readJson_document written
  rw [readAt, read]

/-- The written object loads exactly when the names are long enough, as itself. -/
theorem loadObject_written (valid : object.Valid) {other : MarxivScientificObject}
    (written : fs.contents output = some (Files.documentText object.toJson).toUTF8) :
    loadObject fs output = .ok other ↔ other = object ∧ ∀ a ∈ object.authors, 2 ≤ a.name.length := by
  have itself : object.toJson.norm = object.toJson := object.normal_toJson
  rw [loadObject, readAt_document written, itself, ok_bind]
  constructor
  · intro loaded
    split at loaded
    next obj read =>
      cases loaded
      have names := MarxivScientificObject.names_of_ofJson valid read
      rw [MarxivScientificObject.ofJson_toJson valid names] at read
      exact ⟨(Option.some.inj read).symm, names⟩
    · cases loaded
  · rintro ⟨rfl, names⟩
    rw [MarxivScientificObject.ofJson_toJson valid names]
    rfl

/-! ## Two readings -/

theorem resolveManuscript_ok (isReal : IsReal fs.entry output) {reference : String} {real : List String} :
    resolveManuscript home fs ⟨true, output⟩ reference = .ok real ↔
      ∃ candidate, expanduser home (Path.parse reference) = .ok candidate ∧
        follow fs.entry (base candidate output) candidate.parts = some real ∧ fs.isFile ⟨true, real⟩ = true := by
  have led (candidate : Path) :
      fs.resolve (if candidate.absolute then candidate else ⟨true, output.dropLast ++ candidate.parts⟩) =
        follow fs.entry (base candidate output) candidate.parts := by
    by_cases absolute : candidate.absolute = true
    · simp [FileSystem.resolve, FileSystem.start, base, absolute]
    · rw [if_neg absolute, resolve_under isReal.dropLast, base, if_neg absolute]
  simp only [resolveManuscript, bind_ok, guard_ok, pure_ok, resolved_ok, resolve_self isReal, Option.some.injEq,
    exists_eq_left', led]
  constructor
  · rintro ⟨candidate, expanded, found, way, file, rfl⟩
    exact ⟨candidate, expanded, way, by simpa using file⟩
  · rintro ⟨candidate, expanded, way, file⟩
    exact ⟨candidate, expanded, real, way, by simpa using file, rfl⟩

/-- The publisher takes the assessed file exactly when the object loads and the two
readings of the reference lead to one place. -/
theorem sameManuscript_iff
    (p : Promotion home before after preflightPath outputPath objectPath path output preflight object) :
    SameManuscript home before after objectPath path preflight ↔
      LongNames preflight ∧ Meet home path output preflight.reference before := by
  obtain ⟨⟨manuscript, named, file⟩, read⟩ := promote_ok p.promoted p.found p.loaded
  obtain ⟨valid, reference, names⟩ := object_promoted read
  obtain ⟨real, lies, contents⟩ := contents_of_isFile file
  obtain ⟨first, expanded, way⟩ := manuscriptPath_resolves (resolve_real p.found) named
  rw [lies] at way
  obtain ⟨_, same, written⟩ := p.wrote.written
  rw [p.target] at same
  cases same
  have outputReal : IsReal after.entry output := by
    rw [p.wrote.links]
    exact resolve_real p.target
  have takes (other : List String) : sourceManuscript home after objectPath = .ok other ↔
      LongNames preflight ∧ resolveManuscript home after ⟨true, output⟩ (Text.strip preflight.reference) =
        .ok other := by
    simp only [sourceManuscript, bind_ok, resolved_ok, p.reads, Option.some.injEq, exists_eq_left',
      loadObject_written valid written, ← names]
    constructor
    · rintro ⟨obj, ⟨rfl, long⟩, done⟩
      rw [reference] at done
      exact ⟨long, done⟩
    · rintro ⟨long, done⟩
      exact ⟨object, ⟨rfl, long⟩, by rwa [reference]⟩
  constructor
  · rintro ⟨manuscript', real', named', lies', taken⟩
    rw [named] at named'
    cases named'
    rw [lies] at lies'
    cases lies'
    obtain ⟨long, done⟩ := (takes real).mp taken
    obtain ⟨second, expanded', way', -⟩ := (resolveManuscript_ok outputReal).mp done
    rw [p.wrote.links] at way'
    exact ⟨long, first, second, ⟨expanded, expanded'⟩, way.symm.trans way'.symm⟩
  · rintro ⟨long, first', second, ⟨expanded', expanded''⟩, meet⟩
    rw [expanded] at expanded'
    cases expanded'
    refine ⟨manuscript, real, named, lies, (takes real).mpr ⟨long, (resolveManuscript_ok outputReal).mpr
      ⟨second, expanded'', ?_, ?_⟩⟩⟩
    · rw [p.wrote.links, ← meet, ← way]
    · refine isFile_real ?_ (p.wrote.files real contents)
      rw [p.wrote.links]
      exact resolve_real lies

theorem SameWay.meet {reference : String} (same : SameWay home path output reference) (fs : FileSystem) :
    Meet home path output reference fs := by
  obtain ⟨candidate, both, absolute | ⟨levels, rest, parts, dirs⟩⟩ := same
  · exact ⟨candidate, candidate, both, by simp [base, absolute]⟩
  · refine ⟨candidate, candidate, both, ?_⟩
    by_cases absolute : candidate.absolute = true
    · simp [base, absolute]
    · rw [base, base, if_neg absolute, if_neg absolute, parts, follow_climb, follow_climb, dirs]

theorem meet_iff_spelling {reference : String} (plain : PlainWays home path output reference fs) :
    Meet home path output reference fs ↔ SameSpelling home path output reference := by
  constructor
  · rintro ⟨first, second, both, meet⟩
    obtain ⟨one, other⟩ := plain first second both
    rw [follow_plain one, follow_plain other] at meet
    exact ⟨first, second, both, Option.some.inj meet⟩
  · rintro ⟨first, second, both, same⟩
    obtain ⟨one, other⟩ := plain first second both
    exact ⟨first, second, both, by rw [follow_plain one, follow_plain other, same]⟩

/-- When the publisher takes the file that the assessment found. -/
theorem promoted_manuscript
    (p : Promotion home before after preflightPath outputPath objectPath path output preflight object) :
    (SameManuscript home before after objectPath path preflight ↔
      LongNames preflight ∧ Meet home path output preflight.reference before) ∧
    (SameWay home path output preflight.reference → Meet home path output preflight.reference before) ∧
    (PlainWays home path output preflight.reference before →
      (Meet home path output preflight.reference before ↔ SameSpelling home path output preflight.reference)) :=
  ⟨sameManuscript_iff p, fun same => same.meet before, meet_iff_spelling⟩

/-! ## A sample -/

def samplePreflight : PaperPreflight where
  status := "HOLD_PREPARE"
  objectId := "matverse-2.0"
  version := "v1"
  title := "MATVERSE 2.0"
  abstract := "A sufficiently long abstract."
  keywords := ["governance"]
  contributions := [⟨"C1", "Constitutional Separation", "SUPPORTED_BY_CORPUS"⟩]
  blockedResultClaims := []
  evidenceRefs := []
  publicationIntent := {
    authors := some [⟨"Ada", none, none, true⟩]
    manuscriptFile := some "paper.pdf"
    manuscriptConfirmed := true
    primaryArchive := some "cs"
    primaryCategory := some "cs.SE"
    crosslistArchives := []
    crosslistCategories := []
    license := some "CC BY 4.0"
    comments := none
    categoryConfirmed := true
    crosslistConfirmed := true
    licenseConfirmed := true
    finalAbstractConfirmed := true }

def preflightDocument : Json :=
  .dict [("schema", .str preflightSchema), ("status", .str "HOLD_PREPARE"), ("object_id", .str "matverse-2.0"),
    ("version", .str "v1"), ("title", .str "MATVERSE 2.0"), ("abstract", .str "A sufficiently long abstract."),
    ("keywords", strs ["governance"]),
    ("contributions", .arr [.dict [("id", .str "C1"), ("name", .str "Constitutional Separation"),
      ("status", .str "SUPPORTED_BY_CORPUS")]]),
    ("publication_intent", .dict [("authors", .arr [.dict [("name", .str "Ada"), ("verified", .bool true)]]),
      ("manuscript_file", .str "paper.pdf"), ("manuscript_confirmed", .bool true), ("primary_archive", .str "cs"),
      ("primary_category", .str "cs.SE"), ("license", .str "CC BY 4.0"), ("category_confirmed", .bool true),
      ("crosslist_confirmed", .bool true), ("license_confirmed", .bool true),
      ("final_abstract_confirmed", .bool true)])]

theorem preflightDocument_read : PaperPreflight.ofJson preflightDocument.norm = some samplePreflight := by
  rfl

def promotedObject : MarxivScientificObject where
  objectId := "matverse-2.0"
  version := "v1"
  title := "MATVERSE 2.0"
  authors := [⟨"Ada", none, none⟩]
  abstract := "A sufficiently long abstract."
  manuscriptFile := "paper.pdf"
  keywords := ["governance"]
  claims := ["C1: Constitutional Separation"]
  evidenceRefs := []
  parentObjectId := none
  publication := ⟨"cs", "cs.SE", [], [], "CC BY 4.0", none, none, none, none, none, none, none⟩

theorem samplePayload_read : MarxivScientificObject.ofJson (promotedPayload samplePreflight "paper.pdf") =
    some promotedObject := by
  rfl

def preflightFile : List String := ["work", "preflight.json"]

def noHome (_ : String) : Option Path := none

def sampleFiles : List (List String × ByteArray) :=
  [(preflightFile, (Files.documentText preflightDocument).toUTF8), (["work", "paper.pdf"], "manuscript".toUTF8)]

def beforePromotion : FileSystem := .ofFiles sampleFiles

def afterPromotion (output : List String) : FileSystem :=
  .ofFiles ((output, (Files.documentText promotedObject.toJson).toUTF8) :: sampleFiles)

theorem preflight_loaded : loadPreflight beforePromotion preflightFile = .ok samplePreflight := by
  have found : beforePromotion.contents preflightFile = some (Files.documentText preflightDocument).toUTF8 := rfl
  rw [loadPreflight, readAt_document found, ok_bind, preflightDocument_read]
  rfl

theorem manuscript_assessed : assessManuscript noHome beforePromotion preflightFile samplePreflight.publicationIntent =
    .ok (some ⟨true, ["work", "paper.pdf"]⟩, []) := by
  rfl

theorem sample_promoted : promote noHome beforePromotion ⟨true, preflightFile⟩ = .ok promotedObject := by
  refine promote_clear rfl preflight_loaded manuscript_assessed ?_ ?_ ?_ samplePayload_read
  · rfl
  · rfl
  · decide

theorem sample_promotion {output : List String} (proper : ".." ∉ output) :
    Promotion noHome beforePromotion (afterPromotion output) ⟨true, preflightFile⟩ ⟨true, output⟩ ⟨true, output⟩
      preflightFile output samplePreflight promotedObject where
  promoted := sample_promoted
  found := rfl
  loaded := preflight_loaded
  wrote :=
    { links := rfl
      cwd := rfl
      written := ⟨output, resolve_self (isReal_plain proper), by simp [afterPromotion, FileSystem.ofFiles]⟩
      files := by
        intro p file
        by_cases same : p = output
        · subst same
          simp [afterPromotion, FileSystem.ofFiles]
        · have apart : (p == output) = false := by simpa using same
          simpa [afterPromotion, beforePromotion, FileSystem.ofFiles, List.lookup_cons, apart] using file }
  target := resolve_self (isReal_plain proper)
  reads := resolve_self (isReal_plain proper)

theorem long_names : LongNames samplePreflight := by
  intro a among
  obtain rfl : a = ⟨"Ada", none, none, true⟩ := by simpa [samplePreflight] using among
  decide

/-- The object is written next to the preflight. -/
theorem manuscript_beside : SameManuscript noHome beforePromotion (afterPromotion ["work", "object.json"])
    ⟨true, ["work", "object.json"]⟩ preflightFile samplePreflight :=
  have exactly := promoted_manuscript (sample_promotion (by decide))
  exactly.1.mpr ⟨long_names, exactly.2.1 ⟨⟨false, ["paper.pdf"]⟩, ⟨rfl, rfl⟩, .inr ⟨0, ["paper.pdf"], rfl, rfl⟩⟩⟩

/-- The object is written to another directory: the publisher finds no manuscript. -/
theorem manuscript_elsewhere :
    ∃ output, Promotion noHome beforePromotion (afterPromotion output) ⟨true, preflightFile⟩ ⟨true, output⟩
      ⟨true, output⟩ preflightFile output samplePreflight promotedObject ∧
      ¬ SameManuscript noHome beforePromotion (afterPromotion output) ⟨true, output⟩ preflightFile samplePreflight := by
  refine ⟨["out", "object.json"], sample_promotion (by decide), fun same => ?_⟩
  obtain ⟨-, first, second, ⟨expanded, expanded'⟩, meet⟩ := (sameManuscript_iff (sample_promotion (by decide))).mp same
  obtain rfl : (⟨false, ["paper.pdf"]⟩ : Path) = first := Except.ok.inj expanded
  obtain rfl : (⟨false, ["paper.pdf"]⟩ : Path) = second := Except.ok.inj expanded'
  exact absurd meet (by decide)

end MatVerse.Marxiv
