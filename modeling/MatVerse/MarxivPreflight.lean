import MatVerse.Lib.Paths
import MatVerse.MarxivPublisher

/-! The paper preflight: what it holds, its assessment, and its promotion to a scientific
object; and how the publisher finds the manuscript of the object that was written. -/
namespace MatVerse.Marxiv

open Fallible Paths

inductive PreflightError where
  | runtime (message : String)
  /-- The preflight is not promotable, for these blockers. -/
  | notPromotable (blockers : List String)
  | publisher (message : String)
  | validation (model : String)
  | read (error : Files.ReadError)
  /-- A path that runs in a loop of links. -/
  | loop

/-! ## The validators of the scientific object -/

def listOf {α : Type} (read : Json → Option α) : Option Json → Option (List α)
  | some (.arr items) => items.mapM read
  | _ => none

def atMost (most : Nat) (s : Option String) : Bool := s.all (fun s => s.length ≤ most)

def MarxivAuthor.fields : List String := ["name", "orcid", "affiliation"]

/-- `MarxivAuthor.model_validate`: lengths are checked before blanks are stripped. -/
def MarxivAuthor.ofJson (v : Json) : Option MarxivAuthor := do
  guard (Record.closed MarxivAuthor.fields v)
  let name ← Record.text (v.get? "name") >>= Record.sized 2 (some 256)
  let orcid ← Record.optText (v.get? "orcid")
  guard (atMost 32 orcid)
  let affiliation ← Record.optText (v.get? "affiliation")
  guard (atMost 512 affiliation)
  return ⟨Text.strip name, orcid.map Text.strip, affiliation.map Text.strip⟩

def ArxivTarget.fields : List String :=
  ["venue", "primary_archive", "primary_category", "crosslist_archives", "crosslist_categories", "license",
    "keep_all_files", "comments", "report_number", "journal_reference", "acm_class", "msc_class", "doi"]

/-- `ArxivTarget.model_validate`. -/
def ArxivTarget.ofJson (v : Json) : Option ArxivTarget := do
  guard (Record.closed ArxivTarget.fields v)
  Record.constant "arxiv" (v.get? "venue")
  let primaryArchive ← Record.text (v.get? "primary_archive")
  let primaryCategory ← Record.text (v.get? "primary_category") >>= Record.sized 3 none
  let crosslistArchives ← Record.textsOrEmpty (v.get? "crosslist_archives")
  let crosslistCategories ← Record.textsOrEmpty (v.get? "crosslist_categories")
  let license ← Record.text (v.get? "license")
  let keepAllFiles ← Record.optFlag (v.get? "keep_all_files")
  let comments ← Record.optText (v.get? "comments")
  let reportNumber ← Record.optText (v.get? "report_number")
  let journalReference ← Record.optText (v.get? "journal_reference")
  let acmClass ← Record.optText (v.get? "acm_class")
  let mscClass ← Record.optText (v.get? "msc_class")
  let doi ← Record.optText (v.get? "doi")
  guard (crosslistArchives.length = crosslistCategories.length)
  return ⟨primaryArchive, primaryCategory, crosslistArchives, crosslistCategories, license, keepAllFiles,
    comments, reportNumber, journalReference, acmClass, mscClass, doi⟩

def normalizeStringList (values : List String) : Option (List String) :=
  let cleaned := (values.map Text.strip).filter (· != "")
  if cleaned.Nodup then some cleaned else none

def MarxivScientificObject.fields : List String :=
  ["schema", "object_id", "version", "title", "authors", "abstract", "manuscript_file", "keywords", "claims",
    "evidence_refs", "parent_object_id", "publication"]

/-- `MarxivScientificObject.model_validate`. -/
def MarxivScientificObject.ofJson (v : Json) : Option MarxivScientificObject := do
  guard (Record.closed MarxivScientificObject.fields v)
  Record.constant "marxiv.scientific-object.v1" (v.get? "schema")
  let objectId ← Record.text (v.get? "object_id") >>= Record.sized 3 (some 120)
  guard (isName objectId)
  let version ← Record.text (v.get? "version") >>= Record.sized 1 (some 40)
  guard (isName version)
  let title ← Record.text (v.get? "title") >>= Record.sized 3 (some 512)
  let authors ← listOf MarxivAuthor.ofJson (v.get? "authors")
  guard (1 ≤ authors.length)
  let abstract ← Record.text (v.get? "abstract") >>= Record.sized 20 none
  let manuscriptFile ← Record.text (v.get? "manuscript_file") >>= Record.sized 1 none
  let keywords ← Record.textsOrEmpty (v.get? "keywords") >>= normalizeStringList
  let claims ← Record.textsOrEmpty (v.get? "claims") >>= normalizeStringList
  let evidenceRefs ← Record.textsOrEmpty (v.get? "evidence_refs") >>= normalizeStringList
  let parentObjectId ← Record.optText (v.get? "parent_object_id")
  let publication ← (v.get? "publication").bind ArxivTarget.ofJson
  return ⟨objectId, version, title, authors, abstract, manuscriptFile, keywords, claims, evidenceRefs,
    parentObjectId, publication⟩

/-! ## Preflights -/

structure PreflightAuthor where
  name : String
  orcid : Option String
  affiliation : Option String
  verified : Bool
  deriving DecidableEq

structure PreflightPublicationIntent where
  authors : Option (List PreflightAuthor)
  manuscriptFile : Option String
  manuscriptConfirmed : Bool
  primaryArchive : Option String
  primaryCategory : Option String
  crosslistArchives : List String
  crosslistCategories : List String
  license : Option String
  comments : Option String
  categoryConfirmed : Bool
  crosslistConfirmed : Bool
  licenseConfirmed : Bool
  finalAbstractConfirmed : Bool

structure PreflightContribution where
  id : String
  name : String
  status : String

structure PaperPreflight where
  status : String
  objectId : String
  version : String
  title : String
  abstract : String
  keywords : List String
  contributions : List PreflightContribution
  blockedResultClaims : List String
  evidenceRefs : List String
  publicationIntent : PreflightPublicationIntent

/-- A flag that is off when absent. -/
def flagOrOff : Option Json → Option Bool
  | none => some false
  | some .null => none
  | v => (Record.optFlag v).map (fun flag => flag.getD false)

def PreflightAuthor.ofJson (v : Json) : Option PreflightAuthor := do
  guard (Record.closed ["name", "orcid", "affiliation", "verified"] v)
  let name ← Record.text (v.get? "name") >>= Record.sized 2 none
  let orcid ← Record.optText (v.get? "orcid")
  let affiliation ← Record.optText (v.get? "affiliation")
  let verified ← flagOrOff (v.get? "verified")
  return ⟨name, orcid, affiliation, verified⟩

/-- An optional list of authors: absent and null are `None`. -/
def optAuthors : Option Json → Option (Option (List PreflightAuthor))
  | none => some none
  | some .null => some none
  | v => (listOf PreflightAuthor.ofJson v).map some

def PreflightPublicationIntent.ofJson (v : Json) : Option PreflightPublicationIntent := do
  guard v.isObj
  Record.constant "arxiv" (v.get? "venue")
  let authors ← optAuthors (v.get? "authors")
  let manuscriptFile ← Record.optText (v.get? "manuscript_file")
  let manuscriptConfirmed ← flagOrOff (v.get? "manuscript_confirmed")
  let primaryArchive ← Record.optText (v.get? "primary_archive")
  let primaryCategory ← Record.optText (v.get? "primary_category")
  let crosslistArchives ← Record.textsOrEmpty (v.get? "crosslist_archives")
  let crosslistCategories ← Record.textsOrEmpty (v.get? "crosslist_categories")
  let license ← Record.optText (v.get? "license")
  let comments ← Record.optText (v.get? "comments")
  let categoryConfirmed ← flagOrOff (v.get? "category_confirmed")
  let crosslistConfirmed ← flagOrOff (v.get? "crosslist_confirmed")
  let licenseConfirmed ← flagOrOff (v.get? "license_confirmed")
  let finalAbstractConfirmed ← flagOrOff (v.get? "final_abstract_confirmed")
  return ⟨authors, manuscriptFile, manuscriptConfirmed, primaryArchive, primaryCategory, crosslistArchives,
    crosslistCategories, license, comments, categoryConfirmed, crosslistConfirmed, licenseConfirmed,
    finalAbstractConfirmed⟩

def PreflightContribution.ofJson (v : Json) : Option PreflightContribution := do
  guard v.isObj
  let id ← Record.text (v.get? "id")
  let name ← Record.text (v.get? "name")
  let status ← Record.text (v.get? "status")
  return ⟨id, name, status⟩

def contributionsOrEmpty : Option Json → Option (List PreflightContribution)
  | none => some []
  | v => listOf PreflightContribution.ofJson v

def preflightSchema : String := "marxiv.paper-preflight.v1"

/-- `PaperPreflight.model_validate_json`, of the document. -/
def PaperPreflight.ofJson (v : Json) : Option PaperPreflight := do
  guard v.isObj
  guard (Record.text (v.get? "schema") == some preflightSchema)
  let status ← Record.text (v.get? "status")
  let objectId ← Record.text (v.get? "object_id")
  let version ← Record.text (v.get? "version")
  let title ← Record.text (v.get? "title")
  let abstract ← Record.text (v.get? "abstract")
  let keywords ← Record.textsOrEmpty (v.get? "keywords")
  let contributions ← contributionsOrEmpty (v.get? "contributions")
  let blockedResultClaims ← Record.textsOrEmpty (v.get? "blocked_result_claims")
  let evidenceRefs ← Record.textsOrEmpty (v.get? "evidence_refs")
  let publicationIntent ← (v.get? "publication_intent").bind PreflightPublicationIntent.ofJson
  return ⟨status, objectId, version, title, abstract, keywords, contributions, blockedResultClaims, evidenceRefs,
    publicationIntent⟩

/-! ## Assessment -/

structure PreflightAssessment where
  objectId : String
  version : String
  /-- The status is `READY_FOR_PROMOTION`, else it is `HOLD_PREPARE`. -/
  ready : Bool
  blockers : List String
  warnings : List String
  manuscriptResolvedPath : Option String

def blockIf (c : Bool) (blocker : String) : List String := if c then [blocker] else []

/-- `not value` of an optional text. -/
def absent (value : Option String) : Bool := value.getD "" == ""

def authorBlockers (authors : Option (List PreflightAuthor)) : List String :=
  match authors.getD [] with
  | [] => ["verified author list is missing"]
  | authors => authors.zipIdx.flatMap fun (author, i) =>
      blockIf (!author.verified) ("author " ++ toString (i + 1) ++ " is not marked verified")

def authorWarnings (authors : Option (List PreflightAuthor)) : List String :=
  (authors.getD []).zipIdx.flatMap fun (author, i) =>
    blockIf author.orcid.isNone ("author " ++ toString (i + 1) ++ " has no ORCID") ++
    blockIf author.affiliation.isNone ("author " ++ toString (i + 1) ++ " affiliation is intentionally unset")

def intentBlockers (intent : PreflightPublicationIntent) : List String :=
  blockIf (absent intent.primaryArchive) "arXiv primary archive is missing" ++
  blockIf (absent intent.primaryCategory) "arXiv primary category is missing" ++
  blockIf (!intent.categoryConfirmed) "arXiv category has not been explicitly confirmed" ++
  blockIf (intent.crosslistArchives.length != intent.crosslistCategories.length)
    "cross-list archive/category lengths differ" ++
  blockIf (!intent.crosslistConfirmed) "cross-list decision has not been explicitly confirmed" ++
  blockIf (absent intent.license) "publication license is missing" ++
  blockIf (!intent.licenseConfirmed) "publication license has not been explicitly confirmed" ++
  blockIf (!intent.finalAbstractConfirmed) "final abstract has not been confirmed against the manuscript"

section
variable (home : String → Option Path)

/-- `Path.expanduser`, with the home directory of a name that starts with a tilde. -/
def expanduser (p : Path) : Except PreflightError Path :=
  match p.absolute, p.parts with
  | false, part :: rest =>
    if part.toList.head? = some '~' then
      match home part with
      | some directory => .ok ⟨directory.absolute, directory.parts ++ rest⟩
      | none => .error (.runtime "Could not determine home directory.")
    else .ok p
  | _, _ => .ok p

def resolved (fs : FileSystem) (p : Path) : Except PreflightError (List String) :=
  match fs.resolve p with
  | some real => .ok real
  | none => .error .loop

/-- The manuscript that `assess` looks for, of a real preflight path and a reference. -/
def manuscriptPath (fs : FileSystem) (path : List String) (manuscriptFile : String) : Except PreflightError Path := do
  let candidate ← expanduser home (Path.parse manuscriptFile)
  if candidate.absolute then return candidate
  let real ← resolved fs ⟨true, path.dropLast ++ candidate.parts⟩
  return ⟨true, real⟩

/-- The path of the manuscript, if one is named, and what blocks it. -/
def assessManuscript (fs : FileSystem) (path : List String) (intent : PreflightPublicationIntent) :
    Except PreflightError (Option Path × List String) := do
  if absent intent.manuscriptFile then return (none, ["manuscript file is missing"])
  let manuscript ← manuscriptPath home fs path (intent.manuscriptFile.getD "")
  return (some manuscript,
    blockIf (!fs.isFile manuscript) ("manuscript file does not exist: " ++ manuscript.text) ++
    blockIf (!intent.manuscriptConfirmed)
      "manuscript has not been explicitly frozen/confirmed for publication")

/-- A document at a real path. -/
def readAt (fs : FileSystem) (real : List String) : Except PreflightError Json :=
  match Files.readJson (fun _ => fs.contents real) "" with
  | .ok v => .ok v
  | .error e => .error (.read e)

def loadPreflight (fs : FileSystem) (path : List String) : Except PreflightError PaperPreflight := do
  let document ← readAt fs path
  match PaperPreflight.ofJson document with
  | some obj => return obj
  | none => throw (.validation "PaperPreflight")

def assess (fs : FileSystem) (path : Path) : Except PreflightError PreflightAssessment := do
  let path ← resolved fs path
  let obj ← loadPreflight fs path
  let intent := obj.publicationIntent
  let (manuscript, manuscriptBlockers) ← assessManuscript home fs path intent
  let blockers := authorBlockers intent.authors ++ manuscriptBlockers ++ intentBlockers intent
  return {
    objectId := obj.objectId
    version := obj.version
    ready := blockers.isEmpty
    blockers := blockers
    warnings := authorWarnings intent.authors
    manuscriptResolvedPath := (manuscript.filter fs.isFile).map Path.text }

/-! ## Promotion -/

def promotedAuthor (a : PreflightAuthor) : Json :=
  .dict [("name", .str a.name), ("orcid", optText a.orcid), ("affiliation", optText a.affiliation)]

/-- The payload that `promote` validates. -/
def promotedPayload (obj : PaperPreflight) (manuscriptReference : String) : Json :=
  let intent := obj.publicationIntent
  .dict [("schema", .str "marxiv.scientific-object.v1"), ("object_id", .str obj.objectId),
    ("version", .str obj.version), ("title", .str obj.title),
    ("authors", .arr ((intent.authors.getD []).map promotedAuthor)), ("abstract", .str obj.abstract),
    ("manuscript_file", .str manuscriptReference), ("keywords", strs obj.keywords),
    ("claims", strs (obj.contributions.map (fun item => item.id ++ ": " ++ item.name))),
    ("evidence_refs", strs obj.evidenceRefs), ("parent_object_id", .null),
    ("publication", .dict [("venue", .str "arxiv"), ("primary_archive", optText intent.primaryArchive),
      ("primary_category", optText intent.primaryCategory), ("crosslist_archives", strs intent.crosslistArchives),
      ("crosslist_categories", strs intent.crosslistCategories), ("license", optText intent.license),
      ("comments", optText intent.comments)])]

/-- `promote`, up to the object that it writes. -/
def promote (fs : FileSystem) (preflightPath : Path) : Except PreflightError MarxivScientificObject := do
  let path ← resolved fs preflightPath
  let assessment ← assess home fs ⟨true, path⟩
  if !assessment.ready then throw (.notPromotable assessment.blockers)
  let obj ← loadPreflight fs path
  let manuscriptReference := Text.strip (obj.publicationIntent.manuscriptFile.getD "")
  if manuscriptReference == "" then throw (.runtime "preflight manuscript reference is missing")
  match MarxivScientificObject.ofJson (promotedPayload obj manuscriptReference) with
  | some scientificObject => return scientificObject
  | none => throw (.validation "MarxivScientificObject")

/-- What `mkdir` and `write_text` leave: the document where the output path leads, every
file still a file, and no link made or removed. -/
structure Wrote (before after : FileSystem) (output : Path) (document : Json) : Prop where
  links : after.entry = before.entry
  cwd : after.cwd = before.cwd
  written : ∃ real, before.resolve output = some real ∧
    after.contents real = some (Files.documentText document).toUTF8
  files : ∀ p, (before.contents p).isSome = true → (after.contents p).isSome = true

/-! ## The publisher -/

def loadObject (fs : FileSystem) (path : List String) : Except PreflightError MarxivScientificObject := do
  let document ← readAt fs path
  match MarxivScientificObject.ofJson document with
  | some obj => return obj
  | none => throw (.validation "MarxivScientificObject")

/-- `_resolve_manuscript`, to a real path. -/
def resolveManuscript (fs : FileSystem) (objectPath : Path) (manuscriptFile : String) :
    Except PreflightError (List String) := do
  let candidate ← expanduser home (Path.parse manuscriptFile)
  let object ← resolved fs objectPath
  let real ← resolved fs (if candidate.absolute then candidate else ⟨true, object.dropLast ++ candidate.parts⟩)
  if !fs.isFile ⟨true, real⟩ then throw (.publisher ("manuscript file not found: " ++ Path.text ⟨true, real⟩))
  return real

/-- The first steps of `prepare_sandbox`: the manuscript of the object at a path. -/
def sourceManuscript (fs : FileSystem) (objectPath : Path) : Except PreflightError (List String) := do
  let path ← resolved fs objectPath
  let obj ← loadObject fs path
  resolveManuscript home fs ⟨true, path⟩ obj.manuscriptFile

end

end MatVerse.Marxiv
