import MatVerse.Core
import MatVerse.Lib.Files
import MatVerse.Lib.Record
import MatVerse.Lib.Text
import MatVerse.Lib.Fallible

/-! The runtime publisher of a prepared sandbox: an approval challenge, a signed
human approval, one submission through a transport, and its reconciliation. The
sandbox is the files it is made of; every operation reads them and leaves the
files after it, also when it raises. -/
namespace MatVerse.Marxiv

/-- What the publisher takes from its platform beside digests: the approval secret
of the environment, the clock's texts, and where a manifest's manuscript lies. -/
structure Platform extends Host where
  approvalSecret : Option String
  /-- `_iso` of a time in microseconds; `none` is a time out of range. -/
  iso : Int → Option String
  /-- `_parse_iso`; `none` is a text that is no time. -/
  parseIso : String → Option Int
  /-- `_resolve_manifest_manuscript`, of a manifest's path and its manuscript file. -/
  resolveManuscript : String → String → String
  /-- The decimal digits of a regular expression's `\\d`. -/
  isDecimal : Char → Bool

inductive PublisherError where
  | publisher (message : String)
  | submission (message : String) (finalClickPerformed : Bool)
  | bridge (message : String)
  | validation (model : String)
  | read (path : String) (error : Files.ReadError)
  | noTime
  | python (error : PyError)

/-! ## Records -/

inductive Status where
  | humanReviewRequired
  | approved
  | submitting
  | submittedToArxiv
  | holdPreSubmit
  | holdReconciliationRequired
  | reconciled
  | block
  deriving DecidableEq

def Status.value : Status → String
  | .humanReviewRequired => "HUMAN_REVIEW_REQUIRED"
  | .approved => "APPROVED"
  | .submitting => "SUBMITTING"
  | .submittedToArxiv => "SUBMITTED_TO_ARXIV"
  | .holdPreSubmit => "HOLD_PRE_SUBMIT"
  | .holdReconciliationRequired => "HOLD_RECONCILIATION_REQUIRED"
  | .reconciled => "RECONCILED"
  | .block => "BLOCK"

def Status.all : List Status :=
  [.humanReviewRequired, .approved, .submitting, .submittedToArxiv, .holdPreSubmit,
    .holdReconciliationRequired, .reconciled, .block]

def Status.parse (v : Option Json) : Option Status := do
  let text ← Record.text v
  Status.all.find? (fun s => s.value == text)

@[simp] theorem Status.parse_value (s : Status) : Status.parse (some (.str s.value)) = some s := by
  cases s <;> rfl

structure PublisherState where
  objectId : String
  version : String
  publicationId : String
  status : Status
  objectHash : String
  manifestHash : String
  manuscriptSha256 : String
  arxivSubfileSha256 : String
  reviewPacketHash : String
  packageHash : String
  objectSnapshotPath : String
  arxivManifestPath : String
  arxivStatePath : String
  reviewPacketPath : String
  approvalPath : Option String
  externalIdentifier : Option String
  receipt : Record.Object

def optText : Option String → Json
  | some s => .str s
  | none => .null

def stateSchema : String := "marxiv.publisher-state.v1"

/-- `model_dump(mode="json")`. -/
def PublisherState.toJson (s : PublisherState) : Json :=
  .dict [("schema", .str stateSchema), ("object_id", .str s.objectId), ("version", .str s.version),
    ("publication_id", .str s.publicationId), ("venue", .str "arxiv"), ("status", .str s.status.value),
    ("object_hash", .str s.objectHash), ("manifest_hash", .str s.manifestHash),
    ("manuscript_sha256", .str s.manuscriptSha256),
    ("arxiv_subfile_sha256", .str s.arxivSubfileSha256),
    ("review_packet_hash", .str s.reviewPacketHash), ("package_hash", .str s.packageHash),
    ("object_snapshot_path", .str s.objectSnapshotPath),
    ("arxiv_manifest_path", .str s.arxivManifestPath), ("arxiv_state_path", .str s.arxivStatePath),
    ("review_packet_path", .str s.reviewPacketPath), ("approval_path", optText s.approvalPath),
    ("external_identifier", optText s.externalIdentifier), ("receipt", s.receipt.1)]

def PublisherState.fields : List String :=
  ["schema", "object_id", "version", "publication_id", "venue", "status", "object_hash", "manifest_hash",
    "manuscript_sha256", "arxiv_subfile_sha256", "review_packet_hash", "package_hash",
    "object_snapshot_path", "arxiv_manifest_path", "arxiv_state_path", "review_packet_path",
    "approval_path", "external_identifier", "receipt"]

/-- `model_validate`. -/
def PublisherState.ofJson (v : Json) : Option PublisherState := do
  guard (Record.closed PublisherState.fields v)
  Record.constant stateSchema (v.get? "schema")
  let objectId ← Record.text (v.get? "object_id")
  let version ← Record.text (v.get? "version")
  let publicationId ← Record.text (v.get? "publication_id")
  Record.constant "arxiv" (v.get? "venue")
  let status ← Status.parse (v.get? "status")
  let objectHash ← Record.text (v.get? "object_hash")
  let manifestHash ← Record.text (v.get? "manifest_hash")
  let manuscriptSha256 ← Record.text (v.get? "manuscript_sha256")
  let arxivSubfileSha256 ← Record.text (v.get? "arxiv_subfile_sha256")
  let reviewPacketHash ← Record.text (v.get? "review_packet_hash")
  let packageHash ← Record.text (v.get? "package_hash")
  let objectSnapshotPath ← Record.text (v.get? "object_snapshot_path")
  let arxivManifestPath ← Record.text (v.get? "arxiv_manifest_path")
  let arxivStatePath ← Record.text (v.get? "arxiv_state_path")
  let reviewPacketPath ← Record.text (v.get? "review_packet_path")
  let approvalPath ← Record.optText (v.get? "approval_path")
  let externalIdentifier ← Record.optText (v.get? "external_identifier")
  let receipt ← Record.object (v.get? "receipt")
  return ⟨objectId, version, publicationId, status, objectHash, manifestHash, manuscriptSha256,
    arxivSubfileSha256, reviewPacketHash, packageHash, objectSnapshotPath, arxivManifestPath,
    arxivStatePath, reviewPacketPath, approvalPath, externalIdentifier, receipt⟩

structure ApprovalChallenge where
  publicationId : String
  packageHash : String
  objectHash : String
  manifestHash : String
  manuscriptSha256 : String
  arxivSubfileSha256 : String
  reviewPacketHash : String
  issuedAt : String
  expiresAt : String
  nonce : String
  deriving DecidableEq

def challengeSchema : String := "marxiv.approval-challenge.v1"

def ApprovalChallenge.toJson (c : ApprovalChallenge) : Json :=
  .dict [("schema", .str challengeSchema), ("publication_id", .str c.publicationId),
    ("package_hash", .str c.packageHash), ("object_hash", .str c.objectHash),
    ("manifest_hash", .str c.manifestHash), ("manuscript_sha256", .str c.manuscriptSha256),
    ("arxiv_subfile_sha256", .str c.arxivSubfileSha256),
    ("review_packet_hash", .str c.reviewPacketHash), ("destination", .str "arxiv"),
    ("issued_at", .str c.issuedAt), ("expires_at", .str c.expiresAt), ("nonce", .str c.nonce)]

def ApprovalChallenge.fields : List String :=
  ["schema", "publication_id", "package_hash", "object_hash", "manifest_hash", "manuscript_sha256",
    "arxiv_subfile_sha256", "review_packet_hash", "destination", "issued_at", "expires_at", "nonce"]

def ApprovalChallenge.ofJson (v : Json) : Option ApprovalChallenge := do
  guard (Record.closed ApprovalChallenge.fields v)
  Record.constant challengeSchema (v.get? "schema")
  let publicationId ← Record.text (v.get? "publication_id")
  let packageHash ← Record.text (v.get? "package_hash")
  let objectHash ← Record.text (v.get? "object_hash")
  let manifestHash ← Record.text (v.get? "manifest_hash")
  let manuscriptSha256 ← Record.text (v.get? "manuscript_sha256")
  let arxivSubfileSha256 ← Record.text (v.get? "arxiv_subfile_sha256")
  let reviewPacketHash ← Record.text (v.get? "review_packet_hash")
  Record.constant "arxiv" (v.get? "destination")
  let issuedAt ← Record.text (v.get? "issued_at")
  let expiresAt ← Record.text (v.get? "expires_at")
  let nonce ← Record.text (v.get? "nonce")
  return ⟨publicationId, packageHash, objectHash, manifestHash, manuscriptSha256, arxivSubfileSha256,
    reviewPacketHash, issuedAt, expiresAt, nonce⟩

structure HumanApproval where
  publicationId : String
  challengeHash : String
  packageHash : String
  approverId : String
  approvedAt : String
  expiresAt : String
  signature : String
  approverSized : 1 ≤ approverId.length ∧ approverId.length ≤ 256
  deriving DecidableEq

def approvalSchema : String := "marxiv.human-approval.v1"

def HumanApproval.toJson (a : HumanApproval) : Json :=
  .dict [("schema", .str approvalSchema), ("decision", .str "APPROVE"),
    ("publication_id", .str a.publicationId), ("challenge_hash", .str a.challengeHash),
    ("package_hash", .str a.packageHash), ("approver_id", .str a.approverId),
    ("approved_at", .str a.approvedAt), ("expires_at", .str a.expiresAt),
    ("signature", .str a.signature)]

def HumanApproval.fields : List String :=
  ["schema", "decision", "publication_id", "challenge_hash", "package_hash", "approver_id", "approved_at",
    "expires_at", "signature"]

def HumanApproval.ofJson (v : Json) : Option HumanApproval := do
  guard (Record.closed HumanApproval.fields v)
  Record.constant approvalSchema (v.get? "schema")
  Record.constant "APPROVE" (v.get? "decision")
  let publicationId ← Record.text (v.get? "publication_id")
  let challengeHash ← Record.text (v.get? "challenge_hash")
  let packageHash ← Record.text (v.get? "package_hash")
  let approverId ← Record.text (v.get? "approver_id")
  let approvedAt ← Record.text (v.get? "approved_at")
  let expiresAt ← Record.text (v.get? "expires_at")
  let signature ← Record.text (v.get? "signature")
  if sized : 1 ≤ approverId.length ∧ approverId.length ≤ 256 then
    return ⟨publicationId, challengeHash, packageHash, approverId, approvedAt, expiresAt, signature, sized⟩
  else none

structure ArxivManifest where
  publicationId : String
  manuscriptFile : String
  primaryArchive : String
  primaryCategory : String
  crosslistArchives : List String
  crosslistCategories : List String
  license : String
  title : String
  authors : List String
  abstract : String
  keepAllFiles : Option Bool
  comments : Option String
  reportNumber : Option String
  journalReference : Option String
  acmClass : Option String
  mscClass : Option String
  doi : Option String
  deriving DecidableEq

def publicationSchema : String := "matverse.publication-bridge.v1"

def arxivLicenses : List String :=
  ["arXiv.org perpetual, non-exclusive license 1.0", "CC BY 4.0", "CC BY-SA 4.0", "CC BY-NC-SA 4.0",
    "CC BY-NC-ND 4.0", "CC0 1.0"]

def arxivArchives : List String :=
  ["astro-ph", "cond-mat", "cs", "econ", "eess", "gr-qc", "hep-ex", "hep-lat", "hep-ph", "hep-th", "math",
    "math-ph", "nlin", "nucl-ex", "nucl-th", "physics", "q-bio", "q-fin", "quant-ph", "stat"]

/-- The pattern of a publication id: letters, digits, dots, underscores and dashes. -/
def isName (s : String) : Bool :=
  s != "" && s.toList.all (fun c =>
    (c.toNat < 128 && c.isAlphanum) || c == '.' || c == '_' || c == '-')

def strs (items : List String) : Json := .arr (items.map .str)

def ArxivManifest.toJson (m : ArxivManifest) : Json :=
  .dict [("schema", .str publicationSchema), ("publication_id", .str m.publicationId),
    ("manuscript_file", .str m.manuscriptFile), ("primary_archive", .str m.primaryArchive),
    ("primary_category", .str m.primaryCategory), ("crosslist_archives", strs m.crosslistArchives),
    ("crosslist_categories", strs m.crosslistCategories), ("license", .str m.license),
    ("title", .str m.title), ("authors", strs m.authors), ("abstract", .str m.abstract),
    ("keep_all_files", m.keepAllFiles.elim .null .bool), ("comments", optText m.comments),
    ("report_number", optText m.reportNumber), ("journal_reference", optText m.journalReference),
    ("acm_class", optText m.acmClass), ("msc_class", optText m.mscClass), ("doi", optText m.doi)]

def ArxivManifest.fields : List String :=
  ["schema", "publication_id", "manuscript_file", "primary_archive", "primary_category",
    "crosslist_archives", "crosslist_categories", "license", "title", "authors", "abstract",
    "keep_all_files", "comments", "report_number", "journal_reference", "acm_class", "msc_class", "doi"]

def ArxivManifest.ofJson (v : Json) : Option ArxivManifest := do
  guard (Record.closed ArxivManifest.fields v)
  Record.constant publicationSchema (v.get? "schema")
  let publicationId ← Record.text (v.get? "publication_id") >>= Record.sized 3 (some 120)
  guard (isName publicationId)
  let manuscriptFile ← Record.text (v.get? "manuscript_file") >>= Record.sized 1 none
  let primaryArchive ← Record.oneOf arxivArchives (v.get? "primary_archive")
  let primaryCategory ← Record.text (v.get? "primary_category") >>= Record.sized 3 none
  let crosslistArchives ← Record.textsOrEmpty (v.get? "crosslist_archives")
  guard (crosslistArchives.all arxivArchives.contains)
  let crosslistCategories ← Record.textsOrEmpty (v.get? "crosslist_categories")
  let license ← Record.oneOf arxivLicenses (v.get? "license")
  let title ← Record.text (v.get? "title") >>= Record.sized 3 (some 512)
  let authors ← Record.texts (v.get? "authors")
  guard (1 ≤ authors.length)
  let authors := authors.map Text.strip
  guard (authors.all (fun a => a != ""))
  let abstract ← Record.text (v.get? "abstract") >>= Record.sized 20 none
  let keepAllFiles ← Record.optFlag (v.get? "keep_all_files")
  let comments ← Record.optText (v.get? "comments")
  let reportNumber ← Record.optText (v.get? "report_number")
  let journalReference ← Record.optText (v.get? "journal_reference")
  let acmClass ← Record.optText (v.get? "acm_class")
  let mscClass ← Record.optText (v.get? "msc_class")
  let doi ← Record.optText (v.get? "doi")
  guard (crosslistArchives.length = crosslistCategories.length)
  return ⟨publicationId, manuscriptFile, primaryArchive, primaryCategory, crosslistArchives,
    crosslistCategories, license, title, authors, abstract, keepAllFiles, comments, reportNumber,
    journalReference, acmClass, mscClass, doi⟩

/-! ## The package -/

section
variable (p : Platform) (files : Files)

/-- A document read as a record. -/
def readRecord {α : Type} (model : String) (ofJson : Json → Option α) (path : String) :
    Except PublisherError α := do
  match files.readJson path with
  | .error e => throw (.read path e)
  | .ok v =>
    match ofJson v with
    | some record => return record
    | none => throw (.validation model)

def readDocument (path : String) : Except PublisherError Json :=
  match files.readJson path with
  | .error e => .error (.read path e)
  | .ok v => .ok v

def statePath (sandbox : String) : String := sandbox ++ "/publisher-state.json"
def challengePath (sandbox : String) : String := sandbox ++ "/approval-challenge.json"
def approvalFilePath (sandbox : String) : String := sandbox ++ "/human-approval.json"
def resultPath (sandbox : String) : String := sandbox ++ "/submission-result.json"

def loadState (sandbox : String) : Except PublisherError PublisherState :=
  readRecord files "PublisherState" PublisherState.ofJson (statePath sandbox)

def saveState (sandbox : String) (s : PublisherState) : Files :=
  files.writeJson (statePath sandbox) s.toJson

def readManifest (path : String) : Except PublisherError ArxivManifest :=
  readRecord files "ArxivManifest" ArxivManifest.ofJson path

abbrev Checks := List (String × Bool)

/-- `Path(bridge_state["subfile_path"])`. -/
def subfilePath (bridgeState : Json) : Except PublisherError String :=
  match bridgeState with
  | .obj _ =>
    match bridgeState.get? "subfile_path" with
    | some (.str path) => .ok path
    | some _ => .error (.python (.typeError "argument should be a str or an os.PathLike object"))
    | none => .error (.python (.keyError "subfile_path"))
  | _ => .error (.python (.typeError "the publication state is not a mapping"))

structure Artifacts where
  object : Json
  manifest : ArxivManifest
  manuscript : ByteArray
  review : Json
  subfile : Option ByteArray

/-- `_current_package_checks`, up to where a missing file ends it. -/
def readArtifacts (s : PublisherState) : Except PublisherError (Checks ⊕ Artifacts) := do
  if !(files.isFile s.objectSnapshotPath && files.isFile s.arxivManifestPath &&
      files.isFile s.arxivStatePath && files.isFile s.reviewPacketPath) then
    return .inl [("object_snapshot_exists", files.isFile s.objectSnapshotPath),
      ("manifest_exists", files.isFile s.arxivManifestPath),
      ("arxiv_state_exists", files.isFile s.arxivStatePath),
      ("review_packet_exists", files.isFile s.reviewPacketPath)]
  let manifest ← readManifest files s.arxivManifestPath
  match files (p.resolveManuscript s.arxivManifestPath manifest.manuscriptFile) with
  | none => return .inl [("manuscript_exists", false)]
  | some manuscript =>
    let bridgeState ← readDocument files s.arxivStatePath
    let subfile ← subfilePath bridgeState
    let object ← readDocument files s.objectSnapshotPath
    let review ← readDocument files s.reviewPacketPath
    return .inr ⟨object, manifest, manuscript, review, files subfile⟩

def Artifacts.checks (s : PublisherState) (a : Artifacts) : Checks :=
  [("object_hash_match", stableHash p.toHost a.object == s.objectHash),
    ("manifest_hash_match", stableHash p.toHost a.manifest.toJson == s.manifestHash),
    ("manuscript_hash_match", p.sha256 a.manuscript == s.manuscriptSha256),
    ("review_packet_hash_match", stableHash p.toHost a.review == s.reviewPacketHash),
    ("arxiv_subfile_exists", a.subfile.isSome)] ++
  (match a.subfile with
    | some bytes => [("arxiv_subfile_hash_match", p.sha256 bytes == s.arxivSubfileSha256)]
    | none => [])

def currentPackageChecks (s : PublisherState) : Except PublisherError Checks := do
  match ← readArtifacts p files s with
  | .inl checks => return checks
  | .inr artifacts => return artifacts.checks p s

/-- `checks and all(checks.values())`. -/
def passes (checks : Checks) : Bool := !checks.isEmpty && checks.all (·.2)

/-- `str` of a dict of flags. -/
def checksText (checks : Checks) : String :=
  "\x7b" ++ String.intercalate ", " (checks.map (fun c =>
    "'" ++ c.1 ++ "': " ++ (if c.2 then "True" else "False"))) ++ "\x7d"

/-- `_package_hash` of the five artifact hashes. -/
def packageHash (objectHash manifestHash manuscriptSha256 arxivSubfileSha256 reviewPacketHash : String) :
    String :=
  stableHash p.toHost (.dict [("object_hash", .str objectHash), ("manifest_hash", .str manifestHash),
    ("manuscript_sha256", .str manuscriptSha256), ("arxiv_subfile_sha256", .str arxivSubfileSha256),
    ("review_packet_hash", .str reviewPacketHash), ("destination", .str "arxiv")])

/-! ## Preparation -/

theorem toJson_receipt (r : EvidenceReceipt) : r.toJson.isObj = true ∧ r.toJson.Normal :=
  ⟨rfl, Json.normal_dict (by simp [EvidenceReceipt.core, Json.Normal])⟩

structure MarxivAuthor where
  name : String
  orcid : Option String
  affiliation : Option String

def MarxivAuthor.toJson (a : MarxivAuthor) : Json :=
  .dict [("name", .str a.name), ("orcid", optText a.orcid), ("affiliation", optText a.affiliation)]

structure ArxivTarget where
  primaryArchive : String
  primaryCategory : String
  crosslistArchives : List String
  crosslistCategories : List String
  license : String
  keepAllFiles : Option Bool
  comments : Option String
  reportNumber : Option String
  journalReference : Option String
  acmClass : Option String
  mscClass : Option String
  doi : Option String

/-- The fields that a target gives to its manifest. -/
def ArxivTarget.metadata (t : ArxivTarget) : Mapping :=
  [("primary_archive", .str t.primaryArchive), ("primary_category", .str t.primaryCategory),
    ("crosslist_archives", strs t.crosslistArchives),
    ("crosslist_categories", strs t.crosslistCategories), ("license", .str t.license),
    ("keep_all_files", t.keepAllFiles.elim .null .bool), ("comments", optText t.comments),
    ("report_number", optText t.reportNumber), ("journal_reference", optText t.journalReference),
    ("acm_class", optText t.acmClass), ("msc_class", optText t.mscClass), ("doi", optText t.doi)]

/-- A validated scientific object. -/
structure MarxivScientificObject where
  objectId : String
  version : String
  title : String
  authors : List MarxivAuthor
  abstract : String
  manuscriptFile : String
  keywords : List String
  claims : List String
  evidenceRefs : List String
  parentObjectId : Option String
  publication : ArxivTarget

def MarxivScientificObject.toJson (o : MarxivScientificObject) : Json :=
  .dict [("schema", .str "marxiv.scientific-object.v1"), ("object_id", .str o.objectId),
    ("version", .str o.version), ("title", .str o.title), ("authors", .arr (o.authors.map MarxivAuthor.toJson)),
    ("abstract", .str o.abstract), ("manuscript_file", .str o.manuscriptFile),
    ("keywords", strs o.keywords), ("claims", strs o.claims), ("evidence_refs", strs o.evidenceRefs),
    ("parent_object_id", optText o.parentObjectId),
    ("publication", .dict (("venue", .str "arxiv") :: o.publication.metadata))]

/-- The payload of `build_arxiv_manifest`. -/
def manifestPayload (o : MarxivScientificObject) (manuscriptRef : String) : Json :=
  .dict ([("schema", .str publicationSchema),
    ("publication_id", .str (o.objectId ++ "-" ++ o.version ++ "-arxiv")),
    ("manuscript_file", .str manuscriptRef), ("title", .str o.title),
    ("authors", strs (o.authors.map MarxivAuthor.name)), ("abstract", .str o.abstract)] ++
    o.publication.metadata)

def reviewPacket (o : MarxivScientificObject) (m : ArxivManifest)
    (manuscriptHash objectHash manifestHash subfileHash : String) : Json :=
  .dict [("schema", .str "marxiv.review-packet.v1"), ("object_id", .str o.objectId),
    ("version", .str o.version), ("title", .str o.title),
    ("authors", .arr (o.authors.map MarxivAuthor.toJson)), ("abstract", .str o.abstract),
    ("keywords", strs o.keywords), ("claims", strs o.claims), ("evidence_refs", strs o.evidenceRefs),
    ("lineage", .dict [("parent_object_id", optText o.parentObjectId)]), ("destination", .str "arxiv"),
    ("publication_metadata", m.toJson),
    ("artifacts", .dict [("manuscript_sha256", .str manuscriptHash), ("object_hash", .str objectHash),
      ("publication_manifest_hash", .str manifestHash), ("arxiv_subfile_sha256", .str subfileHash)]),
    ("human_decision_required", .bool true)]

/-- What the publication bridge prepares for a manifest: its state document, which
names the subfile, and the subfile's bytes. -/
structure Transport where
  stateDocument : Json
  subfilePath : String
  subfile : ByteArray

def objectPath (sandbox : String) : String := sandbox ++ "/scientific-object.snapshot.json"
def manifestPath (sandbox : String) : String := sandbox ++ "/arxiv-manifest.json"
def reviewPath (sandbox : String) : String := sandbox ++ "/review-packet.json"
def manuscriptRef (name : String) : String := "manuscript/" ++ name
def transportStatePath (sandbox publicationId : String) : String :=
  sandbox ++ "/transport/" ++ publicationId ++ "/publication-state.json"

/-- The state `prepare_sandbox` records of an object, its manifest, the staged
manuscript and the subfile. -/
def preparedState (sandbox : String) (o : MarxivScientificObject) (m : ArxivManifest)
    (manuscript subfile : ByteArray) : PublisherState :=
  let objectHash := stableHash p.toHost o.toJson
  let manifestHash := stableHash p.toHost m.toJson
  let review := reviewPacket o m (p.sha256 manuscript) objectHash manifestHash (p.sha256 subfile)
  let reviewHash := stableHash p.toHost review
  let package := packageHash p objectHash manifestHash (p.sha256 manuscript) (p.sha256 subfile) reviewHash
  let receipt := evidenceReceipt p.toHost "MARXIV_PUBLICATION_SANDBOX_PREPARED"
    (.dict [("object_id", .str o.objectId), ("version", .str o.version)])
    (.dict [("object_hash", .str objectHash), ("manifest_hash", .str manifestHash),
      ("manuscript_sha256", .str (p.sha256 manuscript)),
      ("arxiv_subfile_sha256", .str (p.sha256 subfile)), ("review_packet_hash", .str reviewHash),
      ("destination", .str "arxiv"), ("package_hash", .str package),
      ("status", .str Status.humanReviewRequired.value)])
  { objectId := o.objectId
    version := o.version
    publicationId := m.publicationId
    status := .humanReviewRequired
    objectHash := objectHash
    manifestHash := manifestHash
    manuscriptSha256 := p.sha256 manuscript
    arxivSubfileSha256 := p.sha256 subfile
    reviewPacketHash := reviewHash
    packageHash := package
    objectSnapshotPath := objectPath sandbox
    arxivManifestPath := manifestPath sandbox
    arxivStatePath := transportStatePath sandbox m.publicationId
    reviewPacketPath := reviewPath sandbox
    approvalPath := none
    externalIdentifier := none
    receipt := ⟨receipt.toJson, toJson_receipt receipt⟩ }

/-- `prepare_sandbox`, from a validated object, its manuscript and what the
publication bridge makes of its manifest. -/
def prepareSandbox (sandbox : String) (o : MarxivScientificObject) (name : String) (manuscript : ByteArray)
    (transport : ArxivManifest → Transport) : Except PublisherError (PublisherState × Files) :=
  match ArxivManifest.ofJson (manifestPayload o (manuscriptRef name)) with
  | none => .error (.validation "ArxivManifest")
  | some m =>
    let bridge := transport m
    let state := preparedState p sandbox o m manuscript bridge.subfile
    let review := reviewPacket o m state.manuscriptSha256 state.objectHash state.manifestHash
      state.arxivSubfileSha256
    let files := files.write (sandbox ++ "/" ++ manuscriptRef name) manuscript
    let files := files.writeJson (objectPath sandbox) o.toJson
    let files := files.writeJson (manifestPath sandbox) m.toJson
    let files := files.writeJson (transportStatePath sandbox m.publicationId) bridge.stateDocument
    let files := files.write bridge.subfilePath bridge.subfile
    let files := files.writeJson (reviewPath sandbox) review
    .ok (state, saveState files sandbox state)

/-! ## Approval -/

def isoText (time : Int) : Except PublisherError String :=
  match p.iso time with
  | some text => .ok text
  | none => .error .noTime

def parseTime (text : String) : Except PublisherError Int :=
  match p.parseIso text with
  | some time => .ok time
  | none => .error .noTime

def challengeOf (s : PublisherState) (issuedAt expiresAt nonce : String) : ApprovalChallenge :=
  ⟨s.publicationId, s.packageHash, s.objectHash, s.manifestHash, s.manuscriptSha256,
    s.arxivSubfileSha256, s.reviewPacketHash, issuedAt, expiresAt, nonce⟩

def requestApproval (sandbox : String) (ttlSeconds now : Int) (nonce : String) :
    Except PublisherError (ApprovalChallenge × Files) := do
  let state ← loadState files sandbox
  let checks ← currentPackageChecks p files state
  if !passes checks then
    throw (.publisher ("sandbox integrity check failed: " ++ checksText checks))
  if state.status != .humanReviewRequired then
    throw (.publisher ("approval cannot be requested from status " ++ state.status.value))
  let issuedAt ← isoText p now
  let expiresAt ← isoText p (now + ttlSeconds * 1000000)
  let challenge := challengeOf state issuedAt expiresAt nonce
  return (challenge, files.writeJson (challengePath sandbox) challenge.toJson)

def approvalSecret : Except PublisherError String :=
  match p.approvalSecret with
  | some value =>
    if value.utf8ByteSize < 32 then
      .error (.publisher "MARXIV_APPROVAL_SECRET must be set locally to at least 32 bytes")
    else .ok value
  | none => .error (.publisher "MARXIV_APPROVAL_SECRET must be set locally to at least 32 bytes")

def approvalPayload (challengeHash packageHash approverId expiresAt : String) : Json :=
  .dict [("challenge_hash", .str challengeHash), ("package_hash", .str packageHash),
    ("approver_id", .str approverId), ("expires_at", .str expiresAt), ("decision", .str "APPROVE")]

def approvalSignature (challengeHash packageHash approverId expiresAt : String) :
    Except PublisherError String := do
  let secret ← approvalSecret p
  return hmacText p.toHost secret
    (canonicalJson (approvalPayload challengeHash packageHash approverId expiresAt))

def requiredConfirmation (c : ApprovalChallenge) : String :=
  "PUBLISH " ++ c.publicationId ++ " " ++ String.ofList (c.packageHash.toList.take 12)

def challengeHash (c : ApprovalChallenge) : String := stableHash p.toHost c.toJson

def readChallenge (sandbox : String) : Except PublisherError ApprovalChallenge :=
  readRecord files "ApprovalChallenge" ApprovalChallenge.ofJson (challengePath sandbox)

/-- What `approve` checks before it signs. -/
def checkApprovable (sandbox confirmation : String) (now : Int) :
    Except PublisherError (PublisherState × ApprovalChallenge) := do
  let state ← loadState files sandbox
  if !files.isFile (challengePath sandbox) then
    throw (.publisher "approval challenge missing; run request-approval first")
  let challenge ← readChallenge files sandbox
  if Text.strip confirmation != requiredConfirmation challenge then
    throw (.publisher "human confirmation phrase does not match the prepared publication package")
  let expires ← parseTime p challenge.expiresAt
  if expires ≤ now then throw (.publisher "approval challenge expired")
  if challenge.packageHash != state.packageHash || challenge.publicationId != state.publicationId then
    throw (.publisher "approval challenge is not bound to the current sandbox")
  let checks ← currentPackageChecks p files state
  if !passes checks then
    throw (.publisher ("sandbox changed after preparation: " ++ checksText checks))
  return (state, challenge)

def signApproval (s : PublisherState) (c : ApprovalChallenge) (approverId : String) (later : Int) :
    Except PublisherError HumanApproval := do
  let approvedAt ← isoText p later
  let signature ← approvalSignature p (challengeHash p c) s.packageHash approverId c.expiresAt
  if sized : 1 ≤ approverId.length ∧ approverId.length ≤ 256 then
    return ⟨s.publicationId, challengeHash p c, s.packageHash, approverId, approvedAt, c.expiresAt,
      signature, sized⟩
  else throw (.validation "HumanApproval")

/-- `state.receipt["receipt_hash"]`. -/
def priorReceipt (s : PublisherState) : Except PublisherError Json :=
  match s.receipt.1.get? "receipt_hash" with
  | some v => .ok v
  | none => .error (.python (.keyError "receipt_hash"))

/-- The receipt of a change of status. -/
def statusReceipt (event : String) (prior : Json) (packageHash : String) (outputs : Mapping) :
    Record.Object :=
  let receipt := evidenceReceipt p.toHost event
    (.dict [("prior_receipt_hash", prior), ("package_hash", .str packageHash)]) (.dict outputs)
  ⟨receipt.toJson, toJson_receipt receipt⟩

def approvedState (sandbox : String) (s : PublisherState) (prior : Json) (a : HumanApproval) :
    PublisherState :=
  { s with
    status := .approved
    approvalPath := some (approvalFilePath sandbox)
    receipt := statusReceipt p "MARXIV_HUMAN_PUBLICATION_APPROVAL" prior s.packageHash
      [("status", .str Status.approved.value), ("approver_id", .str a.approverId),
        ("challenge_hash", .str a.challengeHash)] }

def approve (sandbox approverId confirmation : String) (now later : Int) :
    Except PublisherError HumanApproval × Files :=
  match checkApprovable p files sandbox confirmation now with
  | .error e => (.error e, files)
  | .ok (state, challenge) =>
    match signApproval p state challenge approverId later with
    | .error e => (.error e, files)
    | .ok approval =>
      let files := files.writeJson (approvalFilePath sandbox) approval.toJson
      match priorReceipt state with
      | .error e => (.error e, files)
      | .ok prior => (.ok approval, saveState files sandbox (approvedState p sandbox state prior approval))

inductive Verification where
  | missing (reason : String)
  | checked (checks : Checks)

def Verification.ok : Verification → Bool
  | .missing _ => false
  | .checked checks => checks.all (·.2)

def Verification.text : Verification → String
  | .missing reason => "\x7b'ok': False, 'reason': '" ++ reason ++ "'\x7d"
  | .checked checks => "\x7b'ok': " ++ (if checks.all (·.2) then "True" else "False") ++
    ", 'checks': " ++ checksText checks ++ "\x7d"

def readApproval (path : String) : Except PublisherError HumanApproval :=
  readRecord files "HumanApproval" HumanApproval.ofJson path

/-- The checks of `verify_approval` on the state and the two side files. -/
def approvalChecks (s : PublisherState) (c : ApprovalChallenge) (a : HumanApproval) (signed : Bool)
    (expires now : Int) : Checks :=
  [("status_approved", s.status == .approved),
    ("challenge_hash_match", a.challengeHash == challengeHash p c),
    ("package_hash_match", a.packageHash == s.packageHash && s.packageHash == c.packageHash),
    ("publication_id_match", a.publicationId == s.publicationId && s.publicationId == c.publicationId),
    ("signature_match", signed),
    ("not_expired", now < expires)]

def verifyApproval (sandbox : String) (now : Int) : Except PublisherError Verification := do
  let state ← loadState files sandbox
  let path := state.approvalPath.getD ""
  if path == "" then return .missing "approval_missing"
  if !(files.isFile path && files.isFile (challengePath sandbox)) then
    return .missing "approval_or_challenge_file_missing"
  let approval ← readApproval files path
  let challenge ← readChallenge files sandbox
  let expected ← approvalSignature p (challengeHash p challenge) state.packageHash approval.approverId
    approval.expiresAt
  let signed ← (compareDigest expected approval.signature).mapError .python
  let expires ← parseTime p approval.expiresAt
  let package ← currentPackageChecks p files state
  return .checked (approvalChecks p state challenge approval signed expires now ++
    package.map (fun c => ("package_" ++ c.1, c.2)))

/-! ## Submission -/

/-- What the transport does: it returns a dict, raises an `ArxivSubmissionError`, or
raises another exception. -/
inductive TransportOutcome where
  | returned (result : Mapping)
  | submissionError (message : String) (finalClickPerformed : Bool)
  | raised (message : String)

/-- `result.get(key)`, as a condition. -/
def flag (result : Mapping) (key : String) : Bool :=
  ((Json.dict result).get? key).elim false Json.truthy

def PublisherState.moved (s : PublisherState) (status : Status) (receipt : Record.Object) :
    PublisherState :=
  { s with status := status, receipt := receipt }

/-- The last receipt as the next one names it. -/
def PublisherState.receiptHash (s : PublisherState) : Json :=
  (s.receipt.1.get? "receipt_hash").getD .null

/-- `publish`, up to its record of `SUBMITTING`; `login` is why the login failed. -/
def beginSubmission (sandbox : String) (now : Int) (login : Option String) :
    Except PublisherError PublisherState := do
  let state ← loadState files sandbox
  let verification ← verifyApproval p files sandbox now
  if !verification.ok then
    throw (.publisher ("publication blocked: valid human approval required: " ++ verification.text))
  if state.status != .approved then
    throw (.publisher ("publication blocked from status " ++ state.status.value))
  let manifest ← readManifest files state.arxivManifestPath
  let manuscript := p.resolveManuscript state.arxivManifestPath manifest.manuscriptFile
  if !files.isFile manuscript then
    throw (.publisher ("prepared manuscript missing: " ++ manuscript))
  match login with
  | some message => throw (.bridge message)
  | none =>
    let prior ← priorReceipt state
    return state.moved .submitting (statusReceipt p "MARXIV_PUBLICATION_SUBMITTING" prior
      state.packageHash [("status", .str Status.submitting.value), ("destination", .str "arxiv")])

def held (s : PublisherState) (status : Status) (finalClickPerformed : Bool) : PublisherState :=
  s.moved status (statusReceipt p "MARXIV_PUBLICATION_HOLD" s.receiptHash s.packageHash
    [("status", .str status.value), ("final_click_performed", .bool finalClickPerformed)])

def submitted (s : PublisherState) (status : Status) (confirmed : Bool) : PublisherState :=
  s.moved status (statusReceipt p "MARXIV_ARXIV_SUBMISSION_ACTION" s.receiptHash s.packageHash
    [("status", .str status.value), ("final_click_performed", .bool true),
      ("portal_confirmation_observed", .bool confirmed)])

/-- A publish: whether it invoked the transport, its result and the files after it. -/
structure Published where
  invoked : Bool
  result : Except PublisherError PublisherState
  files : Files

/-- What follows the transport, from the state recorded as `SUBMITTING`. -/
def endSubmission (sandbox : String) (s : PublisherState) : TransportOutcome → Published
  | .submissionError message clicked =>
    let status := if clicked then Status.holdReconciliationRequired else .holdPreSubmit
    ⟨true, .error (.submission message clicked), saveState files sandbox (held p s status clicked)⟩
  | .raised message =>
    ⟨true, .error (.publisher message), saveState files sandbox (held p s .holdPreSubmit false)⟩
  | .returned result =>
    if !flag result "final_click_performed" then
      ⟨true, .error (.publisher "transport returned without performing the final arXiv submission action"),
        files⟩
    else
      let confirmed := flag result "portal_confirmation_observed"
      let status := if confirmed then Status.submittedToArxiv else .holdReconciliationRequired
      let updated := submitted p s status confirmed
      ⟨true, .ok updated,
        (saveState files sandbox updated).writeJson (resultPath sandbox) (.dict result)⟩

def publish (sandbox : String) (now : Int) (login : Option String) (outcome : TransportOutcome) :
    Published :=
  match beginSubmission p files sandbox now login with
  | .error e => ⟨false, .error e, files⟩
  | .ok submitting => endSubmission p (saveState files sandbox submitting) sandbox submitting outcome

/-- `ARXIV_ID_RE.fullmatch`: four digits, a dot, four or five digits, and a version. -/
def isArxivId (text : String) : Bool :=
  let cs := text.toList
  (cs.take 4).length == 4 && (cs.take 4).all p.isDecimal &&
  match cs.drop 4 with
  | '.' :: rest =>
    let digits := (rest.takeWhile p.isDecimal).length
    (digits == 4 || digits == 5) &&
    match rest.dropWhile p.isDecimal with
    | [] => true
    | 'v' :: version => !version.isEmpty && version.all p.isDecimal
    | _ => false
  | _ => false

def reconciledState (s : PublisherState) (prior : Json) (identifier : String) : PublisherState :=
  { s with
    status := .reconciled
    externalIdentifier := some identifier
    receipt := statusReceipt p "MARXIV_PUBLICATION_RECONCILED" prior s.packageHash
      [("status", .str Status.reconciled.value), ("arxiv_id", .str identifier)] }

def reconcile (sandbox arxivId : String) : Except PublisherError (PublisherState × Files) := do
  let state ← loadState files sandbox
  if state.status != .submittedToArxiv && state.status != .holdReconciliationRequired then
    throw (.publisher ("cannot reconcile arXiv identifier from status " ++ state.status.value))
  if !isArxivId p (Text.strip arxivId) then throw (.publisher "invalid arXiv identifier format")
  let prior ← priorReceipt state
  let updated := reconciledState p state prior (Text.strip arxivId)
  return (updated, saveState files sandbox updated)

/-! ## Steps -/

inductive Op where
  | requestApproval (ttlSeconds now : Int) (nonce : String)
  | approve (approverId confirmation : String) (now later : Int)
  | publish (now : Int) (login : Option String) (outcome : TransportOutcome)
  | reconcile (arxivId : String)

/-- The files after a step, succeeding or failing. -/
def apply (sandbox : String) : Op → Files
  | .requestApproval ttlSeconds now nonce =>
    match requestApproval p files sandbox ttlSeconds now nonce with
    | .ok (_, after) => after
    | .error _ => files
  | .approve approverId confirmation now later =>
    (approve p files sandbox approverId confirmation now later).2
  | .publish now login outcome => (publish p files sandbox now login outcome).files
  | .reconcile arxivId =>
    match reconcile p files sandbox arxivId with
    | .ok (_, after) => after
    | .error _ => files

/-- The step invokes the transport. -/
def invokes (sandbox : String) : Op → Bool
  | .publish now login outcome => (publish p files sandbox now login outcome).invoked
  | _ => false

end

end MatVerse.Marxiv
