import MatVerse.InstitutionalContract
import MatVerse.Ledger
import MatVerse.Lib.Jcs

/-! The institutional projection: a document built from the ledger, the contract
artifacts and the build configuration, hashed and validated before it is shown. -/
namespace MatVerse

open Fallible InstitutionalContract

/-! ## Canonical JSON -/

mutual
def assertJcsSubset (path : String) : Json → Except PyError Unit
  | .int i =>
    if Jcs.isSafe i then .ok ()
    else .error (.valueError ("integer outside JCS interoperable range at " ++ path))
  | .float x =>
    if (Jcs.integral x).any Jcs.isSafe then .ok ()
    else .error (.valueError ("non-integral or non-interoperable floating point value at " ++ path))
  | .arr items => assertJcsItems path 0 items
  | .obj entries => assertJcsEntries path entries
  | .null | .bool _ | .str _ => .ok ()
def assertJcsItems (path : String) (index : Nat) : List Json → Except PyError Unit
  | [] => .ok ()
  | v :: rest => do
    assertJcsSubset (path ++ "[" ++ toString index ++ "]") v
    assertJcsItems path (index + 1) rest
def assertJcsEntries (path : String) : List (String × Json) → Except PyError Unit
  | [] => .ok ()
  | (key, v) :: rest => do
    assertJcsSubset (path ++ "." ++ key) v
    assertJcsEntries path rest
end

/-- What the process reads of its environment; an unset variable is empty, an unset
`MATVERSE_BUILD_REF` is none. -/
structure BuildConfiguration where
  buildCommit : String
  frozenContractHash : String
  buildRef : Option String
  buildTimestamp : String

structure SourceBinding where
  commitSha : String
  ref : String
  frozenContractHash : String
  gateFingerprint : String
  constitutionalContractHash : String
  deriving DecidableEq

def SourceBinding.toMapping (s : SourceBinding) : Mapping :=
  [("repository", .str institutionalRepository), ("commit_sha", .str s.commitSha), ("ref", .str s.ref),
    ("frozen_contract_hash", .str s.frozenContractHash), ("gate_fingerprint", .str s.gateFingerprint),
    ("constitutional_contract_hash", .str s.constitutionalContractHash)]

/-- The registration an artifact's `PASS` rests on. -/
structure RegistrationEvidence where
  evidenceId : String
  receiptHash : String
  sourceCommit : String
  deriving DecidableEq

def RegistrationEvidence.toJson (e : RegistrationEvidence) : Json :=
  .dict [("evidence_id", .str e.evidenceId), ("receipt_hash", .str e.receiptHash),
    ("source_commit", .str e.sourceCommit)]

structure ProjectedArtifact where
  artifactHash : String
  kind : String
  version : String
  sourceCommit : String
  evidence : Option RegistrationEvidence
  deriving DecidableEq

def ProjectedArtifact.toJson (a : ProjectedArtifact) : Json :=
  .dict [("artifact_id", .str ("contract:" ++ a.artifactHash)),
    ("kind", .str ("contract-registry/" ++ a.kind ++ "/" ++ a.version)),
    ("content_hash", .str a.artifactHash), ("source_commit", .str a.sourceCommit),
    ("status", .str (if a.evidence.isSome then "PASS" else "HOLD")),
    ("evidence", .arr (a.evidence.toList.map RegistrationEvidence.toJson))]

structure ProjectedReceipt where
  receiptId : String
  receiptHash : String
  receiptType : String
  sourceCommit : String
  deriving DecidableEq

def ProjectedReceipt.toJson (r : ProjectedReceipt) : Json :=
  .dict [("receipt_id", .str r.receiptId), ("receipt_hash", .str r.receiptHash),
    ("receipt_type", .str r.receiptType), ("source_commit", .str r.sourceCommit)]

structure Projection where
  source : SourceBinding
  artifacts : List ProjectedArtifact
  receipts : List ProjectedReceipt
  generatedAt : String
  projectionHash : String
  sourceReceipt : String
  deriving DecidableEq

namespace Projection

def policy : Json :=
  .dict [("projection_only", .bool true), ("write_authority", .str "NONE"),
    ("allowed_operations", texts allowedOperations), ("forbidden_operations", texts forbiddenOperations)]

def metadata (p : Projection) : Mapping :=
  [("generated_at", .str p.generatedAt), ("source_receipt", .str p.sourceReceipt), ("freshness", .str "LIVE"),
    ("hash_algorithm", .str "SHA-256"), ("canonicalization", .str "RFC8785_JCS"),
    ("hash_excludes", texts ["projection.projection_hash"])]

def document (p : Projection) (metadata : Mapping) : Json :=
  .dict [("schema_version", .str "matverse.institutional-surface.v1"), ("projection_policy", policy),
    ("source", .dict p.source.toMapping), ("subjects", .arr []), ("authority_traces", .arr []),
    ("maturity", .arr []), ("artifacts", .arr (p.artifacts.map ProjectedArtifact.toJson)),
    ("claims", .arr []), ("experiments", .arr []), ("relations", .arr []),
    ("receipts", .arr (p.receipts.map ProjectedReceipt.toJson)), ("projection", .dict metadata)]

def toJson (p : Projection) : Json :=
  p.document (p.metadata ++ [("projection_hash", .str p.projectionHash)])

/-- The hashed document: the projection without its own hash. -/
def payload (p : Projection) : Json := p.document p.metadata

/-- `{**source, "projection_hash": …}`: what an intent must be bound to. -/
def expectedSource (p : Projection) : Json :=
  .dict (p.source.toMapping ++ [("projection_hash", .str p.projectionHash)])

end Projection

/-- The columns of an artifact that the projection reads. -/
structure ArtifactRow where
  artifactHash : String
  kind : String
  version : String
  deriving DecidableEq

def ContractArtifact.row (a : ContractArtifact) : ArtifactRow := ⟨a.artifactHash, a.kind, a.version⟩

/-- `SELECT artifact_hash,kind,version FROM contract_artifacts ORDER BY artifact_hash`. -/
def artifactRows (artifacts : List ContractArtifact) : List ArtifactRow :=
  (artifacts.map ContractArtifact.row).mergeSort (fun a b => a.artifactHash ≤ b.artifactHash)

/-- `event.get(key)` of a loaded event. -/
def dictGet (event : Json) (key : String) : Except PyError (Option Json) :=
  if event.isObj then .ok (event.get? key)
  else .error (.attributeError ("'" ++ typeName event ++ "' object has no attribute 'get'"))

section
variable (host : Host)

def jcsSubsetHash (v : Json) : Except PyError String := do
  assertJcsSubset "$" v.norm
  return sha256Text host (Jcs.text v)

def genesisText : String := Jcs.text (.dict [("ledger_head", .str "GENESIS"), ("events", .int 0)])

def genesisCommitment : String := sha256Text host genesisText

def buildBinding (build : BuildConfiguration) : Except PyError SourceBinding := do
  let commitSha := build.buildCommit.toLower
  if !isGitObjectId commitSha then
    throw (.projectionUnavailable "MATVERSE_BUILD_COMMIT must be a 40- or 64-character lowercase Git object id")
  let frozenContractHash := build.frozenContractHash.toLower
  if !isLowerSha256 frozenContractHash then
    throw (.projectionUnavailable "MATVERSE_FROZEN_CONTRACT_HASH must be a lowercase SHA-256 digest")
  let ref := build.buildRef.getD "main"
  if ref == "" || 256 < ref.length then
    throw (.projectionUnavailable "MATVERSE_BUILD_REF must be a non-empty identifier <= 256 characters")
  let constitutional ← constitutionalContractHash host frozenContractHash
  return ⟨commitSha, ref, frozenContractHash, gateFingerprint host, constitutional⟩

def eventSourceCommit (event : Json) (seq : Nat) : Except PyError String :=
  match event.get? "source_commit" with
  | some (.str commit) =>
    if isGitObjectId commit.toLower then .ok commit.toLower else .error missing
  | _ => .error missing
where
  missing : PyError := .projectionUnavailable ("ledger event seq=" ++ toString seq ++
    " lacks immutable originating source_commit; provenance migration required")

def ledgerId (seq : Nat) : String := "ledger:" ++ toString seq

/-- One round of the loop that collects the registrations; an unreadable event is skipped. -/
def noteRegistration (receipts : List (String × RegistrationEvidence)) (row : LedgerRow) :
    Except PyError (List (String × RegistrationEvidence)) :=
  match JsonText.loads row.eventJson with
  | none => .ok receipts
  | some event => do
    let eventType ← dictGet event "event_type"
    if !isStr eventType "CONTRACT_ARTIFACT_REGISTERED" then return receipts
    match event.get? "artifact_hash" with
    | some (.str artifactHash) =>
      let sourceCommit ← eventSourceCommit event row.seq
      return Dict.insert artifactHash ⟨ledgerId row.seq, row.eventHash, sourceCommit⟩ receipts
    | _ => return receipts

def projectArtifact (currentCommit : String) (receipts : List (String × RegistrationEvidence)) (row : ArtifactRow) :
    ProjectedArtifact :=
  let evidence := Dict.get? row.artifactHash receipts
  ⟨row.artifactHash, row.kind, row.version, (evidence.map RegistrationEvidence.sourceCommit).getD currentCommit,
    evidence⟩

def projectContractArtifacts (rows : List ArtifactRow) (currentCommit : String) (ledger : List LedgerRow) :
    Except PyError (List ProjectedArtifact) := do
  let receipts ← ledger.foldlM noteRegistration []
  return rows.map (projectArtifact currentCommit receipts)

def projectReceipt (row : LedgerRow) : Except PyError ProjectedReceipt :=
  match JsonText.loads row.eventJson with
  | none => .error (.projectionUnavailable ("ledger event seq=" ++ toString row.seq ++ " is not parseable JSON"))
  | some event => do
    let eventType ← dictGet event "event_type"
    let receiptType :=
      match eventType with
      | some (.str name) => name
      | _ => "LEDGER_EVENT"
    let sourceCommit ← eventSourceCommit event row.seq
    return ⟨ledgerId row.seq, row.eventHash, receiptType, sourceCommit⟩

def projectReceipts (currentCommit : String) : List LedgerRow → Except PyError (List ProjectedReceipt)
  | [] => .ok [⟨"ledger:GENESIS", genesisCommitment host, "LEDGER_GENESIS_COMMITMENT", currentCommit⟩]
  | ledger => ledger.mapM projectReceipt

variable (isIsoFormat : String → Bool)

/-- `datetime.fromisoformat(value.replace("Z", "+00:00"))` does not raise. -/
def isTimestamp (value : String) : Bool :=
  isIsoFormat (String.ofList (value.toList.flatMap fun c => if c = 'Z' then "+00:00".toList else [c]))

def eventTime (event : Json) : Option String :=
  ["ledger_at", "accepted_at", "acked_at", "created_at"].findSome? fun field =>
    match event.get? field with
    | some (.str value) => if isTimestamp isIsoFormat value then some value else none
    | _ => none

/-- The time of the last event that has one. -/
def latestTime : List LedgerRow → Except PyError (Option String)
  | [] => .ok none
  | row :: earlier =>
    match JsonText.loads row.eventJson with
    | none => latestTime earlier
    | some event => do
      let _ ← dictGet event "ledger_at"
      match eventTime isIsoFormat event with
      | some value => return some value
      | none => latestTime earlier

def projectionTime (build : BuildConfiguration) (ledger : List LedgerRow) : Except PyError String := do
  match ← latestTime isIsoFormat ledger.reverse with
  | some value => return value
  | none =>
    if build.buildTimestamp == "" then return "1970-01-01T00:00:00+00:00"
    if isTimestamp isIsoFormat build.buildTimestamp then return build.buildTimestamp
    throw (.projectionUnavailable "MATVERSE_BUILD_TIMESTAMP must be ISO-8601 when configured")

/-- The head of a verified ledger, or what stands for the empty one. -/
def sourceReceiptOf (head : String) : String := if isLowerSha256 head then head else genesisCommitment host

def buildProjection (build : BuildConfiguration) (ledger : List LedgerRow) (contractArtifacts : List ArtifactRow) :
    Except PyError Projection :=
  match verifyLedgerRows host ledger with
  | .failed seq =>
    .error (.projectionUnavailable ("canonical ledger integrity failure at seq=" ++ toString seq))
  | .ok _ head => do
    let source ← buildBinding host build
    let artifacts ← projectContractArtifacts contractArtifacts source.commitSha ledger
    let receipts ← projectReceipts host source.commitSha ledger
    let generatedAt ← projectionTime isIsoFormat build ledger
    let draft : Projection := ⟨source, artifacts, receipts, generatedAt, zeroDigest, sourceReceiptOf host head⟩
    let projectionHash ← jcsSubsetHash host draft.payload
    let projection := { draft with projectionHash := projectionHash }
    let validation ← validateProjectionSemantics host projection.toJson
    if !validation.ok then
      throw (.projectionUnavailable ("generated projection failed semantic validation: " ++
        "; ".intercalate validation.errors))
    return projection

/-- `build_institutional_projection_from_connection`; a snapshot holds the same rows. -/
def projectionOf (build : BuildConfiguration) (db : Database) : Except PyError Projection :=
  buildProjection host isIsoFormat build db.ledger (artifactRows db.contractArtifacts)

end

/-! ## What a projection commits to -/

variable {host : Host} {isIsoFormat : String → Bool}

/-- The subset check passes exactly on the values whose numbers are safe. -/
theorem assertJcsSubset_ok {v : Json} {path : String} :
    assertJcsSubset path v = .ok () ↔ Jcs.isPlainable v = true := by
  induction v using Json.induction generalizing path with
  | null => simp [assertJcsSubset, Jcs.isPlainable]
  | bool => simp [assertJcsSubset, Jcs.isPlainable]
  | int i => simp [assertJcsSubset, Jcs.isPlainable]
  | float x => simp [assertJcsSubset, Jcs.isPlainable]
  | str => simp [assertJcsSubset, Jcs.isPlainable]
  | arr items ih =>
    have each (items : List Json) (ih : ∀ v ∈ items, ∀ {path : String}, assertJcsSubset path v = .ok () ↔
        Jcs.isPlainable v = true) (index : Nat) :
        assertJcsItems path index items = .ok () ↔ Jcs.arePlainable items = true := by
      induction items generalizing index with
      | nil => simp [assertJcsItems, Jcs.arePlainable]
      | cons v rest further =>
        rw [assertJcsItems, check_ok, Jcs.arePlainable, Bool.and_eq_true, ih v (by simp),
          further (fun v member => ih v (List.mem_cons_of_mem _ member))]
    rw [assertJcsSubset, Jcs.isPlainable]
    exact each items (fun v member => ih v member) 0
  | obj entries ih =>
    have each (entries : List (String × Json)) (ih : ∀ p ∈ entries, ∀ {path : String},
        assertJcsSubset path p.2 = .ok () ↔ Jcs.isPlainable p.2 = true) :
        assertJcsEntries path entries = .ok () ↔ Jcs.entriesPlainable entries = true := by
      induction entries with
      | nil => simp [assertJcsEntries, Jcs.entriesPlainable]
      | cons p rest further =>
        obtain ⟨key, v⟩ := p
        rw [assertJcsEntries, check_ok, Jcs.entriesPlainable, Bool.and_eq_true, ih (key, v) (by simp),
          further (fun p member => ih p (List.mem_cons_of_mem _ member))]
    rw [assertJcsSubset, Jcs.isPlainable]
    exact each entries (fun p member => ih p member)

theorem jcsSubsetHash_of {v : Json} (safe : Jcs.isPlainable v.norm = true) :
    jcsSubsetHash host v = .ok (sha256Text host (Jcs.text v)) := by
  rw [jcsSubsetHash, assertJcsSubset_ok.mpr safe]
  rfl

theorem jcsSubsetHash_safe {v : Json} {hash : String} (hashed : jcsSubsetHash host v = .ok hash) :
    Jcs.isPlainable v.norm = true := by
  simp only [jcsSubsetHash, bind_ok, pure_ok] at hashed
  obtain ⟨_, checked, _⟩ := hashed
  exact assertJcsSubset_ok.mp checked

theorem jcsSubsetHash_ok {v : Json} {hash : String} (hashed : jcsSubsetHash host v = .ok hash) :
    hash = sha256Text host (Jcs.text v) := by
  simp only [jcsSubsetHash, bind_ok, pure_ok] at hashed
  obtain ⟨_, _, rfl⟩ := hashed
  rfl

/-- Everything a built projection took from its inputs. -/
structure Built (host : Host) (isIsoFormat : String → Bool) (build : BuildConfiguration)
    (ledger : List LedgerRow) (artifacts : List ArtifactRow) (head : String) (p : Projection) : Prop where
  checked : checkRows host genesis ledger = .ok head
  source : buildBinding host build = .ok p.source
  artifacts : projectContractArtifacts artifacts p.source.commitSha ledger = .ok p.artifacts
  receipts : projectReceipts host p.source.commitSha ledger = .ok p.receipts
  generatedAt : projectionTime isIsoFormat build ledger = .ok p.generatedAt
  sourceReceipt : p.sourceReceipt = sourceReceiptOf host head
  projectionHash : p.projectionHash = sha256Text host (Jcs.text p.payload)

theorem buildProjection_ok {build : BuildConfiguration} {ledger : List LedgerRow} {artifacts : List ArtifactRow}
    {p : Projection} (built : buildProjection host isIsoFormat build ledger artifacts = .ok p) :
    ∃ head, Built host isIsoFormat build ledger artifacts head p := by
  unfold buildProjection at built
  split at built
  · cases built
  next events head verified =>
    simp only [bind_ok, guard_ok, pure_ok] at built
    obtain ⟨source, bound, projected, listed, receipts, noted, time, dated, hash, hashed, _, _, _, rfl⟩ := built
    exact ⟨head, (chainReport_ok.mp verified).2, bound, listed, noted, dated, rfl, jcsSubsetHash_ok hashed⟩

/-- A receipt is named after its row, the receipt of the empty ledger after none. -/
theorem receiptIds {commit : String} {ledger : List LedgerRow} {receipts : List ProjectedReceipt}
    (projected : projectReceipts host commit ledger = .ok receipts) :
    receipts.map ProjectedReceipt.receiptId =
      if ledger = [] then ["ledger:GENESIS"] else ledger.map (fun row => ledgerId row.seq) := by
  cases ledger with
  | nil =>
    cases projected
    rfl
  | cons row rest =>
    have each {row : LedgerRow} {r : ProjectedReceipt} (one : projectReceipt row = .ok r) :
        r.receiptId = ledgerId row.seq := by
      unfold projectReceipt at one
      split at one
      · cases one
      · simp only [bind_ok, pure_ok] at one
        obtain ⟨_, _, _, _, rfl⟩ := one
        rfl
    simp only [projectReceipts, reduceCtorEq, if_false] at projected ⊢
    exact mapM_map each projected

theorem payload_get_receipts (p : Projection) : (Jcs.plain p.payload.norm).get? "receipts" =
    some (.arr (p.receipts.map (fun r => Jcs.plain r.toJson.norm))) := by
  rw [Jcs.get?_plain]
  simp [Projection.payload, Projection.document, Jcs.plain, Jcs.plainItems_eq, Function.comp_def]

theorem receipt_get_id (r : ProjectedReceipt) :
    (Jcs.plain r.toJson.norm).get? "receipt_id" = some (.str r.receiptId) := by
  rw [Jcs.get?_plain]
  simp [ProjectedReceipt.toJson, Jcs.plain]

/-- The canonical text of a projection determines the names of its receipts. -/
theorem receiptIds_of_text {p q : Projection} (same : Jcs.text p.payload = Jcs.text q.payload) :
    p.receipts.map ProjectedReceipt.receiptId = q.receipts.map ProjectedReceipt.receiptId := by
  have receipts := congrArg (Json.get? "receipts") (Jcs.text_injective same)
  rw [payload_get_receipts, payload_get_receipts] at receipts
  have ids := congrArg (List.map (Json.get? "receipt_id")) (Json.arr.inj (Option.some.inj receipts))
  simp only [List.map_map, Function.comp_def, receipt_get_id] at ids
  have injective : Function.Injective (fun id => some (Json.str id)) := by
    intro a b equal
    simpa using equal
  apply List.map_injective_iff.mpr injective
  simpa only [List.map_map, Function.comp_def] using ids

end MatVerse
