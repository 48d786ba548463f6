import MatVerse.MarxivPublisher

/-! What the operations of the publisher read and write: records read back as they
were written, each file is changed by its own operations only, and each operation
that moves the status has checked the status before. -/
namespace MatVerse.Marxiv

open Fallible

variable {p : Platform} {files other : Files} {sandbox : String}

/-! ## Records read back -/

@[simp] theorem optText_toJson (s : Option String) : Record.optText (some (optText s)) = some s := by
  cases s <;> rfl

theorem PublisherState.ofJson_toJson (s : PublisherState) : PublisherState.ofJson s.toJson = some s := by
  have closed : Record.closed PublisherState.fields s.toJson = true :=
    Record.closed_dict (by simp [PublisherState.fields])
  rw [PublisherState.ofJson, closed]
  simp [PublisherState.toJson, stateSchema]

theorem PublisherState.normal_toJson (s : PublisherState) : s.toJson.Normal := by
  apply Json.normal_dict
  have text (o : Option String) : (optText o).Normal := by cases o <;> rfl
  have parts : (optText s.approvalPath).norm = optText s.approvalPath ∧
      (optText s.externalIdentifier).norm = optText s.externalIdentifier ∧
      s.receipt.1.norm = s.receipt.1 := ⟨text _, text _, s.receipt.2.2⟩
  simpa [Json.Normal] using parts

theorem ApprovalChallenge.ofJson_toJson (c : ApprovalChallenge) :
    ApprovalChallenge.ofJson c.toJson = some c := by
  have closed : Record.closed ApprovalChallenge.fields c.toJson = true :=
    Record.closed_dict (by simp [ApprovalChallenge.fields])
  rw [ApprovalChallenge.ofJson, closed]
  simp [ApprovalChallenge.toJson, challengeSchema]

theorem ApprovalChallenge.normal_toJson (c : ApprovalChallenge) : c.toJson.Normal :=
  Json.normal_dict (by simp [Json.Normal])

theorem HumanApproval.ofJson_toJson (a : HumanApproval) : HumanApproval.ofJson a.toJson = some a := by
  have closed : Record.closed HumanApproval.fields a.toJson = true :=
    Record.closed_dict (by simp [HumanApproval.fields])
  rw [HumanApproval.ofJson, closed]
  simp [HumanApproval.toJson, approvalSchema, a.approverSized]

theorem HumanApproval.normal_toJson (a : HumanApproval) : a.toJson.Normal :=
  Json.normal_dict (by simp [Json.Normal])

theorem readRecord_writeJson {α : Type} {model : String} {ofJson : Json → Option α} {path : String}
    {v : Json} {record : α} (normal : v.Normal) (valid : ofJson v = some record) :
    readRecord (files.writeJson path v) model ofJson path = .ok record := by
  have itself : v.norm = v := normal
  simp only [readRecord, Files.readJson_writeJson, itself, valid]
  rfl

theorem readRecord_congr {α : Type} {model : String} {ofJson : Json → Option α} {path : String}
    (same : files path = other path) :
    readRecord files model ofJson path = readRecord other model ofJson path := by
  simp only [readRecord, Files.readJson_congr same]

@[simp] theorem loadState_saveState (s : PublisherState) :
    loadState (saveState files sandbox s) sandbox = .ok s :=
  readRecord_writeJson s.normal_toJson s.ofJson_toJson

theorem loadState_writeJson {path : String} (apart : statePath sandbox ≠ path) (v : Json) :
    loadState (files.writeJson path v) sandbox = loadState files sandbox :=
  readRecord_congr (Files.writeJson_of_ne apart files v)

theorem paths_apart (sandbox : String) :
    statePath sandbox ≠ challengePath sandbox ∧ statePath sandbox ≠ approvalFilePath sandbox ∧
    statePath sandbox ≠ resultPath sandbox ∧ challengePath sandbox ≠ approvalFilePath sandbox ∧
    challengePath sandbox ≠ resultPath sandbox ∧ approvalFilePath sandbox ≠ resultPath sandbox := by
  have suffix {a b : String} (same : sandbox ++ a = sandbox ++ b) : a = b := by
    simpa using same
  refine ⟨?_, ?_, ?_, ?_, ?_, ?_⟩ <;> intro same <;> exact absurd (suffix same) (by decide)

/-! ## What the operations check and write -/

theorem requestApproval_ok {ttlSeconds now : Int} {nonce : String} {c : ApprovalChallenge} {after : Files}
    (done : requestApproval p files sandbox ttlSeconds now nonce = .ok (c, after)) :
    ∃ s checks issuedAt expiresAt, loadState files sandbox = .ok s ∧
      currentPackageChecks p files s = .ok checks ∧ passes checks = true ∧
      s.status = .humanReviewRequired ∧ p.iso now = some issuedAt ∧
      p.iso (now + ttlSeconds * 1000000) = some expiresAt ∧
      c = challengeOf s issuedAt expiresAt nonce ∧
      after = files.writeJson (challengePath sandbox) c.toJson := by
  simp only [requestApproval, guard_ok, bind_ok, pure_ok, Prod.mk.injEq] at done
  obtain ⟨s, load, checks, package, pass, status, issuedAt, issued, expiresAt, expires, rfl, rfl⟩ := done
  have time {t : Int} {text : String} (ok : isoText p t = .ok text) : p.iso t = some text := by
    unfold isoText at ok
    split at ok
    · next found => rw [found, Except.ok.inj ok]
    · cases ok
  exact ⟨s, checks, issuedAt, expiresAt, load, package, by simpa using pass, by simpa using status,
    time issued, time expires, rfl, rfl⟩

theorem checkApprovable_ok {confirmation : String} {now : Int} {s : PublisherState} {c : ApprovalChallenge} :
    checkApprovable p files sandbox confirmation now = .ok (s, c) ↔
      loadState files sandbox = .ok s ∧ files.isFile (challengePath sandbox) = true ∧
      readChallenge files sandbox = .ok c ∧ Text.strip confirmation = requiredConfirmation c ∧
      (∃ expires, p.parseIso c.expiresAt = some expires ∧ now < expires) ∧
      c.packageHash = s.packageHash ∧ c.publicationId = s.publicationId ∧
      ∃ checks, currentPackageChecks p files s = .ok checks ∧ passes checks = true := by
  have time {text : String} {t : Int} : parseTime p text = .ok t ↔ p.parseIso text = some t := by
    unfold parseTime
    cases p.parseIso text <;> simp
  simp only [checkApprovable, guard_ok, bind_ok, pure_ok, Prod.mk.injEq, time, Bool.not_eq_true',
    Bool.not_eq_false, bne_iff_ne, ne_eq, not_not, Bool.or_eq_true, not_or, not_le]
  constructor
  · rintro ⟨s, load, isFile, c, read, phrase, expires, parsed, early, ⟨package, publication⟩, checks, found,
      pass, rfl, rfl⟩
    exact ⟨load, isFile, read, phrase, ⟨expires, parsed, early⟩, package, publication, checks, found, pass⟩
  · rintro ⟨load, isFile, read, phrase, ⟨expires, parsed, early⟩, package, publication, checks, found, pass⟩
    exact ⟨s, load, isFile, c, read, phrase, expires, parsed, early, ⟨package, publication⟩, checks, found,
      pass, rfl, rfl⟩

theorem beginSubmission_ok {now : Int} {login : Option String} {submitting : PublisherState}
    (done : beginSubmission p files sandbox now login = .ok submitting) :
    ∃ s, loadState files sandbox = .ok s ∧ s.status = .approved ∧ submitting.status = .submitting := by
  simp only [beginSubmission, guard_ok, bind_ok] at done
  obtain ⟨s, load, verification, _, _, approved, manifest, _, _, done⟩ := done
  refine ⟨s, load, by simpa using approved, ?_⟩
  cases login with
  | some message => cases done
  | none =>
    simp only [bind_ok, pure_ok] at done
    obtain ⟨prior, _, rfl⟩ := done
    rfl

theorem reconcile_ok {arxivId : String} {s : PublisherState} {after : Files}
    (done : reconcile p files sandbox arxivId = .ok (s, after)) :
    s.status = .reconciled ∧ after = saveState files sandbox s := by
  simp only [reconcile, guard_ok, bind_ok, pure_ok, Prod.mk.injEq] at done
  obtain ⟨_, _, _, _, _, _, rfl, rfl⟩ := done
  exact ⟨rfl, rfl⟩

/-! ## The artifacts of a package -/

/-- The files that the package checks read. -/
inductive Artifact (p : Platform) (files : Files) (s : PublisherState) : String → Prop where
  | object : Artifact p files s s.objectSnapshotPath
  | manifest : Artifact p files s s.arxivManifestPath
  | transport : Artifact p files s s.arxivStatePath
  | review : Artifact p files s s.reviewPacketPath
  | manuscript {m : ArxivManifest} : readManifest files s.arxivManifestPath = .ok m →
      Artifact p files s (p.resolveManuscript s.arxivManifestPath m.manuscriptFile)
  | subfile {v : Json} {path : String} : readDocument files s.arxivStatePath = .ok v →
      subfilePath v = .ok path → Artifact p files s path

/-- States that name the same artifacts by path and hash. -/
structure SameArtifacts (s t : PublisherState) : Prop where
  objectHash : t.objectHash = s.objectHash
  manifestHash : t.manifestHash = s.manifestHash
  manuscriptSha256 : t.manuscriptSha256 = s.manuscriptSha256
  arxivSubfileSha256 : t.arxivSubfileSha256 = s.arxivSubfileSha256
  reviewPacketHash : t.reviewPacketHash = s.reviewPacketHash
  objectSnapshotPath : t.objectSnapshotPath = s.objectSnapshotPath
  arxivManifestPath : t.arxivManifestPath = s.arxivManifestPath
  arxivStatePath : t.arxivStatePath = s.arxivStatePath
  reviewPacketPath : t.reviewPacketPath = s.reviewPacketPath

/-- States over one package: they differ in status, approval, identifier and receipt. -/
structure SamePackage (s t : PublisherState) : Prop extends SameArtifacts s t where
  publicationId : t.publicationId = s.publicationId
  packageHash : t.packageHash = s.packageHash

theorem samePackage_approved (p : Platform) (sandbox : String) (s : PublisherState) (prior : Json)
    (a : HumanApproval) : SamePackage s (approvedState p sandbox s prior a) :=
  ⟨⟨rfl, rfl, rfl, rfl, rfl, rfl, rfl, rfl, rfl⟩, rfl, rfl⟩

theorem readArtifacts_ok {s : PublisherState} {a : Artifacts} :
    readArtifacts p files s = .ok (.inr a) ↔
      files.isFile s.objectSnapshotPath = true ∧ files.isFile s.arxivManifestPath = true ∧
      files.isFile s.arxivStatePath = true ∧ files.isFile s.reviewPacketPath = true ∧
      readManifest files s.arxivManifestPath = .ok a.manifest ∧
      files (p.resolveManuscript s.arxivManifestPath a.manifest.manuscriptFile) = some a.manuscript ∧
      (∃ bridge subfile, readDocument files s.arxivStatePath = .ok bridge ∧
        subfilePath bridge = .ok subfile ∧ files subfile = a.subfile) ∧
      readDocument files s.objectSnapshotPath = .ok a.object ∧
      readDocument files s.reviewPacketPath = .ok a.review := by
  obtain ⟨object, manifest, manuscript, review, subfile⟩ := a
  unfold readArtifacts
  by_cases present : (files.isFile s.objectSnapshotPath && files.isFile s.arxivManifestPath &&
      files.isFile s.arxivStatePath && files.isFile s.reviewPacketPath) = true
  · simp only [present, Bool.not_true, Bool.false_eq_true, if_false, bind_ok]
    simp only [Bool.and_eq_true] at present
    obtain ⟨⟨⟨hasObject, hasManifest⟩, hasTransport⟩, hasReview⟩ := present
    simp only [hasObject, hasManifest, hasTransport, hasReview, true_and]
    constructor
    · rintro ⟨m, read, rest⟩
      cases found : files (p.resolveManuscript s.arxivManifestPath m.manuscriptFile) with
      | none => simp [found, pure_ok] at rest
      | some bytes =>
        simp only [found, bind_ok, pure_ok, Sum.inr.injEq, Artifacts.mk.injEq] at rest
        obtain ⟨bridge, hasBridge, path, hasPath, v, hasV, w, hasW, rfl, rfl, rfl, rfl, rfl⟩ := rest
        exact ⟨read, found, ⟨bridge, path, hasBridge, hasPath, rfl⟩, hasV, hasW⟩
    · rintro ⟨read, found, ⟨bridge, path, hasBridge, hasPath, rfl⟩, hasV, hasW⟩
      refine ⟨manifest, read, ?_⟩
      simp only [found, bind_ok, pure_ok]
      exact ⟨bridge, hasBridge, path, hasPath, object, hasV, review, hasW, rfl⟩
  · simp only [present, Bool.not_false, if_true, pure_ok, reduceCtorEq, false_iff]
    simp only [Bool.and_eq_true] at present
    rintro ⟨hasObject, hasManifest, hasTransport, hasReview, _⟩
    exact present ⟨⟨⟨hasObject, hasManifest⟩, hasTransport⟩, hasReview⟩

theorem readDocument_congr {path : String} (same : files path = other path) :
    readDocument files path = readDocument other path := by
  simp only [readDocument, Files.readJson_congr same]

/-- Reading the artifacts depends on their files alone. -/
theorem readArtifacts_congr {s : PublisherState} {a : Artifacts}
    (same : ∀ path, Artifact p files s path → files path = other path)
    (read : readArtifacts p files s = .ok (.inr a)) : readArtifacts p other s = .ok (.inr a) := by
  obtain ⟨object, manifest, transport, review, hasManifest, hasManuscript, ⟨bridge, subfile, hasBridge,
    hasSubfile, bytes⟩, hasObject, hasReview⟩ := readArtifacts_ok.mp read
  have atObject := same _ .object
  have atManifest := same _ .manifest
  have atTransport := same _ .transport
  have atReview := same _ .review
  have atManuscript := same _ (.manuscript hasManifest)
  have atSubfile := same _ (.subfile hasBridge hasSubfile)
  refine readArtifacts_ok.mpr ⟨?_, ?_, ?_, ?_, ?_, ?_, ⟨bridge, subfile, ?_, hasSubfile, ?_⟩, ?_, ?_⟩
  · simpa only [Files.isFile, ← atObject] using object
  · simpa only [Files.isFile, ← atManifest] using manifest
  · simpa only [Files.isFile, ← atTransport] using transport
  · simpa only [Files.isFile, ← atReview] using review
  · exact (readRecord_congr atManifest).symm.trans hasManifest
  · rw [← atManuscript, hasManuscript]
  · exact (readDocument_congr atTransport).symm.trans hasBridge
  · rw [← atSubfile, bytes]
  · exact (readDocument_congr atObject).symm.trans hasObject
  · exact (readDocument_congr atReview).symm.trans hasReview

theorem SameArtifacts.readArtifacts {s t : PublisherState} (same : SameArtifacts s t) :
    readArtifacts p files t = Marxiv.readArtifacts p files s := by
  simp only [Marxiv.readArtifacts, same.objectSnapshotPath, same.arxivManifestPath, same.arxivStatePath,
    same.reviewPacketPath]

theorem SameArtifacts.checks {s t : PublisherState} (same : SameArtifacts s t) (a : Artifacts) :
    a.checks p t = a.checks p s := by
  simp only [Artifacts.checks, same.objectHash, same.manifestHash, same.manuscriptSha256,
    same.reviewPacketHash, same.arxivSubfileSha256]

theorem Artifact.moved {s t : PublisherState} (same : SameArtifacts s t)
    (agree : ∀ path, Artifact p files s path → other path = files path) {path : String}
    (artifact : Artifact p other t path) : Artifact p files s path := by
  cases artifact with
  | object =>
    rw [same.objectSnapshotPath]
    exact .object
  | manifest =>
    rw [same.arxivManifestPath]
    exact .manifest
  | transport =>
    rw [same.arxivStatePath]
    exact .transport
  | review =>
    rw [same.reviewPacketPath]
    exact .review
  | manuscript read =>
    rw [same.arxivManifestPath] at read ⊢
    exact .manuscript ((readRecord_congr (agree _ .manifest)).symm.trans read)
  | subfile read subfile =>
    rw [same.arxivStatePath] at read
    exact .subfile ((readDocument_congr (agree _ .transport)).symm.trans read) subfile

/-! ## A sandbox that can be approved -/

def ownFiles (sandbox : String) : List String :=
  [statePath sandbox, challengePath sandbox, approvalFilePath sandbox, resultPath sandbox]

/-- Every artifact matches the state, and none is one of the sandbox's own files. -/
structure Intact (p : Platform) (files : Files) (sandbox : String) (s : PublisherState) (a : Artifacts) :
    Prop where
  state : loadState files sandbox = .ok s
  artifacts : readArtifacts p files s = .ok (.inr a)
  passing : passes (a.checks p s) = true
  apart : ∀ path ∈ ownFiles sandbox, ¬ Artifact p files s path
  receipt : ∃ prior, priorReceipt s = .ok prior

/-- An intact sandbox with a challenge bound to its state. -/
structure Ready (p : Platform) (files : Files) (sandbox : String) (s : PublisherState)
    (c : ApprovalChallenge) (a : Artifacts) : Prop extends Intact p files sandbox s a where
  challenge : readChallenge files sandbox = .ok c
  package : c.packageHash = s.packageHash
  publication : c.publicationId = s.publicationId

theorem Intact.checks {s : PublisherState} {a : Artifacts} (intact : Intact p files sandbox s a) :
    currentPackageChecks p files s = .ok (a.checks p s) := by
  rw [currentPackageChecks, intact.artifacts]
  rfl

/-- Changing the sandbox's own files keeps it intact. -/
theorem Intact.moved {s t : PublisherState} {a : Artifacts} (intact : Intact p files sandbox s a)
    (same : SameArtifacts s t) (frame : ∀ path, path ∉ ownFiles sandbox → other path = files path)
    (state : loadState other sandbox = .ok t) (receipt : ∃ prior, priorReceipt t = .ok prior) :
    Intact p other sandbox t a := by
  have agree : ∀ path, Artifact p files s path → other path = files path :=
    fun path artifact => frame path (fun own => intact.apart path own artifact)
  refine ⟨state, ?_, ?_, ?_, receipt⟩
  · rw [same.readArtifacts]
    exact readArtifacts_congr (fun path artifact => (agree path artifact).symm) intact.artifacts
  · rw [same.checks]
    exact intact.passing
  · intro path own artifact
    exact intact.apart path own (artifact.moved same agree)

theorem Ready.moved {s t : PublisherState} {c : ApprovalChallenge} {a : Artifacts}
    (ready : Ready p files sandbox s c a) (same : SamePackage s t)
    (frame : ∀ path, path ∉ ownFiles sandbox → other path = files path)
    (challenge : other (challengePath sandbox) = files (challengePath sandbox))
    (state : loadState other sandbox = .ok t) (receipt : ∃ prior, priorReceipt t = .ok prior) :
    Ready p other sandbox t c a := by
  refine ⟨ready.toIntact.moved same.toSameArtifacts frame state receipt,
    (readRecord_congr challenge).trans ready.challenge, ?_, ?_⟩
  · rw [same.packageHash, ready.package]
  · rw [same.publicationId, ready.publication]

theorem readRecord_isFile {α : Type} {model : String} {ofJson : Json → Option α} {path : String} {r : α}
    (read : readRecord files model ofJson path = .ok r) : files.isFile path = true := by
  cases found : files path with
  | none => simp [readRecord, Files.readJson, Files.readText, found, bind, Except.bind, throw, throwThe,
      MonadExceptOf.throw] at read
  | some bytes => simp [Files.isFile, found]

theorem Ready.manuscript {s : PublisherState} {c : ApprovalChallenge} {a : Artifacts}
    (ready : Ready p files sandbox s c a) : ∃ m, readManifest files s.arxivManifestPath = .ok m ∧
      files.isFile (p.resolveManuscript s.arxivManifestPath m.manuscriptFile) = true := by
  obtain ⟨_, _, _, _, hasManifest, hasManuscript, _⟩ := readArtifacts_ok.mp ready.artifacts
  exact ⟨a.manifest, hasManifest, by simp [Files.isFile, hasManuscript]⟩

theorem priorReceipt_status (event : String) (prior : Json) (packageHash : String) (outputs : Mapping)
    {s : PublisherState} (receipt : s.receipt = statusReceipt p event prior packageHash outputs) :
    ∃ prior, priorReceipt s = .ok prior := by
  simp [priorReceipt, receipt, statusReceipt, EvidenceReceipt.toJson, EvidenceReceipt.core]

/-- What signing takes of the platform and the arguments. -/
structure Signable (p : Platform) (c : ApprovalChallenge) (approverId confirmation : String)
    (now later : Int) : Prop where
  phrase : Text.strip confirmation = requiredConfirmation c
  early : ∃ expires, p.parseIso c.expiresAt = some expires ∧ now < expires
  dated : ∃ text, p.iso later = some text
  secret : ∃ key, approvalSecret p = .ok key
  sized : 1 ≤ approverId.length ∧ approverId.length ≤ 256

def approvedFiles (p : Platform) (files : Files) (sandbox : String) (s : PublisherState) (prior : Json)
    (a : HumanApproval) : Files :=
  saveState (files.writeJson (approvalFilePath sandbox) a.toJson) sandbox
    (approvedState p sandbox s prior a)

theorem approve_ready {s : PublisherState} {c : ApprovalChallenge} {a : Artifacts}
    (ready : Ready p files sandbox s c a) {approverId confirmation : String} {now later : Int}
    (signable : Signable p c approverId confirmation now later) :
    ∃ approval prior, signApproval p s c approverId later = .ok approval ∧ priorReceipt s = .ok prior ∧
      approve p files sandbox approverId confirmation now later =
        (.ok approval, approvedFiles p files sandbox s prior approval) := by
  obtain ⟨prior, hasPrior⟩ := ready.receipt
  obtain ⟨text, dated⟩ := signable.dated
  obtain ⟨key, secret⟩ := signable.secret
  have checked : checkApprovable p files sandbox confirmation now = .ok (s, c) :=
    checkApprovable_ok.mpr ⟨ready.state, readRecord_isFile ready.challenge, ready.challenge,
      signable.phrase, signable.early, ready.package, ready.publication, _, ready.checks, ready.passing⟩
  have signed : ∃ approval, signApproval p s c approverId later = .ok approval := by
    simp only [signApproval, isoText, dated, ok_bind, approvalSignature, secret, pure, Except.pure,
      signable.sized, true_and, dite_true]
    exact ⟨_, rfl⟩
  obtain ⟨approval, signed⟩ := signed
  refine ⟨approval, prior, signed, hasPrior, ?_⟩
  simp only [approve, checked, signed, hasPrior, approvedFiles]

theorem signApproval_ok {s : PublisherState} {c : ApprovalChallenge} {approverId : String} {later : Int}
    {a : HumanApproval} (signed : signApproval p s c approverId later = .ok a) :
    a.publicationId = s.publicationId ∧ a.challengeHash = challengeHash p c ∧
    a.packageHash = s.packageHash ∧ a.approverId = approverId ∧ a.expiresAt = c.expiresAt ∧
    approvalSignature p (challengeHash p c) s.packageHash approverId c.expiresAt = .ok a.signature := by
  simp only [signApproval, bind_ok] at signed
  obtain ⟨text, _, signature, signature_ok, signed⟩ := signed
  split_ifs at signed with sized
  obtain rfl := Except.ok.inj signed
  exact ⟨rfl, rfl, rfl, rfl, rfl, signature_ok⟩

theorem compare_signature {challengeHash packageHash approverId expiresAt signature : String}
    (signed : approvalSignature p challengeHash packageHash approverId expiresAt = .ok signature) :
    compareDigest signature signature = .ok true := by
  simp only [approvalSignature, bind_ok, pure_ok] at signed
  obtain ⟨key, _, rfl⟩ := signed
  exact compareDigest_self p.toHost _ _

theorem own_frame {t : PublisherState} {path : String} {v : Json} (own : path ∈ ownFiles sandbox)
    {other : String} (outside : other ∉ ownFiles sandbox) :
    saveState (files.writeJson path v) sandbox t other = files other := by
  have apart : other ≠ path := fun same => outside (same ▸ own)
  have state : other ≠ statePath sandbox := fun same => outside (by simp [same, ownFiles])
  rw [saveState, Files.writeJson_of_ne state, Files.writeJson_of_ne apart]

theorem Ready.approved {s : PublisherState} {c : ApprovalChallenge} {a : Artifacts}
    (ready : Ready p files sandbox s c a) (prior : Json) (approval : HumanApproval) :
    Ready p (approvedFiles p files sandbox s prior approval) sandbox
      (approvedState p sandbox s prior approval) c a := by
  obtain ⟨stateChallenge, stateApproval, _, challengeApproval, _⟩ := paths_apart sandbox
  apply ready.moved
  · exact samePackage_approved p sandbox s prior approval
  · intro path outside
    exact own_frame (by simp [ownFiles]) outside
  · rw [approvedFiles, saveState, Files.writeJson_of_ne stateChallenge.symm,
      Files.writeJson_of_ne challengeApproval]
  · exact loadState_saveState _
  · exact priorReceipt_status _ _ _ _ rfl

theorem read_approved (p : Platform) (files : Files) (sandbox : String) (s : PublisherState) (prior : Json)
    (approval : HumanApproval) :
    readApproval (approvedFiles p files sandbox s prior approval) (approvalFilePath sandbox) =
      .ok approval := by
  obtain ⟨_, stateApproval, _⟩ := paths_apart sandbox
  have written : readApproval (files.writeJson (approvalFilePath sandbox) approval.toJson)
      (approvalFilePath sandbox) = .ok approval :=
    readRecord_writeJson approval.normal_toJson approval.ofJson_toJson
  exact (readRecord_congr (Files.writeJson_of_ne stateApproval.symm _ _)).trans written

theorem verify_approved {s : PublisherState} {c : ApprovalChallenge} {a : Artifacts}
    (ready : Ready p files sandbox s c a) {approverId : String} {later : Int} {approval : HumanApproval}
    (signed : signApproval p s c approverId later = .ok approval) (prior : Json)
    {now expires : Int} (expiry : p.parseIso c.expiresAt = some expires) (early : now < expires) :
    ∃ v, verifyApproval p (approvedFiles p files sandbox s prior approval) sandbox now = .ok v ∧
      v.ok = true := by
  have after := ready.approved prior approval
  obtain ⟨publication, challenge, package, approver, expiresAt, signature⟩ := signApproval_ok signed
  have read := read_approved p files sandbox s prior approval
  have named : (approvalFilePath sandbox == "") = false := by
    simp [approvalFilePath]
  have checks : (approvalChecks p (approvedState p sandbox s prior approval) c approval true expires
      now).all (·.2) = true := by
    simp [approvalChecks, approvedState, challenge, package, publication, ready.package,
      ready.publication, early]
  have passing := after.passing
  simp only [passes, Bool.and_eq_true] at passing
  refine ⟨.checked (approvalChecks p (approvedState p sandbox s prior approval) c approval true expires now ++
    (a.checks p (approvedState p sandbox s prior approval)).map (fun c => ("package_" ++ c.1, c.2))), ?_, ?_⟩
  · have path : (approvedState p sandbox s prior approval).approvalPath.getD "" =
        approvalFilePath sandbox := rfl
    have hash : (approvedState p sandbox s prior approval).packageHash = s.packageHash := rfl
    simp only [verifyApproval, after.state, ok_bind, path, named, readRecord_isFile read,
      readRecord_isFile after.challenge, read, after.challenge, hash, approver, expiresAt, signature,
      compare_signature signature, parseTime, expiry, after.checks]
    rfl
  · simp only [Verification.ok, List.all_append, checks, Bool.true_and, List.all_map]
    exact passing.2

theorem begin_approved {s : PublisherState} {c : ApprovalChallenge} {a : Artifacts}
    (ready : Ready p files sandbox s c a) {approverId : String} {later : Int} {approval : HumanApproval}
    (signed : signApproval p s c approverId later = .ok approval) (prior : Json)
    {now expires : Int} (expiry : p.parseIso c.expiresAt = some expires) (early : now < expires) :
    ∃ receipt, beginSubmission p (approvedFiles p files sandbox s prior approval) sandbox now none =
      .ok ((approvedState p sandbox s prior approval).moved .submitting
        (statusReceipt p "MARXIV_PUBLICATION_SUBMITTING" receipt s.packageHash
          [("status", .str Status.submitting.value), ("destination", .str "arxiv")])) := by
  have after := ready.approved prior approval
  obtain ⟨v, verified, ok⟩ := verify_approved ready signed prior expiry early
  obtain ⟨m, manifest, manuscript⟩ := after.manuscript
  obtain ⟨receipt, hasReceipt⟩ := after.receipt
  have status : ((approvedState p sandbox s prior approval).status != .approved) = false := rfl
  have package : (approvedState p sandbox s prior approval).packageHash = s.packageHash := rfl
  refine ⟨receipt, ?_⟩
  simp only [beginSubmission, after.state, ok_bind, verified, ok, status, manifest, manuscript, hasReceipt,
    package]
  rfl

/-- A request on an intact sandbox under review makes it ready. -/
theorem requested_ready {s : PublisherState} {a : Artifacts} (intact : Intact p files sandbox s a)
    (review : s.status = .humanReviewRequired) {ttlSeconds now : Int} {issuedAt expiresAt : String}
    (issued : p.iso now = some issuedAt) (expires : p.iso (now + ttlSeconds * 1000000) = some expiresAt)
    (nonce : String) :
    let c := challengeOf s issuedAt expiresAt nonce
    let after := files.writeJson (challengePath sandbox) c.toJson
    requestApproval p files sandbox ttlSeconds now nonce = .ok (c, after) ∧
      Ready p after sandbox s c a := by
  intro c after
  obtain ⟨stateChallenge, _⟩ := paths_apart sandbox
  constructor
  · simp only [requestApproval, intact.state, ok_bind, intact.checks, intact.passing, review, isoText, issued,
      expires]
    rfl
  · refine ⟨intact.moved ⟨rfl, rfl, rfl, rfl, rfl, rfl, rfl, rfl, rfl⟩ ?_ ?_ intact.receipt, ?_, rfl, rfl⟩
    · intro path outside
      exact Files.writeJson_of_ne (fun same => outside (by simp [same, ownFiles])) files _
    · rw [loadState_writeJson stateChallenge, intact.state]
    · exact readRecord_writeJson c.normal_toJson c.ofJson_toJson

end MatVerse.Marxiv
