import MatVerse.MarxivSubmission

/-! What an approval binds. A signature covers the hash of a challenge and a package
hash; `verify_approval` compares the artifacts with the hashes in the unsigned state
and never the state's hashes with the challenge's. -/
namespace MatVerse.Marxiv

open Fallible

variable {p : Platform} {files : Files} {sandbox : String}

/-- A call of `approve` that signed. -/
structure Approved (p : Platform) where
  files : Files
  sandbox : String
  confirmation : String
  now : Int
  approverId : String
  later : Int
  state : PublisherState
  challenge : ApprovalChallenge
  approval : HumanApproval
  checked : checkApprovable p files sandbox confirmation now = .ok (state, challenge)
  signed : signApproval p state challenge approverId later = .ok approval

/-- A logged call signed this approval's tuple. -/
def SignedBy {p : Platform} (log : List (Approved p)) (a : HumanApproval) (call : Approved p) : Prop :=
  call ∈ log ∧ call.approval.challengeHash = a.challengeHash ∧
  call.approval.packageHash = a.packageHash ∧ call.approval.approverId = a.approverId ∧
  call.approval.expiresAt = a.expiresAt

/-- The approval's signature is that of no tuple but those a logged call signed. -/
def Unforged (p : Platform) (log : List (Approved p)) (a : HumanApproval) : Prop :=
  ∀ challengeHash packageHash approverId expiresAt,
    approvalSignature p challengeHash packageHash approverId expiresAt = .ok a.signature →
    ∃ call ∈ log, call.approval.challengeHash = challengeHash ∧ call.approval.packageHash = packageHash ∧
      call.approval.approverId = approverId ∧ call.approval.expiresAt = expiresAt

/-- The artifacts on disk are those of the challenge, and its package hash is theirs. -/
structure Bound (p : Platform) (a : Artifacts) (c : ApprovalChallenge) (packageHash : String) : Prop where
  object : stableHash p.toHost a.object = c.objectHash
  manifest : stableHash p.toHost a.manifest.toJson = c.manifestHash
  manuscript : p.sha256 a.manuscript = c.manuscriptSha256
  subfile : ∃ bytes, a.subfile = some bytes ∧ p.sha256 bytes = c.arxivSubfileSha256
  review : stableHash p.toHost a.review = c.reviewPacketHash
  package : packageHash = Marxiv.packageHash p c.objectHash c.manifestHash c.manuscriptSha256
    c.arxivSubfileSha256 c.reviewPacketHash

/-- The state repeats the challenge's five hashes, and its package hash is theirs. -/
structure Consistent (p : Platform) (s : PublisherState) (c : ApprovalChallenge) : Prop where
  object : s.objectHash = c.objectHash
  manifest : s.manifestHash = c.manifestHash
  manuscript : s.manuscriptSha256 = c.manuscriptSha256
  subfile : s.arxivSubfileSha256 = c.arxivSubfileSha256
  review : s.reviewPacketHash = c.reviewPacketHash
  package : s.packageHash = Marxiv.packageHash p c.objectHash c.manifestHash c.manuscriptSha256
    c.arxivSubfileSha256 c.reviewPacketHash

/-- The approval file that the state names. -/
def HoldsApproval (files : Files) (sandbox : String) (a : HumanApproval) : Prop :=
  ∃ s path, loadState files sandbox = .ok s ∧ s.approvalPath = some path ∧ readApproval files path = .ok a

/-- The artifacts on disk are bound to the challenge that was signed. -/
def BoundFiles (p : Platform) (files : Files) (sandbox : String) (log : List (Approved p)) : Prop :=
  ∃ s approval a call, loadState files sandbox = .ok s ∧ HoldsApproval files sandbox approval ∧
    readArtifacts p files s = .ok (.inr a) ∧ SignedBy log approval call ∧
    Bound p a call.challenge call.approval.packageHash

def ConsistentFiles (p : Platform) (files : Files) (sandbox : String) : Prop :=
  ∃ s c, loadState files sandbox = .ok s ∧ readChallenge files sandbox = .ok c ∧ Consistent p s c

theorem checks_true {s : PublisherState} {a : Artifacts} :
    (a.checks p s).all (·.2) = true ↔ stableHash p.toHost a.object = s.objectHash ∧
      stableHash p.toHost a.manifest.toJson = s.manifestHash ∧ p.sha256 a.manuscript = s.manuscriptSha256 ∧
      stableHash p.toHost a.review = s.reviewPacketHash ∧
      ∃ bytes, a.subfile = some bytes ∧ p.sha256 bytes = s.arxivSubfileSha256 := by
  cases subfile : a.subfile with
  | none => simp [Artifacts.checks, subfile]
  | some bytes => simp [Artifacts.checks, subfile]

/-- Checks that a missing file cut short do not all pass. -/
theorem readArtifacts_cut {s : PublisherState} {checks : Checks}
    (cut : readArtifacts p files s = .ok (.inl checks)) : checks.all (·.2) = false := by
  unfold readArtifacts at cut
  split_ifs at cut with absent
  · obtain rfl := Sum.inl.inj (Except.ok.inj cut)
    rw [Bool.not_eq_true'] at absent
    simpa [← Bool.and_assoc, -Bool.and_eq_false_imp] using absent
  · simp only [bind_ok] at cut
    obtain ⟨m, _, cut⟩ := cut
    cases found : files (p.resolveManuscript s.arxivManifestPath m.manuscriptFile) with
    | none =>
      simp only [found, pure_ok, Sum.inl.injEq] at cut
      rw [← cut]
      rfl
    | some bytes =>
      simp only [found, bind_ok, pure_ok, reduceCtorEq, and_false, exists_false] at cut

theorem package_ok {s : PublisherState} {checks : Checks}
    (done : currentPackageChecks p files s = .ok checks) (passing : checks.all (·.2) = true) :
    ∃ a, readArtifacts p files s = .ok (.inr a) ∧ checks = a.checks p s := by
  simp only [currentPackageChecks, bind_ok] at done
  obtain ⟨found, read, done⟩ := done
  cases found with
  | inl cut =>
    obtain rfl := Except.ok.inj done
    rw [readArtifacts_cut read] at passing
    cases passing
  | inr a => exact ⟨a, read, (Except.ok.inj done).symm⟩

/-- What a positive verification has checked of the files it read. -/
structure Verified (p : Platform) (files : Files) (sandbox : String) (s : PublisherState)
    (approval : HumanApproval) (c : ApprovalChallenge) (a : Artifacts) : Prop where
  state : loadState files sandbox = .ok s
  holds : HoldsApproval files sandbox approval
  challenge : readChallenge files sandbox = .ok c
  artifacts : readArtifacts p files s = .ok (.inr a)
  passing : (a.checks p s).all (·.2) = true
  signed : approvalSignature p (challengeHash p c) s.packageHash approval.approverId approval.expiresAt =
    .ok approval.signature
  challengeMatch : approval.challengeHash = challengeHash p c
  packageMatch : approval.packageHash = s.packageHash

theorem verifyApproval_ok {now : Int} {v : Verification}
    (verified : verifyApproval p files sandbox now = .ok v) (ok : v.ok = true) :
    ∃ s approval c a, Verified p files sandbox s approval c a := by
  simp only [verifyApproval, bind_ok] at verified
  obtain ⟨s, load, verified⟩ := verified
  split_ifs at verified with unnamed present
  · obtain rfl := Except.ok.inj verified
    cases ok
  · obtain rfl := Except.ok.inj verified
    cases ok
  simp only [bind_ok, pure_ok] at verified
  obtain ⟨approval, read, c, challenge, expected, signed, signedFlag, compared, expires, _, checks, package,
    rfl⟩ := verified
  simp only [Verification.ok, List.all_append, Bool.and_eq_true, List.all_map, Function.comp_def] at ok
  obtain ⟨own, passing⟩ := ok
  simp only [approvalChecks, List.all_cons, List.all_nil, Bool.and_true, Bool.and_eq_true, beq_iff_eq] at own
  obtain ⟨_, challengeMatch, packageMatch, _, rfl, _⟩ := own
  obtain ⟨a, artifacts, rfl⟩ := package_ok package passing
  have path : s.approvalPath = some (s.approvalPath.getD "") := by
    cases named : s.approvalPath with
    | none => simp [named] at unnamed
    | some path => rfl
  obtain rfl : expected = approval.signature := by
    cases outcome : compareDigest expected approval.signature with
    | error e => simp [outcome, Except.mapError] at compared
    | ok b =>
      obtain rfl : b = true := by simpa [outcome, Except.mapError] using compared
      exact compareDigest_true outcome
  exact ⟨s, approval, c, a, load, ⟨s, _, load, path, read⟩, challenge, artifacts, passing, signed,
    challengeMatch, packageMatch.1⟩

theorem challenge_unique (free : p.toHost.CollisionFree) {c d : ApprovalChallenge}
    (same : challengeHash p c = challengeHash p d) : c = d := by
  have documents : c.toJson.norm = d.toJson.norm := stableHash_injective free same
  have itself (e : ApprovalChallenge) : e.toJson.norm = e.toJson := e.normal_toJson
  rw [itself, itself] at documents
  have read := c.ofJson_toJson
  rw [documents, d.ofJson_toJson] at read
  exact (Option.some.inj read).symm

theorem holdsApproval_unique {a b : HumanApproval} (first : HoldsApproval files sandbox a)
    (second : HoldsApproval files sandbox b) : a = b := by
  obtain ⟨s, path, load, named, read⟩ := first
  obtain ⟨t, other, again, renamed, reread⟩ := second
  obtain rfl := Except.ok.inj (load.symm.trans again)
  obtain rfl := Option.some.inj (named.symm.trans renamed)
  exact Except.ok.inj (read.symm.trans reread)

/-- The challenge of a call that signed a challenge's hash is that challenge. -/
theorem Approved.challenge_eq (free : p.toHost.CollisionFree) {call : Approved p} {c : ApprovalChallenge}
    (hash : call.approval.challengeHash = challengeHash p c) : call.challenge = c := by
  obtain ⟨_, signedHash, _⟩ := signApproval_ok call.signed
  exact challenge_unique free (signedHash.symm.trans hash)

theorem Verified.consistent {s : PublisherState} {approval : HumanApproval} {c : ApprovalChallenge}
    {a : Artifacts} (verified : Verified p files sandbox s approval c a) (free : p.toHost.CollisionFree)
    {log : List (Approved p)} (bound : BoundFiles p files sandbox log) : Consistent p s c := by
  obtain ⟨object, manifest, manuscript, review, bytes, hasSubfile, subfile⟩ := checks_true.mp verified.passing
  obtain ⟨t, found, b, call, again, holds, reread, ⟨_, hash, package, _⟩, bound⟩ := bound
  obtain rfl := Except.ok.inj (verified.state.symm.trans again)
  obtain rfl := Sum.inr.inj (Except.ok.inj (verified.artifacts.symm.trans reread))
  obtain rfl := holdsApproval_unique verified.holds holds
  rw [Approved.challenge_eq free (hash.trans verified.challengeMatch)] at bound
  obtain ⟨some, inBytes, boundSubfile⟩ := bound.subfile
  obtain rfl := Option.some.inj (hasSubfile.symm.trans inBytes)
  refine ⟨?_, ?_, ?_, ?_, ?_, ?_⟩
  · rw [← object, bound.object]
  · rw [← manifest, bound.manifest]
  · rw [← manuscript, bound.manuscript]
  · rw [← subfile, boundSubfile]
  · rw [← review, bound.review]
  · rw [← verified.packageMatch, ← package, bound.package]

theorem Verified.bound {s : PublisherState} {approval : HumanApproval} {c : ApprovalChallenge}
    {a : Artifacts} (verified : Verified p files sandbox s approval c a) (free : p.toHost.CollisionFree)
    {log : List (Approved p)} (unforged : Unforged p log approval) (consistent : Consistent p s c) :
    BoundFiles p files sandbox log := by
  obtain ⟨object, manifest, manuscript, review, bytes, hasSubfile, subfile⟩ := checks_true.mp verified.passing
  obtain ⟨call, logged, hash, package, approver, expires⟩ := unforged _ _ _ _ verified.signed
  refine ⟨s, approval, a, call, verified.state, verified.holds, verified.artifacts,
    ⟨logged, hash.trans verified.challengeMatch.symm, package.trans verified.packageMatch.symm, approver,
      expires⟩, ?_⟩
  rw [Approved.challenge_eq free hash, package]
  exact ⟨object.trans consistent.object, manifest.trans consistent.manifest,
    manuscript.trans consistent.manuscript, ⟨bytes, hasSubfile, subfile.trans consistent.subfile⟩,
    review.trans consistent.review, consistent.package⟩

/-- A verified approval binds the artifacts on disk to the signed challenge exactly when
the state repeats the challenge's hashes and their package hash. -/
theorem approval_binds_iff (free : p.toHost.CollisionFree) {log : List (Approved p)} {now : Int}
    {v : Verification} (unforged : ∀ a, HoldsApproval files sandbox a → Unforged p log a)
    (verified : verifyApproval p files sandbox now = .ok v) (ok : v.ok = true) :
    BoundFiles p files sandbox log ↔ ConsistentFiles p files sandbox := by
  obtain ⟨s, approval, c, a, verified⟩ := verifyApproval_ok verified ok
  constructor
  · intro bound
    exact ⟨s, c, verified.state, verified.challenge, verified.consistent free bound⟩
  · rintro ⟨t, d, again, reread, consistent⟩
    obtain rfl := Except.ok.inj (verified.state.symm.trans again)
    obtain rfl := Except.ok.inj (verified.challenge.symm.trans reread)
    exact verified.bound free (unforged approval verified.holds) consistent

/-! ## A package replaced under its approval -/

/-- A keyed digest that no two messages share under one key. -/
def Unforgeable (p : Platform) : Prop := ∀ key, Function.Injective (p.hmac key)

/-- Where digests are injective, the log of one call accounts for its signature. -/
theorem unforged_signed (unforgeable : Unforgeable p) (call : Approved p) :
    Unforged p [call] call.approval := by
  intro challengeHash packageHash approverId expiresAt made
  obtain ⟨_, hash, package, approver, expires, signed⟩ := signApproval_ok call.signed
  simp only [approvalSignature, bind_ok, pure_ok] at made signed
  obtain ⟨key, secret, made⟩ := made
  obtain ⟨key', secret', signed⟩ := signed
  obtain rfl := Except.ok.inj (secret.symm.trans secret')
  have payloads := canonicalJson_injective
    (String.toByteArray_inj.mp (unforgeable _ (made.trans signed.symm)))
  have field (key : String) := congrArg (Json.get? key) payloads
  have ofHash := field "challenge_hash"
  have ofPackage := field "package_hash"
  have ofApprover := field "approver_id"
  have ofExpiry := field "expires_at"
  simp [approvalPayload] at ofHash ofPackage ofApprover ofExpiry
  exact ⟨call, by simp, by rw [hash, ofHash], by rw [package, ofPackage], by rw [approver, ofApprover],
    by rw [expires, ofExpiry]⟩

/-- The approval of a ready sandbox verifies, with its one call for a log. -/
theorem ready_verifies (unforgeable : Unforgeable p) {s : PublisherState} {c : ApprovalChallenge}
    {a : Artifacts} (ready : Ready p files sandbox s c a) {approverId confirmation : String} {now : Int}
    (signable : Signable p c approverId confirmation now now) :
    ∃ (call : Approved p) (after : Files) (v : Verification),
      (approve p files sandbox approverId confirmation now now).2 = after ∧ call.files = files ∧
      verifyApproval p after sandbox now = .ok v ∧ v.ok = true ∧
      (∀ a, HoldsApproval after sandbox a → Unforged p [call] a) ∧
      readChallenge after sandbox = .ok c ∧
      ∃ t, loadState after sandbox = .ok t ∧ (Consistent p t c ↔ Consistent p s c) := by
  obtain ⟨expires, expiry, early⟩ := signable.early
  obtain ⟨approval, prior, signed, _, done⟩ := approve_ready ready signable
  have after := ready.approved prior approval
  obtain ⟨v, verified, ok⟩ := verify_approved ready signed prior expiry early
  have checked : checkApprovable p files sandbox confirmation now = .ok (s, c) :=
    checkApprovable_ok.mpr ⟨ready.state, readRecord_isFile ready.challenge, ready.challenge,
      signable.phrase, signable.early, ready.package, ready.publication, _, ready.checks, ready.passing⟩
  let call : Approved p := ⟨files, sandbox, confirmation, now, approverId, now, s, c, approval, checked, signed⟩
  refine ⟨call, approvedFiles p files sandbox s prior approval, v, by rw [done], rfl, verified, ok, ?_,
    after.challenge, _, after.state, ?_⟩
  · intro found holds
    have written : HoldsApproval (approvedFiles p files sandbox s prior approval) sandbox approval :=
      ⟨_, _, after.state, rfl, read_approved p files sandbox s prior approval⟩
    rw [holdsApproval_unique holds written]
    exact unforged_signed unforgeable call
  · constructor
    · rintro ⟨object, manifest, manuscript, subfile, review, package⟩
      exact ⟨object, manifest, manuscript, subfile, review, package⟩
    · rintro ⟨object, manifest, manuscript, subfile, review, package⟩
      exact ⟨object, manifest, manuscript, subfile, review, package⟩

def otherObject : MarxivScientificObject := { sampleObject with title := "Another paper" }
def otherManifest : ArxivManifest := { sampleManifest with title := "Another paper" }

def otherState : PublisherState :=
  preparedState samplePlatform sampleSandbox otherObject otherManifest "manuscript".toUTF8
    "subfile".toUTF8

theorem sample_unforgeable : Unforgeable samplePlatform := by
  intro key a b same
  exact (ByteArray.append_right_inj key).mp (Hex.text_injective same)

theorem sameArtifacts_package (s : PublisherState) (packageHash : String) :
    SameArtifacts s { s with packageHash := packageHash } :=
  ⟨rfl, rfl, rfl, rfl, rfl, rfl, rfl, rfl, rfl⟩

theorem priorReceipt_package (s : PublisherState) (packageHash : String) :
    priorReceipt { s with packageHash := packageHash } = priorReceipt s := rfl

/-- The package of another object under the sample's challenge and package hash. -/
theorem replaced_ready : ∃ prepared requested replaced a b,
    Ready samplePlatform requested sampleSandbox sampleState sampleChallenge b ∧
    prepareSandbox samplePlatform requested sampleSandbox otherObject "paper.tex" "manuscript".toUTF8
      sampleTransport = .ok (otherState, prepared) ∧
    replaced = (saveState prepared sampleSandbox
      { otherState with packageHash := sampleState.packageHash }).writeJson
        (challengePath sampleSandbox) sampleChallenge.toJson ∧
    Ready samplePlatform replaced sampleSandbox
      { otherState with packageHash := sampleState.packageHash } sampleChallenge a := by
  obtain ⟨start, requested, b, _, _, ready⟩ := sample_ready
  have valid : ArxivManifest.ofJson (manifestPayload otherObject (manuscriptRef "paper.tex")) =
      some otherManifest := rfl
  have resolves : samplePlatform.resolveManuscript (manifestPath sampleSandbox)
      otherManifest.manuscriptFile = sampleSandbox ++ "/" ++ manuscriptRef "paper.tex" := by decide
  have distinct : (packagePaths sampleSandbox "paper.tex" otherManifest.publicationId
      (sampleTransport otherManifest).subfilePath ++ ownFiles sampleSandbox).Nodup := by decide
  obtain ⟨stateChallenge, _⟩ := paths_apart sampleSandbox
  obtain ⟨files, a, prepares, found⟩ :=
    prepared requested "manuscript".toUTF8 valid rfl resolves rfl distinct
  have intact : Intact samplePlatform files sampleSandbox otherState a := found
  refine ⟨files, requested, _, a, b, ready, prepares, rfl, ?_, ?_, rfl, rfl⟩
  · apply intact.moved (sameArtifacts_package otherState _)
    · intro path outside
      have state : path ≠ statePath sampleSandbox := fun same => outside (by simp [same, ownFiles])
      have challenge : path ≠ challengePath sampleSandbox := fun same => outside (by simp [same, ownFiles])
      rw [Files.writeJson_of_ne challenge, saveState, Files.writeJson_of_ne state]
    · rw [loadState_writeJson stateChallenge, loadState_saveState]
    · rw [priorReceipt_package]
      exact intact.receipt
  · exact readRecord_writeJson sampleChallenge.normal_toJson sampleChallenge.ofJson_toJson

theorem other_inconsistent : ¬ Consistent samplePlatform
    { otherState with packageHash := sampleState.packageHash } sampleChallenge := by
  intro consistent
  have objects : otherObject.toJson.norm = sampleObject.toJson.norm :=
    stableHash_injective hexHost_collisionFree consistent.object
  have titles := congrArg (Json.get? "title") objects
  simp [MarxivScientificObject.toJson, otherObject, sampleObject] at titles

theorem consistent_prepared (p : Platform) (sandbox : String) (o : MarxivScientificObject)
    (m : ArxivManifest) (manuscript subfile : ByteArray) (issuedAt expiresAt nonce : String) :
    Consistent p (preparedState p sandbox o m manuscript subfile)
      (challengeOf (preparedState p sandbox o m manuscript subfile) issuedAt expiresAt nonce) :=
  ⟨rfl, rfl, rfl, rfl, rfl, rfl⟩

/-- Every artifact is replaced by another object's between the challenge and its
approval; the approval verifies and binds none of them. -/
theorem replaced_package_verifies : ∃ (call : Approved samplePlatform) (requested after : Files)
    (b : Artifacts) (v : Verification),
    hexHost.CollisionFree ∧
    Ready samplePlatform requested sampleSandbox sampleState sampleChallenge b ∧
    readChallenge after sampleSandbox = .ok sampleChallenge ∧
    (∀ a, HoldsApproval after sampleSandbox a → Unforged samplePlatform [call] a) ∧
    verifyApproval samplePlatform after sampleSandbox issued = .ok v ∧ v.ok = true ∧
    ¬ BoundFiles samplePlatform after sampleSandbox [call] := by
  obtain ⟨_, requested, replaced, a, b, ready, _, _, edited⟩ := replaced_ready
  obtain ⟨call, after, v, _, _, verifies, ok, unforged, challenge, t, load, same⟩ :=
    ready_verifies sample_unforgeable edited sample_signable
  refine ⟨call, requested, after, b, v, hexHost_collisionFree, ready, challenge, unforged, verifies, ok, ?_⟩
  intro bound
  obtain ⟨s, approval, c, found, verified⟩ := verifyApproval_ok verifies ok
  have consistent := verified.consistent hexHost_collisionFree bound
  obtain rfl := Except.ok.inj (verified.state.symm.trans load)
  obtain rfl := Except.ok.inj (verified.challenge.symm.trans challenge)
  exact other_inconsistent (same.mp consistent)

/-- The approval of an untouched sandbox binds its artifacts. -/
theorem approval_binds_sample : ∃ (call : Approved samplePlatform) (after : Files) (v : Verification),
    verifyApproval samplePlatform after sampleSandbox issued = .ok v ∧ v.ok = true ∧
    ConsistentFiles samplePlatform after sampleSandbox ∧
    (BoundFiles samplePlatform after sampleSandbox [call] ↔
      ConsistentFiles samplePlatform after sampleSandbox) := by
  obtain ⟨_, requested, a, _, _, ready⟩ := sample_ready
  obtain ⟨call, after, v, _, _, verified, ok, unforged, challenge, t, load, same⟩ :=
    ready_verifies sample_unforgeable ready sample_signable
  exact ⟨call, after, v, verified, ok,
    ⟨t, sampleChallenge, load, challenge, same.mpr (consistent_prepared ..)⟩,
    approval_binds_iff hexHost_collisionFree unforged verified ok⟩

end MatVerse.Marxiv
