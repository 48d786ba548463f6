import MatVerse.InstitutionalProjection

/-! Every projection that is built passes the semantic validator, so a projection is
available exactly when its ledger verifies and its parts can be read. -/
namespace MatVerse

open Fallible InstitutionalContract

variable {host : Host} {isIsoFormat : String → Bool}

/-! ## The parts of a built projection -/

theorem equals_of {v expected : Json} {key : String} (held : v.get? key = some expected)
    (number : expected.isNan = false) : equals v key expected = true := by
  rw [equals, held]
  exact Json.pyEq_refl number

theorem textField_of {accepts : String → Bool} {v : Json} {key s : String} (held : v.get? key = some (.str s))
    (accepted : accepts s = true) : textField accepts v key = true := by
  rw [textField, held]
  exact accepted

theorem digestErrors_of {source : Json} {field digest : String} (held : source.get? field = some (.str digest))
    (lower : isLowerSha256 digest = true) : digestErrors source field = [] := by
  rw [digestErrors, textField_of held lower]
  rfl

theorem policyErrors_policy : policyErrors (some Projection.policy) = [] := by
  have unfolded : policyErrors (some Projection.policy) =
      errorIf (!isTrue (Projection.policy.get? "projection_only")) "projection_only must be true" ++
      errorIf (!equals Projection.policy "write_authority" (.str "NONE"))
        "institutional surface must have no canonical write authority" ++
      errorIf (!equals Projection.policy "allowed_operations" (texts allowedOperations))
        "allowed_operations mismatch" ++
      errorIf (!equals Projection.policy "forbidden_operations" (texts forbiddenOperations))
        "forbidden_operations mismatch" := rfl
  have only : Projection.policy.get? "projection_only" = some (.bool true) := by simp [Projection.policy]
  rw [unfolded, only, equals_of (by simp [Projection.policy]) rfl, equals_of (by simp [Projection.policy]) rfl,
    equals_of (by simp [Projection.policy]) rfl]
  rfl

/-- The binding a process builds passes the checks of the source. -/
theorem sourceErrors_binding (long : host.Sha256Length) {build : BuildConfiguration} {source : SourceBinding}
    (bound : buildBinding host build = .ok source) : sourceErrors (some (.dict source.toMapping)) = [] := by
  simp only [buildBinding, bind_ok, guard_ok, pure_ok] at bound
  obtain ⟨commit, frozen, _, constitutional, hashed, rfl⟩ := bound
  simp only [Bool.not_eq_true', Bool.not_eq_false] at commit frozen
  have lower : isLowerSha256 constitutional = true := by
    unfold constitutionalContractHash at hashed
    split at hashed <;> cases hashed
    exact isLowerSha256_sha256 long _
  generalize built : SourceBinding.mk _ _ _ _ _ = source
  have unfolded : sourceErrors (some (.dict source.toMapping)) =
      errorIf (!equals (.dict source.toMapping) "repository" (.str institutionalRepository))
        "source repository mismatch" ++
      errorIf (!textField isGitObjectId (.dict source.toMapping) "commit_sha")
        "source commit is not a supported Git object id" ++
      digestErrors (.dict source.toMapping) "frozen_contract_hash" ++
      digestErrors (.dict source.toMapping) "gate_fingerprint" ++
      digestErrors (.dict source.toMapping) "constitutional_contract_hash" := rfl
  subst built
  rw [unfolded, equals_of (by simp [SourceBinding.toMapping]) rfl,
    textField_of (by simp [SourceBinding.toMapping]) commit,
    digestErrors_of (by simp [SourceBinding.toMapping]) frozen,
    digestErrors_of (by simp [SourceBinding.toMapping]; rfl) (isLowerSha256_sha256 long _),
    digestErrors_of (by simp [SourceBinding.toMapping]) lower]
  rfl

theorem metadataErrors_projection {p : Projection} (hashed : isLowerSha256 p.projectionHash = true) :
    metadataErrors (some (.dict (p.metadata ++ [("projection_hash", .str p.projectionHash)]))) = [] := by
  generalize metadata : Json.dict (p.metadata ++ [("projection_hash", .str p.projectionHash)]) = projection
  have unfolded : metadataErrors (some projection) =
      errorIf (!equals projection "hash_algorithm" (.str "SHA-256")) "projection hash algorithm mismatch" ++
      errorIf (!equals projection "canonicalization" (.str "RFC8785_JCS"))
        "projection canonicalization mismatch" ++
      errorIf (!equals projection "hash_excludes" (texts ["projection.projection_hash"]))
        "projection hash exclusion mismatch" ++
      digestErrors projection "projection_hash" := by
    subst metadata
    rfl
  subst metadata
  rw [unfolded, equals_of (by simp [Projection.metadata]) rfl, equals_of (by simp [Projection.metadata]) rfl,
    equals_of (by simp [Projection.metadata]) rfl, digestErrors_of (by simp [Projection.metadata]) hashed]
  rfl

/-- An artifact passes when the registration it rests on is a pointer to evidence. -/
theorem itemErrors_artifact {a : ProjectedArtifact}
    (evident : ∀ e, a.evidence = some e → isLowerSha256 e.receiptHash = true ∧ isGitObjectId e.sourceCommit = true) :
    itemErrors host "artifacts" "artifact" "artifact_id" "status" a.toJson = [] := by
  have shaped : a.toJson.isObj = true := rfl
  rw [itemErrors, shaped]
  cases rests : a.evidence with
  | none => simp [ProjectedArtifact.toJson, rests, isStr]
  | some e =>
    obtain ⟨receipt, commit⟩ := evident e rests
    have pointer : isEvidencePointer e.toJson = true := by
      have object : e.toJson.isObj = true := rfl
      rw [isEvidencePointer, object, textField_of (by simp [RegistrationEvidence.toJson]; rfl) rfl,
        textField_of (by simp [RegistrationEvidence.toJson]) receipt,
        textField_of (by simp [RegistrationEvidence.toJson]) commit]
      rfl
    simp [ProjectedArtifact.toJson, rests, hasEvidence, pointer]

def Evident (e : RegistrationEvidence) : Prop :=
  isLowerSha256 e.receiptHash = true ∧ isGitObjectId e.sourceCommit = true

/-- A built projection with evidence behind its artifacts has no errors. -/
theorem validate_projection (long : host.Sha256Length) {build : BuildConfiguration} {p : Projection}
    (bound : buildBinding host build = .ok p.source)
    (evident : ∀ a ∈ p.artifacts, ∀ e, a.evidence = some e → Evident e)
    (hashed : isLowerSha256 p.projectionHash = true) :
    validateProjectionSemantics host p.toJson = .ok ⟨[]⟩ := by
  have artifacts : (p.artifacts.map ProjectedArtifact.toJson).flatMap
      (itemErrors host "artifacts" "artifact" "artifact_id" "status") = [] := by
    rw [List.flatMap_eq_nil_iff]
    intro v member
    obtain ⟨a, listed, rfl⟩ := List.mem_map.mp member
    exact itemErrors_artifact (evident a listed)
  have policy : p.toJson.get? "projection_policy" = some Projection.policy := by
    simp [Projection.toJson, Projection.document]
  have source : p.toJson.get? "source" = some (.dict p.source.toMapping) := by
    simp [Projection.toJson, Projection.document]
  have metadata : p.toJson.get? "projection" =
      some (.dict (p.metadata ++ [("projection_hash", .str p.projectionHash)])) := by
    simp [Projection.toJson, Projection.document]
  rw [validateProjectionSemantics, policy, source, metadata, policyErrors_policy, sourceErrors_binding long bound,
    metadataErrors_projection hashed]
  simp [Projection.toJson, Projection.document, iterateField, iterate, authorityTraces, readTraces, ok_bind, artifacts]

/-! ## Evidence -/

theorem eventSourceCommit_ok {event : Json} {seq : Nat} {commit : String}
    (read : eventSourceCommit event seq = .ok commit) : isGitObjectId commit = true := by
  unfold eventSourceCommit at read
  split at read
  · split at read <;> cases read
    assumption
  · cases read

theorem noteRegistration_evident {receipts receipts' : List (String × RegistrationEvidence)} {row : LedgerRow}
    (digest : isLowerSha256 row.eventHash = true) (noted : noteRegistration receipts row = .ok receipts')
    (evident : ∀ q ∈ receipts, Evident q.2) : ∀ q ∈ receipts', Evident q.2 := by
  unfold noteRegistration at noted
  split at noted
  · cases noted
    exact evident
  · simp only [bind_ok] at noted
    obtain ⟨eventType, _, noted⟩ := noted
    split at noted
    · cases noted
      exact evident
    · split at noted
      · simp only [bind_ok, pure_ok] at noted
        obtain ⟨commit, read, rfl⟩ := noted
        intro q member
        rcases Dict.mem_insert member with rfl | earlier
        · exact ⟨digest, eventSourceCommit_ok read⟩
        · exact evident q earlier
      · cases noted
        exact evident

theorem registrations_evident {ledger : List LedgerRow} {receipts receipts' : List (String × RegistrationEvidence)}
    (digests : ∀ row ∈ ledger, isLowerSha256 row.eventHash = true)
    (noted : ledger.foldlM noteRegistration receipts = .ok receipts') (evident : ∀ q ∈ receipts, Evident q.2) :
    ∀ q ∈ receipts', Evident q.2 := by
  induction ledger generalizing receipts with
  | nil =>
    cases noted
    exact evident
  | cons row rest ih =>
    simp only [List.foldlM_cons, bind_ok] at noted
    obtain ⟨next, one, others⟩ := noted
    exact ih (fun row member => digests row (List.mem_cons_of_mem _ member)) others
      (noteRegistration_evident (digests row (by simp)) one evident)

theorem projectContractArtifacts_evident {rows : List ArtifactRow} {commit : String} {ledger : List LedgerRow}
    {artifacts : List ProjectedArtifact} (digests : ∀ row ∈ ledger, isLowerSha256 row.eventHash = true)
    (projected : projectContractArtifacts rows commit ledger = .ok artifacts) :
    ∀ a ∈ artifacts, ∀ e, a.evidence = some e → Evident e := by
  simp only [projectContractArtifacts, bind_ok, pure_ok] at projected
  obtain ⟨receipts, noted, rfl⟩ := projected
  intro a member e rests
  obtain ⟨row, _, rfl⟩ := List.mem_map.mp member
  exact registrations_evident digests noted (by simp) _ (Dict.get?_mem rests)

/-! ## Availability -/

/-- What a projection needs of its ledger and of its configuration. -/
structure Projectable (host : Host) (isIsoFormat : String → Bool) (build : BuildConfiguration)
    (ledger : List LedgerRow) : Prop where
  checked : ∃ head, checkRows host genesis ledger = .ok head
  bound : ∃ source, buildBinding host build = .ok source
  events : ∀ row ∈ ledger, ∃ receipt, projectReceipt row = .ok receipt
  dated : ∃ time, projectionTime isIsoFormat build ledger = .ok time

theorem noteRegistration_of_receipt {row : LedgerRow} {receipt : ProjectedReceipt}
    (projected : projectReceipt row = .ok receipt) (receipts : List (String × RegistrationEvidence)) :
    ∃ receipts', noteRegistration receipts row = .ok receipts' := by
  unfold projectReceipt at projected
  unfold noteRegistration
  split at projected
  · cases projected
  next event read =>
    simp only [bind_ok, pure_ok] at projected
    obtain ⟨eventType, typed, commit, committed, _⟩ := projected
    simp only [typed, ok_bind]
    split
    · exact ⟨_, rfl⟩
    · split
      · exact ⟨_, by rw [committed]; rfl⟩
      · exact ⟨_, rfl⟩

theorem foldlM_noteRegistration {ledger : List LedgerRow}
    (events : ∀ row ∈ ledger, ∃ receipt, projectReceipt row = .ok receipt)
    (receipts : List (String × RegistrationEvidence)) :
    ∃ receipts', ledger.foldlM noteRegistration receipts = .ok receipts' := by
  induction ledger generalizing receipts with
  | nil => exact ⟨receipts, rfl⟩
  | cons row rest ih =>
    obtain ⟨receipt, projected⟩ := events row (by simp)
    obtain ⟨next, one⟩ := noteRegistration_of_receipt projected receipts
    obtain ⟨final, others⟩ := ih (fun row member => events row (List.mem_cons_of_mem _ member)) next
    exact ⟨final, by rw [List.foldlM_cons, one, ok_bind, others]⟩

theorem isPlainable_payload (p : Projection) : Jcs.isPlainable p.payload = true := by
  have receipts (rs : List ProjectedReceipt) : Jcs.arePlainable (rs.map ProjectedReceipt.toJson) = true := by
    rw [Jcs.arePlainable_iff]
    intro v member
    obtain ⟨r, _, rfl⟩ := List.mem_map.mp member
    apply Jcs.isPlainable_dict
    simp [Jcs.isPlainable]
  have artifacts (as : List ProjectedArtifact) : Jcs.arePlainable (as.map ProjectedArtifact.toJson) = true := by
    rw [Jcs.arePlainable_iff]
    intro v member
    obtain ⟨a, _, rfl⟩ := List.mem_map.mp member
    apply Jcs.isPlainable_dict
    cases rests : a.evidence with
    | none => simp [Jcs.isPlainable, Jcs.arePlainable]
    | some e =>
      have evidence : Jcs.isPlainable e.toJson = true := by
        apply Jcs.isPlainable_dict
        simp [Jcs.isPlainable]
      simp [Jcs.isPlainable, Jcs.arePlainable, evidence]
  have plainTexts (items : List String) : Jcs.isPlainable (texts items) = true := by
    rw [texts, Jcs.isPlainable, Jcs.arePlainable_iff]
    simp [Jcs.isPlainable]
  have source : Jcs.isPlainable (.dict p.source.toMapping) = true := by
    apply Jcs.isPlainable_dict
    simp [SourceBinding.toMapping, Jcs.isPlainable]
  have policy : Jcs.isPlainable Projection.policy = true := by
    apply Jcs.isPlainable_dict
    simp [Jcs.isPlainable, plainTexts]
  have metadata : Jcs.isPlainable (.dict p.metadata) = true := by
    apply Jcs.isPlainable_dict
    simp [Projection.metadata, Jcs.isPlainable, plainTexts]
  apply Jcs.isPlainable_dict
  simp [Jcs.isPlainable, Jcs.arePlainable, receipts, artifacts, source, policy, metadata]

/-- A projection is available exactly when its ledger verifies, its events can be read
and dated, and the build is bound: what is built passes the validator. -/
theorem buildProjection_iff (long : host.Sha256Length) (build : BuildConfiguration) (ledger : List LedgerRow)
    (artifacts : List ArtifactRow) :
    (∃ p, buildProjection host isIsoFormat build ledger artifacts = .ok p) ↔
      Projectable host isIsoFormat build ledger := by
  constructor
  · rintro ⟨p, built⟩
    obtain ⟨head, built⟩ := buildProjection_ok built
    refine ⟨⟨head, built.checked⟩, ⟨_, built.source⟩, ?_, ⟨_, built.generatedAt⟩⟩
    intro row member
    have receipts := built.receipts
    cases ledger with
    | nil => cases member
    | cons first rest =>
      exact mapM_each receipts row member
  · rintro ⟨⟨head, checked⟩, ⟨source, bound⟩, events, ⟨time, dated⟩⟩
    have digests : ∀ row ∈ ledger, isLowerSha256 row.eventHash = true := by
      intro row member
      rw [checkRows_eventHash checked row member]
      exact isLowerSha256_sha256 long _
    obtain ⟨noted, registrations⟩ := foldlM_noteRegistration events []
    have projected : projectContractArtifacts artifacts source.commitSha ledger =
        .ok (artifacts.map (projectArtifact source.commitSha noted)) := by
      rw [projectContractArtifacts, registrations]
      rfl
    obtain ⟨receipts, listed⟩ : ∃ receipts, projectReceipts host source.commitSha ledger = .ok receipts := by
      cases ledger with
      | nil => exact ⟨_, rfl⟩
      | cons first rest => exact mapM_ok events
    have report : verifyLedgerRows host ledger = .ok ledger.length head := chainReport_ok.mpr ⟨rfl, checked⟩
    rw [buildProjection, report]
    simp only [bound, projected, listed, dated, ok_bind]
    have valid (p : Projection) (sourced : p.source = source)
        (made : p.artifacts = artifacts.map (projectArtifact source.commitSha noted))
        (hashed : isLowerSha256 p.projectionHash = true) : validateProjectionSemantics host p.toJson = .ok ⟨[]⟩ :=
      validate_projection long (sourced ▸ bound) (made ▸ projectContractArtifacts_evident digests projected) hashed
    rw [jcsSubsetHash_of (Jcs.isPlainable_norm (isPlainable_payload _)), ok_bind, valid _ rfl rfl, ok_bind]
    · exact ⟨_, rfl⟩
    · exact isLowerSha256_sha256 long _

end MatVerse
