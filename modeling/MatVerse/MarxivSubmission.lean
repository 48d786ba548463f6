import MatVerse.MarxivSandbox
import MatVerse.Lib.Run

/-! How often a prepared sandbox is submitted. `publish` leaves the approved status
before it invokes the transport, but `approve` looks at the challenge and the
package and not at the status, so a submitted sandbox can be approved again. -/
namespace MatVerse.Marxiv

open Fallible

variable {p : Platform} {files : Files} {sandbox : String}

/-- The statuses that follow the final click. -/
def Status.clicked : Status → Bool
  | .submittedToArxiv => true
  | .holdReconciliationRequired => true
  | .reconciled => true
  | _ => false

def Clicked (files : Files) (sandbox : String) : Prop :=
  ∃ s, loadState files sandbox = .ok s ∧ s.status.clicked = true

/-- An approval whose every check passes: challenge file, phrase, expiry, binding,
package, secret and approver. -/
def Approvable (p : Platform) (sandbox : String) (files : Files) : Op → Prop
  | .approve approverId confirmation now later => ∃ s c a prior,
    checkApprovable p files sandbox confirmation now = .ok (s, c) ∧
    signApproval p s c approverId later = .ok a ∧ priorReceipt s = .ok prior
  | _ => False

/-- One step of the publisher on a sandbox. -/
def Steps (p : Platform) (sandbox : String) (files : Files) (op : Op) (after : Files) : Prop :=
  after = apply p files sandbox op

/-- A step that approves nothing after the final click. -/
def Guarded (p : Platform) (sandbox : String) (files : Files) (op : Op) (after : Files) : Prop :=
  ¬ (Clicked files sandbox ∧ Approvable p sandbox files op) ∧ Steps p sandbox files op after

/-- An approval with a failing check leaves the state file. -/
theorem approve_keeps {approverId confirmation : String} {now later : Int}
    (refused : ¬ Approvable p sandbox files (.approve approverId confirmation now later)) :
    loadState (approve p files sandbox approverId confirmation now later).2 sandbox =
      loadState files sandbox := by
  unfold approve
  cases checked : checkApprovable p files sandbox confirmation now with
  | error e => rfl
  | ok found =>
    obtain ⟨s, c⟩ := found
    cases signed : signApproval p s c approverId later with
    | error e => simp only [signed]
    | ok a =>
      obtain ⟨_, apart, _⟩ := paths_apart sandbox
      cases receipt : priorReceipt s with
      | error e => simp only [signed, receipt, loadState_writeJson apart]
      | ok prior => exact absurd ⟨s, c, a, prior, checked, signed, receipt⟩ refused

/-- A publish from another status than the approved one does nothing. -/
theorem publish_blocked (p : Platform) (now : Int) (login : Option String) (outcome : TransportOutcome)
    {s : PublisherState} (load : loadState files sandbox = .ok s) (status : s.status ≠ .approved) :
    (publish p files sandbox now login outcome).invoked = false ∧
    (publish p files sandbox now login outcome).files = files := by
  unfold publish
  cases begun : beginSubmission p files sandbox now login with
  | error e => exact ⟨rfl, rfl⟩
  | ok submitting =>
    obtain ⟨t, found, approved, _⟩ := beginSubmission_ok begun
    obtain rfl := Except.ok.inj (load.symm.trans found)
    exact absurd approved status

theorem clicked_not_approved {s : Status} (clicked : s.clicked = true) : s ≠ .approved := by
  rintro rfl
  cases clicked

theorem Clicked.step {after : Files} {op : Op} (clicked : Clicked files sandbox)
    (guarded : Guarded p sandbox files op after) : Clicked after sandbox := by
  obtain ⟨s, load, status⟩ := clicked
  obtain ⟨refused, rfl⟩ := guarded
  cases op with
  | requestApproval ttlSeconds now nonce =>
    simp only [apply]
    cases done : requestApproval p files sandbox ttlSeconds now nonce with
    | error e => exact ⟨s, load, status⟩
    | ok result =>
      obtain ⟨c, after⟩ := result
      obtain ⟨t, _, _, _, found, _, _, review, _⟩ := requestApproval_ok done
      obtain rfl := Except.ok.inj (load.symm.trans found)
      rw [review] at status
      cases status
  | approve approverId confirmation now later =>
    have kept := approve_keeps (fun approvable => refused ⟨⟨s, load, status⟩, approvable⟩)
    exact ⟨s, kept.trans load, status⟩
  | publish now login outcome =>
    obtain ⟨_, unchanged⟩ := publish_blocked p now login outcome load (clicked_not_approved status)
    exact ⟨s, by rw [apply, unchanged, load], status⟩
  | reconcile arxivId =>
    simp only [apply]
    cases done : reconcile p files sandbox arxivId with
    | error e => exact ⟨s, load, status⟩
    | ok result =>
      obtain ⟨t, after⟩ := result
      obtain ⟨reconciled, rfl⟩ := reconcile_ok done
      exact ⟨t, loadState_saveState t, by rw [reconciled]; rfl⟩

/-- Once a publish has performed the final click, while no approval passes its checks
no later state is approved and the transport is not invoked again. -/
theorem at_most_one_submission {before after : Files} {now : Int} {login : Option String}
    {outcome : TransportOutcome} {later : List Op}
    (clicked : Clicked (publish p before sandbox now login outcome).files sandbox)
    (run : Run (Guarded p sandbox) (publish p before sandbox now login outcome).files later after) :
    (∀ s, loadState after sandbox = .ok s → s.status ≠ .approved) ∧
      ∀ op, invokes p after sandbox op = false := by
  obtain ⟨s, load, status⟩ := run.invariant (fun f => Clicked f sandbox)
    (fun _ _ _ clicked guarded => clicked.step guarded) clicked
  have apart := clicked_not_approved status
  constructor
  · intro t found
    obtain rfl := Except.ok.inj (load.symm.trans found)
    exact apart
  · intro op
    cases op with
    | publish now login outcome => exact (publish_blocked p now login outcome load apart).1
    | _ => rfl

/-! ## A sandbox submitted twice -/

theorem ArxivManifest.normal_toJson (m : ArxivManifest) : m.toJson.Normal := by
  have text (o : Option String) : (optText o).Normal := by cases o <;> rfl
  have list (items : List String) : (strs items).Normal := by
    apply Json.normal_arr.mpr
    intro v member
    obtain ⟨s, _, rfl⟩ := List.mem_map.mp member
    rfl
  have option : (m.keepAllFiles.elim Json.null Json.bool).Normal := by
    cases m.keepAllFiles <;> rfl
  apply Json.normal_dict
  intro pair member
  simp only [List.mem_cons, List.not_mem_nil, or_false] at member
  rcases member with rfl | rfl | rfl | rfl | rfl | rfl | rfl | rfl | rfl | rfl | rfl | rfl | rfl | rfl | rfl |
    rfl | rfl | rfl
  all_goals first | rfl | exact text _ | exact list _ | exact option

/-- The files of a package, by path. -/
def packagePaths (sandbox name publicationId subfile : String) : List String :=
  [sandbox ++ "/" ++ manuscriptRef name, objectPath sandbox, manifestPath sandbox,
    transportStatePath sandbox publicationId, subfile, reviewPath sandbox]

theorem prepared (files : Files) {o : MarxivScientificObject} {m : ArxivManifest} {name : String}
    (manuscript : ByteArray) {transport : ArxivManifest → Transport}
    (valid : ArxivManifest.ofJson (manifestPayload o (manuscriptRef name)) = some m)
    (reads : ArxivManifest.ofJson m.toJson = some m)
    (resolves : p.resolveManuscript (manifestPath sandbox) m.manuscriptFile =
      sandbox ++ "/" ++ manuscriptRef name)
    (names : subfilePath (transport m).stateDocument.norm = .ok (transport m).subfilePath)
    (distinct : (packagePaths sandbox name m.publicationId (transport m).subfilePath ++
      ownFiles sandbox).Nodup) :
    ∃ after a, prepareSandbox p files sandbox o name manuscript transport =
        .ok (preparedState p sandbox o m manuscript (transport m).subfile, after) ∧
      Intact p after sandbox (preparedState p sandbox o m manuscript (transport m).subfile) a := by
  let state := preparedState p sandbox o m manuscript (transport m).subfile
  let review := reviewPacket o m state.manuscriptSha256 state.objectHash state.manifestHash
    state.arxivSubfileSha256
  have prepares : ∃ after, prepareSandbox p files sandbox o name manuscript transport = .ok (state, after) := by
    simp only [prepareSandbox, valid]
    exact ⟨_, rfl⟩
  obtain ⟨after, done⟩ := prepares
  have content := done
  simp only [prepareSandbox, valid, Except.ok.injEq, Prod.mk.injEq] at content
  obtain ⟨_, content⟩ := content
  have outside := List.nodup_append.mp distinct
  simp only [packagePaths, ownFiles, List.cons_append, List.nil_append, List.nodup_cons, List.mem_cons,
    List.not_mem_nil, or_false, not_or] at distinct
  obtain ⟨⟨m1, m2, m3, m4, m5, m6, _⟩, ⟨o1, o2, o3, o4, o5, _⟩, ⟨f1, f2, f3, f4, _⟩, ⟨t1, t2, t3, _⟩,
    ⟨s1, s2, _⟩, ⟨r1, _⟩, _⟩ := distinct
  have at_ (path : String) : after path = _ := congrFun content.symm path
  simp only [saveState, Files.writeJson, Files.write_apply] at at_
  have atManuscript := at_ (sandbox ++ "/" ++ manuscriptRef name)
  have atObject := at_ (objectPath sandbox)
  have atManifest := at_ (manifestPath sandbox)
  have atTransport := at_ (transportStatePath sandbox m.publicationId)
  have atSubfile := at_ (transport m).subfilePath
  have atReview := at_ (reviewPath sandbox)
  simp only [m1, m2, m3, m4, m5, m6, o1, o2, o3, o4, o5, f1, f2, f3, f4, t1, t2, t3, s1, s2, r1, if_true,
    if_false] at atManuscript atObject atManifest atTransport atSubfile atReview
  have itself : m.toJson.norm = m.toJson := m.normal_toJson
  have manifest : readManifest after (manifestPath sandbox) = .ok m := by
    simp only [readManifest, readRecord, Files.readJson_document atManifest, itself, reads]
    rfl
  have bridge : readDocument after (transportStatePath sandbox m.publicationId) =
      .ok (transport m).stateDocument.norm := by
    simp only [readDocument, Files.readJson_document atTransport]
  refine ⟨after, ⟨o.toJson.norm, m, manuscript, review.norm, some (transport m).subfile⟩, done, ?_, ?_, ?_, ?_,
    ?_⟩
  · rw [← content]
    exact loadState_saveState state
  · refine readArtifacts_ok.mpr ⟨?_, ?_, ?_, ?_, ?_, ?_, ⟨(transport m).stateDocument.norm, _, ?_, names, ?_⟩,
      ?_, ?_⟩
    · simp [Files.isFile, preparedState, atObject]
    · simp [Files.isFile, preparedState, atManifest]
    · simp [Files.isFile, preparedState, atTransport]
    · simp [Files.isFile, preparedState, atReview]
    · exact manifest
    · simp [preparedState, resolves, atManuscript]
    · exact bridge
    · simpa using atSubfile
    · simp only [readDocument, preparedState, Files.readJson_document atObject]
    · simp only [readDocument, preparedState, Files.readJson_document atReview]
      rfl
  · simp [passes, Artifacts.checks, preparedState, review, state]
  · intro path own artifact
    refine outside.2.2 path ?_ path own rfl
    cases artifact with
    | object => simp [packagePaths, preparedState]
    | manifest => simp [packagePaths, preparedState]
    | transport => simp [packagePaths, preparedState]
    | review => simp [packagePaths, preparedState]
    | manuscript read =>
      obtain rfl := Except.ok.inj (manifest.symm.trans read)
      rw [show state.arxivManifestPath = manifestPath sandbox from rfl, resolves]
      simp [packagePaths]
    | subfile read subfile =>
      obtain rfl := Except.ok.inj (bridge.symm.trans read)
      rw [Except.ok.inj (subfile.symm.trans names)]
      simp [packagePaths]
  · simp [priorReceipt, preparedState, EvidenceReceipt.toJson, EvidenceReceipt.core]

theorem endSubmission_invoked (s : PublisherState) (outcome : TransportOutcome) :
    (endSubmission p files sandbox s outcome).invoked = true := by
  cases outcome with
  | returned result =>
    simp only [endSubmission]
    split <;> rfl
  | submissionError => rfl
  | raised => rfl

theorem publish_invoked {now : Int} {login : Option String} {s : PublisherState}
    (begun : beginSubmission p files sandbox now login = .ok s) (outcome : TransportOutcome) :
    (publish p files sandbox now login outcome).invoked = true := by
  simp only [publish, begun]
  exact endSubmission_invoked s outcome

/-- A clicked submission of a ready sandbox leaves it ready, in a clicked status. -/
theorem Ready.submitted {s : PublisherState} {c : ApprovalChallenge} {a : Artifacts}
    (ready : Ready p files sandbox s c a) {now : Int} {receipt : Record.Object}
    (begun : beginSubmission p files sandbox now none = .ok (s.moved .submitting receipt))
    {result : Mapping} (clicked : flag result "final_click_performed" = true) :
    ∃ t, t.status.clicked = true ∧
      Ready p (publish p files sandbox now none (.returned result)).files sandbox t c a := by
  obtain ⟨stateChallenge, _, stateResult, _, challengeResult, _⟩ := paths_apart sandbox
  let status := if flag result "portal_confirmation_observed" then Status.submittedToArxiv
    else .holdReconciliationRequired
  let t := Marxiv.submitted p (s.moved .submitting receipt) status
    (flag result "portal_confirmation_observed")
  have after : (publish p files sandbox now none (.returned result)).files =
      (saveState (saveState files sandbox (s.moved .submitting receipt)) sandbox t).writeJson
        (resultPath sandbox) (.dict result) := by
    simp only [publish, begun, endSubmission, clicked, Bool.not_true, Bool.false_eq_true, if_false]
    rfl
  refine ⟨t, ?_, ?_⟩
  · simp only [t, Marxiv.submitted, PublisherState.moved, status]
    split <;> rfl
  · rw [after]
    apply ready.moved
    · exact ⟨⟨rfl, rfl, rfl, rfl, rfl, rfl, rfl, rfl, rfl⟩, rfl, rfl⟩
    · intro path outside
      have state : path ≠ statePath sandbox := fun same => outside (by simp [same, ownFiles])
      have result : path ≠ resultPath sandbox := fun same => outside (by simp [same, ownFiles])
      rw [Files.writeJson_of_ne result, saveState, Files.writeJson_of_ne state, saveState,
        Files.writeJson_of_ne state]
    · rw [Files.writeJson_of_ne challengeResult, saveState, Files.writeJson_of_ne stateChallenge.symm,
        saveState, Files.writeJson_of_ne stateChallenge.symm]
    · rw [loadState_writeJson stateResult, loadState_saveState]
    · exact priorReceipt_status _ _ _ _ rfl

/-- A ready sandbox can be approved, submitted, approved again and submitted again. -/
theorem submitted_twice {s : PublisherState} {c : ApprovalChallenge} {a : Artifacts}
    (ready : Ready p files sandbox s c a) {approverId confirmation : String} {now : Int}
    (signable : Signable p c approverId confirmation now now) (result : Mapping)
    (clicked : flag result "final_click_performed" = true) :
    let approves := Op.approve approverId confirmation now now
    let publishes := Op.publish now none (.returned result)
    ∃ approved once again, Run (Steps p sandbox) files [approves] approved ∧
      once = (publish p approved sandbox now none (.returned result)).files ∧ Clicked once sandbox ∧
      Run (Steps p sandbox) once [approves] again ∧
      (∃ t, loadState again sandbox = .ok t ∧ t.status = .approved) ∧
      invokes p again sandbox publishes = true := by
  intro approves publishes
  obtain ⟨expires, expiry, early⟩ := signable.early
  obtain ⟨approval, prior, signed, _, first⟩ := approve_ready ready signable
  have ready1 := ready.approved prior approval
  obtain ⟨receipt, begun⟩ := begin_approved ready signed prior expiry early
  obtain ⟨t, status, ready2⟩ := ready1.submitted begun clicked
  obtain ⟨approval', prior', signed', _, second⟩ := approve_ready ready2 signable
  obtain ⟨receipt', begun'⟩ := begin_approved ready2 signed' prior' expiry early
  have ready3 := ready2.approved prior' approval'
  have afterFirst : apply p files sandbox approves = approvedFiles p files sandbox s prior approval := by
    simp only [approves, apply, first]
  refine ⟨apply p files sandbox approves, _, apply p _ sandbox approves, .single rfl, rfl, ?_, .single rfl,
    ?_, ?_⟩
  · rw [afterFirst]
    exact ⟨t, ready2.state, status⟩
  · rw [afterFirst]
    simp only [approves, apply, second]
    exact ⟨_, ready3.state, rfl⟩
  · rw [afterFirst]
    simp only [approves, publishes, apply, second, invokes]
    exact publish_invoked begun' _

def sampleSandbox : String := "/marxiv/paper/1"

def sampleObject : MarxivScientificObject where
  objectId := "paper"
  version := "1"
  title := "A paper"
  authors := [⟨"An Author", none, none⟩]
  abstract := "An abstract of twenty characters."
  manuscriptFile := "paper.tex"
  keywords := []
  claims := []
  evidenceRefs := []
  parentObjectId := none
  publication := ⟨"cs", "cs.DL", [], [], "CC BY 4.0", none, none, none, none, none, none, none⟩

def sampleManifest : ArxivManifest :=
  ⟨"paper-1-arxiv", "manuscript/paper.tex", "cs", "cs.DL", [], [], "CC BY 4.0", "A paper", ["An Author"],
    "An abstract of twenty characters.", none, none, none, none, none, none, none⟩

def sampleSubfile : String := "/marxiv/paper/1/transport/paper-1-arxiv/arxiv.sub"

def sampleTransport (_ : ArxivManifest) : Transport :=
  ⟨.dict [("subfile_path", .str sampleSubfile)], sampleSubfile, "subfile".toUTF8⟩

def issued : Int := 1767225600000000
def expiry : Int := 1767232800000000

/-- Digests that spell out their input, and a calendar of two moments. -/
def samplePlatform : Platform where
  toHost := hexHost
  approvalSecret := some "an approval secret of at least 32 bytes"
  iso t := if t = issued then some "2026-01-01T00:00:00Z"
    else if t = expiry then some "2026-01-01T02:00:00Z" else none
  parseIso text := if text = "2026-01-01T00:00:00Z" then some issued
    else if text = "2026-01-01T02:00:00Z" then some expiry else none
  resolveManuscript manifest file :=
    String.ofList (manifest.toList.reverse.dropWhile (· != '/')).reverse ++ file
  isDecimal := Char.isDigit

theorem sampleManifest_valid :
    ArxivManifest.ofJson (manifestPayload sampleObject (manuscriptRef "paper.tex")) = some sampleManifest ∧
    ArxivManifest.ofJson sampleManifest.toJson = some sampleManifest := by
  constructor
  · rfl
  · rfl

/-- A confirmation phrase that names a digest is its own stripped form. -/
theorem strip_requiredConfirmation {c : ApprovalChallenge} (digits : Hex.Digits c.packageHash)
    (nonempty : c.packageHash ≠ "") : Text.strip (requiredConfirmation c) = requiredConfirmation c := by
  have chars : (requiredConfirmation c).toList =
      ("PUBLISH ".toList ++ c.publicationId.toList ++ " ".toList) ++ c.packageHash.toList.take 12 := by
    simp [requiredConfirmation]
  apply Text.strip_of_ends
  · intro ch head
    rw [chars] at head
    obtain rfl : 'P' = ch := by simpa using head
    rfl
  · intro ch last
    have some : c.packageHash.toList.take 12 ≠ [] := by
      simpa [List.take_eq_nil_iff] using nonempty
    rw [chars, List.getLast?_append_of_ne_nil _ some] at last
    have member := List.mem_of_mem_take (List.mem_of_getLast? last)
    exact Hex.isDigit_not_space (List.all_eq_true.mp digits ch member)

def sampleState : PublisherState :=
  preparedState samplePlatform sampleSandbox sampleObject sampleManifest "manuscript".toUTF8
    "subfile".toUTF8

def sampleChallenge : ApprovalChallenge :=
  challengeOf sampleState "2026-01-01T00:00:00Z" "2026-01-01T02:00:00Z" "nonce"

theorem sample_signable : Signable samplePlatform sampleChallenge "author"
    (requiredConfirmation sampleChallenge) issued issued where
  phrase := strip_requiredConfirmation (samplePlatform.sha256Digits _) (hexHost_stableHash_ne_empty _)
  early := ⟨expiry, rfl, by decide⟩
  dated := ⟨_, rfl⟩
  secret := ⟨_, rfl⟩
  sized := by decide

/-- A prepared sandbox with a challenge, ready for an approval that repeats its phrase. -/
theorem sample_ready : ∃ start requested a,
    prepareSandbox samplePlatform (fun _ => none) sampleSandbox sampleObject "paper.tex"
      "manuscript".toUTF8 sampleTransport = .ok (sampleState, start) ∧
    requestApproval samplePlatform start sampleSandbox 7200 issued "nonce" =
      .ok (sampleChallenge, requested) ∧
    Ready samplePlatform requested sampleSandbox sampleState sampleChallenge a := by
  obtain ⟨valid, reads⟩ := sampleManifest_valid
  have resolves : samplePlatform.resolveManuscript (manifestPath sampleSandbox)
      sampleManifest.manuscriptFile = sampleSandbox ++ "/" ++ manuscriptRef "paper.tex" := by decide
  have distinct : (packagePaths sampleSandbox "paper.tex" sampleManifest.publicationId
      (sampleTransport sampleManifest).subfilePath ++ ownFiles sampleSandbox).Nodup := by decide
  obtain ⟨start, a, prepares, intact⟩ :=
    prepared (fun _ => none) "manuscript".toUTF8 valid reads resolves rfl distinct
  have issuedAt : samplePlatform.iso issued = some "2026-01-01T00:00:00Z" := rfl
  have expiresAt : samplePlatform.iso (issued + 7200 * 1000000) = some "2026-01-01T02:00:00Z" := rfl
  obtain ⟨requests, ready⟩ := requested_ready intact rfl issuedAt expiresAt "nonce"
  exact ⟨start, _, a, prepares, requests, ready⟩

def sampleResult : Mapping :=
  [("final_click_performed", .bool true), ("portal_confirmation_observed", .bool true)]

/-- A prepared sandbox is requested, approved and submitted, then approved and
submitted once more at the same moment. -/
theorem approved_again_after_submission : ∃ s start approved once again,
    prepareSandbox samplePlatform (fun _ => none) sampleSandbox sampleObject "paper.tex"
      "manuscript".toUTF8 sampleTransport = .ok (s, start) ∧
    Run (Steps samplePlatform sampleSandbox) start
      [.requestApproval 7200 issued "nonce",
        .approve "author" (requiredConfirmation sampleChallenge) issued issued] approved ∧
    once = (publish samplePlatform approved sampleSandbox issued none (.returned sampleResult)).files ∧
    Clicked once sampleSandbox ∧
    Run (Steps samplePlatform sampleSandbox) once
      [.approve "author" (requiredConfirmation sampleChallenge) issued issued] again ∧
    (∃ t, loadState again sampleSandbox = .ok t ∧ t.status = .approved) ∧
    invokes samplePlatform again sampleSandbox (.publish issued none (.returned sampleResult)) = true := by
  obtain ⟨start, requested, a, prepares, requests, ready⟩ := sample_ready
  obtain ⟨approved, once, again, first, submits, clicked, second, status, invoked⟩ :=
    submitted_twice ready sample_signable sampleResult rfl
  have request : Steps samplePlatform sampleSandbox start (.requestApproval 7200 issued "nonce") requested := by
    simp only [Steps, apply, requests]
  exact ⟨sampleState, start, approved, once, again, prepares, .cons request first, submits, clicked, second,
    status, invoked⟩

/-- After its submission the sandbox is reconciled, and stays submitted once. -/
theorem at_most_one_submission_sample : ∃ approved after,
    Run (Guarded samplePlatform sampleSandbox)
      (publish samplePlatform approved sampleSandbox issued none (.returned sampleResult)).files
      [.reconcile "2601.00001"] after ∧
    (∀ s, loadState after sampleSandbox = .ok s → s.status ≠ .approved) ∧
      ∀ op, invokes samplePlatform after sampleSandbox op = false := by
  obtain ⟨start, requested, a, _, _, ready⟩ := sample_ready
  obtain ⟨approved, once, again, _, submits, clicked, _⟩ :=
    submitted_twice ready sample_signable sampleResult rfl
  rw [submits] at clicked
  have reconciles : Run (Guarded samplePlatform sampleSandbox)
      (publish samplePlatform approved sampleSandbox issued none (.returned sampleResult)).files
      [.reconcile "2601.00001"] _ := .single ⟨fun both => both.2, rfl⟩
  exact ⟨approved, _, reconciles, at_most_one_submission clicked reconciles⟩

end MatVerse.Marxiv
