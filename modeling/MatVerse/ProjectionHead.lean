import MatVerse.CloudflareState
import MatVerse.IntentDraft
import MatVerse.LedgerHistory
import MatVerse.ProjectionValidity

/-! The head of a ledger stands for its projection: a reachable ledger, and with it
every table the projection reads, is determined by its last digest. -/
namespace MatVerse

open Fallible

variable {host : Host} {db db' : Database}

/-! ## Acceptances of the service are recorded -/

namespace Cloudflare

/-- A mapping of texts is read as it was built, whatever its canonical form. -/
theorem reads_texts {event : Mapping} (texts : ∀ p ∈ event, ∃ s, p.2 = .str s) (ledgerAt : String) :
    ∃ loaded, JsonText.loads (Jcs.text (.dict (event ++ [("ledger_at", .str ledgerAt)]))) = some loaded ∧
      Reads loaded event := by
  refine ⟨_, Jcs.loads_text _, ?_⟩
  intro key time _
  have extra : Dict.get? key (Dict.ofPairs [("ledger_at", Json.str ledgerAt)]) = none := by
    apply Dict.get?_ofPairs_eq_none
    simp [time.symm]
  rw [Jcs.get?_plain, Json.norm_dict, Json.get?_dict, ← Dict.ofPairs_map, Dict.get?_map, Dict.get?_ofPairs_append,
    extra, Json.get?_dict]
  cases held : Dict.get? key (Dict.ofPairs event) with
  | none => simp
  | some v =>
    obtain ⟨s, rfl⟩ := texts _ (Dict.mem_ofPairs (Dict.get?_mem held))
    simp [Jcs.plain]

theorem intentAcceptedEvent_texts (c : IntentCommitment) (principalId projectionHash sourceCommit acceptedAt : String) :
    ∀ p ∈ intentAcceptedEvent c principalId projectionHash sourceCommit acceptedAt, ∃ s, p.2 = .str s := by
  simp [intentAcceptedEvent]

theorem text_receipt (r : LedgerReceipt) : Jcs.text r.toJson = canonicalJson r.toJson := by
  have sorted : r.toJson = .obj [("decision", .str r.decision), ("event_hash", .str r.eventHash),
      ("prev_hash", .str r.prevHash), ("seq", .int r.seq)] := by
    refine congrArg Json.obj (Dict.ofPairs_of_perm (List.reverse_perm _).symm ?_)
    simp only [Dict.Sorted, String.lt_iff_toList_lt, List.pairwise_cons, List.forall_mem_cons]
    simp
    decide
  have ordered : Jcs.ordered (Jcs.plain r.toJson) = r.toJson := by
    rw [sorted]
    simp only [Jcs.plain, Jcs.plainEntries, Jcs.ordered, Jcs.orderedEntries]
    rw [List.mergeSort_of_pairwise]
    simp [Jcs.entryLe]
    decide
  have normal : r.toJson.norm = r.toJson := by
    simp [LedgerReceipt.toJson]
  rw [Jcs.text, canonicalJson, normal, ordered]

theorem Takes.recorded {clock : Clock} {request : AcceptRequest} {row : LedgerRow}
    (takes : Takes host clock request db row db') : Recorded host db row db' := by
  obtain ⟨projectionHash, sourceCommit, _, _, _, _, made⟩ := takes.event
  obtain ⟨loaded, read, reads⟩ := reads_texts (intentAcceptedEvent_texts request.commitment request.principalId
    projectionHash sourceCommit clock.acceptedAt) clock.ledgerAt
  have decision : row.decision = "PASS" := by rw [made]
  have seq : row.seq = nextSeq db.ledger := by rw [made]
  have prev : row.prevHash = ledgerHead db.ledger := by rw [made]
  have json : row.eventJson = Jcs.text (.dict (acceptedEvent clock request projectionHash sourceCommit)) := by
    rw [made]
  refine ⟨?_, decision ▸ passed, congrArg Database.ledger takes.stored, ?_⟩
  · rw [nextRow, ← takes.hashed, ← seq, ← prev]
  · rw [Tables.record, json, acceptedEvent, read, takes.stored, text_receipt]
    simp [Tables.note, Database.tables, reads.text, textOf?, intentAcceptedEvent, recordedIntent,
      IntentCommitment.row, IntentRow.recorded, LedgerRow.receiptJson]

end Cloudflare

/-! ## Reachable databases -/

/-- A call of the local store, or a request to the durable service. -/
inductive BackendCall (host : Host) where
  | store (call : StoreCall host)
  | accept (clock : Cloudflare.Clock) (text : String)

namespace BackendCall

def after (verify : Ed25519Verify) (isIsoFormat : String → Bool) (db : Database) : BackendCall host → Database
  | .store call => call.after verify isIsoFormat db
  | .accept clock text => (Cloudflare.acceptIntent host clock text db).2

variable {verify : Ed25519Verify} {isIsoFormat : String → Bool}

theorem recorded (call : BackendCall host) :
    call.after verify isIsoFormat db = db ∨ ∃ row, Recorded host db row (call.after verify isIsoFormat db) := by
  cases call with
  | store call => exact call.recorded
  | accept clock text =>
    rcases Cloudflare.acceptIntent_cases host clock text db with ⟨same, _⟩ | ⟨request, row, _, takes⟩
    · exact .inl same
    · exact .inr ⟨row, takes.recorded⟩

end BackendCall

/-- The database after a sequence of calls, whoever made them. -/
def backendAfter (verify : Ed25519Verify) (isIsoFormat : String → Bool) (calls : List (BackendCall host)) : Database :=
  calls.foldl (BackendCall.after verify isIsoFormat) Database.empty

theorem history_of_backend (verify : Ed25519Verify) (isIsoFormat : String → Bool) (calls : List (BackendCall host)) :
    History host (backendAfter verify isIsoFormat calls) := by
  induction calls using List.reverseRecOn with
  | nil => exact History.empty host
  | append_singleton calls call ih =>
    unfold backendAfter at ih ⊢
    rw [List.foldl_append, List.foldl_cons, List.foldl_nil]
    rcases @BackendCall.recorded host _ verify isIsoFormat call with same | ⟨row, recorded⟩
    · rw [same]
      exact ih
    · exact ih.recorded recorded

/-! ## The head determines the ledger -/

/-- The last letters of the decisions differ, so a body splits one way. -/
theorem decision_of_body {x y : LedgerRow} (left : x.decision ∈ decisionValues) (right : y.decision ∈ decisionValues)
    (bodies : x.body = y.body) : x.decision = y.decision := by
  have last := congrArg (fun body => body.toList.getLast?) bodies
  simp only [LedgerRow.body, String.toList_append] at last
  simp only [decisionValues, Decision.value, List.mem_cons, List.not_mem_nil, or_false] at left right
  rcases left with left | left | left <;> rcases right with right | right | right <;>
    rw [left, right] at last <;> rw [left, right] <;> simp at last

theorem lengths_of_decided {xs ys : List LedgerRow} (left : ∀ row ∈ xs, row.decision ∈ decisionValues)
    (right : ∀ row ∈ ys, row.decision ∈ decisionValues) (bodies : xs.map LedgerRow.body = ys.map LedgerRow.body) :
    ∀ p ∈ xs.zip ys, p.1.decision.length = p.2.decision.length := by
  induction xs generalizing ys with
  | nil => simp
  | cons x xs ih =>
    cases ys with
    | nil => cases bodies
    | cons y ys =>
      obtain ⟨head, tail⟩ := List.cons.inj bodies
      intro p member
      rcases List.mem_cons.mp member with rfl | member
      · exact congrArg String.length (decision_of_body (left x (by simp)) (right y (by simp)) head)
      · exact ih (fun row m => left row (List.mem_cons_of_mem _ m))
          (fun row m => right row (List.mem_cons_of_mem _ m)) tail p member

/-- A checked chain is its records and its numbers. -/
theorem rows_eq_of_records {prev head head' : String} {xs ys : List LedgerRow}
    (first : checkRows host prev xs = .ok head) (second : checkRows host prev ys = .ok head')
    (records : xs.map LedgerRow.record = ys.map LedgerRow.record) (seqs : xs.map LedgerRow.seq = ys.map LedgerRow.seq) :
    xs = ys := by
  induction xs generalizing prev ys with
  | nil =>
    cases ys with
    | nil => rfl
    | cons y ys => cases records
  | cons x xs ih =>
    cases ys with
    | nil => cases records
    | cons y ys =>
      obtain ⟨record, records⟩ := List.cons.inj records
      obtain ⟨seq, seqs⟩ := List.cons.inj seqs
      obtain ⟨event, decision⟩ := Prod.mk.inj record
      rw [checkRows] at first second
      split at first
      · cases first
      next linked =>
        split at second
        · cases second
        next linked' =>
          simp only [Bool.or_eq_true, bne_iff_ne, ne_eq, not_or, not_not] at linked linked'
          have same : x = y := by
            obtain ⟨prevs, hashes⟩ := linked
            obtain ⟨prevs', hashes'⟩ := linked'
            cases x
            cases y
            simp_all
          rw [same] at first
          rw [same, ih first second records seqs]

/-- The texts that the digests of two ledgers are taken of, and the one that stands
for the empty ledger. -/
def ledgerTexts (db db' : Database) (text : String) : Prop :=
  text = genesisText ∨ ∃ row ∈ db.ledger ++ db'.ledger, text = row.hashed

theorem ledger_eq_of_head (long : host.Sha256Length) (history : History host db) (history' : History host db')
    (free : host.CollisionFreeOn (ledgerTexts db db')) (heads : ledgerHead db.ledger = ledgerHead db'.ledger) :
    db.ledger = db'.ledger := by
  have bodies := bodies_eq_of_head long (fun a b left right => free a b (.inr left) (.inr right)) history.chain
    (heads ▸ history'.chain)
  have records := records_eq_of_bodies bodies (lengths_of_decided history.decided history'.decided bodies)
  apply rows_eq_of_records history.chain history'.chain records
  have length : db.ledger.length = db'.ledger.length := by simpa using congrArg List.length bodies
  rw [history.numbered, history'.numbered, length]

/-! ## The receipt determines the projection -/

/-- The `source_receipt` of a projection of the database. -/
def sourceReceipt (host : Host) (db : Database) : String := sourceReceiptOf host (ledgerHead db.ledger)

theorem genesisText_ne_hashed (long : host.Sha256Length) (history : History host db) {row : LedgerRow}
    (member : row ∈ db.ledger) : genesisText ≠ row.hashed := by
  intro same
  have brace : genesisText.toList.head? = some '{' := Jcs.head_text_dict _
  rw [same, hashed_eq, String.toList_append] at brace
  rcases checkRows_prevHash history.chain row member with start | ⟨text, digest⟩
  · rw [start] at brace
    simp [genesis] at brace
  · obtain ⟨c, tail, chars, digit⟩ := sha256Text_head long text
    rw [digest, chars, List.cons_append, List.head?_cons] at brace
    obtain rfl := Option.some.inj brace
    simp [Hex.isDigit, Char.isDigit] at digit

theorem head_of_receipt (long : host.Sha256Length) (history : History host db) (history' : History host db')
    (free : host.CollisionFreeOn (ledgerTexts db db')) (same : sourceReceipt host db = sourceReceipt host db') :
    ledgerHead db.ledger = ledgerHead db'.ledger := by
  have start : sourceReceiptOf host genesis = sha256Text host genesisText := by
    have short : isLowerSha256 genesis = false := by decide
    simp [sourceReceiptOf, short, genesisCommitment]
  have digest (text : String) : sourceReceiptOf host (sha256Text host text) = sha256Text host text := by
    rw [sourceReceiptOf, sha256Text, isLowerSha256_sha256 long, if_pos rfl]
  unfold sourceReceipt at same
  rcases ledgerHead_cases history.chain with ⟨_, left⟩ | ⟨row, member, left⟩ <;>
    rcases ledgerHead_cases history'.chain with ⟨_, right⟩ | ⟨row', member', right⟩ <;>
    rw [left, right] at same ⊢
  · rw [start, digest] at same
    have texts := free _ _ (.inl rfl) (.inr ⟨row', List.mem_append_right _ member', rfl⟩) same
    exact absurd texts (genesisText_ne_hashed long history' member')
  · rw [start, digest] at same
    have texts := free _ _ (.inr ⟨row, List.mem_append_left _ member, rfl⟩) (.inl rfl) same
    exact absurd texts.symm (genesisText_ne_hashed long history member)
  · rwa [digest, digest] at same

theorem artifactRows_recorded (artifacts : List ContractArtifact) :
    artifactRows (artifacts.map ContractArtifact.recorded) = artifactRows artifacts := by
  have rows : ContractArtifact.row ∘ ContractArtifact.recorded = ContractArtifact.row := rfl
  rw [artifactRows, artifactRows, List.map_map, rows]

/-- A reachable ledger determines every projection of its database. -/
theorem projectionOf_of_ledger (isIsoFormat : String → Bool) (build : BuildConfiguration)
    (history : History host db) (history' : History host db') (same : db.ledger = db'.ledger) :
    projectionOf host isIsoFormat build db = projectionOf host isIsoFormat build db' := by
  have tables : db.tables = db'.tables := by rw [← history.tables, ← history'.tables, same]
  have artifacts : db.contractArtifacts.map ContractArtifact.recorded =
      db'.contractArtifacts.map ContractArtifact.recorded := congrArg Tables.contractArtifacts tables
  rw [projectionOf, projectionOf, same, ← artifactRows_recorded, artifacts, artifactRows_recorded]

theorem projectionOf_of_receipt (isIsoFormat : String → Bool) (build : BuildConfiguration)
    (long : host.Sha256Length) (history : History host db) (history' : History host db')
    (free : host.CollisionFreeOn (ledgerTexts db db')) (same : sourceReceipt host db = sourceReceipt host db') :
    projectionOf host isIsoFormat build db = projectionOf host isIsoFormat build db' :=
  projectionOf_of_ledger isIsoFormat build history history'
    (ledger_eq_of_head long history history' free (head_of_receipt long history history' free same))

theorem projectionOf_receipt {isIsoFormat : String → Bool} {build : BuildConfiguration} {p : Projection}
    (projected : projectionOf host isIsoFormat build db = .ok p) : p.sourceReceipt = sourceReceipt host db := by
  obtain ⟨head, built⟩ := buildProjection_ok projected
  rw [built.sourceReceipt, sourceReceipt, checkRows_head built.checked]

/-! ## Comparing the head -/

theorem buildBinding_commit {build : BuildConfiguration} {source : SourceBinding}
    (bound : buildBinding host build = .ok source) : isGitObjectId source.commitSha = true := by
  simp only [buildBinding, bind_ok, guard_ok, pure_ok] at bound
  obtain ⟨commit, _, _, _, _, rfl⟩ := bound
  simpa using commit

namespace Cloudflare

variable {clock : Clock}

theorem currentProjectionReceipt_eq (long : host.Sha256Length) {head : String}
    (checked : checkRows host genesis db.ledger = .ok head) :
    currentProjectionReceipt host db = sourceReceipt host db := by
  rw [currentProjectionReceipt, sourceReceipt, ledgerHead]
  cases last : db.ledger.getLast? with
  | none =>
    have short : isLowerSha256 genesis = false := by decide
    simp [sourceReceiptOf, short]
  | some row =>
    have digest := checkRows_eventHash checked row (List.mem_of_getLast? last)
    have lower : isLowerSha256 row.eventHash = true := by
      rw [digest]
      exact isLowerSha256_sha256 long _
    simp [sourceReceiptOf, lower]

/-- The text whose digest links an acceptance to the chain. -/
def acceptedText (clock : Clock) (request : AcceptRequest) (db : Database) : String :=
  ledgerHead db.ledger ++ (Jcs.text (.dict (acceptedEvent clock request
    (eventText request.commitment.source "projection_hash") (eventText request.commitment.source "commit_sha"))) ++
  "PASS")

/-- What the service asks of a request besides the head. -/
structure Admits (host : Host) (text : String) (db : Database) (request : AcceptRequest) : Prop where
  read : readRequest host text = .ok request
  fresh : findIntent db request.commitment.intentId = none
  freshHash : ∀ row ∈ db.institutionalIntents, row.intentHash ≠ request.commitment.intentHash
  room : Jcs.isSafe (nextSeq db.ledger) = true

/-- The service took the intent of a request as a new one. -/
def AcceptsNew (host : Host) (clock : Clock) (text : String) (db : Database) : Prop :=
  ∃ answer, (acceptIntent host clock text db).1 = .ok answer ∧ answer.idempotent = false

theorem AcceptsNew.admits {text : String} (accepts : AcceptsNew host clock text db) :
    ∃ request, Admits host text db request ∧ currentProjectionReceipt host db = request.expectedLedgerHead := by
  obtain ⟨answer, answered, fresh⟩ := accepts
  rcases acceptIntent_cases host clock text db with ⟨_, idempotent⟩ | ⟨request, row, read, takes⟩
  · rw [idempotent answer answered] at fresh
    cases fresh
  · obtain ⟨_, _, _, _, _, _, made⟩ := takes.event
    have seq : row.seq = nextSeq db.ledger := by rw [made]
    exact ⟨request, ⟨read, takes.fresh, takes.freshHash, seq ▸ takes.safe.1⟩, takes.head⟩

theorem isPlainable_texts {pairs : Mapping} (texts : ∀ p ∈ pairs, ∃ s, p.2 = .str s) :
    Jcs.isPlainable (.dict pairs) = true := by
  apply Jcs.isPlainable_dict
  intro p member
  obtain ⟨s, text⟩ := texts p member
  rw [text]
  rfl

theorem plain_expectedSource (p : Projection) : Jcs.plain p.expectedSource = p.expectedSource := by
  obtain ⟨entries, shape, texts⟩ := expectedSource_strs p
  rw [shape, Jcs.plain, Jcs.plainEntries_eq]
  congr 1
  refine Json.map_eq_self.mpr fun q member => ?_
  obtain ⟨s, text⟩ := texts q member
  refine Prod.ext rfl ?_
  rw [text]
  rfl

/-- A request that the service admits is accepted when its head is the current one. -/
theorem Admits.accepted (long : host.Sha256Length) {chainHead : String}
    (checked : checkRows host genesis db.ledger = .ok chainHead) {text : String}
    {request : AcceptRequest} (admits : Admits host text db request)
    (head : currentProjectionReceipt host db = request.expectedLedgerHead) {p : Projection}
    (source : request.commitment.source = p.expectedSource) (projected : p.projectionHash ≠ "")
    (committed : p.source.commitSha ≠ "")
    (free : host.CollisionFreeOn (fun text => text = acceptedText clock request db ∨
      ∃ row ∈ db.ledger, text = row.hashed)) : AcceptsNew host clock text db := by
  have fields := expectedSource_fields p
  rw [← source] at fields
  have unused := unused_of_head long checked free
  rw [eventText, eventText, fields.1, fields.2] at unused
  have event : Jcs.isPlainable (.dict (acceptedEvent clock request p.projectionHash p.source.commitSha)) = true := by
    apply isPlainable_texts
    simp [acceptedEvent, intentAcceptedEvent]
  have positive : ¬nextSeq db.ledger < 1 := by
    unfold nextSeq
    split <;> omega
  have plainable : Jcs.isPlainable request.commitment.source = true := by
    rw [source]
    apply isPlainable_texts
    simp [SourceBinding.toMapping]
  have receipt (seq : Nat) (prev hash decision : String) (safe : Jcs.isSafe seq = true) :
      Jcs.isPlainable (LedgerReceipt.mk seq prev hash decision).toJson = true := by
    apply Jcs.isPlainable_dict
    simp [Jcs.isPlainable, safe]
  have accepted : ∃ result, acceptNew host clock request db = .ok result := by
    simp only [acceptNew, appendLedgerEvent, bind_ok, guard_ok, pure_ok]
    refine ⟨_, ?_, ?_, p.projectionHash, stringValue_of _ fields.1 projected, p.source.commitSha,
      stringValue_of _ fields.2 committed, _, ⟨_, jcs_of event, ?_, ?_, rfl⟩, _, jcs_of plainable, _,
      jcs_of (receipt _ _ _ _ admits.room), rfl⟩
    · simpa using admits.freshHash
    · simpa using head
    · simpa [eventHashOf, textOf?, acceptedEvent, String.append_assoc] using unused
    · simp [admits.room, positive]
  obtain ⟨⟨answer, db'⟩, done⟩ := accepted
  refine ⟨answer, ?_, (acceptNew_ok admits.fresh done).1⟩
  rw [acceptIntent, admits.read]
  simp only [acceptTx, admits.fresh, done]

end Cloudflare

/-! ## The two comparisons agree -/

theorem expectedHead_ok {isIsoFormat : String → Bool} {build : BuildConfiguration} {c : IntentCommitment}
    {head : String} (expected : expectedHead host isIsoFormat build c db = .ok head) :
    ∃ p, projectionOf host isIsoFormat build db = .ok p ∧ c.source = p.expectedSource ∧ head = p.sourceReceipt := by
  simp only [expectedHead, bind_ok, guard_ok, pure_ok, Bool.not_eq_true, Bool.not_eq_false'] at expected
  obtain ⟨p, projected, equal, rfl⟩ := expected
  obtain ⟨entries, shape, strs⟩ := expectedSource_strs p
  refine ⟨p, projected, ?_, rfl⟩
  rw [shape] at equal ⊢
  exact Json.pyEq_strs strs equal

/-- The service, which compares heads, accepts exactly what a comparison of the
projections at the moment of acceptance would. -/
theorem acceptsNew_iff {snapshot : Database} {isIsoFormat : String → Bool} {build : BuildConfiguration}
    {clock : Cloudflare.Clock} {intent : Json} {principalId head : String} {allow : Bool} {c : IntentCommitment}
    (long : host.Sha256Length) (seen : History host snapshot) (history : History host db)
    (verified : verifyInternalBoundary host intent principalId allow = .ok c)
    (expected : expectedHead host isIsoFormat build c snapshot = .ok head)
    (free : host.CollisionFreeOn (fun text => ledgerTexts snapshot db text ∨
      text = Cloudflare.acceptedText clock (Cloudflare.requestOf c principalId head) db)) :
    Cloudflare.AcceptsNew host clock (acceptBody intent principalId allow head) db ↔
      (∃ request, Cloudflare.Admits host (acceptBody intent principalId allow head) db request) ∧
        projectionOf host isIsoFormat build db = projectionOf host isIsoFormat build snapshot := by
  obtain ⟨p, projected, source, rfl⟩ := expectedHead_ok expected
  have receipt := projectionOf_receipt projected
  have known (request : Cloudflare.AcceptRequest)
      (read : Cloudflare.readRequest host (acceptBody intent principalId allow p.sourceReceipt) = .ok request) :
      request = Cloudflare.requestOf c principalId p.sourceReceipt :=
    ((Cloudflare.readRequest_acceptBody verified _ request).mp read).2
  constructor
  · intro accepts
    obtain ⟨request, admits, head⟩ := accepts.admits
    refine ⟨⟨request, admits⟩, ?_⟩
    rw [known request admits.read, Cloudflare.currentProjectionReceipt_eq long history.chain] at head
    exact (projectionOf_of_receipt isIsoFormat build long seen history
      (fun a b left right => free a b (.inl left) (.inl right)) (receipt.symm.trans head.symm)).symm
  · rintro ⟨⟨request, admits⟩, same⟩
    have current := projectionOf_receipt (same.trans projected)
    obtain ⟨_, built⟩ := buildProjection_ok projected
    obtain rfl := known request admits.read
    apply admits.accepted long history.chain
    · rw [Cloudflare.currentProjectionReceipt_eq long history.chain, ← current]
      rfl
    · exact (congrArg Jcs.plain source).trans (Cloudflare.plain_expectedSource p)
    · intro empty
      have length := long (Jcs.text p.payload).toUTF8
      rw [← sha256Text, ← built.projectionHash, empty] at length
      cases length
    · intro empty
      have commit := buildBinding_commit built.source
      rw [empty] at commit
      cases commit
    · rintro a b left right
      apply free a b
      · rcases left with text | ⟨row, member, text⟩
        · exact .inr text
        · exact .inl (.inr ⟨row, List.mem_append_right _ member, text⟩)
      · rcases right with text | ⟨row, member, text⟩
        · exact .inr text
        · exact .inl (.inr ⟨row, List.mem_append_right _ member, text⟩)

/-- Among the databases that calls of the store and requests to the service can reach,
one receipt stands for one projection, and the service's comparison of the head is the
comparison of the projections, whatever was appended since the snapshot. -/
theorem head_compare_is_projection_compare (verify : Ed25519Verify) (isIsoFormat : String → Bool)
    (build : BuildConfiguration) (long : host.Sha256Length) (calls later : List (BackendCall host)) :
    (host.CollisionFreeOn
      (ledgerTexts (backendAfter verify isIsoFormat calls) (backendAfter verify isIsoFormat later)) →
      ∀ p q, projectionOf host isIsoFormat build (backendAfter verify isIsoFormat calls) = .ok p →
        projectionOf host isIsoFormat build (backendAfter verify isIsoFormat later) = .ok q →
        p.sourceReceipt = q.sourceReceipt → p = q) ∧
      ∀ (clock : Cloudflare.Clock) (intent : Json) (principalId head : String) (allow : Bool) (c : IntentCommitment),
        verifyInternalBoundary host intent principalId allow = .ok c →
        expectedHead host isIsoFormat build c (backendAfter verify isIsoFormat calls) = .ok head →
        host.CollisionFreeOn (fun text =>
          ledgerTexts (backendAfter verify isIsoFormat calls) (backendAfter verify isIsoFormat later) text ∨
          text = Cloudflare.acceptedText clock (Cloudflare.requestOf c principalId head)
            (backendAfter verify isIsoFormat later)) →
        (Cloudflare.AcceptsNew host clock (acceptBody intent principalId allow head)
            (backendAfter verify isIsoFormat later) ↔
          (∃ request, Cloudflare.Admits host (acceptBody intent principalId allow head)
            (backendAfter verify isIsoFormat later) request) ∧
          projectionOf host isIsoFormat build (backendAfter verify isIsoFormat later) =
            projectionOf host isIsoFormat build (backendAfter verify isIsoFormat calls)) := by
  have seen := history_of_backend verify isIsoFormat calls
  have history := history_of_backend verify isIsoFormat later
  constructor
  · intro free p q left right same
    rw [projectionOf_receipt left, projectionOf_receipt right] at same
    have equal := projectionOf_of_receipt isIsoFormat build long seen history free same
    exact Except.ok.inj (left.symm.trans (equal.trans right))
  · intro clock intent principalId head allow c verified expected free
    exact acceptsNew_iff long seen history verified expected free

/-! ## One intent accepted -/

/-- By its first byte: the first row of a chain, the second, the third, or a document. -/
def shape : UInt8 → Char
  | 71 => '2'
  | 50 => '4'
  | 52 => '5'
  | _ => '0'

def shapeOf (bytes : ByteArray) : Char := bytes.data.toList.head?.elim '0' shape

def shapeDigest (shape : Char) : String := String.ofList (List.replicate 64 shape)

theorem shapeOf_digit (bytes : ByteArray) : Hex.isDigit (shapeOf bytes) = true := by
  unfold shapeOf
  cases bytes.data.toList.head? with
  | none => decide
  | some byte =>
    simp only [Option.elim_some, shape]
    split <;> decide

/-- A host that hashes the shape of a text. -/
def shapeHost : Host where
  sha256 bytes := shapeDigest (shapeOf bytes)
  sha256Digits bytes := by
    unfold Hex.Digits shapeDigest
    rw [String.toList_ofList, List.all_replicate]
    simpa using shapeOf_digit bytes
  hmac _ _ := zeroDigest
  hmacDigits _ _ := zeroDigest_digits
  source name := name
  containerText _ := ""

theorem shapeHost_sha256Length : shapeHost.Sha256Length := by
  intro bytes
  simp [shapeHost, shapeDigest]

/-- The shape of a text is read off its first character. -/
theorem shapeOf_text {text : String} {c : Char} {byte : UInt8} (head : text.toList.head? = some c)
    (alone : String.utf8EncodeChar c = [byte]) : shapeOf text.toUTF8 = shape byte := by
  obtain ⟨rest, chars⟩ := List.head?_eq_some_iff.mp head
  have whole : text = String.ofList (c :: rest) := by rw [← chars, String.ofList_toList]
  have first : text.toUTF8.data.toList.head? = some byte := by
    rw [whole]
    show (List.utf8Encode (c :: rest)).data.toList.head? = _
    rw [List.utf8Encode]
    simp [alone]
  rw [shapeOf, first, Option.elim_some]

def sampleBuild : BuildConfiguration := ⟨zeroDigest, zeroDigest, none, ""⟩

def sampleDraft : Mapping :=
  [("actor_id", .str "alice"), ("intent_id", .str "intent-1"), ("requested_operation", .str "REVIEW"),
    ("target", .dict [("kind", .str "claim"), ("id", .str "claim-1")]), ("created_at", .str "2026-01-01T00:00:00Z")]

def sampleCommitment (host : Host) (source : Json) : IntentCommitment :=
  ⟨"intent-1", intentHashOf host (drawUp host sampleDraft source), "alice", "REVIEW", "claim", "claim-1",
    .dict [("kind", .str "claim"), ("id", .str "claim-1")], source, "2026-01-01T00:00:00Z",
    sha256Text host (Jcs.text (.obj []))⟩

theorem sample_projectable (host : Host) (isIsoFormat : String → Bool) :
    Projectable host isIsoFormat sampleBuild [] := by
  have lower : zeroDigest.toLower = zeroDigest := toLower_gitObjectId (by decide)
  have commit : isGitObjectId zeroDigest = true := by decide
  have frozen : isLowerSha256 zeroDigest = true := by decide
  have hex : isSha256Hex zeroDigest = true := by decide
  refine ⟨⟨genesis, rfl⟩, ?_, by simp, ⟨"1970-01-01T00:00:00+00:00", rfl⟩⟩
  simp [buildBinding, sampleBuild, lower, commit, frozen, constitutionalContractHash, hex]
  exact ⟨_, rfl⟩

theorem sample_bounded (host : Host) (p : Projection) :
    Bounded host (drawUp host sampleDraft p.expectedSource) "alice" false
      (sampleCommitment host p.expectedSource) := by
  have field {key : String} {v : Json} (notSource : key ≠ "source") (notHash : key ≠ "intent_hash")
      (held : (Json.dict sampleDraft).norm.get? key = some v) :
      (drawUp host sampleDraft p.expectedSource).norm.get? key = some v :=
    (get?_drawUp sampleDraft p.expectedSource notSource notHash).trans held
  have source : p.expectedSource.norm = p.expectedSource := normal_expectedSource p
  have plainable : Jcs.isPlainable (canonicalIntent (drawUp host sampleDraft p.expectedSource)).norm = true := by
    apply Jcs.isPlainable_norm
    apply isPlainable_drawUp _ (isPlainable_expectedSource p)
    simp [sampleDraft, Jcs.isPlainable, Jcs.isPlainable_dict]
  refine ⟨⟨field (by decide) (by decide) (by simp [sampleDraft, sampleCommitment]), by simp [sampleCommitment]⟩,
    .inl rfl,
    ⟨field (by decide) (by decide) (by simp [sampleDraft, sampleCommitment]), by simp [sampleCommitment]⟩,
    intentHashOf_drawUp _ _,
    ⟨field (by decide) (by decide) (by simp [sampleDraft, sampleCommitment]), by simp [sampleCommitment]⟩,
    field (by decide) (by decide) (by simp [sampleDraft, sampleCommitment]), by simp [sampleCommitment],
    by simp [sampleCommitment], ⟨.obj [], ?_, rfl, rfl, rfl⟩, ⟨?_, rfl⟩,
    field (by decide) (by decide) (by simp [sampleDraft, sampleCommitment]), jcsSubsetHash_of plainable⟩
  · rw [get?_drawUp _ _ (by decide) (by decide)]
    simp [sampleDraft]
  · rw [get?_drawUp_source, source]
    rfl

/-! A ledger of one event, from which the intent is drawn up, and one with a second event. -/

def holdCall (time : String) : BackendCall shapeHost :=
  .store (.appendEvent ⟨zeroDigest, time, time⟩ (.configurationHold "alice" "not configured"))

def sampleCalls : List (BackendCall shapeHost) := [holdCall "now"]

def laterCalls : List (BackendCall shapeHost) := [holdCall "now", holdCall "later"]

def sampleAfter (calls : List (BackendCall shapeHost)) : Database :=
  backendAfter (fun _ _ _ => true) (fun _ => true) calls

/-- A row that holds the event of a call, by its shape. -/
structure HoldRow (time : String) (shape : Char) (row : LedgerRow) : Prop where
  shaped : shapeOf row.hashed.toUTF8 = shape
  hash : row.eventHash = shapeDigest shape
  event : ∃ event, JsonText.loads row.eventJson = some event ∧ event.isObj = true ∧
    event.get? "ledger_at" = some (.str time) ∧ event.get? "source_commit" = some (.str zeroDigest)

theorem zeroDigest_gitObject : isGitObjectId zeroDigest = true := by decide

theorem zeroDigest_lower : zeroDigest.toLower = zeroDigest := toLower_gitObjectId zeroDigest_gitObject

theorem hold_unstamped : (Json.dict (configurationHoldEvent "alice" "not configured")).get? "ledger_at" = none ∧
    (Json.dict (configurationHoldEvent "alice" "not configured")).get? "source_commit" = none := by
  simp [configurationHoldEvent]

theorem storedEvent_hold (time : String) : ∃ stored,
    storedEvent ⟨zeroDigest, time, time⟩ (configurationHoldEvent "alice" "not configured") = .ok stored := by
  obtain ⟨undated, uncommitted⟩ := hold_unstamped
  rw [Json.get?_dict] at undated uncommitted
  have dated : withLedgerAt ⟨zeroDigest, time, time⟩ (Dict.ofPairs (configurationHoldEvent "alice" "not configured")) =
      Dict.insert "ledger_at" (.str time) (Dict.ofPairs (configurationHoldEvent "alice" "not configured")) := by
    simp only [withLedgerAt, undated]
  have missing :=
    (Dict.get?_insert_of_ne (show "source_commit" ≠ "ledger_at" by decide) (Json.str time) _).trans uncommitted
  rw [storedEvent, dated, withSourceCommit, missing]
  simp only [zeroDigest_lower, zeroDigest_gitObject, if_true]
  exact ⟨_, rfl⟩

/-- A call adds a row of the shape that the head of the ledger gives it. -/
theorem holdCall_appends (time : String) {db : Database} {c : Char} {byte : UInt8}
    (head : (ledgerHead db.ledger).toList.head? = some c) (alone : String.utf8EncodeChar c = [byte])
    (fresh : ∀ row ∈ db.ledger, row.eventHash ≠ shapeDigest (shape byte)) :
    ∃ row, (holdCall time).after (fun _ _ _ => true) (fun _ => true) db = { db with ledger := db.ledger ++ [row] } ∧
      row.seq = nextSeq db.ledger ∧ HoldRow time (shape byte) row := by
  have gitObject : isGitObjectId zeroDigest.toLower = true := by rw [zeroDigest_lower, zeroDigest_gitObject]
  obtain ⟨stored, store⟩ := storedEvent_hold time
  obtain ⟨loaded, read, object, fields⟩ := loads_storedEvent store
  obtain ⟨dated, committed⟩ := storedEvent_stamp store hold_unstamped.1 (.inl hold_unstamped.2) gitObject
  have shaped : shapeOf (ledgerHead db.ledger ++ canonicalJson (.obj stored) ++ Decision.hold.value).toUTF8 =
      shape byte := by
    apply shapeOf_text _ alone
    rw [String.append_assoc, String.toList_append, List.head?_append, head]
    rfl
  have hash : eventHashOf shapeHost (ledgerHead db.ledger) (canonicalJson (.obj stored)) Decision.hold.value =
      shapeDigest (shape byte) := congrArg shapeDigest shaped
  have unseen : db.ledger.any (fun row => row.eventHash == eventHashOf shapeHost (ledgerHead db.ledger)
      (canonicalJson (.obj stored)) Decision.hold.value) = false := by
    rw [hash]
    simpa using fresh
  obtain ⟨receipt, appended⟩ : ∃ receipt, appendLedgerTx shapeHost ⟨zeroDigest, time, time⟩ db
      (configurationHoldEvent "alice" "not configured") Decision.hold.value = .ok (receipt, { db with
        ledger := db.ledger ++ [nextRow shapeHost db.ledger (canonicalJson (.obj stored)) Decision.hold.value] }) := by
    rw [appendLedgerTx, store]
    simp only [ok_bind, unseen]
    exact ⟨_, rfl⟩
  have called : (holdCall time).after (fun _ _ _ => true) (fun _ => true) db =
      (appendAppEvent shapeHost ⟨zeroDigest, time, time⟩ (.configurationHold "alice" "not configured") db).2 := rfl
  refine ⟨nextRow shapeHost db.ledger (canonicalJson (.obj stored)) Decision.hold.value, ?_, rfl, shaped, hash, loaded,
    read, object, ?_, ?_⟩
  · rw [called, appendAppEvent, transaction]
    simp only [AppEvent.record, appendEvent, appended]
  · rw [fields, dated]
    rfl
  · rw [fields, committed, zeroDigest_lower]
    rfl

theorem sampleAfter_rows : ∃ first second,
    (sampleAfter sampleCalls = { Database.empty with ledger := [first] } ∧ first.seq = 1 ∧ HoldRow "now" '2' first) ∧
    (sampleAfter laterCalls).ledger = [first, second] ∧ HoldRow "later" '4' second := by
  obtain ⟨first, one, seq, held⟩ := @holdCall_appends "now" Database.empty 'G' 71 rfl rfl (fun _ => nofun)
  have called : sampleAfter sampleCalls = { Database.empty with ledger := [first] } := one
  have head : ledgerHead (sampleAfter sampleCalls).ledger = shapeDigest '2' := by
    rw [called]
    exact held.hash
  obtain ⟨second, two, -, held'⟩ :=
    @holdCall_appends "later" (sampleAfter sampleCalls) '2' 50 (by rw [head]; rfl) rfl <| by
    rw [called]
    rintro row member same
    obtain rfl : row = first := by simpa using member
    rw [held.hash] at same
    exact absurd same (by decide)
  refine ⟨first, second, ⟨called, seq, held⟩, ?_, held'⟩
  have next : sampleAfter laterCalls = (holdCall "later").after (fun _ _ _ => true) (fun _ => true)
      (sampleAfter sampleCalls) := by
    simp only [sampleAfter, backendAfter, laterCalls, sampleCalls, List.foldl_cons, List.foldl_nil]
  rw [next, two, called]
  rfl

theorem sample_heads : ledgerHead (sampleAfter sampleCalls).ledger = shapeDigest '2' ∧
    ledgerHead (sampleAfter laterCalls).ledger = shapeDigest '4' := by
  obtain ⟨first, second, ⟨called, -, held⟩, two, held'⟩ := sampleAfter_rows
  rw [called, two]
  exact ⟨held.hash, held'.hash⟩

theorem sampleAfter_projectable :
    Projectable shapeHost (fun _ => true) sampleBuild (sampleAfter sampleCalls).ledger := by
  obtain ⟨first, -, ⟨called, -, held⟩, -⟩ := sampleAfter_rows
  obtain ⟨event, read, object, dated, committed⟩ := held.event
  refine ⟨⟨_, (history_of_backend _ _ sampleCalls).chain⟩, (sample_projectable shapeHost (fun _ => true)).bound, ?_, ?_⟩
  · rw [called]
    intro row member
    obtain rfl : row = first := by simpa using member
    have commit : eventSourceCommit event row.seq = .ok zeroDigest := by
      simp only [eventSourceCommit, committed, zeroDigest_lower, zeroDigest_gitObject, if_true]
    simp only [projectReceipt, read, dictGet, object, if_true, ok_bind, commit]
    exact ⟨_, rfl⟩
  · rw [called]
    have latest : latestTime (fun _ => true) [first] = .ok (some "now") := by
      simp only [latestTime, read, dictGet, object, if_true, ok_bind, eventTime, List.findSome?_cons, dated,
        isTimestamp]
      rfl
    exact ⟨"now", by rw [projectionTime, List.reverse_singleton, latest]; rfl⟩

/-- The text behind an acceptance starts with the head of the ledger. -/
theorem shapeOf_acceptedText {db : Database} {digit : Char} {byte : UInt8}
    (head : ledgerHead db.ledger = shapeDigest digit) (alone : String.utf8EncodeChar digit = [byte])
    (clock : Cloudflare.Clock) (request : Cloudflare.AcceptRequest) :
    shapeOf (Cloudflare.acceptedText clock request db).toUTF8 = shape byte := by
  apply shapeOf_text _ alone
  rw [Cloudflare.acceptedText, head, shapeDigest, String.toList_append, String.toList_ofList]
  rfl

theorem free_of_shapes {P : String → Prop} {texts : List String} (all : ∀ text, P text → text ∈ texts)
    (apart : (texts.map fun text => shapeOf text.toUTF8).Nodup) : shapeHost.CollisionFreeOn P := by
  intro a b left right digests
  refine List.inj_on_of_nodup_map apart (all a left) (all b right) ?_
  simpa [sha256Text, shapeHost, shapeDigest] using digests

theorem sample_free (calls : List (BackendCall shapeHost)) (known : calls = sampleCalls ∨ calls = laterCalls)
    (request : Cloudflare.AcceptRequest) : shapeHost.CollisionFreeOn (fun text =>
      ledgerTexts (sampleAfter sampleCalls) (sampleAfter calls) text ∨
        text = Cloudflare.acceptedText ⟨"later", "later"⟩ request (sampleAfter calls)) := by
  obtain ⟨first, second, ⟨called, -, held⟩, two, held'⟩ := sampleAfter_rows
  have one := congrArg Database.ledger called
  have firstShape := held.shaped
  have secondShape := held'.shaped
  have genesisShape : shapeOf genesisText.toUTF8 = '0' := shapeOf_text (Jcs.head_text_dict _) rfl
  rcases known with rfl | rfl
  · have lastShape := shapeOf_acceptedText sample_heads.1 rfl ⟨"later", "later"⟩ request
    refine @free_of_shapes _ [genesisText, first.hashed,
      Cloudflare.acceptedText ⟨"later", "later"⟩ request (sampleAfter sampleCalls)] ?_ ?_
    · rintro text ((rfl | ⟨row, member, rfl⟩) | rfl)
      · simp
      · rw [one] at member
        obtain rfl : row = first := by simpa using member
        simp
      · exact List.mem_cons_of_mem _ (List.mem_cons_of_mem _ (List.mem_singleton_self _))
    · simp only [List.map_cons, List.map_nil, genesisShape, firstShape, lastShape]
      decide
  · have lastShape := shapeOf_acceptedText sample_heads.2 rfl ⟨"later", "later"⟩ request
    refine @free_of_shapes _ [genesisText, first.hashed, second.hashed,
      Cloudflare.acceptedText ⟨"later", "later"⟩ request (sampleAfter laterCalls)] ?_ ?_
    · rintro text ((rfl | ⟨row, member, rfl⟩) | rfl)
      · simp
      · rw [one, two] at member
        obtain rfl | rfl : row = first ∨ row = second := by simpa using member
        · simp
        · simp
      · exact List.mem_cons_of_mem _ (List.mem_cons_of_mem _ (List.mem_cons_of_mem _ (List.mem_singleton_self _)))
    · simp only [List.map_cons, List.map_nil, genesisShape, firstShape, secondShape, lastShape]
      decide

/-- The service takes a new intent on the ledger it was drawn up from, and refuses it
once another event has been appended. -/
theorem head_compare_accepts : ∃ (intent : Json) (c : IntentCommitment) (head : String),
    verifyInternalBoundary shapeHost intent "alice" false = .ok c ∧
      expectedHead shapeHost (fun _ => true) sampleBuild c (sampleAfter sampleCalls) = .ok head ∧
      Cloudflare.AcceptsNew shapeHost ⟨"later", "later"⟩ (acceptBody intent "alice" false head)
        (sampleAfter sampleCalls) ∧
      ¬ Cloudflare.AcceptsNew shapeHost ⟨"later", "later"⟩ (acceptBody intent "alice" false head)
        (sampleAfter laterCalls) := by
  obtain ⟨p, projected⟩ := (buildProjection_iff shapeHost_sha256Length sampleBuild _ (artifactRows _)).mpr
    sampleAfter_projectable
  have current : projectionOf shapeHost (fun _ => true) sampleBuild (sampleAfter sampleCalls) = .ok p := projected
  have verified := verifyInternalBoundary_iff.mpr (sample_bounded shapeHost p)
  have same : (sampleCommitment shapeHost p.expectedSource).source.pyEq p.expectedSource = true :=
    Json.pyEq_refl rfl
  have expected : expectedHead shapeHost (fun _ => true) sampleBuild (sampleCommitment shapeHost p.expectedSource)
      (sampleAfter sampleCalls) = .ok p.sourceReceipt := by
    rw [expectedHead, current, ok_bind, same]
    rfl
  have compare (calls : List (BackendCall shapeHost)) (known : calls = sampleCalls ∨ calls = laterCalls) :=
    (head_compare_is_projection_compare (fun _ _ _ => true) (fun _ => true) sampleBuild shapeHost_sha256Length
      sampleCalls calls).2 ⟨"later", "later"⟩ _ _ _ _ _ verified expected (sample_free calls known _)
  have filled (text : String) : sha256Text shapeHost text ≠ "" := by
    intro empty
    have length := shapeHost_sha256Length text.toUTF8
    rw [← sha256Text, empty] at length
    cases length
  have receipt : p.sourceReceipt = shapeDigest '2' := by
    rw [projectionOf_receipt current, sourceReceipt, sample_heads.1, sourceReceiptOf, if_pos (by decide)]
  have sendable : Cloudflare.Sendable (sampleCommitment shapeHost p.expectedSource) "alice" p.sourceReceipt :=
    ⟨by decide, by rw [receipt]; decide, filled _, by simp [sampleCommitment], by simp [sampleCommitment],
      by simp [sampleCommitment]⟩
  obtain ⟨first, -, ⟨called, seq, -⟩, -⟩ := sampleAfter_rows
  have none : (sampleAfter sampleCalls).institutionalIntents = [] := by rw [called]; rfl
  have room : Jcs.isSafe (nextSeq (sampleAfter sampleCalls).ledger) = true := by
    have next : nextSeq [first] = 2 := congrArg (· + 1) seq
    rw [called, next]
    rfl
  have admits : Cloudflare.Admits shapeHost (acceptBody (drawUp shapeHost sampleDraft p.expectedSource) "alice" false
      p.sourceReceipt) (sampleAfter sampleCalls)
      (Cloudflare.requestOf (sampleCommitment shapeHost p.expectedSource) "alice" p.sourceReceipt) := by
    refine ⟨(Cloudflare.readRequest_acceptBody verified _ _).mpr ⟨sendable, rfl⟩, ?_, ?_, room⟩
    · rw [findIntent, none]
      rfl
    · rw [none]
      rintro _ ⟨⟩
  refine ⟨_, _, _, verified, expected, (compare sampleCalls (.inl rfl)).mpr ⟨⟨_, admits⟩, rfl⟩, ?_⟩
  · intro accepts
    have projections := ((compare laterCalls (.inr rfl)).mp accepts).2
    have heads : p.sourceReceipt = sourceReceipt shapeHost (sampleAfter laterCalls) :=
      projectionOf_receipt (projections.trans current)
    rw [receipt, sourceReceipt, sample_heads.2, sourceReceiptOf, if_pos (by decide)] at heads
    exact absurd heads (by decide)

end MatVerse
