import MatVerse.InstitutionalStore

/-! Intent acceptance among other writers: clients submit intents in any order, and
between two submissions any transaction may append to the ledger. -/
namespace MatVerse

open Fallible

structure Submission where
  runtime : Runtime
  intent : Json
  principalId : String
  allowDelegatedActor : Bool

/-- A transaction of another client: it may append to the ledger and change the other
tables, but no intent. -/
def OtherWriter (db after : Database) : Prop :=
  db.ledger <+: after.ledger ∧ after.institutionalIntents = db.institutionalIntents

inductive StoreEvent where
  | submit (submission : Submission)
  | other (after : Database)

section
variable (host : Host) (isIsoFormat : String → Bool)

namespace Submission

def persist (s : Submission) (db : Database) : Except PyError IntentAnswer × Database :=
  persistIntent host isIsoFormat s.runtime s.intent s.principalId s.allowDelegatedActor db

def boundary (s : Submission) : Except PyError IntentCommitment :=
  verifyInternalBoundary host s.intent s.principalId s.allowDelegatedActor

def field (s : Submission) (key : String) : Option Json := s.intent.norm.get? key

/-- What the intent says besides its own hash, as its canonical text reads. -/
def content (s : Submission) : Json := Jcs.plain (canonicalIntent s.intent).norm

/-- The text whose digest is the intent's hash. -/
def contentText (s : Submission) : String := Jcs.text (canonicalIntent s.intent)

/-- The parameters; an intent without any has an empty object of them. -/
def parameters (s : Submission) : Json := (s.field "parameters").getD (.obj [])

/-- The store took the intent as a new one. -/
def Accepted (s : Submission) (db : Database) (answer : IntentAnswer) (db' : Database) : Prop :=
  s.persist host isIsoFormat db = (.ok answer, db') ∧ answer.idempotent = false

/-- The same intent but for its parameters, from the same principal at the same time. -/
def SameButParameters (s' s : Submission) : Prop :=
  s'.runtime = s.runtime ∧ s'.principalId = s.principalId ∧
    ∀ key ∈ ["actor_id", "intent_id", "intent_hash", "requested_operation", "target", "source", "created_at"],
      s'.field key = s.field key

/-- Another principal or actor, or another content. -/
def DiffersFrom (s' s : Submission) : Prop :=
  s'.content ≠ s.content ∨ s'.principalId ≠ s.principalId ∨ s'.field "actor_id" ≠ s.field "actor_id"

end Submission

def StoreStep (db : Database) : StoreEvent → Database → Prop
  | .submit s, next => next = (s.persist host isIsoFormat db).2
  | .other after, next => OtherWriter db after ∧ next = after

end

variable {host : Host} {isIsoFormat : String → Bool}

/-! ## Steps only append -/

/-- Rows are only added. -/
def Grows (db next : Database) : Prop :=
  db.ledger <+: next.ledger ∧ db.institutionalIntents <+: next.institutionalIntents

theorem Grows.refl (db : Database) : Grows db db := ⟨List.prefix_refl _, List.prefix_refl _⟩

theorem Grows.trans {db middle next : Database} (first : Grows db middle) (second : Grows middle next) :
    Grows db next :=
  ⟨first.1.trans second.1, first.2.trans second.2⟩

theorem Accepts.ledger {runtime : Runtime} {principalId : String} {c : IntentCommitment}
    {db ledgered db' : Database} {p : Projection} {receipt : LedgerReceipt} {answer : IntentAnswer}
    (accepts : Accepts host isIsoFormat runtime principalId c db p receipt ledgered answer db') :
    ∃ row, db'.ledger = db.ledger ++ [row] := by
  obtain ⟨_, row, _, _, rfl, _⟩ := appendLedgerTx_ok accepts.appended
  exact ⟨row, by rw [accepts.stored]⟩

theorem Accepts.grows {runtime : Runtime} {principalId : String} {c : IntentCommitment}
    {db ledgered db' : Database} {p : Projection} {receipt : LedgerReceipt} {answer : IntentAnswer}
    (accepts : Accepts host isIsoFormat runtime principalId c db p receipt ledgered answer db') :
    Grows db db' := by
  obtain ⟨row, appended⟩ := accepts.ledger
  refine ⟨appended ▸ List.prefix_append _ _, ?_⟩
  rw [accepts.stored]
  exact List.prefix_append _ _

theorem StoreStep.grows {db next : Database} {event : StoreEvent}
    (step : StoreStep host isIsoFormat db event next) : Grows db next := by
  cases event with
  | submit s =>
    obtain rfl : next = (s.persist host isIsoFormat db).2 := step
    unfold Submission.persist
    rcases persistIntent_cases host isIsoFormat s.runtime s.intent s.principalId s.allowDelegatedActor db with
      ⟨e, raised⟩ | ⟨c, _, ⟨row, stored, _, _, _, _, _, answered⟩ | ⟨p, receipt, ledgered, answer, db', accepts, done⟩⟩
    · rw [raised]
      exact Grows.refl db
    · rw [answered]
      exact Grows.refl db
    · rw [done]
      exact accepts.grows
  | other after =>
    obtain ⟨⟨ledger, intents⟩, rfl⟩ := step
    exact ⟨ledger, intents ▸ List.prefix_refl _⟩

theorem run_grows {db final : Database} {events : List StoreEvent}
    (run : Run (StoreStep host isIsoFormat) db events final) : Grows db final :=
  run.invariant (Grows db) (fun _ _ _ grown step => grown.trans step.grows) (Grows.refl db)

/-! ## Retries and reuse -/

theorem boundary_allow {intent : Json} {principalId : String} {allow allow' : Bool} {c : IntentCommitment}
    (verified : verifyInternalBoundary host intent principalId allow = .ok c)
    (delegated : c.actorId = principalId ∨ allow' = true) :
    verifyInternalBoundary host intent principalId allow' = .ok c := by
  have bounded := verifyInternalBoundary_ok verified
  simp only [verifyInternalBoundary, bind_ok, guard_ok, pure_ok] at verified ⊢
  obtain ⟨actorId, actor, _, rest⟩ := verified
  refine ⟨actorId, actor, ?_, rest⟩
  have same := (requireNonEmpty_ok actor).1.symm.trans bounded.actor.1
  obtain rfl := Json.str.inj (Option.some.inj same)
  rcases delegated with own | allowed
  · simp [own]
  · simp [allowed]

theorem persistIntent_existing {runtime : Runtime} {intent : Json} {principalId : String} {allow : Bool}
    {c : IntentCommitment} {db : Database} {row : IntentRow} {stored : StoredIntent}
    (verified : verifyInternalBoundary host intent principalId allow = .ok c)
    (found : findIntent db c.intentId = some row) (hash : row.intentHash = c.intentHash)
    (principal : row.principalId = principalId) (actor : row.actor = c.actorId)
    (loaded : rowToIntent row = .ok stored) :
    persistIntent host isIsoFormat runtime intent principalId allow db = (.ok ⟨stored, true⟩, db) := by
  simp only [persistIntent, verified]
  apply transaction_ok.mpr
  simp only [persistCommitment, found, hash, principal, actor, bne_self_eq_false, Bool.or_self, loaded]
  rfl

theorem persistIntent_collision {runtime : Runtime} {intent : Json} {principalId : String} {allow : Bool}
    {c : IntentCommitment} {db : Database} {row : IntentRow}
    (verified : verifyInternalBoundary host intent principalId allow = .ok c)
    (found : findIntent db c.intentId = some row)
    (differs : row.intentHash ≠ c.intentHash ∨ row.principalId ≠ principalId ∨ row.actor ≠ c.actorId) :
    persistIntent host isIsoFormat runtime intent principalId allow db =
      (.error (.valueError "intent_id collision or principal/actor mismatch"), db) := by
  simp only [persistIntent, verified]
  apply transaction_error.mpr
  refine ⟨?_, rfl⟩
  have mismatch : (row.intentHash != c.intentHash || row.principalId != principalId ||
      row.actor != c.actorId) = true := by
    simpa [or_assoc] using differs
  simp only [persistCommitment, found, mismatch, if_true]

theorem normal_receipt (r : LedgerReceipt) : r.toJson.Normal := by
  apply Json.normal_dict
  intro q member
  simp only [List.mem_cons, List.not_mem_nil, or_false] at member
  rcases member with rfl | rfl | rfl | rfl <;> rfl

/-- The stored row reads back as what was answered, the target by its kind and id. -/
theorem Accepts.loaded {runtime : Runtime} {principalId : String} {c : IntentCommitment}
    {db ledgered db' : Database} {p : Projection} {receipt : LedgerReceipt} {answer : IntentAnswer}
    (accepts : Accepts host isIsoFormat runtime principalId c db p receipt ledgered answer db')
    (actor : c.actorId ≠ "") :
    rowToIntent (c.row principalId (canonicalJson receipt.toJson)) = .ok { answer.toStoredIntent with
      target := .dict [("kind", .str c.targetKind), ("id", .str c.targetId)] } := by
  have source : c.source.norm = c.source := by
    rw [accepts.source]
    exact normal_expectedSource p
  have receiptNormal : receipt.toJson.norm = receipt.toJson := normal_receipt receipt
  simp [rowToIntent, IntentCommitment.row, loadColumn, source, receiptNormal, IntentRow.actor, actor,
    accepts.answered, ok_bind]

theorem Accepts.found {runtime : Runtime} {principalId : String} {c : IntentCommitment}
    {db ledgered db' final : Database} {p : Projection} {receipt : LedgerReceipt} {answer : IntentAnswer}
    (accepts : Accepts host isIsoFormat runtime principalId c db p receipt ledgered answer db')
    (later : Grows db' final) :
    findIntent final c.intentId = some (c.row principalId (canonicalJson receipt.toJson)) := by
  obtain ⟨more, extended⟩ := later.2
  have fresh := accepts.fresh
  unfold findIntent at fresh ⊢
  rw [← extended, accepts.stored, List.find?_append, List.find?_append, fresh]
  simp [IntentCommitment.row]

/-! ## One acceptance for each projection -/

theorem ledgerId_ne_genesis (seq : Nat) : ledgerId seq ≠ "ledger:GENESIS" := by
  intro same
  have digits : (toString seq).toList = "GENESIS".toList := by
    have texts := congrArg String.toList same
    rw [ledgerId, String.toList_append] at texts
    exact List.append_cancel_left texts
  have digit : ∀ c ∈ (toString seq).toList, c.isDigit = true := by
    intro c member
    rw [show (toString seq).toList = Nat.toDigits 10 seq from by simp [toString, Nat.repr]] at member
    exact Nat.isDigit_of_mem_toDigits (by decide) (by decide) member
  have letter := digit 'G' (by rw [digits]; decide)
  simp at letter

/-- Projections of a ledger and of a longer one name different receipts. -/
theorem receiptIds_ne {commit commit' : String} {ledger : List LedgerRow} {row : LedgerRow}
    {longer : List LedgerRow} {receipts receipts' : List ProjectedReceipt} (extends_ : ledger ++ [row] <+: longer)
    (first : projectReceipts host commit ledger = .ok receipts)
    (second : projectReceipts host commit' longer = .ok receipts') :
    receipts'.map ProjectedReceipt.receiptId ≠ receipts.map ProjectedReceipt.receiptId := by
  rw [receiptIds first, receiptIds second]
  have nonempty : longer ≠ [] := by
    rintro rfl
    simp at extends_
  have length := extends_.length_le
  rw [if_neg nonempty]
  intro same
  split at same
  next empty =>
    obtain ⟨head, rest, rfl⟩ := List.exists_cons_of_ne_nil nonempty
    exact ledgerId_ne_genesis _ (List.cons.inj same).1
  next =>
    have lengths := congrArg List.length same
    simp only [List.length_map, List.length_append, List.length_singleton] at lengths length
    omega

theorem accepted_accepts {s : Submission} {db db' : Database} {answer : IntentAnswer}
    (accepted : s.Accepted host isIsoFormat db answer db') :
    ∃ c, verifyInternalBoundary host s.intent s.principalId s.allowDelegatedActor = .ok c ∧
      ∃ p receipt ledgered,
        Accepts host isIsoFormat s.runtime s.principalId c db p receipt ledgered answer db' := by
  obtain ⟨answered, fresh⟩ := accepted
  unfold Submission.persist at answered
  rcases persistIntent_cases host isIsoFormat s.runtime s.intent s.principalId s.allowDelegatedActor db with
    ⟨e, raised⟩ | ⟨c, verified, ⟨row, stored, _, _, _, _, _, again⟩ | ⟨p, receipt, ledgered, answer', next, accepts,
      done⟩⟩
  · rw [raised] at answered
    cases answered
  · rw [again] at answered
    cases answered
    cases fresh
  · rw [done] at answered
    cases answered
    exact ⟨c, verified, p, receipt, ledgered, accepts⟩

theorem boundary_parametersHash {s : Submission} {c : IntentCommitment} (verified : s.boundary host = .ok c) :
    c.parametersHash = sha256Text host (Jcs.text s.parameters) := by
  obtain ⟨parameters, held, _, _, hashed⟩ := (verifyInternalBoundary_ok verified).parameters
  have same : s.parameters = parameters := by
    rw [Submission.parameters, Submission.field]
    cases given : s.intent.norm.get? "parameters" with
    | none =>
      rw [given] at held
      exact Option.some.inj held
    | some own =>
      rw [given] at held
      exact Option.some.inj held
  rw [same, jcsSubsetHash_ok hashed]

/-- Two intents that differ in their parameters only have one commitment while the digests
of the parameters are alike. -/
theorem Submission.SameButParameters.commitment {s s' : Submission} {c c' : IntentCommitment}
    (same : s'.SameButParameters s) (verified : s.boundary host = .ok c) (verified' : s'.boundary host = .ok c')
    (digests : sha256Text host (Jcs.text s'.parameters) = sha256Text host (Jcs.text s.parameters)) : c' = c := by
  have parameters : c'.parametersHash = c.parametersHash := by
    rw [boundary_parametersHash verified, boundary_parametersHash verified', digests]
  obtain ⟨_, _, fields⟩ := same
  have b := verifyInternalBoundary_ok verified
  have b' := verifyInternalBoundary_ok verified'
  have text {key : String} {x y : String} (listed : s'.field key = s.field key)
      (left : s'.field key = some (.str x)) (right : s.field key = some (.str y)) : x = y :=
    Json.str.inj (Option.some.inj (left.symm.trans (listed.trans right)))
  have target : c'.target = c.target :=
    Option.some.inj (b'.target.symm.trans ((fields "target" (by simp)).trans b.target))
  have source : c'.source = c.source :=
    Option.some.inj (b'.source.1.symm.trans ((fields "source" (by simp)).trans b.source.1))
  have kind : c'.targetKind = c.targetKind :=
    Json.str.inj (Option.some.inj (b'.targetKind.symm.trans (target ▸ b.targetKind)))
  have id : c'.targetId = c.targetId :=
    Json.str.inj (Option.some.inj (b'.targetId.symm.trans (target ▸ b.targetId)))
  have intentId := text (fields "intent_id" (by simp)) b'.intentId.1 b.intentId.1
  have intentHash := text (fields "intent_hash" (by simp)) b'.intentHash b.intentHash
  have actor := text (fields "actor_id" (by simp)) b'.actor.1 b.actor.1
  have operation := text (fields "requested_operation" (by simp)) b'.operation.1 b.operation.1
  have createdAt := text (fields "created_at" (by simp)) b'.createdAt b.createdAt
  cases c
  cases c'
  simp_all

/-- What follows when the store takes a submission as new from a database. -/
structure TakenOnce (host : Host) (isIsoFormat : String → Bool) (s : Submission) (db db' : Database)
    (answer : IntentAnswer) : Prop where
  /-- Its source is the projection of the database before its own event. -/
  bound : ∃ p row, projectionOf host isIsoFormat s.runtime.build db = .ok p ∧
    s.field "source" = some p.expectedSource ∧ db'.ledger = db.ledger ++ [row]
  /-- Its event stays where it is, after the same prefix. -/
  kept : ∀ later final, Run (StoreStep host isIsoFormat) db' later final → db'.ledger <+: final.ledger
  /-- An exact retry is answered from the stored row, whenever it comes. -/
  retried : ∃ row ∈ db'.institutionalIntents, ∃ stored, rowToIntent row = .ok stored ∧
    stored = { answer.toStoredIntent with target := stored.target } ∧
    ∀ later final, Run (StoreStep host isIsoFormat) db' later final → ∀ runtime allow,
      (s.field "actor_id" = some (.str s.principalId) ∨ allow = true) →
      Submission.persist host isIsoFormat ⟨runtime, s.intent, s.principalId, allow⟩ final =
        (.ok ⟨stored, true⟩, final)
  /-- Any other use of its id is rejected. -/
  reused : ∀ later final, Run (StoreStep host isIsoFormat) db' later final → ∀ s' : Submission,
    s'.field "intent_id" = s.field "intent_id" → s'.DiffersFrom s →
    host.CollisionFreeOn (fun text => text ∈ [s'.contentText, s.contentText]) →
    ∃ e, s'.persist host isIsoFormat final = (.error e, final)
  /-- Whatever is taken later is taken against another projection. -/
  alone : ∀ later final, Run (StoreStep host isIsoFormat) db' later final →
    ∀ (s' : Submission) answer' final', s'.Accepted host isIsoFormat final answer' final' →
    ∀ p p', projectionOf host isIsoFormat s.runtime.build db = .ok p →
    projectionOf host isIsoFormat s'.runtime.build final = .ok p' →
    p' ≠ p ∧ (host.CollisionFreeOn (fun text => text ∈ [Jcs.text p'.payload, Jcs.text p.payload]) →
      s'.field "source" ≠ s.field "source")
  /-- The row and the event it added are those of its commitment, which has the digest of
  the parameters in their place. -/
  committed : ∃ c receipt row stored projectionHash sourceCommit, s.boundary host = .ok c ∧
    c.parametersHash = sha256Text host (Jcs.text s.parameters) ∧
    db'.institutionalIntents = db.institutionalIntents ++ [c.row s.principalId (canonicalJson receipt)] ∧
    db'.ledger = db.ledger ++ [row] ∧ row.eventJson = canonicalJson (.obj stored) ∧
    storedEvent s.runtime.surroundings (intentAcceptedEvent c s.principalId projectionHash sourceCommit
      s.runtime.acceptedAt) = .ok stored

theorem Accepts.retry {s : Submission} {c : IntentCommitment} {db ledgered db' : Database} {p : Projection}
    {receipt : LedgerReceipt} {answer : IntentAnswer}
    (verified : verifyInternalBoundary host s.intent s.principalId s.allowDelegatedActor = .ok c)
    (accepts : Accepts host isIsoFormat s.runtime s.principalId c db p receipt ledgered answer db') :
    ∃ row ∈ db'.institutionalIntents, ∃ stored, rowToIntent row = .ok stored ∧
      stored = { answer.toStoredIntent with target := stored.target } ∧
      ∀ later final, Run (StoreStep host isIsoFormat) db' later final → ∀ runtime allow,
        (s.field "actor_id" = some (.str s.principalId) ∨ allow = true) →
        Submission.persist host isIsoFormat ⟨runtime, s.intent, s.principalId, allow⟩ final =
          (.ok ⟨stored, true⟩, final) := by
  have bounded := verifyInternalBoundary_ok verified
  have loaded := accepts.loaded bounded.actor.2
  refine ⟨_, by simp [accepts.stored], _, loaded, rfl, ?_⟩
  intro later final run runtime allow delegated
  have again : verifyInternalBoundary host s.intent s.principalId allow = .ok c := by
    refine boundary_allow verified (delegated.imp_left fun own => ?_)
    exact Json.str.inj (Option.some.inj (bounded.actor.1.symm.trans own))
  exact persistIntent_existing again (accepts.found (run_grows run)) rfl rfl
    (by simp [IntentRow.actor, IntentCommitment.row, bounded.actor.2]) loaded

theorem Accepts.reuse {s s' : Submission} {c : IntentCommitment} {db ledgered db' final : Database}
    {p : Projection} {receipt : LedgerReceipt} {answer : IntentAnswer}
    (verified : verifyInternalBoundary host s.intent s.principalId s.allowDelegatedActor = .ok c)
    (accepts : Accepts host isIsoFormat s.runtime s.principalId c db p receipt ledgered answer db')
    (later : Grows db' final) (id : s'.field "intent_id" = s.field "intent_id") (differs : s'.DiffersFrom s)
    (free : host.CollisionFreeOn (fun text => text ∈ [s'.contentText, s.contentText])) :
    ∃ e, s'.persist host isIsoFormat final = (.error e, final) := by
  have bounded := verifyInternalBoundary_ok verified
  cases other : verifyInternalBoundary host s'.intent s'.principalId s'.allowDelegatedActor with
  | error e => exact ⟨e, by simp only [Submission.persist, persistIntent, other]⟩
  | ok c' =>
    have bounded' := verifyInternalBoundary_ok other
    have sameId : c'.intentId = c.intentId := by
      have ids := bounded'.intentId.1.symm.trans (id.trans bounded.intentId.1)
      exact Json.str.inj (Option.some.inj ids)
    refine ⟨_, persistIntent_collision other (sameId ▸ accepts.found later) ?_⟩
    rcases differs with content | principal | actor
    · left
      intro same
      apply content
      have texts : s'.contentText = s.contentText := by
        apply free _ _ (by simp) (by simp)
        exact (jcsSubsetHash_ok bounded'.hashed).symm.trans (same.symm.trans (jcsSubsetHash_ok bounded.hashed))
      exact Jcs.text_injective texts
    · exact .inr (.inl (Ne.symm principal))
    · refine .inr (.inr fun same => actor ?_)
      rw [IntentRow.actor, IntentCommitment.row, if_neg (by simpa using bounded.actor.2)] at same
      exact bounded'.actor.1.trans (same ▸ bounded.actor.1.symm)

theorem Accepts.alone {s s' : Submission} {c c' : IntentCommitment}
    {db ledgered db' final ledgered' final' : Database} {p p' : Projection} {receipt receipt' : LedgerReceipt}
    {answer answer' : IntentAnswer}
    (accepts : Accepts host isIsoFormat s.runtime s.principalId c db p receipt ledgered answer db')
    (bounded : Bounded host s.intent s.principalId s.allowDelegatedActor c) (later : Grows db' final)
    (accepts' : Accepts host isIsoFormat s'.runtime s'.principalId c' final p' receipt' ledgered' answer' final')
    (bounded' : Bounded host s'.intent s'.principalId s'.allowDelegatedActor c') :
    p' ≠ p ∧ (host.CollisionFreeOn (fun text => text ∈ [Jcs.text p'.payload, Jcs.text p.payload]) →
      s'.field "source" ≠ s.field "source") := by
  obtain ⟨head, built⟩ := buildProjection_ok accepts.current
  obtain ⟨head', built'⟩ := buildProjection_ok accepts'.current
  obtain ⟨row, appended⟩ := accepts.ledger
  have ids := receiptIds_ne (appended ▸ later.1) built.receipts built'.receipts
  refine ⟨fun same => ids (by rw [same]), ?_⟩
  intro free same
  have sources : p'.expectedSource = p.expectedSource := by
    rw [← accepts'.source, ← accepts.source]
    exact Option.some.inj (bounded'.source.1.symm.trans (same.trans bounded.source.1))
  have hashes : p'.projectionHash = p.projectionHash := by
    have fields := (expectedSource_fields p').1.symm.trans ((congrArg _ sources).trans (expectedSource_fields p).1)
    exact Json.str.inj (Option.some.inj fields)
  rw [built.projectionHash, built'.projectionHash] at hashes
  exact ids (receiptIds_of_text (free _ _ (by simp) (by simp) hashes))

/-- Whatever clients submit and other writers append, from any database: a rejected
submission changes nothing, what is answered and stored depends on the parameters through
their digest only, and a submission taken as new is taken once. -/
theorem intent_acceptance (host : Host) (isIsoFormat : String → Bool) (s : Submission) (db : Database) :
    (∀ e, (s.persist host isIsoFormat db).1 = .error e → (s.persist host isIsoFormat db).2 = db) ∧
    (∀ (s' : Submission) (c c' : IntentCommitment), s'.SameButParameters s → s.boundary host = .ok c →
      s'.boundary host = .ok c' →
      sha256Text host (Jcs.text s'.parameters) = sha256Text host (Jcs.text s.parameters) →
      s'.persist host isIsoFormat db = s.persist host isIsoFormat db) ∧
    ∀ answer db', s.Accepted host isIsoFormat db answer db' → TakenOnce host isIsoFormat s db db' answer := by
  refine ⟨?_, ?_, ?_⟩
  · intro e raised
    unfold Submission.persist at raised ⊢
    rcases persistIntent_cases host isIsoFormat s.runtime s.intent s.principalId s.allowDelegatedActor db with
      ⟨e, rejected⟩ | ⟨c, _, ⟨row, stored, _, _, _, _, _, done⟩ | ⟨p, receipt, ledgered, answer, db', _, done⟩⟩
    · rw [rejected]
    · rw [done]
    · rw [done] at raised
      cases raised
  · intro s' c c' same verified verified' digests
    have commitments : c' = c := same.commitment verified verified' digests
    unfold Submission.boundary at verified verified'
    simp only [Submission.persist, persistIntent, verified, verified']
    rw [commitments, same.1, same.2.1]
  · intro answer db' accepted
    obtain ⟨c, verified, p, receipt, ledgered, accepts⟩ := accepted_accepts accepted
    have bounded := verifyInternalBoundary_ok verified
    obtain ⟨stored, row, store, made, kept, _⟩ := appendLedgerTx_ok accepts.appended
    have ledger : db'.ledger = ledgered.ledger := by rw [accepts.stored]
    refine ⟨⟨p, row, accepts.current, bounded.source.1.trans (congrArg some accepts.source), ?_⟩,
      fun later final run => (run_grows run).1, accepts.retry verified,
      fun later final run s' id differs free => accepts.reuse verified (run_grows run) id differs free, ?_,
      ⟨c, receipt.toJson, row, stored, _, _, verified, boundary_parametersHash verified, by rw [accepts.stored], ?_,
        by rw [made], store⟩⟩
    · rw [ledger, kept]
    · intro later final run s' answer' final' accepted' q q' current current'
      obtain ⟨c', verified', p', receipt', ledgered', accepts'⟩ := accepted_accepts accepted'
      obtain rfl := Except.ok.inj (accepts.current.symm.trans current)
      obtain rfl := Except.ok.inj (accepts'.current.symm.trans current')
      exact accepts.alone bounded (run_grows run) accepts' (verifyInternalBoundary_ok verified')
    · rw [ledger, kept]

end MatVerse
