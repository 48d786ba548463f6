import MatVerse.ModelSessions
import MatVerse.ProjectionFaithful

/-! What the transferable state filter lets through: no mapping at any depth has a
forbidden key, however it is spelled, and so it is for stored handoffs and for the
parameters of accepted intents. -/
namespace MatVerse

open Fallible

namespace ModelBridge

/-! ## Canonical keys -/

def isKeyChar (c : Char) : Bool := c.isLower || c.isDigit

/-- `str.lower` of a character. Of the characters beyond ASCII only the Kelvin sign and the
dotted capital I have ASCII letters in their lower case; the others are left as they are. -/
def lowerChar (c : Char) : List Char :=
  if c.toNat = 0x212A then ['k'] else if c.toNat = 0x0130 then ['i', '\u0307'] else [c.toLower]

/-- `re.sub(r"([a-z0-9])([A-Z])", r"\1_\2", text)`. -/
def separate : List Char → List Char
  | c :: d :: rest => if isKeyChar c && d.isUpper then c :: '_' :: separate (d :: rest) else c :: separate (d :: rest)
  | cs => cs

/-- `canonical_key`, step by step. -/
def canonicalKeySteps (key : String) : String :=
  String.ofList (((separate (Text.strip key).toList).flatMap lowerChar).filter isKeyChar)

/-- The ASCII letters and digits of a key once its case is folded. -/
def foldedKey (key : String) : String := String.ofList ((key.toList.flatMap lowerChar).filter isKeyChar)

theorem isUpper_iff {c : Char} : c.isUpper = true ↔ 65 ≤ c.toNat ∧ c.toNat ≤ 90 := decide_eq_true_iff

theorem isKeyChar_iff {c : Char} :
    isKeyChar c = true ↔ 97 ≤ c.toNat ∧ c.toNat ≤ 122 ∨ 48 ≤ c.toNat ∧ c.toNat ≤ 57 := by
  have ranges : isKeyChar c = (decide (c.val ≥ 'a'.val) && decide (c.val ≤ 'z'.val) ||
    decide (c.val ≥ '0'.val) && decide (c.val ≤ '9'.val)) := rfl
  rw [ranges, Bool.or_eq_true, Bool.and_eq_true, Bool.and_eq_true, decide_eq_true_iff, decide_eq_true_iff,
    decide_eq_true_iff, decide_eq_true_iff]
  exact Iff.rfl

theorem toLower_plain {c : Char} (plain : c.isUpper = false) : c.toLower = c := by
  unfold Char.toLower
  rw [dif_neg (of_decide_eq_false plain)]

theorem keyChar_toLower {c : Char} (upper : c.isUpper = true) : isKeyChar c.toLower = true := by
  have all : (List.range 91).all (fun n => !(Char.ofNat n).isUpper || isKeyChar (Char.ofNat n).toLower) = true := by
    decide
  have here := List.all_eq_true.mp all c.toNat (List.mem_range.mpr (Nat.lt_succ_of_le (isUpper_iff.mp upper).2))
  rw [Char.ofNat_toNat] at here
  simpa [upper] using here

theorem filter_lowerChar (c : Char) : (lowerChar c).filter isKeyChar = lowerAscii c := by
  unfold lowerChar lowerAscii
  cases upper : c.isUpper with
  | true =>
    have range := isUpper_iff.mp upper
    rw [if_neg (by omega), if_neg (by omega), if_pos rfl, List.filter_singleton, keyChar_toLower upper]
    rfl
  | false =>
    have same : c.toLower = c := toLower_plain upper
    rw [same, if_neg Bool.false_ne_true]
    change _ = if isKeyChar c then [c] else _
    cases kept : isKeyChar c with
    | true =>
      have ranges := isKeyChar_iff.mp kept
      rw [if_neg (by omega), if_neg (by omega), if_pos rfl, List.filter_singleton, kept]
      rfl
    | false =>
      rw [if_neg Bool.false_ne_true]
      split
      · rfl
      split
      · rfl
      · rw [List.filter_singleton, kept]
        rfl

theorem foldedKey_eq (key : String) : foldedKey key = canonicalKey key := by
  rw [foldedKey, canonicalKey, List.filter_flatMap]
  simp only [filter_lowerChar]

/-- The separators that are put in are dropped again. -/
theorem flatMap_separate (cs : List Char) : (separate cs).flatMap lowerAscii = cs.flatMap lowerAscii := by
  have mark : lowerAscii '_' = [] := by decide
  induction cs with
  | nil => rfl
  | cons c rest ih =>
    cases rest with
    | nil => rfl
    | cons d rest =>
      rw [separate]
      split
      · simp only [List.flatMap_cons, mark, List.nil_append, ih]
      · simp only [List.flatMap_cons, ih]

theorem lowerAscii_space {c : Char} (blank : Text.isSpace c = true) : lowerAscii c = [] := by
  rw [← filter_lowerChar]
  simp only [Text.isSpace, Bool.or_eq_true, Bool.and_eq_true, decide_eq_true_eq, List.contains_iff_mem, List.mem_cons,
    List.not_mem_nil, or_false] at blank
  have upper : c.isUpper = false := by
    rw [← Bool.not_eq_true, isUpper_iff]
    omega
  have other : isKeyChar c = false := by
    rw [← Bool.not_eq_true, isKeyChar_iff]
    omega
  have same : c.toLower = c := toLower_plain upper
  rw [lowerChar, if_neg (by omega), if_neg (by omega), same, List.filter_singleton, other]
  rfl

theorem flatMap_dropWhile (cs : List Char) :
    (cs.dropWhile Text.isSpace).flatMap lowerAscii = cs.flatMap lowerAscii := by
  induction cs with
  | nil => rfl
  | cons c rest ih =>
    cases blank : Text.isSpace c with
    | true => rw [List.dropWhile_cons_of_pos blank, ih, List.flatMap_cons, lowerAscii_space blank, List.nil_append]
    | false => rw [List.dropWhile_cons_of_neg (by simp [blank])]

theorem flatMap_strip (key : String) : (Text.strip key).toList.flatMap lowerAscii = key.toList.flatMap lowerAscii := by
  have blanks (cs : List Char) : (cs.reverse.dropWhile Text.isSpace).reverse.flatMap lowerAscii =
      cs.flatMap lowerAscii := by
    have none : (cs.reverse.takeWhile Text.isSpace).reverse.flatMap lowerAscii = [] := by
      simp only [List.flatMap_eq_nil_iff, List.mem_reverse]
      exact fun c member => lowerAscii_space (List.mem_takeWhile_imp member)
    conv_rhs => rw [← cs.reverse_reverse, ← List.takeWhile_append_dropWhile (p := Text.isSpace) (l := cs.reverse)]
    rw [List.reverse_append, List.flatMap_append, none, List.append_nil]
  rw [Text.strip, String.toList_ofList, blanks, flatMap_dropWhile]

/-- Stripping a key and separating its words makes no difference to its letters. -/
theorem canonicalKeySteps_eq (key : String) : canonicalKeySteps key = canonicalKey key := by
  rw [canonicalKeySteps, canonicalKey, List.filter_flatMap]
  simp only [filter_lowerChar]
  rw [flatMap_separate, flatMap_strip]

/-! ## The filter -/

/-- A mapping has the key, at any depth of mappings and sequences. -/
inductive KeyWithin (key : String) : Json → Prop where
  | own {v entries} : (key, v) ∈ entries → KeyWithin key (.obj entries)
  | entry {k v entries} : (k, v) ∈ entries → KeyWithin key v → KeyWithin key (.obj entries)
  | item {v items} : v ∈ items → KeyWithin key v → KeyWithin key (.arr items)

/-- No key at any depth is a forbidden name once its case is folded. -/
def Clean (v : Json) : Prop := ∀ key, KeyWithin key v → foldedKey key ∉ forbiddenCanonical

structure Transferable (v : Json) : Prop where
  root : ∀ entries, v = .obj entries → ∀ p ∈ entries, p.1 ∈ allowedRootKeys
  clean : Clean v

theorem clean_arr {items : List Json} : Clean (.arr items) ↔ ∀ v ∈ items, Clean v := by
  constructor
  · exact fun clean v member key within => clean key (.item member within)
  · intro clean key within
    cases within with
    | item member within => exact clean _ member key within

theorem clean_obj {entries : List (String × Json)} :
    Clean (.obj entries) ↔ ∀ p ∈ entries, canonicalKey p.1 ∉ forbiddenCanonical ∧ Clean p.2 := by
  constructor
  · intro clean p member
    refine ⟨?_, fun key within => clean key (.entry member within)⟩
    rw [← foldedKey_eq]
    exact clean p.1 (.own member)
  · intro clean key within
    cases within with
    | own member =>
      rw [foldedKey_eq]
      exact (clean _ member).1
    | entry member within => exact (clean _ member).2 key within

theorem assertItems_ok {path : String} {index : Nat} {items : List Json}
    (each : ∀ v ∈ items, ∀ path, assertNested path v = .ok () ↔ Clean v) :
    assertItems path index items = .ok () ↔ Clean (.arr items) := by
  rw [clean_arr]
  induction items generalizing index with
  | nil => simp [assertItems]
  | cons v rest ih =>
    rw [assertItems, check_ok, each v (by simp), ih fun w member => each w (List.mem_cons_of_mem _ member),
      List.forall_mem_cons]

theorem assertEntries_ok {path : String} {entries : List (String × Json)}
    (each : ∀ p ∈ entries, ∀ path, assertNested path p.2 = .ok () ↔ Clean p.2) :
    assertEntries path entries = .ok () ↔ Clean (.obj entries) := by
  rw [clean_obj]
  induction entries with
  | nil => simp [assertEntries]
  | cons p rest ih =>
    obtain ⟨key, v⟩ := p
    rw [assertEntries, guard_ok, check_ok, each (key, v) (by simp),
      ih fun w member => each w (List.mem_cons_of_mem _ member), List.forall_mem_cons, List.contains_iff_mem, and_assoc]

theorem assertNested_ok (v : Json) (path : String) : assertNested path v = .ok () ↔ Clean v := by
  have scalar {v : Json} (none : ∀ key, ¬KeyWithin key v) : Clean v := fun key within => absurd within (none key)
  induction v using Json.induction generalizing path with
  | null => exact iff_of_true rfl (scalar fun _ => nofun)
  | bool => exact iff_of_true rfl (scalar fun _ => nofun)
  | int => exact iff_of_true rfl (scalar fun _ => nofun)
  | float => exact iff_of_true rfl (scalar fun _ => nofun)
  | str => exact iff_of_true rfl (scalar fun _ => nofun)
  | arr items ih => exact assertItems_ok ih
  | obj entries ih => exact assertEntries_ok ih

theorem assertTransferableState_ok (v : Json) : assertTransferableState v = .ok () ↔ Transferable v := by
  cases v with
  | obj entries =>
    have declared : ((entries.map Prod.fst).filter (fun key => !allowedRootKeys.contains key)).isEmpty = true ↔
        ∀ p ∈ entries, p.1 ∈ allowedRootKeys := by
      simp [List.isEmpty_iff, List.filter_eq_nil_iff]
    have filtered : assertTransferableState (.obj entries) =
        if ((entries.map Prod.fst).filter (fun key => !allowedRootKeys.contains key)).isEmpty then assertEntries "$"
          entries
        else .error (.valueError ("undeclared transferable root fields: " ++
          ", ".intercalate ((entries.map Prod.fst).filter (fun key => !allowedRootKeys.contains key)))) := rfl
    rw [filtered]
    split
    next named =>
      rw [assertEntries_ok fun p _ => assertNested_ok p.2]
      refine ⟨fun clean => ⟨fun _ same => ?_, clean⟩, Transferable.clean⟩
      obtain rfl := Json.obj.inj same
      exact declared.mp named
    next other => exact iff_of_false (by simp) fun accepted => other (declared.mpr (accepted.root _ rfl))
  | _ => exact (assertNested_ok _ _).trans ⟨fun clean => ⟨fun _ => nofun, clean⟩, Transferable.clean⟩

end ModelBridge

/-! ## Handoffs and intents -/

section
variable {host : Host}

open ModelBridge

/-- The payload of a stored handoff. -/
def Carries (h : ModelHandoff) : Prop := ∃ payload, JsonText.loads h.payloadJson = some payload ∧ Transferable payload

theorem buildHandoffDigest_ok {sessionId : String} {sequence : Nat} {fromParticipant toParticipant : String}
    {parentHandoffId : Option String} {payload : Mapping} {frozenContractHash digest : String}
    (built : buildHandoffDigest host sessionId sequence fromParticipant toParticipant parentHandoffId payload
      frozenContractHash = .ok digest) : Transferable (Json.dict payload).norm := by
  simp only [buildHandoffDigest, check_ok] at built
  exact (assertTransferableState_ok _).mp built.1

theorem appendModelHandoff_carries (env : Surroundings) (sessionId fromParticipant toParticipant : String)
    (parentHandoffId : Option String) (payload : Mapping) (expectedContractHash : String) {db : Database}
    (carried : ∀ h ∈ db.modelHandoffs, Carries h) :
    ∀ h ∈ (appendModelHandoff host env sessionId fromParticipant toParticipant parentHandoffId payload
      expectedContractHash db).2.modelHandoffs, Carries h := by
  unfold appendModelHandoff
  rcases transaction_after (appendHandoffTx host env sessionId fromParticipant toParticipant parentHandoffId payload
    expectedContractHash) db with same | ⟨answer, done⟩
  · rwa [same]
  · generalize (transaction _ db).2 = final at done ⊢
    unfold appendHandoffTx at done
    split at done
    · simp [throw_ok] at done
    · simp only [bind_ok, guard_ok, pure_ok, Prod.mk.injEq] at done
      obtain ⟨_, ids, _, _, _, _, _, payloadHash, built, inserted, added, ⟨receipt, stored⟩, appended, _, rfl⟩ := done
      rw [insertHandoff_ok added] at appended
      obtain ⟨frame, -⟩ := ackEvents_quiet "MODEL_BRIDGE_HANDOFF" appended (by simp [handoffEvent]) (by decide)
      rw [frame]
      intro h member
      rcases List.mem_append.mp member with earlier | last
      · exact carried h earlier
      · obtain rfl := List.mem_singleton.mp last
        exact ⟨_, loads_canonicalJson _, buildHandoffDigest_ok built⟩

theorem appendLedgerTx_handoffs {env : Surroundings} {db db' : Database} {event : Mapping} {decision : String}
    {receipt : LedgerReceipt} (done : appendLedgerTx host env db event decision = .ok (receipt, db')) :
    db'.modelHandoffs = db.modelHandoffs := by
  obtain ⟨_, -, frame, -⟩ := ackEvents_append done
  rw [frame]

/-- A call of the bridge keeps the payloads of the handoffs transferable. -/
theorem BridgeCall.carries {b : Bridge} (call : BridgeCall) (carried : ∀ h ∈ b.db.modelHandoffs, Carries h) :
    ∀ h ∈ (call.after host b).db.modelHandoffs, Carries h := by
  cases call with
  | registerContractArtifact env kind version content createdBy =>
    rcases registerContractArtifact_cases host env kind version content createdBy b.db with same | ⟨_, _, _, appended⟩
    · rwa [BridgeCall.after, same]
    · rwa [BridgeCall.after, appendLedgerTx_handoffs appended]
  | validateContractRegistry contract =>
    rw [BridgeCall.after]
    split <;> exact carried
  | createModelSession env sessionId protocolVersion contract frozenContractHash participants createdBy =>
    rw [BridgeCall.after]
    split
    · rcases transaction_after
        (createSessionTx host env sessionId protocolVersion contract frozenContractHash participants
        createdBy) b.db with same | ⟨answer, done⟩
      · rwa [same]
      · simp only [createSessionTx, bind_ok, pure_ok, Prod.mk.injEq] at done
        obtain ⟨inserted, added, _, _, ⟨_, stored⟩, appended, _, final⟩ := done
        rw [insertSession_ok added] at appended
        rwa [← final, appendLedgerTx_handoffs appended]
    · exact carried
  | appendModelHandoff => exact appendModelHandoff_carries _ _ _ _ _ _ _ carried
  | listModelInbox => exact carried
  | acknowledgeModelHandoff env handoffId participant =>
    rcases acknowledgeModelHandoff_cases host env handoffId participant b.db with same | ⟨_, _, _, _, appended⟩
    · rwa [BridgeCall.after, same]
    · rw [BridgeCall.after, appendLedgerTx_handoffs appended]
      intro h member
      obtain ⟨row, held, rfl⟩ := List.mem_map.mp member
      rw [Carries, ackRow_frame]
      exact carried row held

theorem carries_run (calls : List BridgeCall) {b : Bridge} (carried : ∀ h ∈ b.db.modelHandoffs, Carries h) :
    ∀ h ∈ (calls.foldl (BridgeCall.after host) b).db.modelHandoffs, Carries h := by
  induction calls generalizing b with
  | nil => exact carried
  | cons call rest ih => exact ih (call.carries carried)

/-- The parameters of an intent have no forbidden key. -/
def CleanParameters (intent : Json) : Prop := ∀ parameters, intent.norm.get? "parameters" = some parameters →
    Clean parameters

theorem verifyInternalBoundary_clean {intent : Json} {principalId : String} {allowDelegatedActor : Bool}
    {c : IntentCommitment} (verified : verifyInternalBoundary host intent principalId allowDelegatedActor = .ok c) :
    CleanParameters intent := by
  obtain ⟨stated, present, -, transferable, -⟩ := (verifyInternalBoundary_ok verified).parameters
  intro parameters found
  rw [found, Option.some_or, Option.some_inj] at present
  obtain rfl := present
  have clean := ((assertTransferableState_ok _).mp transferable).clean
  exact (clean_obj.mp clean ("metadata", parameters) (by simp)).2

theorem persistIntent_clean {isIsoFormat : String → Bool} {runtime : Runtime} {intent : Json} {principalId : String}
    {allowDelegatedActor : Bool} {db : Database} {answer : IntentAnswer}
    (accepted : (persistIntent host isIsoFormat runtime intent principalId allowDelegatedActor db).1 = .ok answer) :
    CleanParameters intent := by
  unfold persistIntent at accepted
  split at accepted
  · cases accepted
  next c verified => exact verifyInternalBoundary_clean verified

theorem persistIntentSeen_clean {isIsoFormat : String → Bool} {build : BuildConfiguration} {clock : Cloudflare.Clock}
    {intent : Json} {principalId : String} {allowDelegatedActor : Bool} {snapshot db : Database} {answer : IntentAnswer}
    (accepted : (persistIntentSeen host isIsoFormat build clock intent principalId allowDelegatedActor snapshot db).1 =
      .ok answer) : CleanParameters intent := by
  unfold persistIntentSeen at accepted
  split at accepted
  · cases accepted
  next c verified => exact verifyInternalBoundary_clean verified

end

/-- The filter accepts a JSON object exactly when its root keys are allow-listed and no
mapping at any depth has a key whose ASCII letters and digits, once its case is folded,
spell a forbidden name. No stored handoff and no accepted intent has one. -/
theorem transferable_state_filter (host : Host) (isIsoFormat : String → Bool) :
    (∀ entries, ModelBridge.assertTransferableState (.obj entries) = .ok () ↔
      (∀ p ∈ entries, p.1 ∈ ModelBridge.allowedRootKeys) ∧
        ∀ key, ModelBridge.KeyWithin key (.obj entries) → ModelBridge.foldedKey key ∉ ModelBridge.forbiddenCanonical) ∧
      (∀ (calls : List BridgeCall), ∀ h ∈ (calls.foldl (BridgeCall.after host) Bridge.empty).db.modelHandoffs,
        ∃ payload, JsonText.loads h.payloadJson = some payload ∧
          ∀ key, ModelBridge.KeyWithin key payload → ModelBridge.foldedKey key ∉ ModelBridge.forbiddenCanonical) ∧
      (∀ runtime intent principalId allowDelegatedActor db answer,
        (persistIntent host isIsoFormat runtime intent principalId allowDelegatedActor db).1 = .ok answer →
          CleanParameters intent) ∧
      ∀ build clock intent principalId allowDelegatedActor snapshot db answer,
        (persistIntentSeen host isIsoFormat build clock intent principalId allowDelegatedActor snapshot db).1 =
        .ok answer →
          CleanParameters intent := by
  refine ⟨fun entries => ?_, fun calls h member => ?_, fun _ _ _ _ _ _ => persistIntent_clean,
    fun _ _ _ _ _ _ _ _ => persistIntentSeen_clean⟩
  · rw [ModelBridge.assertTransferableState_ok]
    refine ⟨fun accepted => ⟨accepted.root entries rfl, accepted.clean⟩, fun ⟨root, clean⟩ => ⟨fun _ same => ?_, clean⟩⟩
    obtain rfl := Json.obj.inj same
    exact root
  · obtain ⟨payload, read, transferable⟩ := carries_run calls (fun h none => absurd none List.not_mem_nil) h member
    exact ⟨payload, read, transferable.clean⟩

/-- A key that is dropped to its ASCII letters and digits before its case is folded. -/
def ModelBridge.droppedKey (key : String) : String :=
  String.ofList ((key.toList.filter Char.isAlphanum).map Char.toLower)

/-- The lower case of the Kelvin sign is an ASCII letter, which completes a forbidden name
that the other letters do not spell. -/
theorem kelvin_key_refused :
    (∀ p ∈ [("state", Json.obj [("api\u212aey", .null)])], p.1 ∈ ModelBridge.allowedRootKeys) ∧
      (∀ key, ModelBridge.KeyWithin key (.obj [("state", .obj [("api\u212aey", .null)])]) →
        ModelBridge.droppedKey key ∉ ModelBridge.forbiddenCanonical) ∧
      ModelBridge.assertTransferableState (.obj [("state", .obj [("api\u212aey", .null)])]) =
        .error (.valueError "forbidden hidden/private field at $.state.api\u212aey") := by
  refine ⟨by decide, fun key within => ?_, by decide⟩
  have outer : ModelBridge.droppedKey "state" ∉ ModelBridge.forbiddenCanonical := by decide
  have inner : ModelBridge.droppedKey "api\u212aey" ∉ ModelBridge.forbiddenCanonical := by decide
  cases within with
  | own member =>
    obtain ⟨rfl, -⟩ := Prod.mk.inj (List.mem_singleton.mp member)
    exact outer
  | entry member within =>
    obtain ⟨-, rfl⟩ := Prod.mk.inj (List.mem_singleton.mp member)
    cases within with
    | own member =>
      obtain ⟨rfl, -⟩ := Prod.mk.inj (List.mem_singleton.mp member)
      exact inner
    | entry member within =>
      obtain ⟨-, rfl⟩ := Prod.mk.inj (List.mem_singleton.mp member)
      cases within

end MatVerse
