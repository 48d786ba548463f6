import MatVerse.InstitutionalStore

/-! Drawing up an intent: a client binds a draft to a source and adds the hash of what
the intent then says. The boundary lets the intent through for one source or for all. -/
namespace MatVerse

open Fallible

variable {host : Host}

/-- The hash that an intent has to carry. -/
def intentHashOf (host : Host) (intent : Json) : String := sha256Text host (Jcs.text (canonicalIntent intent))

/-- The intent of a draft, bound to a source. -/
def drawUp (host : Host) (draft : Mapping) (source : Json) : Json :=
  let fields := draft ++ [("source", source)]
  .dict (fields ++ [("intent_hash", .str (intentHashOf host (.dict fields)))])

/-! ## The canonical intent -/

theorem canonicalIntent_dict (fields : Mapping) : canonicalIntent (.dict fields) =
    .obj (Dict.erase "intent_hash" (Dict.ofPairs (fields.map (fun p => (p.1, p.2.norm))))) := by
  rw [canonicalIntent, Json.norm_dict]
  rfl

theorem get?_canonicalIntent {intent : Json} {key : String} (other : key ≠ "intent_hash") :
    (canonicalIntent intent).get? key = intent.norm.get? key := by
  unfold canonicalIntent
  cases fields : intent.norm with
  | obj entries =>
    have sorted := (Json.normal_obj.mp (fields ▸ Json.normal_norm intent)).1
    simp only [Json.get?]
    rw [Dict.get?_erase sorted, if_neg other]
  | _ => rfl

theorem normal_canonicalIntent (intent : Json) : (canonicalIntent intent).Normal := by
  unfold canonicalIntent
  cases fields : intent.norm with
  | obj entries =>
    obtain ⟨sorted, values⟩ := Json.normal_obj.mp (fields ▸ Json.normal_norm intent)
    exact Json.normal_obj.mpr
      ⟨Dict.sorted_erase _ sorted, fun p member => values p ((Dict.erase_sublist _ _).mem member)⟩
  | _ =>
    have normal := Json.normal_norm intent
    rwa [fields] at normal

theorem isPlainable_canonicalIntent {fields : Mapping}
    (values : ∀ key v, key ≠ "intent_hash" → (Json.dict fields).norm.get? key = some v → Jcs.isPlainable v = true) :
    Jcs.isPlainable (canonicalIntent (.dict fields)) = true := by
  rw [canonicalIntent_dict, Jcs.isPlainable, Jcs.entriesPlainable_iff]
  intro p member
  have sorted := Dict.sorted_ofPairs (fields.map (fun p => (p.1, p.2.norm)))
  have held := Dict.get?_of_mem (Dict.sorted_erase "intent_hash" sorted) member
  rw [Dict.get?_erase sorted] at held
  split at held
  · cases held
  next other => exact values p.1 p.2 other (by rwa [Json.norm_dict])

/-- A value of a document whose numbers are safe has safe numbers. -/
theorem isPlainable_get {v w : Json} {key : String} (safe : Jcs.isPlainable v = true) (held : v.get? key = some w) :
    Jcs.isPlainable w = true := by
  cases v with
  | obj entries =>
    rw [Jcs.isPlainable, Jcs.entriesPlainable_iff] at safe
    exact safe _ (Dict.get?_mem held)
  | _ => cases held

/-! ## What an intent says -/

theorem canonicalIntent_drawUp (draft : Mapping) (source : Json) :
    canonicalIntent (drawUp host draft source) = canonicalIntent (.dict (draft ++ [("source", source)])) := by
  unfold drawUp
  rw [canonicalIntent_dict, canonicalIntent_dict]
  congr 1
  apply Dict.ext_of_sorted (Dict.sorted_erase _ (Dict.sorted_ofPairs _)) (Dict.sorted_erase _ (Dict.sorted_ofPairs _))
  intro key
  rw [Dict.get?_erase (Dict.sorted_ofPairs _), Dict.get?_erase (Dict.sorted_ofPairs _)]
  by_cases hash : key = "intent_hash"
  · simp [hash]
  · rw [if_neg hash, if_neg hash, List.map_append, Dict.get?_ofPairs_append]
    simp [hash]

theorem intentHashOf_drawUp (draft : Mapping) (source : Json) :
    (drawUp host draft source).norm.get? "intent_hash" = some
    (.str (intentHashOf host (drawUp host draft source))) := by
  rw [intentHashOf, canonicalIntent_drawUp, drawUp, Json.norm_dict, List.map_append, Json.get?_dict,
    Dict.get?_ofPairs_append]
  simp [intentHashOf]

theorem get?_drawUp_source (draft : Mapping) (source : Json) :
    (drawUp host draft source).norm.get? "source" = some source.norm := by
  simp [drawUp, Dict.get?_ofPairs_append]

/-- Besides its source and its hash an intent says what its draft says. -/
theorem get?_drawUp (draft : Mapping) (source : Json) {key : String} (notSource : key ≠ "source")
    (notHash : key ≠ "intent_hash") :
    (drawUp host draft source).norm.get? key = (Json.dict draft).norm.get? key := by
  simp [drawUp, Dict.get?_ofPairs_append, notSource, notHash]

theorem isPlainable_drawUp {draft : Mapping} {source : Json} (drafted : ∀ p ∈ draft, Jcs.isPlainable p.2 = true)
    (sourced : Jcs.isPlainable source = true) :
    Jcs.isPlainable (canonicalIntent (drawUp host draft source)) = true := by
  rw [canonicalIntent_drawUp, canonicalIntent_dict, Jcs.isPlainable, Jcs.entriesPlainable_iff]
  intro p member
  obtain ⟨q, listed, rfl⟩ := List.mem_map.mp (Dict.mem_ofPairs ((Dict.erase_sublist _ _).mem member))
  apply Jcs.isPlainable_norm
  rcases List.mem_append.mp listed with own | bound
  · exact drafted q own
  · obtain rfl := List.mem_singleton.mp bound
    exact sourced

theorem isPlainable_expectedSource (p : Projection) : Jcs.isPlainable p.expectedSource = true := by
  apply Jcs.isPlainable_dict
  simp [SourceBinding.toMapping, Jcs.isPlainable]

/-! ## The boundary -/

/-- The boundary lets through exactly the intents of which it establishes everything. -/
theorem verifyInternalBoundary_iff {intent : Json} {principalId : String} {allow : Bool} {c : IntentCommitment} :
    verifyInternalBoundary host intent principalId allow = .ok c ↔ Bounded host intent principalId allow c := by
  refine ⟨verifyInternalBoundary_ok, fun bounded => ?_⟩
  obtain ⟨parameters, present, parametersShaped, transferable, parametersHash⟩ := bounded.parameters
  have filled {field : Option Json} {s message : String} (held : field = some (.str s) ∧ s ≠ "") :
      requireNonEmpty field message = .ok s := by
    rw [held.1]
    simp [requireNonEmpty, held.2]
  have text {field : Option Json} {s message : String} (held : field = some (.str s)) :
      requireStr field message = .ok s := by
    rw [held]
    rfl
  have object {field : Option Json} {v : Json} {message : String} (held : field = some v) (shaped : v.isObj = true) :
      requireDict field message = .ok v := by
    rw [held]
    cases v with
    | obj entries => rfl
    | _ => cases shaped
  have targetShaped : c.target.isObj = true := by
    have kind := bounded.targetKind
    cases shape : c.target with
    | obj entries => rfl
    | _ => simp [shape, Json.get?] at kind
  have delegated : (c.actorId != principalId && !allow) = false := by
    rcases bounded.delegated with own | allowed
    · simp [own]
    · simp [allowed]
  simp only [verifyInternalBoundary, bind_ok, guard_ok, pure_ok]
  exact ⟨_, filled bounded.actor, by simp [delegated], _, filled bounded.intentId, _, text bounded.intentHash,
    _, filled bounded.operation, _, object bounded.target targetShaped, _, text bounded.targetKind,
    _, text bounded.targetId, _, object present parametersShaped, _, object bounded.source.1 bounded.source.2,
    _, text bounded.createdAt, _, transferable, _, parametersHash, _, bounded.hashed, by simp, rfl⟩

/-- What a client commits to, bound to another source. -/
def IntentCommitment.rebind (c : IntentCommitment) (source : Json) (intentHash : String) : IntentCommitment :=
  { c with source := source, intentHash := intentHash }

/-- A draft that is let through with one source is let through with any other whose
numbers are safe. -/
theorem Bounded.rebind {draft : Mapping} {source source' : Json} {principalId : String} {allow : Bool}
    {c : IntentCommitment} (bounded : Bounded host (drawUp host draft source) principalId allow c)
    (shaped : source'.norm.isObj = true) (safe : Jcs.isPlainable source'.norm = true) :
    Bounded host (drawUp host draft source') principalId allow
      (c.rebind source'.norm (intentHashOf host (drawUp host draft source'))) := by
  have same {key : String} (notSource : key ≠ "source") (notHash : key ≠ "intent_hash") :
      (drawUp host draft source').norm.get? key = (drawUp host draft source).norm.get? key := by
    rw [get?_drawUp draft source' notSource notHash, get?_drawUp draft source notSource notHash]
  have field {key : String} {v : Json} (held : (drawUp host draft source).norm.get? key = some v)
      (notSource : key ≠ "source") (notHash : key ≠ "intent_hash") :
      (drawUp host draft source').norm.get? key = some v := (same notSource notHash).trans held
  obtain ⟨parameters, present, rest⟩ := bounded.parameters
  have normal : (canonicalIntent (drawUp host draft source')).norm = canonicalIntent (drawUp host draft source') :=
    normal_canonicalIntent _
  have inner : (canonicalIntent (drawUp host draft source)).norm = canonicalIntent (drawUp host draft source) :=
    normal_canonicalIntent _
  have safeBefore := jcsSubsetHash_safe bounded.hashed
  rw [inner, canonicalIntent_drawUp] at safeBefore
  have numbers : Jcs.isPlainable (canonicalIntent (drawUp host draft source')).norm = true := by
    rw [normal, canonicalIntent_drawUp]
    apply isPlainable_canonicalIntent
    intro key v notHash held
    by_cases bound : key = "source"
    · subst bound
      simp [Dict.get?_ofPairs_append] at held
      rwa [← held]
    · apply isPlainable_get safeBefore
      rw [get?_canonicalIntent notHash, ← held]
      simp [Dict.get?_ofPairs_append, bound]
  exact ⟨⟨field bounded.actor.1 (by decide) (by decide), bounded.actor.2⟩, bounded.delegated,
    ⟨field bounded.intentId.1 (by decide) (by decide), bounded.intentId.2⟩, intentHashOf_drawUp draft source',
    ⟨field bounded.operation.1 (by decide) (by decide), bounded.operation.2⟩,
    field bounded.target (by decide) (by decide), bounded.targetKind, bounded.targetId,
    ⟨parameters, (congrArg (Option.or · _) (same (by decide) (by decide))).trans present, rest⟩,
    ⟨get?_drawUp_source draft source', shaped⟩, field bounded.createdAt (by decide) (by decide),
    jcsSubsetHash_of numbers⟩

end MatVerse
