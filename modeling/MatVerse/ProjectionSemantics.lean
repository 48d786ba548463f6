import MatVerse.InstitutionalContract

/-! What the semantic validator decides of a document of any shape: it returns when
whatever it loops over can be iterated, and a document that passes is admissible when
its maturity entries name a validator and no identifiers are hidden in an object. -/
namespace MatVerse.InstitutionalContract

open Fallible

/-! ## Admissible documents -/

/-- The entries of a field: the items of a list, or the values of an object. -/
def entries : Option Json → List Json
  | some (.arr items) => items
  | some (.obj fields) => fields.map Prod.snd
  | _ => []

def textOf : Option Json → Option String
  | some (.str s) => some s
  | _ => none

/-- An entry that is marked `PASS` carries evidence. -/
def Evidenced (entry : Json) (decisionField : String) : Prop :=
  isStr (entry.get? decisionField) "PASS" = true →
    ∃ pointers, entry.get? "evidence" = some (.arr pointers) ∧ pointers ≠ [] ∧
      ∀ pointer ∈ pointers, isEvidencePointer pointer = true

/-- An entry that is marked `PASS` carries a witness. -/
def Witnessed (entry : Json) : Prop :=
  isStr (entry.get? "decision") "PASS" = true → ∃ witness, entry.get? "witness" = some witness ∧
    isEvidencePointer witness = true

/-- The roles of a trace that must differ. -/
structure Separated (trace : Json) : Prop where
  validator : sameField trace trace "proposer_id" "final_validator_id" = false
  authorizer : isAbsent trace "generator_id" = false → sameField trace trace "generator_id" "authorizer_id" = false
  producer : isAbsent trace "executor_id" = false → sameField trace trace "executor_id" "evidence_producer_id" = false

/-- The trace that a maturity entry refers to gives the same validator, or both give none. -/
def Agrees (traces : List Json) (maturity : Json) : Prop :=
  ∃ id, textOf (maturity.get? "authority_trace_id") = some id ∧
    ∃ trace ∈ traces, textOf (trace.get? "trace_id") = some id ∧
      sameField maturity trace "validator_id" "final_validator_id" = true

/-- A maturity entry refers to a trace and names its final validator. -/
def Traced (traces : List Json) (maturity : Json) : Prop :=
  isAbsent maturity "validator_id" = false ∧ Agrees traces maturity

structure Accounted (traces : List Json) : Prop where
  identified : ∀ trace ∈ traces, ∃ id, textOf (trace.get? "trace_id") = some id
  unique : (traces.map fun trace => textOf (trace.get? "trace_id")).Nodup
  separated : ∀ trace ∈ traces, Separated trace
  evidence : ∀ trace ∈ traces, Evidenced trace "decision"

/-- The evidence of the other entries, and the scope of `SCIENTIFIC_PASS`. -/
structure Evident (payload : Json) : Prop where
  scientific : ∀ maturity ∈ entries (payload.get? "maturity"), isStr (maturity.get? "gate") "SCIENTIFIC_PASS" = true →
    isStr (maturity.get? "target_kind") "CLAIM" = true
  maturity : ∀ maturity ∈ entries (payload.get? "maturity"), Evidenced maturity "decision"
  artifacts : ∀ artifact ∈ entries (payload.get? "artifacts"), Evidenced artifact "status"
  claims : ∀ item ∈ entries (payload.get? "claims"), Evidenced item "decision"
  experiments : ∀ experiment ∈ entries (payload.get? "experiments"), Evidenced experiment "status"
  relations : ∀ relation ∈ entries (payload.get? "relations"), Witnessed relation

structure Admissible (payload : Json) : Prop extends Evident payload where
  traces : Accounted (entries (payload.get? "authority_traces"))
  traced : ∀ maturity ∈ entries (payload.get? "maturity"), Traced (entries (payload.get? "authority_traces")) maturity
  identifiers : ∀ subject ∈ entries (payload.get? "subjects"), ∀ identifier ∈ entries (subject.get? "identifiers"),
    Witnessed identifier

/-! ## Documents without another fault -/

/-- What a loop over the field runs over: the keys of an object and the characters of a text are texts. -/
def looped : Option Json → List Json
  | some (.arr items) => items
  | some (.obj fields) => fields.map fun p => .str p.1
  | some (.str s) => s.toList.map fun c => .str (String.singleton c)
  | _ => []

def isTraceList : Option Json → Bool
  | none | some (.arr _) => true
  | _ => false

structure ReadOnly (policy : Json) : Prop where
  projectionOnly : isTrue (policy.get? "projection_only") = true
  writeAuthority : equals policy "write_authority" (.str "NONE") = true
  allowed : equals policy "allowed_operations" (texts allowedOperations) = true
  forbidden : equals policy "forbidden_operations" (texts forbiddenOperations) = true

structure Bound (source : Json) : Prop where
  repository : equals source "repository" (.str institutionalRepository) = true
  commit : textField isGitObjectId source "commit_sha" = true
  digests : ∀ field ∈ ["frozen_contract_hash", "gate_fingerprint", "constitutional_contract_hash"],
    textField isLowerSha256 source field = true

structure Hashed (projection : Json) : Prop where
  algorithm : equals projection "hash_algorithm" (.str "SHA-256") = true
  canonicalization : equals projection "canonicalization" (.str "RFC8785_JCS") = true
  excludes : equals projection "hash_excludes" (texts ["projection.projection_hash"]) = true
  digest : textField isLowerSha256 projection "projection_hash" = true

/-- An object with the property. -/
def Holds (part : Json → Prop) (field : Option Json) : Prop := ∃ fields, field = some (.obj fields) ∧ part (.obj fields)

def collections : List String := ["maturity", "subjects", "artifacts", "claims", "experiments", "relations"]

/-- Every other rule is kept: the document is read-only, bound and hashed, its collections
hold objects, and a maturity entry agrees with its trace also where both name no validator. -/
structure Orderly (payload : Json) : Prop extends Evident payload where
  policy : Holds ReadOnly (payload.get? "projection_policy")
  source : Holds Bound (payload.get? "source")
  metadata : Holds Hashed (payload.get? "projection")
  traceList : isTraceList (payload.get? "authority_traces") = true
  traces : Accounted (entries (payload.get? "authority_traces"))
  objects : ∀ key ∈ collections, ∀ entry ∈ looped (payload.get? key), entry.isObj = true
  agrees : ∀ maturity ∈ entries (payload.get? "maturity"), Agrees (entries (payload.get? "authority_traces")) maturity
  identifiers : ∀ subject ∈ entries (payload.get? "subjects"), ∀ identifier ∈ looped (subject.get? "identifiers"),
    Witnessed identifier

/-- What the validator does not check: a maturity entry names a validator, and the
identifiers that a subject lists as an object carry their witnesses. -/
structure Named (payload : Json) : Prop where
  validators : ∀ maturity ∈ entries (payload.get? "maturity"), isAbsent maturity "validator_id" = false
  identifiers : ∀ subject ∈ entries (payload.get? "subjects"), ∀ fields,
    subject.get? "identifiers" = some (.obj fields) → ∀ p ∈ fields, Witnessed p.2

theorem Orderly.admissible {payload : Json} (orderly : Orderly payload) (named : Named payload) :
    Admissible payload := by
  refine ⟨orderly.toEvident, orderly.traces, fun maturity member => ?_, fun subject member identifier own => ?_⟩
  · exact ⟨named.validators maturity member, orderly.agrees maturity member⟩
  · have loop := orderly.identifiers subject member
    have hidden := named.identifiers subject member
    cases held : subject.get? "identifiers" with
    | none =>
      rw [held] at own
      cases own
    | some field =>
      rw [held] at own loop
      cases field with
      | arr => exact loop identifier own
      | obj fields =>
        obtain ⟨p, listed, rfl⟩ := List.mem_map.mp own
        exact hidden fields held p listed
      | _ => cases own

theorem Admissible.named {payload : Json} (admissible : Admissible payload) : Named payload := by
  refine ⟨fun maturity member => (admissible.traced maturity member).1, fun subject member fields held p listed => ?_⟩
  have own := admissible.identifiers subject member p.2
  rw [held] at own
  exact own (List.mem_map_of_mem listed)

/-! ## Loops -/

/-- What a field may be that a loop runs over. -/
def iterable : Option Json → Bool
  | none | some (.arr _) | some (.obj _) | some (.str _) => true
  | _ => false

/-- The collections of a document, and the identifiers of its subjects, can be iterated. -/
structure Iterable (payload : Json) : Prop where
  collections : ∀ key ∈ collections, iterable (payload.get? key) = true
  identifiers : ∀ subject ∈ looped (payload.get? "subjects"), iterable (subject.get? "identifiers") = true

theorem iterateField_ok {v : Json} {key : String} {items : List Json} :
    iterateField v key = .ok items ↔ iterable (v.get? key) = true ∧ looped (v.get? key) = items := by
  unfold iterateField
  cases v.get? key with
  | none => simp [iterable, looped]
  | some field => cases field <;> simp [iterable, looped, iterate]

/-- A loop that meets objects only runs over the entries. -/
theorem looped_eq_entries {field : Option Json} (objects : ∀ entry ∈ looped field, entry.isObj = true) :
    looped field = entries field := by
  cases field with
  | none => rfl
  | some v =>
    cases v with
    | obj fields =>
      cases fields with
      | nil => rfl
      | cons p rest => cases objects (.str p.1) (by simp [looped])
    | str s =>
      simp only [looped, List.forall_mem_map] at objects
      cases chars : s.toList with
      | nil => simp [looped, entries, chars]
      | cons c rest => cases objects c (by simp [chars])
    | _ => rfl

/-- A loop has no errors when it meets objects only and there are none of its entries. -/
theorem loop_clear {field : Option Json} {errors : Json → List String} {property : Json → Prop}
    (each : ∀ entry, errors entry = [] ↔ entry.isObj = true ∧ property entry) :
    (looped field).flatMap errors = [] ↔
      (∀ entry ∈ looped field, entry.isObj = true) ∧ ∀ entry ∈ entries field, property entry := by
  rw [List.flatMap_eq_nil_iff]
  constructor
  · intro clear
    have objects : ∀ entry ∈ looped field, entry.isObj = true :=
      fun entry member => ((each entry).mp (clear entry member)).1
    rw [← looped_eq_entries objects]
    exact ⟨objects, fun entry member => ((each entry).mp (clear entry member)).2⟩
  · rintro ⟨objects, held⟩ entry member
    refine (each entry).mpr ⟨objects entry member, held entry ?_⟩
    rwa [← looped_eq_entries objects]

/-! ## Entries without errors -/

@[simp] theorem errorIf_eq_nil {c : Bool} {message : String} : errorIf c message = [] ↔ c = false := by
  cases c <;> simp [errorIf]

theorem hasEvidence_iff {field : Option Json} : hasEvidence field = true ↔
    ∃ pointers, field = some (.arr pointers) ∧ pointers ≠ [] ∧
      ∀ pointer ∈ pointers, isEvidencePointer pointer = true := by
  cases field with
  | none => simp [hasEvidence]
  | some v => cases v <;> simp [hasEvidence]

theorem evidenced_iff {entry : Json} {decisionField : String} :
    (isStr (entry.get? decisionField) "PASS" && !hasEvidence (entry.get? "evidence")) = false ↔
      Evidenced entry decisionField := by
  rw [Evidenced, ← hasEvidence_iff]
  cases isStr (entry.get? decisionField) "PASS" <;> simp

theorem witnessed_iff {entry : Json} :
    (isStr (entry.get? "decision") "PASS" && !isEvidencePointer ((entry.get? "witness").getD .null)) = false ↔
      Witnessed entry := by
  have absent : isEvidencePointer .null = false := rfl
  unfold Witnessed
  cases isStr (entry.get? "decision") "PASS" with
  | false => simp
  | true => cases entry.get? "witness" <;> simp [absent]

theorem policyErrors_eq_nil {field : Option Json} : policyErrors field = [] ↔ Holds ReadOnly field := by
  unfold policyErrors
  split
  next fields =>
    simp only [List.append_eq_nil_iff, errorIf_eq_nil, Bool.not_eq_false']
    constructor
    · rintro ⟨⟨⟨only, authority⟩, allowed⟩, forbidden⟩
      exact ⟨fields, rfl, only, authority, allowed, forbidden⟩
    · rintro ⟨_, same, only, authority, allowed, forbidden⟩
      cases same
      exact ⟨⟨⟨only, authority⟩, allowed⟩, forbidden⟩
  next other => exact iff_of_false (by simp) fun ⟨fields, same, _⟩ => other fields same

theorem digestErrors_eq_nil {source : Json} {field : String} :
    digestErrors source field = [] ↔ textField isLowerSha256 source field = true := by
  rw [digestErrors, errorIf_eq_nil, Bool.not_eq_false']

theorem sourceErrors_eq_nil {field : Option Json} : sourceErrors field = [] ↔ Holds Bound field := by
  unfold sourceErrors
  split
  next fields =>
    simp only [List.append_eq_nil_iff, errorIf_eq_nil, digestErrors_eq_nil, Bool.not_eq_false']
    constructor
    · rintro ⟨⟨⟨⟨repository, commit⟩, frozen⟩, gate⟩, constitutional⟩
      exact ⟨fields, rfl, repository, commit, by simp [frozen, gate, constitutional]⟩
    · rintro ⟨_, same, repository, commit, digests⟩
      cases same
      exact ⟨⟨⟨⟨repository, commit⟩, digests _ (by simp)⟩, digests _ (by simp)⟩, digests _ (by simp)⟩
  next other => exact iff_of_false (by simp) fun ⟨fields, same, _⟩ => other fields same

theorem metadataErrors_eq_nil {field : Option Json} : metadataErrors field = [] ↔ Holds Hashed field := by
  unfold metadataErrors
  split
  next fields =>
    simp only [List.append_eq_nil_iff, errorIf_eq_nil, digestErrors_eq_nil, Bool.not_eq_false']
    constructor
    · rintro ⟨⟨⟨algorithm, canonicalization⟩, excludes⟩, digest⟩
      exact ⟨fields, rfl, algorithm, canonicalization, excludes, digest⟩
    · rintro ⟨_, same, algorithm, canonicalization, excludes, digest⟩
      cases same
      exact ⟨⟨⟨algorithm, canonicalization⟩, excludes⟩, digest⟩
  next other => exact iff_of_false (by simp) fun ⟨fields, same, _⟩ => other fields same

theorem traceErrors_eq_nil {id : String} {trace : Json} :
    traceErrors id trace = [] ↔ Separated trace ∧ Evidenced trace "decision" := by
  rw [traceErrors, List.append_eq_nil_iff, List.append_eq_nil_iff, List.append_eq_nil_iff, errorIf_eq_nil,
    errorIf_eq_nil, errorIf_eq_nil, errorIf_eq_nil, evidenced_iff, Bool.and_eq_false_imp, Bool.and_eq_false_imp]
  simp only [Bool.not_eq_true']
  constructor
  · rintro ⟨⟨⟨validator, authorizer⟩, producer⟩, evidence⟩
    exact ⟨⟨validator, authorizer, producer⟩, evidence⟩
  · rintro ⟨⟨validator, authorizer, producer⟩, evidence⟩
    exact ⟨⟨⟨validator, authorizer⟩, producer⟩, evidence⟩

/-! ## Authority traces -/

/-- A trace with its id, as the validator registers it. -/
def keyed (trace : Json) : String × Json := ((textOf (trace.get? "trace_id")).getD "", trace)

structure Sound (trace : Json) : Prop where
  identified : ∃ id, textOf (trace.get? "trace_id") = some id
  separated : Separated trace
  evidence : Evidenced trace "decision"

theorem textOf_eq_some {field : Option Json} {s : String} : textOf field = some s ↔ field = some (.str s) := by
  cases field with
  | none => simp [textOf]
  | some v => cases v <;> simp [textOf]

theorem lookup_isSome {traces : List (String × Json)} {id : String} :
    (traces.lookup id).isSome = true ↔ id ∈ traces.map Prod.fst := by
  rw [← not_iff_not, Bool.not_eq_true, Option.isSome_eq_false_iff, Option.isNone_iff_eq_none, List.lookup_eq_none_iff,
    List.mem_map]
  constructor
  · rintro unequal ⟨p, member, rfl⟩
    simpa using unequal p member
  · exact fun absent p member => bne_iff_ne.mpr fun same => absent ⟨p, member, same.symm⟩

/-- Sound traces with ids of their own are registered as they are. -/
theorem readTraces_of_sound {rest : List Json} {known : List (String × Json)} {errors : List String}
    (sound : ∀ trace ∈ rest, Sound trace) (unique : ((known ++ rest.map keyed).map Prod.fst).Nodup) :
    readTraces rest known errors = (known ++ rest.map keyed, errors) := by
  induction rest generalizing known with
  | nil => simp [readTraces]
  | cons trace rest ih =>
    obtain ⟨first, others⟩ := List.forall_mem_cons.mp sound
    obtain ⟨id, given⟩ := first.identified
    rw [textOf_eq_some] at given
    have own : keyed trace = (id, trace) := by rw [keyed, given]; rfl
    have fresh : ¬(known.lookup id).isSome = true := fun member => by
      rw [List.map_append, List.nodup_append] at unique
      exact unique.2.2 id (lookup_isSome.mp member) id (by simp [own]) rfl
    have clear : traceErrors id trace = [] := traceErrors_eq_nil.mpr ⟨first.separated, first.evidence⟩
    have further : known ++ (trace :: rest).map keyed = known ++ [(id, trace)] ++ rest.map keyed := by simp [own]
    rw [further] at unique ⊢
    simp only [readTraces, given, fresh, clear, List.append_nil]
    exact ih others unique

theorem readTraces_clear {rest : List Json} {known : List (String × Json)} {errors : List String}
    (distinct : (known.map Prod.fst).Nodup) (clear : (readTraces rest known errors).2 = []) :
    errors = [] ∧ (∀ trace ∈ rest, Sound trace) ∧ ((known ++ rest.map keyed).map Prod.fst).Nodup := by
  induction rest generalizing known errors with
  | nil => simpa [readTraces, distinct] using clear
  | cons trace rest ih =>
    rw [readTraces] at clear
    split at clear
    next id found =>
      split at clear
      · exact absurd (ih distinct clear).1 (by simp)
      next unknown =>
        have fresh : id ∉ known.map Prod.fst := fun member => unknown (lookup_isSome.mpr member)
        have own : keyed trace = (id, trace) := by rw [keyed, found]; rfl
        have distinct' : ((known ++ [(id, trace)]).map Prod.fst).Nodup := by
          rw [List.map_append, List.map_singleton]
          refine List.nodup_append.mpr ⟨distinct, List.nodup_singleton id, fun other held last member same => ?_⟩
          obtain rfl := List.mem_singleton.mp member
          exact fresh (same ▸ held)
        obtain ⟨none, others, unique⟩ := ih distinct' clear
        obtain ⟨none, clear⟩ := List.append_eq_nil_iff.mp none
        obtain ⟨separated, evidence⟩ := traceErrors_eq_nil.mp clear
        refine ⟨none, List.forall_mem_cons.mpr ⟨⟨⟨id, by rw [found]; rfl⟩, separated, evidence⟩, others⟩, ?_⟩
        rwa [List.append_assoc, List.singleton_append, ← own, ← List.map_cons] at unique
    next => exact absurd (ih distinct clear).1 (by simp)

theorem accounted_iff {traces : List Json} :
    Accounted traces ↔ (∀ trace ∈ traces, Sound trace) ∧ ((traces.map keyed).map Prod.fst).Nodup := by
  have ids (sound : ∀ trace ∈ traces, ∃ id, textOf (trace.get? "trace_id") = some id) :
      traces.map (fun trace => textOf (trace.get? "trace_id")) = ((traces.map keyed).map Prod.fst).map some := by
    rw [List.map_map, List.map_map]
    refine List.map_congr_left fun trace member => ?_
    obtain ⟨id, given⟩ := sound trace member
    simp [keyed, given]
  constructor
  · intro accounted
    refine ⟨fun trace member => ⟨accounted.identified trace member, accounted.separated trace member,
      accounted.evidence trace member⟩, ?_⟩
    exact List.Nodup.of_map some (ids accounted.identified ▸ accounted.unique)
  · rintro ⟨sound, unique⟩
    have identified : ∀ trace ∈ traces, ∃ id, textOf (trace.get? "trace_id") = some id :=
      fun trace member => (sound trace member).identified
    exact ⟨identified, ids identified ▸ unique.map (Option.some_injective _),
      fun trace member => (sound trace member).separated, fun trace member => (sound trace member).evidence⟩

theorem readTraces_accounted {traces : List Json} (accounted : Accounted traces) :
    readTraces traces [] [] = (traces.map keyed, []) :=
  readTraces_of_sound (accounted_iff.mp accounted).1 (by simpa using (accounted_iff.mp accounted).2)

theorem authorityTraces_clear {field : Option Json} :
    (authorityTraces field).2 = [] ↔ isTraceList field = true ∧ Accounted (entries field) := by
  cases field with
  | none => exact iff_of_true rfl ⟨rfl, accounted_iff.mpr ⟨nofun, List.nodup_nil⟩⟩
  | some v =>
    cases v with
    | arr traces =>
      constructor
      · intro clear
        have inOrder : Accounted traces := accounted_iff.mpr (by simpa using (readTraces_clear (by simp) clear).2)
        exact ⟨rfl, inOrder⟩
      · exact fun ⟨_, accounted⟩ => congrArg Prod.snd (readTraces_accounted accounted)
    | _ => exact iff_of_false nofun fun ⟨shaped, _⟩ => Bool.false_ne_true shaped

theorem lookup_keyed {traces : List Json} (sound : ∀ trace ∈ traces, Sound trace)
    (unique : ((traces.map keyed).map Prod.fst).Nodup) {id : String} {trace : Json} :
    (traces.map keyed).lookup id = some trace ↔ trace ∈ traces ∧ textOf (trace.get? "trace_id") = some id := by
  constructor
  · intro found
    obtain ⟨before, after, split, -⟩ := List.lookup_eq_some_iff.mp found
    have member : (id, trace) ∈ traces.map keyed := by rw [split]; simp
    obtain ⟨own, listed, same⟩ := List.mem_map.mp member
    obtain ⟨named, rfl⟩ := Prod.mk.inj same
    obtain ⟨id', given⟩ := (sound own listed).identified
    refine ⟨listed, ?_⟩
    rw [given] at named ⊢
    exact congrArg some named
  · rintro ⟨listed, given⟩
    have member : (id, trace) ∈ traces.map keyed :=
      List.mem_map.mpr ⟨trace, listed, by rw [keyed, given]; rfl⟩
    cases found : (traces.map keyed).lookup id with
    | none => simpa using List.lookup_eq_none_iff.mp found _ member
    | some other =>
      obtain ⟨before, after, split, -⟩ := List.lookup_eq_some_iff.mp found
      have member' : (id, other) ∈ traces.map keyed := by rw [split]; simp
      have same := List.inj_on_of_nodup_map unique member member' rfl
      exact congrArg some (Prod.mk.inj same).2.symm

theorem lookup_authorityTraces {field : Option Json} (shaped : isTraceList field = true)
    (accounted : Accounted (entries field)) {id : String} {trace : Json} :
    (authorityTraces field).1.lookup id = some trace ↔
      trace ∈ entries field ∧ textOf (trace.get? "trace_id") = some id := by
  cases field with
  | none => simp [authorityTraces, entries]
  | some v =>
    cases v with
    | arr traces =>
      obtain ⟨sound, unique⟩ := accounted_iff.mp accounted
      have registered : (authorityTraces (some (.arr traces))).1 = traces.map keyed :=
        congrArg Prod.fst (readTraces_accounted accounted)
      rw [registered]
      exact lookup_keyed sound unique
    | _ => cases shaped

section
variable {host : Host}

theorem maturityErrors_eq_nil {field : Option Json} (shaped : isTraceList field = true)
    (accounted : Accounted (entries field)) (maturity : Json) :
    maturityErrors host (authorityTraces field).1 maturity = [] ↔ maturity.isObj = true ∧
      Agrees (entries field) maturity ∧ Evidenced maturity "decision" ∧
      (isStr (maturity.get? "gate") "SCIENTIFIC_PASS" = true → isStr (maturity.get? "target_kind") "CLAIM" = true) := by
  unfold maturityErrors
  cases maturity.isObj with
  | false => simp
  | true =>
    simp only [Bool.not_true, Bool.false_eq_true, if_false, List.append_eq_nil_iff, true_and, and_assoc]
    refine and_congr ?_ (and_congr (errorIf_eq_nil.trans evidenced_iff) ?_)
    · constructor
      · intro clear
        split at clear
        next => cases clear
        next trace found =>
          split at found
          next id given =>
            obtain ⟨listed, own⟩ := (lookup_authorityTraces shaped accounted).mp found
            exact ⟨id, textOf_eq_some.mpr given, trace, listed, own, by simpa using clear⟩
          next => cases found
      · rintro ⟨id, given, trace, listed, own, same⟩
        simp only [textOf_eq_some.mp given, (lookup_authorityTraces shaped accounted).mpr ⟨listed, own⟩]
        simp [same]
    · rw [errorIf_eq_nil, Bool.and_eq_false_imp]
      simp

theorem itemErrors_eq_nil {collection singular idField decisionField : String} (item : Json) :
    itemErrors host collection singular idField decisionField item = [] ↔
      item.isObj = true ∧ Evidenced item decisionField := by
  unfold itemErrors
  cases item.isObj with
  | false => simp
  | true => simpa using evidenced_iff

theorem relationErrors_eq_nil (relation : Json) :
    relationErrors host relation = [] ↔ relation.isObj = true ∧ Witnessed relation := by
  unfold relationErrors
  cases relation.isObj with
  | false => simp
  | true => simpa using witnessed_iff

theorem subjectErrors_total {subject : Json} :
    (∃ errors, subjectErrors host subject = .ok errors) ↔ iterable (subject.get? "identifiers") = true := by
  unfold subjectErrors
  cases shaped : subject.isObj with
  | false =>
    cases subject with
    | obj => cases shaped
    | _ => exact iff_of_true ⟨_, rfl⟩ rfl
  | true =>
    simp only [Bool.not_true, Bool.false_eq_true, if_false, bind_ok, pure_ok, iterateField_ok]
    constructor
    · rintro ⟨_, _, ⟨iterates, _⟩, _⟩
      exact iterates
    · intro iterates
      exact ⟨_, _, ⟨iterates, rfl⟩, rfl⟩

theorem identifier_clear {identifier : Json} {message : String} :
    errorIf (identifier.isObj && isStr (identifier.get? "decision") "PASS" &&
      !isEvidencePointer ((identifier.get? "witness").getD .null)) message = [] ↔ Witnessed identifier := by
  rw [errorIf_eq_nil, ← witnessed_iff]
  cases identifier <;> simp [Json.isObj, Json.get?, isStr]

theorem subjectErrors_eq_nil {subject : Json} :
    subjectErrors host subject = .ok [] ↔ iterable (subject.get? "identifiers") = true ∧ subject.isObj = true ∧
      ∀ identifier ∈ looped (subject.get? "identifiers"), Witnessed identifier := by
  unfold subjectErrors
  cases subject.isObj with
  | false => simp
  | true =>
    simp only [Bool.not_true, Bool.false_eq_true, if_false, bind_ok, pure_ok, iterateField_ok, true_and]
    constructor
    · rintro ⟨identifiers, ⟨iterates, rfl⟩, clear⟩
      exact ⟨iterates, fun identifier member => identifier_clear.mp
        (List.flatMap_eq_nil_iff.mp clear identifier member)⟩
    · rintro ⟨iterates, witnessed⟩
      exact ⟨_, ⟨iterates, rfl⟩, List.flatMap_eq_nil_iff.mpr fun identifier member =>
        identifier_clear.mpr (witnessed identifier member)⟩

/-! ## The verdict -/

theorem subjects_clear {subjects : List Json} {errors : List (List String)}
    (judged : subjects.mapM (subjectErrors host) = .ok errors) (clear : errors.flatten = []) :
    ∀ subject ∈ subjects, subjectErrors host subject = .ok [] := by
  intro subject member
  obtain ⟨own, listed, returned⟩ := mapM_image judged subject member
  rw [returned, List.flatten_eq_nil_iff.mp clear own listed]

theorem orderly_of_pass {payload : Json} (passed : validateProjectionSemantics host payload = .ok ⟨[]⟩) :
    Orderly payload := by
  simp only [validateProjectionSemantics, bind_ok, pure_ok, ContractValidation.mk.injEq, List.append_eq_nil_iff,
    iterateField_ok] at passed
  obtain ⟨_, ⟨-, rfl⟩, _, ⟨-, rfl⟩, judged, judging, _, ⟨-, rfl⟩, _, ⟨-, rfl⟩, _, ⟨-, rfl⟩, _, ⟨-, rfl⟩,
    ⟨⟨⟨⟨⟨⟨⟨⟨⟨policy, source⟩, traces⟩, maturity⟩, subjects⟩, artifacts⟩, claims⟩, experiments⟩, relations⟩,
      metadata⟩⟩ := passed
  obtain ⟨shaped, accounted⟩ := authorityTraces_clear.mp traces
  obtain ⟨maturityObjects, maturity⟩ := (loop_clear (maturityErrors_eq_nil shaped accounted)).mp maturity
  obtain ⟨artifactObjects, artifacts⟩ := (loop_clear itemErrors_eq_nil).mp artifacts
  obtain ⟨claimObjects, claims⟩ := (loop_clear itemErrors_eq_nil).mp claims
  obtain ⟨experimentObjects, experiments⟩ := (loop_clear itemErrors_eq_nil).mp experiments
  obtain ⟨relationObjects, relations⟩ := (loop_clear relationErrors_eq_nil).mp relations
  have subjects := subjects_clear judging subjects
  have subjectObjects : ∀ subject ∈ looped (payload.get? "subjects"), subject.isObj = true :=
    fun subject member => (subjectErrors_eq_nil.mp (subjects subject member)).2.1
  exact {
    scientific := fun entry member => (maturity entry member).2.2
    maturity := fun entry member => (maturity entry member).2.1
    artifacts := artifacts
    claims := claims
    experiments := experiments
    relations := relations
    policy := policyErrors_eq_nil.mp policy
    source := sourceErrors_eq_nil.mp source
    metadata := metadataErrors_eq_nil.mp metadata
    traceList := shaped
    traces := accounted
    objects := by
      simp only [collections, List.forall_mem_cons]
      exact ⟨maturityObjects, subjectObjects, artifactObjects, claimObjects, experimentObjects, relationObjects,
        List.forall_mem_nil _⟩
    agrees := fun entry member => (maturity entry member).1
    identifiers := fun subject member =>
      (subjectErrors_eq_nil.mp (subjects subject (looped_eq_entries subjectObjects ▸ member))).2.2 }

theorem pass_of_orderly {payload : Json} (iterates : Iterable payload) (orderly : Orderly payload) :
    validateProjectionSemantics host payload = .ok ⟨[]⟩ := by
  have loop := iterates.collections
  have objects := orderly.objects
  simp only [collections, List.forall_mem_cons] at loop objects
  obtain ⟨loopMaturity, loopSubjects, loopArtifacts, loopClaims, loopExperiments, loopRelations, -⟩ := loop
  obtain ⟨ofMaturity, ofSubjects, ofArtifacts, ofClaims, ofExperiments, ofRelations, -⟩ := objects
  have judged : (looped (payload.get? "subjects")).mapM (subjectErrors host) =
      .ok ((looped (payload.get? "subjects")).map fun _ => []) := by
    refine mapM_eq fun subject member => subjectErrors_eq_nil.mpr
      ⟨iterates.identifiers subject member, ofSubjects subject member, orderly.identifiers subject ?_⟩
    rwa [← looped_eq_entries ofSubjects]
  have maturity := (loop_clear (@maturityErrors_eq_nil host _ orderly.traceList orderly.traces)).mpr
    ⟨ofMaturity, fun entry member =>
      ⟨orderly.agrees entry member, orderly.maturity entry member, orderly.scientific entry member⟩⟩
  simp only [validateProjectionSemantics, bind_ok, pure_ok, ContractValidation.mk.injEq, List.append_eq_nil_iff,
    iterateField_ok]
  refine ⟨_, ⟨loopMaturity, rfl⟩, _, ⟨loopSubjects, rfl⟩, _, judged, _, ⟨loopArtifacts, rfl⟩, _, ⟨loopClaims, rfl⟩,
    _, ⟨loopExperiments, rfl⟩, _, ⟨loopRelations, rfl⟩, ?_⟩
  refine ⟨⟨⟨⟨⟨⟨⟨⟨⟨policyErrors_eq_nil.mpr orderly.policy, sourceErrors_eq_nil.mpr orderly.source⟩,
    authorityTraces_clear.mpr ⟨orderly.traceList, orderly.traces⟩⟩, maturity⟩, by simp⟩,
    (loop_clear itemErrors_eq_nil).mpr ⟨ofArtifacts, orderly.artifacts⟩⟩,
    (loop_clear itemErrors_eq_nil).mpr ⟨ofClaims, orderly.claims⟩⟩,
    (loop_clear itemErrors_eq_nil).mpr ⟨ofExperiments, orderly.experiments⟩⟩,
    (loop_clear relationErrors_eq_nil).mpr ⟨ofRelations, orderly.relations⟩⟩,
    metadataErrors_eq_nil.mpr orderly.metadata⟩

/-- The validator returns exactly when its loops can run. -/
theorem validate_total {payload : Json} :
    (∃ v, validateProjectionSemantics host payload = .ok v) ↔ Iterable payload := by
  simp only [validateProjectionSemantics, bind_ok, pure_ok, iterateField_ok]
  constructor
  · rintro ⟨v, _, ⟨maturity, rfl⟩, _, ⟨subjects, rfl⟩, judged, judging, _, ⟨artifacts, rfl⟩, _, ⟨claims, rfl⟩, _,
      ⟨experiments, rfl⟩, _, ⟨relations, rfl⟩, -⟩
    refine ⟨?_, fun subject member => subjectErrors_total.mp (mapM_each judging subject member)⟩
    simp only [collections, List.forall_mem_cons]
    exact ⟨maturity, subjects, artifacts, claims, experiments, relations, List.forall_mem_nil _⟩
  · intro iterates
    have loop := iterates.collections
    simp only [collections, List.forall_mem_cons] at loop
    obtain ⟨maturity, subjects, artifacts, claims, experiments, relations, -⟩ := loop
    obtain ⟨judged, judging⟩ := mapM_ok fun subject member =>
      (@subjectErrors_total host subject).mpr (iterates.identifiers subject member)
    exact ⟨_, _, ⟨maturity, rfl⟩, _, ⟨subjects, rfl⟩, judged, judging, _, ⟨artifacts, rfl⟩, _, ⟨claims, rfl⟩, _,
      ⟨experiments, rfl⟩, _, ⟨relations, rfl⟩, rfl⟩

end

/-- Of a JSON object the validator returns a verdict, and one that passes is admissible,
exactly when the fields that it loops over can be iterated and, unless another rule is
broken, the maturity entries name a validator and no identifier is hidden in an object. -/
theorem validator_total_iff (host : Host) (fields : List (String × Json)) :
    (∃ v, validateProjectionSemantics host (.obj fields) = .ok v ∧ (v.decision = .pass ∨ v.decision = .block) ∧
        (v.decision = .pass → Admissible (.obj fields))) ↔
      Iterable (.obj fields) ∧ (Orderly (.obj fields) → Named (.obj fields)) := by
  rw [← @validate_total host]
  constructor
  · rintro ⟨v, returned, -, sound⟩
    refine ⟨⟨v, returned⟩, fun orderly => (sound ?_).named⟩
    rw [pass_of_orderly (validate_total.mp ⟨v, returned⟩) orderly] at returned
    obtain rfl := Except.ok.inj returned
    rfl
  · rintro ⟨⟨⟨errors⟩, returned⟩, named⟩
    refine ⟨⟨errors⟩, returned, ?_, fun passed => ?_⟩
    · cases errors <;> simp [ContractValidation.decision, ContractValidation.ok]
    · cases errors with
      | nil => exact (orderly_of_pass returned).admissible (named (orderly_of_pass returned))
      | cons => simp [ContractValidation.decision, ContractValidation.ok] at passed

/-- A null where a list of maturity entries belongs raises. -/
theorem null_maturity_raises :
    validateProjectionSemantics zeroHost (.obj [("maturity", .null)]) =
      .error (.typeError "'NoneType' object is not iterable") := rfl

end MatVerse.InstitutionalContract
