import MatVerse.HomeostaticSupervisor
import MatVerse.EventNumbers
import MatVerse.Lib.Chronicle

/-! What the supervisor leaves in the journal, row by row: numbered proposals under one
policy, each with at most one outcome, and the link from the feedback state to the event
that recorded it. -/
namespace MatVerse.Physiology

open Fallible

/-! ## Reading a row -/

namespace EventRow

def payload (row : EventRow) : Json := (rowToEvent row).payload

/-- A field of the inputs of a receipt that the row records. -/
def input (row : EventRow) (key : String) : Option Json := (row.payload.get? "inputs").bind (Json.get? key)

def proposal (row : EventRow) : Option Json := (row.payload.get? "outputs").bind (Json.get? "proposal")

def isFeedback (row : EventRow) : Bool := row.eventType == "EFFECT_FEEDBACK"

def isProposal (row : EventRow) : Bool := row.eventType == "BOUNDED_AUTONOMOUS_RECOVERY_PROPOSED"

def isOutcome (row : EventRow) : Bool := row.eventType == "BOUNDED_AUTONOMOUS_RECOVERY_OUTCOME"

end EventRow

theorem payload_row (host : Host) (c : AppendCall) (seq : Nat) :
    (c.row host seq).payload = (Json.dict c.payload).norm := by
  simp only [EventRow.payload, rowToEvent, row_payload, loads_canonicalJson, Option.getD_some]

def lastFeedback (events : List EventRow) : Option EventRow :=
  latest (fun row => if row.isFeedback then some row else none) events

/-! ## Receipts -/

theorem EvidenceReceipt.norm_toJson (r : EvidenceReceipt) : r.toJson.norm = r.toJson := by
  simp [EvidenceReceipt.toJson, EvidenceReceipt.core]

section
variable (host : Host)

/-- The row has no receipt, or one of something else than an effect that was fed back. -/
def Unlinked (row : EventRow) : Prop :=
  row.payload.get? "receipt" = none ∨ ∃ type inputs outputs, type ≠ "PHYSIOLOGY_EFFECT_FEEDBACK" ∧
    row.payload.get? "receipt" = some (evidenceReceipt host type inputs outputs).toJson

/-- The row feeds back the effect of a cycle. -/
def Links (row : EventRow) : Prop :=
  row.isFeedback = true ∧ ∃ (c : Cycle) (inputs : Mapping) (outputs : Json),
    row.eventId = c.id host ++ ":effect-feedback" ∧
      row.payload.get? "receipt" = some
        (evidenceReceipt host "PHYSIOLOGY_EFFECT_FEEDBACK" (.dict inputs) outputs).toJson ∧
        (Json.dict inputs).norm.get? "cycle_id" = some (.str (c.id host))

/-- The receipt of an effect of a cycle. -/
def FeedbackHash (c : Cycle) (receiptHash : String) : Prop :=
  ∃ (inputs : Mapping) (outputs : Json), receiptHash =
      (evidenceReceipt host "PHYSIOLOGY_EFFECT_FEEDBACK" (.dict inputs) outputs).receiptHash ∧
    (Json.dict inputs).norm.get? "cycle_id" = some (.str (c.id host))

end

section
variable {host : Host} {row : EventRow} {receiptHash : String} {c : Cycle}

theorem receiptIs_toJson {r : EvidenceReceipt} (same : row.payload.get? "receipt" = some r.toJson) :
    receiptIs receiptHash (rowToEvent row) = true ↔ r.receiptHash = receiptHash := by
  have same' : (rowToEvent row).payload.get? "receipt" = some r.toJson := same
  simp [receiptIs, same', EvidenceReceipt.toJson, EvidenceReceipt.core, isStr]

theorem Unlinked.other (unlinked : Unlinked host row) (free : host.CollisionFree)
    (known : FeedbackHash host c receiptHash) : receiptIs receiptHash (rowToEvent row) = false := by
  obtain ⟨inputs, outputs, rfl, -⟩ := known
  rcases unlinked with none | ⟨type, inputs', outputs', other, same⟩
  · have missing : (rowToEvent row).payload.get? "receipt" = Option.none := none
    simp [receiptIs, missing]
  · refine Bool.eq_false_iff.mpr fun is => other ?_
    exact (evidenceReceipt_injective free ((receiptIs_toJson same).mp is)).1

/-- Only the feedback event of a cycle has the receipt of its effect. -/
theorem Links.named (links : Links host row) (free : host.CollisionFree) (known : FeedbackHash host c receiptHash)
    (is : receiptIs receiptHash (rowToEvent row) = true) : row.eventId = c.id host ++ ":effect-feedback" := by
  obtain ⟨inputs, outputs, rfl, about⟩ := known
  obtain ⟨-, d, inputs', outputs', named, same, about'⟩ := links
  obtain ⟨-, sameInputs, -⟩ := evidenceReceipt_injective free ((receiptIs_toJson same).mp is)
  rw [sameInputs, about] at about'
  have ids : c.id host = d.id host := by simpa using about'
  rw [named, ids]

end

/-! ## The trace -/

/-- Of two proposals for one cycle the earlier has the smaller number. -/
def Earlier (row row' : EventRow) : Prop :=
  row.input "recovery_origin_cycle_id" = row'.input "recovery_origin_cycle_id" →
    ∃ m n : Int, row.input "attempt_number" = some (.int m) ∧ row'.input "attempt_number" = some (.int n) ∧ m < n

/-- The proposal that an outcome names is there before it. -/
def Caused (before : List EventRow) (row : EventRow) : Prop :=
  row.isOutcome = true → ∃ p ∈ before, p.isProposal = true ∧ row.causationId = some p.eventId ∧
    row.eventId = p.eventId ++ ":outcome"

/-- The attempts that are stored for an organism. -/
def storedAttempts (organismId : String) (t : Tables) : Json :=
  ((Dict.get? (Text.strip (attemptsKey organismId)) t.runtimeState).map fun text =>
    (JsonText.loads text).getD .null).getD
    (.obj [])

/-- The number and the policy of a proposal are covered by what is stored. -/
def Covered (host : Host) (organismId : String) (t : Tables) (row : EventRow) : Prop :=
  ∃ (origin digest fingerprint : String) (number stored : Int), Hex.Digits origin ∧
    row.eventId = recoveryEventId host origin number digest ∧ row.input "recovery_origin_cycle_id" = some
      (.str origin) ∧
    row.input "attempt_number" = some (.int number) ∧ row.input "policy_fingerprint" = some (.str fingerprint) ∧
      pyInt ((storedAttempts organismId t).get? origin) = .ok stored ∧ number ≤ stored ∧
        Dict.get? (Text.strip (policyKey organismId)) t.runtimeState = some (canonicalJson (binding fingerprint))

/-- A journal of the supervisor, for the feedback state of its engine. -/
structure Traced (host : Host) (organismId : String) (f : FeedbackState) (t : Tables) : Prop where
  ordered : Ordered t
  sourced : ∀ row ∈ t.events, Unlinked host row ∨ Links host row
  covered : ∀ row ∈ t.events, row.isProposal = true → Covered host organismId t row
  increasing : (t.events.filter EventRow.isProposal).Pairwise Earlier
  caused : Chronicle Caused t.events
  attempted : ∃ attempts : Mapping, storedAttempts organismId t = .dict attempts
  policy : Dict.get? (Text.strip (policyKey organismId)) t.runtimeState = none ∨
    ∃ fingerprint, Dict.get? (Text.strip (policyKey organismId)) t.runtimeState = some
    (canonicalJson (binding fingerprint))
  origin : ∀ origin, f.recoveryForCycleId = some origin → Hex.Digits origin
  known : ∀ receiptHash, f.lastFeedbackReceiptHash = some receiptHash → ∃ c, FeedbackHash host c receiptHash
  /-- The event with the receipt of the last feedback is the last feedback event. -/
  linked : ∀ receiptHash, f.lastFeedbackReceiptHash = some receiptHash → ∀ row ∈ t.events,
    receiptIs receiptHash (rowToEvent row) = true → lastFeedback t.events = some row

section
variable {host : Host} {organismId : String} {f g : FeedbackState} {t : Tables} {c : AppendCall}

/-- A journal with a row more that feeds nothing back. -/
theorem Traced.added (traced : Traced host organismId f t) (free : host.CollisionFree)
    (quiet : (c.row host (t.sequence + 1)).isFeedback = false) (unlinked : Unlinked host (c.row host (t.sequence + 1)))
    (covered : (c.row host (t.sequence + 1)).isProposal = true →
      Covered host organismId t (c.row host (t.sequence + 1)) ∧
      ∀ row ∈ t.events.filter EventRow.isProposal, Earlier row (c.row host (t.sequence + 1)))
    (caused : Caused t.events (c.row host (t.sequence + 1))) : Traced host organismId f (t.added host c) where
  ordered := traced.ordered.added
  sourced := by
    intro row member
    rcases List.mem_append.mp member with earlier | last
    · exact traced.sourced row earlier
    · obtain rfl := List.mem_singleton.mp last
      exact .inl unlinked
  covered := by
    intro row member
    rcases List.mem_append.mp member with earlier | last
    · exact traced.covered row earlier
    · obtain rfl := List.mem_singleton.mp last
      exact fun proposal => (covered proposal).1
  increasing := by
    show ((t.events ++ [c.row host (t.sequence + 1)]).filter EventRow.isProposal).Pairwise Earlier
    rw [List.filter_append, List.pairwise_append]
    refine ⟨traced.increasing, (List.pairwise_singleton _ _).filter _, fun row member last own => ?_⟩
    obtain ⟨single, proposal⟩ := List.mem_filter.mp own
    obtain rfl := List.mem_singleton.mp single
    exact (covered proposal).2 row member
  caused := traced.caused.snoc caused
  attempted := traced.attempted
  policy := traced.policy
  origin := traced.origin
  known := traced.known
  linked := by
    intro receiptHash last row member is
    have same : lastFeedback (t.events ++ [c.row host (t.sequence + 1)]) = lastFeedback t.events := by
      simp [lastFeedback, quiet]
    rcases List.mem_append.mp member with earlier | own
    · exact same.trans (traced.linked receiptHash last row earlier is)
    · obtain rfl := List.mem_singleton.mp own
      obtain ⟨d, known⟩ := traced.known receiptHash last
      cases is.symm.trans (unlinked.other free known)

theorem Traced.fedBack (traced : Traced host organismId f t) (links : Links host (c.row host (t.sequence + 1)))
    {receiptHash : String} (current : f.lastFeedbackReceiptHash = some receiptHash)
    (unseen : ∀ row ∈ t.events, receiptIs receiptHash (rowToEvent row) = false) :
    Traced host organismId f (t.added host c) where
  ordered := traced.ordered.added
  sourced := by
    intro row member
    rcases List.mem_append.mp member with earlier | last
    · exact traced.sourced row earlier
    · obtain rfl := List.mem_singleton.mp last
      exact .inr links
  covered := by
    intro row member
    rcases List.mem_append.mp member with earlier | last
    · exact traced.covered row earlier
    · obtain rfl := List.mem_singleton.mp last
      have type := links.1
      simp only [EventRow.isFeedback, beq_iff_eq] at type
      simp [EventRow.isProposal, type]
  increasing := by
    have type := links.1
    simp only [EventRow.isFeedback, beq_iff_eq] at type
    show ((t.events ++ [c.row host (t.sequence + 1)]).filter EventRow.isProposal).Pairwise Earlier
    rw [List.filter_append]
    simpa [EventRow.isProposal, type] using traced.increasing
  caused := by
    have type := links.1
    simp only [EventRow.isFeedback, beq_iff_eq] at type
    exact traced.caused.snoc fun outcome => by simp [EventRow.isOutcome, type] at outcome
  attempted := traced.attempted
  policy := traced.policy
  origin := traced.origin
  known := traced.known
  linked := by
    intro other last row member is
    obtain rfl := Option.some.inj (current.symm.trans last)
    rcases List.mem_append.mp member with earlier | own
    · cases is.symm.trans (unseen row earlier)
    · obtain rfl := List.mem_singleton.mp own
      show lastFeedback (t.events ++ [c.row host (t.sequence + 1)]) = _
      simp [lastFeedback, links.1]

/-- Another feedback state, whose receipt no event has yet. -/
theorem Traced.unsent (traced : Traced host organismId f t) (origin : ∀ origin, g.recoveryForCycleId = some origin →
    Hex.Digits origin) {d : Cycle} {receiptHash : String} (current : g.lastFeedbackReceiptHash = some receiptHash)
    (known : FeedbackHash host d receiptHash)
    (unseen : ∀ row ∈ t.events, receiptIs receiptHash (rowToEvent row) = false) : Traced host organismId g t where
  ordered := traced.ordered
  sourced := traced.sourced
  covered := traced.covered
  increasing := traced.increasing
  caused := traced.caused
  attempted := traced.attempted
  policy := traced.policy
  origin := origin
  known := by
    intro other last
    obtain rfl := Option.some.inj (current.symm.trans last)
    exact ⟨d, known⟩
  linked := by
    intro other last row member is
    obtain rfl := Option.some.inj (current.symm.trans last)
    cases is.symm.trans (unseen row member)

/-! ### States -/

theorem marked_policyKey : Text.Marked "bounded-recovery-policy:" := ⟨⟨'b', rfl, rfl⟩, ':', rfl, rfl⟩
theorem marked_attemptsKey : Text.Marked "bounded-recovery-attempts:" := ⟨⟨'b', rfl, rfl⟩, ':', rfl, rfl⟩

theorem policyKey_ne (organismId other : String) : Text.strip (policyKey organismId) ≠ Text.strip (attemptsKey other) :=
  marked_policyKey.strip_ne marked_attemptsKey (by decide) organismId other

theorem storedAttempts_congr {t u : Tables} (same : Dict.get? (Text.strip (attemptsKey organismId)) u.runtimeState =
    Dict.get? (Text.strip (attemptsKey organismId)) t.runtimeState) : storedAttempts organismId u =
    storedAttempts organismId t := by
  rw [storedAttempts, storedAttempts, same]

/-- Other states are stored, the number of attempts larger for one origin at most. -/
theorem Traced.states (traced : Traced host organismId f t) {states : List (String × String)}
    (attempted : ∃ attempts : Mapping, storedAttempts organismId { t with runtimeState := states } = .dict attempts)
    (policy : Dict.get? (Text.strip (policyKey organismId)) states = none ∨
      ∃ fingerprint, Dict.get? (Text.strip (policyKey organismId)) states = some (canonicalJson (binding fingerprint)))
    (covered : ∀ row, Covered host organismId t row → Covered host organismId { t with runtimeState := states } row) :
    Traced host organismId f { t with runtimeState := states } :=
  ⟨⟨traced.ordered.increasing, traced.ordered.given⟩, traced.sourced,
    fun row member proposal => covered row (traced.covered row member proposal), traced.increasing,
    traced.caused, attempted, policy, traced.origin, traced.known, traced.linked⟩

theorem Traced.insert (traced : Traced host organismId f t) {key : String}
    (apart : Text.strip (policyKey organismId) ≠ Text.strip key)
    (apart' : Text.strip (attemptsKey organismId) ≠ Text.strip key) (text : String) :
    Traced host organismId f { t with runtimeState := Dict.insert (Text.strip key) text t.runtimeState } := by
  have same :=
    storedAttempts_congr (t := t) (u := { t with runtimeState := Dict.insert (Text.strip key) text t.runtimeState })
    (Dict.get?_insert_of_ne apart' text t.runtimeState)
  have policies := Dict.get?_insert_of_ne apart text t.runtimeState
  refine traced.states (by rw [same]; exact traced.attempted) (by rw [policies]; exact traced.policy) ?_
  rintro row ⟨origin, digest, fingerprint, number, stored, hex, id, named, numbered, under, counted, enough, bound⟩
  exact ⟨origin, digest, fingerprint, number, stored, hex, id, named, numbered, under, same ▸ counted, enough,
    policies.trans bound⟩

theorem Traced.bound (traced : Traced host organismId f t)
    (unbound : Dict.get? (Text.strip (policyKey organismId)) t.runtimeState = none) (fingerprint : String) :
    Traced host organismId f { t with
      runtimeState :=
      Dict.insert (Text.strip (policyKey organismId)) (canonicalJson (binding fingerprint)) t.runtimeState } := by
  have same := storedAttempts_congr (t := t) (u := { t with
      runtimeState :=
      Dict.insert (Text.strip (policyKey organismId)) (canonicalJson (binding fingerprint)) t.runtimeState })
    (Dict.get?_insert_of_ne (policyKey_ne organismId organismId).symm _ t.runtimeState)
  refine traced.states (by rw [same]; exact traced.attempted) (.inr ⟨fingerprint, Dict.get?_insert_self _ _ _⟩) ?_
  rintro row ⟨_, _, _, _, _, -, -, -, -, -, -, -, bound⟩
  cases unbound.symm.trans bound

theorem pyInt_norm (v : Option Json) : pyInt (v.map Json.norm) = pyInt v := by
  cases v with
  | none => rfl
  | some v => cases v <;> rfl

/-- The attempts once the next one for an origin is stored. -/
theorem get?_nextAttempt (attempts : Mapping) (origin other : String) (number : Int) :
    pyInt ((Json.dict ((Json.dict attempts).entries ++ [(origin, .int number)])).norm.get? other) =
      if other = origin then .ok number else pyInt ((Json.dict attempts).get? other) := by
  have entries : (Json.dict attempts).entries = Dict.ofPairs attempts := rfl
  rw [Json.norm_dict, Json.get?_dict, ← Dict.ofPairs_map, Dict.get?_map, pyInt_norm, entries, Dict.get?_ofPairs_append,
    Dict.ofPairs_of_sorted (Dict.sorted_ofPairs _), Json.get?_dict]
  split
  next same => simp [same, pyInt]
  next other => simp [other]

theorem Traced.numbered (traced : Traced host organismId f t) {origin : String} {number : Int}
    (counted : pyInt ((storedAttempts organismId t).get? origin) = .ok number) :
    let states := Dict.insert (Text.strip (attemptsKey organismId)) (canonicalJson
      (.dict ((storedAttempts organismId t).entries ++ [(origin, .int (number + 1))]))) t.runtimeState
    Traced host organismId f { t with runtimeState := states } ∧
      pyInt ((storedAttempts organismId { t with runtimeState := states }).get? origin) = .ok (number + 1) := by
  obtain ⟨attempts, attempted⟩ := traced.attempted
  rw [attempted] at counted ⊢
  intro states
  have stored : storedAttempts organismId { t with runtimeState := states } =
      (Json.dict ((Json.dict attempts).entries ++ [(origin, .int (number + 1))])).norm := by
    simp [storedAttempts, states]
  have policies : Dict.get? (Text.strip (policyKey organismId)) states =
      Dict.get? (Text.strip (policyKey organismId)) t.runtimeState :=
        Dict.get?_insert_of_ne (policyKey_ne organismId organismId) _ _
  refine ⟨traced.states ⟨_, stored.trans (Json.norm_dict _)⟩ (by rw [policies]; exact traced.policy) ?_,
    by rw [stored, get?_nextAttempt, if_pos rfl]⟩
  rintro row ⟨other, digest, fingerprint, earlier, last, hex, id, named, numbered, under, before, enough, bound⟩
  rw [attempted] at before
  have now := get?_nextAttempt attempts origin other (number + 1)
  rw [← stored] at now
  split at now
  next same =>
    subst same
    obtain rfl := Except.ok.inj (before.symm.trans counted)
    exact ⟨_, digest, fingerprint, earlier, _, hex, id, named, numbered, under, now, by omega, policies.trans bound⟩
  next =>
    exact ⟨other, digest, fingerprint, earlier, last, hex, id, named, numbered, under, now.trans before, enough,
      policies.trans bound⟩

end

end MatVerse.Physiology
