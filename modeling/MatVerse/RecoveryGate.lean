import MatVerse.EffectFeedback
import MatVerse.SafeMode
import MatVerse.TickRules

/-! The recovery gate over whole runs of the closed loop: it is open exactly while enough
effects in a row have failed, for the one that completed them, and a restart finds it so. -/
namespace MatVerse.Physiology

open Fallible

/-! ## The failures in a row -/

section
variable {upper : String → String} (policy : EffectFeedbackPolicy upper)

/-- The executor's status is accepted and the measurement after the effect is NORMAL. -/
def Effect.good (effect : Effect) : Bool := policy.accepts effect.status && effect.health == some .normal

/-- The cycles of the effects that have failed since the last good one. -/
def failures (effects : List Effect) : List String :=
  ((effects.reverse.takeWhile fun effect => !effect.good policy).map Effect.cycleId).reverse

theorem failures_snoc (effects : List Effect) (effect : Effect) :
    failures policy (effects ++ [effect]) = if effect.good policy then [] else failures policy effects ++
    [effect.cycleId] := by
  rw [failures, List.reverse_append, List.reverse_singleton, List.singleton_append, List.takeWhile_cons]
  cases effect.good policy <;> simp [failures]

/-- The streak and the gate are what the effects so far make them. -/
structure Gated (effects : List Effect) (f : FeedbackState) : Prop where
  streak : f.failureStreak = (failures policy effects).length
  /-- The gate is open for the effect that completed the failures. -/
  origin : f.recoveryForCycleId = (failures policy effects)[policy.failuresBeforeRecoveryGate - 1]?
  required : f.recoveryRequired = f.recoveryForCycleId.isSome

variable {policy} {effects : List Effect} {f : FeedbackState}

theorem gated_fresh : Gated policy [] .fresh := ⟨rfl, rfl, rfl⟩

theorem Gated.after (gated : Gated policy effects f) (effect : Effect) :
    Gated policy (effects ++ [effect])
    (f.after policy.failuresBeforeRecoveryGate (effect.good policy) effect.cycleId) := by
  have positive := policy.positive
  have streak := gated.streak
  cases good : effect.good policy with
  | true =>
    exact ⟨by simp [FeedbackState.after, failures_snoc, good], by simp [FeedbackState.after, failures_snoc, good], rfl⟩
  | false =>
    have grown : failures policy (effects ++ [effect]) = failures policy effects ++ [effect.cycleId] := by
      simp [failures_snoc, good]
    simp only [FeedbackState.after, Bool.false_eq_true, if_false]
    split
    next reached =>
      refine ⟨by simp [grown, streak], ?_, rfl⟩
      rw [grown, gated.origin]
      cases before : (failures policy effects)[policy.failuresBeforeRecoveryGate - 1]? with
      | some origin =>
        have early := (List.getElem?_eq_some_iff.mp before).1
        rw [Option.getD_some, List.getElem?_append_left early, before]
      | none =>
        have late := List.getElem?_eq_none_iff.mp before
        have last : policy.failuresBeforeRecoveryGate - 1 = (failures policy effects).length := by omega
        rw [Option.getD_none, last, List.getElem?_concat_length]
    next short =>
      have none : policy.failuresBeforeRecoveryGate - 1 ≥ (failures policy effects).length + 1 := by omega
      refine ⟨by simp [grown, streak], ?_, gated.required⟩
      rw [grown, gated.origin, List.getElem?_eq_none_iff.mpr (by omega),
        List.getElem?_eq_none_iff.mpr (by simpa using none)]

/-- The gate is open exactly while the streak has reached the policy's bound. -/
theorem Gated.required_iff (gated : Gated policy effects f) :
    f.recoveryRequired = true ↔ policy.failuresBeforeRecoveryGate ≤ f.failureStreak := by
  have positive := policy.positive
  rw [gated.required, gated.origin, gated.streak, Option.isSome_iff_ne_none, ne_eq, List.getElem?_eq_none_iff]
  omega

end

/-! ## What is stored -/

/-- A feedback state that an engine stores is one that it takes up again. -/
structure FeedbackState.Valid (f : FeedbackState) : Prop where
  consistent : f.recoveryRequired = f.recoveryForCycleId.isSome
  named : ∀ s, f.recoveryForCycleId = some s → s ≠ ""
  digest : ∀ s, f.lastFeedbackReceiptHash = some s → isSha256 s = true

theorem FeedbackState.valid_fresh : FeedbackState.fresh.Valid := ⟨rfl, nofun, nofun⟩

theorem HealthState.ofValue?_value (health : HealthState) : HealthState.ofValue? health.value = some health := by
  cases health <;> decide

theorem textOrNull_optText (property : String → Bool) (message : String) {value : Option String}
    (has : ∀ s, value = some s → property s = true) :
    textOrNull property message (some (optText value)) = .ok value := by
  cases value with
  | none => rfl
  | some s => simp [textOrNull, optText, has s rfl]

theorem healthOrNull_value (host : Host) (health : Option HealthState) :
    healthOrNull host (some (optText (health.map HealthState.value))) = .ok health := by
  cases health with
  | none => rfl
  | some health => simp [healthOrNull, optText, pyStr, HealthState.ofValue?_value]

section
variable {host : Host}

theorem optText_norm (value : Option String) : (optText value).norm = optText value := by
  cases value <;> simp [optText]

theorem FeedbackState.norm_toJson (f : FeedbackState) : f.toJson.norm = f.toJson := by
  simp [toJson, optText_norm]

/-- What is left to check of a state that an engine has stored. -/
theorem validateFeedback_eq (f : FeedbackState) : validateFeedback host f.toJson = (do
    let origin ← textOrNull (fun s => s != "") "recovery_for_cycle_id must be a non-empty string or null"
      (some (optText f.recoveryForCycleId))
    if f.recoveryRequired != origin.isSome then
      throw (.valueError "recovery_required and recovery_for_cycle_id are inconsistent")
    let receipt ← textOrNull isSha256 "last_feedback_receipt_hash must be a SHA-256 hex string or null"
      (some (optText f.lastFeedbackReceiptHash))
    return { f with recoveryForCycleId := origin, lastFeedbackReceiptHash := receipt }) := by
  have natural : ¬((f.failureStreak : Int) < 0) := by omega
  have shaped : f.toJson.isObj = true := rfl
  have schema : f.toJson.get? "schema" = some (.str feedbackSchema) := by simp [FeedbackState.toJson]
  have streak : f.toJson.get? "failure_streak" = some (.int f.failureStreak) := by simp [FeedbackState.toJson]
  have required : f.toJson.get? "recovery_required" = some (.bool f.recoveryRequired) := by simp [FeedbackState.toJson]
  have origin : f.toJson.get? "recovery_for_cycle_id" = some (optText f.recoveryForCycleId) := by
    simp [FeedbackState.toJson]
  have status : f.toJson.get? "last_effect_status" = some (optText f.lastEffectStatus) := by simp [FeedbackState.toJson]
  have health : f.toJson.get? "last_post_effect_health" = some
      (optText (f.lastPostEffectHealth.map HealthState.value)) := by
    simp [FeedbackState.toJson]
  have digest : f.toJson.get? "last_feedback_receipt_hash" = some (optText f.lastFeedbackReceiptHash) := by
    simp [FeedbackState.toJson]
  simp only [validateFeedback, shaped, schema, streak, required, origin, status, health, digest,
    textOrNull_optText (fun _ => true) _ fun _ _ => rfl, healthOrNull_value, ok_bind, pyInt, natural]
  simp only [isStr, Json.truthy, Option.all_some, Option.map_some, Option.getD_some, beq_self_eq_true, Bool.not_true,
    Bool.false_eq_true, if_false, Int.toNat_natCast]
  rfl

theorem validateFeedback_toJson {f : FeedbackState} (valid : f.Valid) : validateFeedback host f.toJson = .ok f := by
  have named (s : String) (same : f.recoveryForCycleId = some s) : (s != "") = true := by simpa using valid.named s same
  rw [validateFeedback_eq, textOrNull_optText _ _ named, textOrNull_optText _ _ valid.digest]
  simp only [ok_bind, valid.consistent, bne_self_eq_false, Bool.false_eq_true, if_false]
  rw [← valid.consistent]
  rfl

theorem textOrNull_same {property : String → Bool} {message : String} {value result : Option String}
    (done : textOrNull property message (some (optText value)) = .ok result) : result = value := by
  unfold textOrNull at done
  cases value with
  | none => exact (Except.ok.inj done).symm
  | some s =>
    simp only [optText] at done
    split at done
    · exact (Except.ok.inj done).symm
    · cases done

theorem validateFeedback_same {f g : FeedbackState} (done : validateFeedback host f.toJson = .ok g) : g = f := by
  rw [validateFeedback_eq] at done
  obtain ⟨origin, named, done⟩ := bind_ok.mp done
  dsimp only at done
  split at done
  · cases done
  obtain ⟨receipt, digest, done⟩ := bind_ok.mp done
  obtain rfl := textOrNull_same named
  obtain rfl := textOrNull_same digest
  exact (Except.ok.inj done).symm

variable {secret : String}

theorem loadPersisted_envelope (f : FeedbackState) :
    loadPersisted host secret (envelope host secret f).norm = validateFeedback host f.toJson := by
  obtain ⟨fields, shaped⟩ : ∃ fields, f.toJson = .obj fields := ⟨_, rfl⟩
  have stored : (envelope host secret f).norm = .dict [("payload", f.toJson),
      ("state_mac", .str (feedbackMac host secret f.toJson))] := by
    simp [envelope, f.norm_toJson]
  have payload : (Json.dict [("payload", f.toJson), ("state_mac", .str (feedbackMac host secret f.toJson))]).get?
      "payload" = some (.obj fields) := by simp [shaped]
  have mac : (Json.dict [("payload", f.toJson), ("state_mac", .str (feedbackMac host secret f.toJson))]).get?
      "state_mac" = some (.str (feedbackMac host secret f.toJson)) := by simp
  have keys : (Json.dict [("payload", f.toJson), ("state_mac", .str (feedbackMac host secret f.toJson))]).entries.map
      Prod.fst = ["payload", "state_mac"] := by
    have sorted : Dict.Sorted [("payload", f.toJson), ("state_mac", .str (feedbackMac host secret f.toJson))] := by
      simp only [Dict.sorted_cons, Dict.sorted_nil, and_true]
      simpa using (by decide : "payload" < "state_mac")
    rw [Json.dict, Dict.ofPairs_of_sorted sorted]
    rfl
  have authentic : compareDigest (feedbackMac host secret (.obj fields)) (feedbackMac host secret f.toJson) =
      .ok true := by
    rw [← shaped]
    exact compareDigest_digits (host.hmacDigits _ _)
  rw [stored]
  simp only [loadPersisted, payload, mac, keys, authentic]
  rw [← shaped]
  rfl

theorem marked_stateKey : Text.Marked "physiology:" := ⟨⟨'p', rfl, rfl⟩, ':', rfl, rfl⟩
theorem marked_feedbackKey : Text.Marked "physiology-effect-feedback:" := ⟨⟨'p', rfl, rfl⟩, ':', rfl, rfl⟩

theorem feedbackKey_nonempty (o : GovernedOrganism) : validateLabel (feedbackKey o) "key" = .ok () := by
  refine validateLabel_ok.mpr fun empty => ?_
  have kept := marked_feedbackKey.prefix_strip o.identity.organismId
  rw [show Text.strip ("physiology-effect-feedback:" ++ o.identity.organismId) = "" from empty] at kept
  exact absurd (List.prefix_nil.mp kept) (by decide)

theorem feedbackKey_ne (o p : GovernedOrganism) : Text.strip (feedbackKey o) ≠ Text.strip (stateKey p) :=
  marked_feedbackKey.strip_ne marked_stateKey (by decide) o.identity.organismId p.identity.organismId

theorem reload_eq {j : Journal} (idle : j.working = none) (o : GovernedOrganism) : reload host secret j o =
    match (Dict.get? (Text.strip (feedbackKey o)) j.durable.runtimeState).map fun text =>
      (JsonText.loads text).getD .null with
    | none => .ok .fresh
    | some .null => .ok .fresh
    | some stored => loadPersisted host secret stored := by
  simp only [reload, getState, feedbackKey_nonempty, ok_bind, pure, Except.pure, Connection.view, idle,
    Option.getD_none]
  cases Dict.get? (Text.strip (feedbackKey o)) j.durable.runtimeState with
  | none => rfl
  | some text =>
    rw [Option.map_some]
    cases (JsonText.loads text).getD .null <;> rfl

theorem get?_setState {j : Journal} (idle : j.working = none) {key other : String}
    (apart : Text.strip other ≠ Text.strip key) (value : Json) :
    Dict.get? (Text.strip other) (setState j key value).2.durable.runtimeState =
      Dict.get? (Text.strip other) j.durable.runtimeState := by
  unfold setState
  split
  · rfl
  · simp only [Connection.write, Connection.view, idle, Option.getD_none]
    exact Dict.get?_insert_of_ne apart _ _

theorem start_setState_other {j : Journal} (idle : j.working = none) (o : GovernedOrganism) {key : String}
    (apart : Text.strip (stateKey o) ≠ Text.strip key) (value : Json)
    (idle' : (setState j key value).2.working = none) : start (setState j key value).2 o = start j o := by
  rw [start_eq idle', start_eq idle, get?_setState idle apart]

variable (host secret) in
/-- The journal holds this feedback state for an organism. -/
def Holds (j : Journal) (o : GovernedOrganism) (f : FeedbackState) : Prop :=
  Dict.get? (Text.strip (feedbackKey o)) j.durable.runtimeState = some (canonicalJson (envelope host secret f)) ∨
    Dict.get? (Text.strip (feedbackKey o)) j.durable.runtimeState = none ∧ f = .fresh

section
variable {j k : Journal} {o p : GovernedOrganism} {f g : FeedbackState}

theorem Holds.congr (holds : Holds host secret j o f) (same : o.identity.organismId = p.identity.organismId)
    (states : Dict.get? (Text.strip (feedbackKey o)) k.durable.runtimeState =
      Dict.get? (Text.strip (feedbackKey o)) j.durable.runtimeState) : Holds host secret k p f := by
  have keys : feedbackKey o = feedbackKey p := congrArg ("physiology-effect-feedback:" ++ ·) same
  unfold Holds at holds ⊢
  rwa [← keys, states]

theorem holds_setState (idle : j.working = none) (o : GovernedOrganism) (f : FeedbackState) :
    (setState j (feedbackKey o) (envelope host secret f)).1 = .ok () ∧
      (setState j (feedbackKey o) (envelope host secret f)).2.working = none ∧
      Holds host secret (setState j (feedbackKey o) (envelope host secret f)).2 o f := by
  refine ⟨by simp [setState, feedbackKey_nonempty], by simp [setState, feedbackKey_nonempty, Connection.write, idle],
    .inl ?_⟩
  simp [setState, feedbackKey_nonempty, Connection.write, idle]

theorem holds_unstored (idle : j.working = none) (unstored : getState j (feedbackKey o) = .ok none) :
    Holds host secret j o .fresh := by
  refine .inr ⟨?_, rfl⟩
  simpa [getState, feedbackKey_nonempty, Connection.view, idle, bind, Except.bind, pure, Except.pure] using unstored

theorem Holds.reload_eq (holds : Holds host secret j o f) (idle : j.working = none) :
    reload host secret j o = .ok f ∨ reload host secret j o = validateFeedback host f.toJson := by
  rw [Physiology.reload_eq idle]
  rcases holds with stored | ⟨absent, rfl⟩
  · obtain ⟨entries, shaped⟩ : ∃ entries, (envelope host secret f).norm = .obj entries :=
      ⟨_, by rw [envelope, Json.norm_dict]; rfl⟩
    have loaded := @loadPersisted_envelope host secret f
    rw [shaped] at loaded
    rw [stored, Option.map_some, loads_canonicalJson, shaped]
    exact .inr loaded
  · exact .inl (by rw [absent, Option.map_none])

theorem Holds.reload (holds : Holds host secret j o f) (idle : j.working = none) (valid : f.Valid) :
    reload host secret j o = .ok f := by
  rcases holds.reload_eq idle with done | done
  · exact done
  · rw [done, validateFeedback_toJson valid]

theorem Holds.reloaded (holds : Holds host secret j o f) (idle : j.working = none)
    (taken : Physiology.reload host secret j o = .ok g) : g = f := by
  rcases holds.reload_eq idle with done | done
  · exact (Except.ok.inj (done.symm.trans taken)).symm
  · exact validateFeedback_same (done.symm.trans taken)

end

end

/-! ## A tick of the wrapped engine -/

/-- What has happened since, with the one proposal that the executor got, if any. -/
structure Ran (before : World) (proposal : Option Mapping) (executor : Option (Json → ExecutorOutcome))
    (ran : Option Json)
    (w : World) : Prop where
  alive : before.fuse = none → w.fuse = none
  since : ∃ added, w.moments = before.moments ++ added ∧ ∀ p, .executed p ∈ added ↔ ran = some p
  asked : ∀ p, ran = some p → executor.isSome = true ∧ ∃ given, proposal = some given ∧ p = jsonClone (.dict given)

section
variable {before w : World} {proposal : Option Mapping} {executor : Option (Json → ExecutorOutcome)} {ran : Option Json}

theorem Ran.start (fuse : w.fuse = before.fuse) (moments : w.moments = before.moments) :
    Ran before proposal executor none w := ⟨fun alive => fuse.trans alive, ⟨[], by simp [moments]⟩, nofun⟩

theorem Ran.congr {v : World} (held : Ran before proposal executor ran w) (fuse : v.fuse = w.fuse)
    (moments : v.moments = w.moments) : Ran before proposal executor ran v :=
  ⟨fun alive => fuse.trans (held.alive alive), moments ▸ held.since, held.asked⟩

theorem Ran.wrote (held : Ran before proposal executor ran w) (j : Journal) :
    Ran before proposal executor ran (w.wrote j) :=
  ⟨fun alive => by rw [World.wrote, held.alive alive]; rfl, held.since, held.asked⟩

theorem Ran.quiet (held : Ran before proposal executor ran w) {m : Moment} (other : m.executed? = none) :
    Ran before proposal executor ran (w.noted m) := by
  obtain ⟨added, moments, only⟩ := held.since
  refine ⟨held.alive, ⟨added ++ [m], by rw [World.noted, moments, List.append_assoc], fun p => ?_⟩, held.asked⟩
  rw [List.mem_append, only, List.mem_singleton, or_iff_left]
  rintro rfl
  cases other

theorem Ran.execute (held : Ran before proposal executor none w) {given : Mapping} (proposed : proposal = some given)
    (armed : executor.isSome = true) :
    Ran before proposal executor (some (jsonClone (.dict given))) (w.noted (.executed (jsonClone (.dict given)))) := by
  obtain ⟨added, moments, only⟩ := held.since
  refine ⟨held.alive, ⟨added ++ [.executed (jsonClone (.dict given))], by rw [World.noted, moments, List.append_assoc],
    fun p => ?_⟩, ?_⟩
  · have none : .executed p ∉ added := fun member => by cases (only p).mp member
    simp [none, eq_comm]
  · rintro p same
    exact ⟨armed, given, proposed, (Option.some.inj same).symm⟩

theorem Ran.mem_drop (held : Ran before proposal executor ran w) (p : Json) :
    .executed p ∈ w.moments.drop before.moments.length ↔ ran = some p := by
  obtain ⟨added, moments, only⟩ := held.since
  rw [moments, List.drop_left, only]

theorem Ran.findSome? (held : Ran before proposal executor ran w) :
    (w.moments.drop before.moments.length).findSome? Moment.executed? = ran := by
  have only := held.mem_drop
  cases ran with
  | none =>
    refine List.findSome?_eq_none_iff.mpr fun m member => ?_
    cases m with
    | executed p => exact nomatch (only p).mp member
    | _ => rfl
  | some p =>
    have member := (only p).mpr rfl
    cases found : (w.moments.drop before.moments.length).findSome? Moment.executed? with
    | none => exact nomatch List.findSome?_eq_none_iff.mp found _ member
    | some q =>
      obtain ⟨m, listed, same⟩ := List.exists_of_findSome?_eq_some found
      cases m with
      | executed r =>
        obtain rfl := Option.some.inj same
        exact ((only r).mp listed).symm
      | _ => cases same

end

/-- An engine between two writes that holds a feedback state. -/
structure Kept (host : Host) (secret organismId : String) (f : FeedbackState) (w : World) : Prop where
  idle : w.journal.working = none
  named : w.organism.identity.organismId = organismId
  started : ∃ r, start w.journal w.organism = .ok r
  holds : Holds host secret w.journal w.organism f

section
variable {host : Host} {secret organismId : String} {f : FeedbackState} {w : World}

/-- The engine with another journal in which the same states are stored. -/
theorem Kept.journal (kept : Kept host secret organismId f w) {j : Journal} (idle : j.working = none)
    (states : j.durable.runtimeState = w.journal.durable.runtimeState) : Kept host secret organismId f (w.wrote j) := by
  obtain ⟨r, started⟩ := kept.started
  refine ⟨idle, kept.named, ⟨r, (start_congr idle kept.idle states rfl).trans started⟩, ?_⟩
  exact kept.holds.congr rfl (by rw [World.wrote, states])

theorem Kept.organism (kept : Kept host secret organismId f w) {o : GovernedOrganism}
    (same : o.identity = w.organism.identity) : Kept host secret organismId f { w with organism := o } := by
  refine ⟨kept.idle, same ▸ kept.named, ?_, kept.holds.congr (congrArg _ same.symm) rfl⟩
  obtain ⟨r, started⟩ := kept.started
  exact ⟨r, (start_congr kept.idle kept.idle rfl (congrArg _ same)).trans started⟩

theorem Kept.unwritten (kept : Kept host secret organismId f w) (r : RuntimeState) (moments : List Moment) :
    Kept host secret organismId f { w with runtime := r, moments := moments } :=
  ⟨kept.idle, kept.named, kept.started, kept.holds⟩

theorem Kept.stored (kept : Kept host secret organismId f w) {g : FeedbackState} {j : Journal} (idle : j.working = none)
    (started : start j w.organism = start w.journal w.organism) (holds : Holds host secret j w.organism g) :
    Kept host secret organismId g (w.wrote j) :=
  ⟨idle, kept.named, kept.started.imp fun _ => started.trans, holds⟩

/-- Saving the runtime state leaves the feedback state. -/
theorem Kept.saved (kept : Kept host secret organismId f w) :
    Kept host secret organismId f (w.wrote (setState w.journal (stateKey w.organism) w.runtime.toJson).2) := by
  obtain ⟨-, idle, started⟩ := start_setState kept.idle w.organism w.runtime
  have states := get?_setState kept.idle (feedbackKey_ne w.organism w.organism) w.runtime.toJson
  have holds := kept.holds.congr rfl states
  generalize (setState w.journal (stateKey w.organism) w.runtime.toJson).2 = j at idle started holds ⊢
  exact ⟨idle, kept.named, ⟨_, started⟩, holds⟩

variable (host secret organismId f) in
/-- A tick of the engine keeps the feedback state as it was stored, and hands over no
proposal but the copy of its own. -/
theorem kept_rules (policy : HomeostaticPolicy) (stimulus : Stimulus) (effector : Effector) (before : World) :
    TickRules host policy stimulus effector (fun w => Kept host secret organismId f w ∧ w = before)
      (fun _ ran _ w => Kept host secret organismId f w ∧ Ran before stimulus.proposal effector.executor ran w)
      (fun w => Kept host secret organismId f w ∧ ∃ ran, Ran before stimulus.proposal effector.executor ran w) where
  opened := by
    rintro w ⟨kept, rfl⟩
    have same := @GovernedOrganism.stateRoot_identity host w.organism
    exact ⟨(kept.organism same).unwritten _ _, .start rfl rfl⟩
  adopted := by
    rintro c w health ⟨kept, ran⟩
    have planned : Ran before stimulus.proposal effector.executor none
        { w with runtime := (planRecovery policy w.runtime health).2 } := ran.congr rfl rfl
    exact ⟨kept.unwritten _ _, (planned.quiet rfl).quiet rfl⟩
  organism := fun ⟨kept, ran⟩ same => ⟨kept.organism same, ran.congr rfl rfl⟩
  decided := fun _ ⟨kept, ran⟩ => ⟨kept.unwritten _ _, ran.quiet rfl⟩
  executed := fun ⟨kept, ran⟩ proposed armed => ⟨kept.unwritten _ _, ran.execute proposed (by simp [armed])⟩
  recorded := by
    intro c ran k w i label eventType payload causation time ⟨kept, held⟩ _ _ _
    obtain ⟨idle, states⟩ := @append_rest host w.journal
      ((recordCall (c.id host) label eventType payload causation).timed time) kept.idle (created_range _ _)
    generalize append host w.journal _ = answer at idle states ⊢
    exact ⟨fun _ _ => ⟨kept.journal idle states, held.wrote _⟩,
      fun _ _ => ⟨kept.journal idle states, ran, held.wrote _⟩⟩
  saved := fun ⟨kept, ran⟩ _ _ _ => ⟨kept.saved, ran.wrote _⟩
  crashed := fun ⟨kept, ran⟩ _ => ⟨kept, _, ran⟩
  early := fun ⟨kept, ran⟩ _ => ⟨kept, _, ran⟩
  answered := fun ⟨kept, ran⟩ _ => ⟨kept, _, ran⟩

end

/-! ## A tick of the loop -/

theorem inner_ensures {α : Type} {pre : Loop → Prop} {post : α → Loop → Prop} {fails : Loop → Prop}
    {m : Physiological α} (ensures : ∀ l, pre l → Ensures (· = l.world) m (fun a w => post a { l with world := w })
      fun w => fails { l with world := w }) : Ensures pre (inner m) post fails := by
  intro l holds
  have done := ensures l holds l.world rfl
  unfold inner
  cases ran : m l.world with
  | ok a w =>
    rw [ran] at done
    exact done
  | error e w =>
    rw [ran] at done
    exact done

theorem clone_entries (proposal : Mapping) :
    jsonClone (.dict (jsonClone (.dict proposal)).entries) = jsonClone (.dict proposal) := by
  have same : Json.dict (jsonClone (.dict proposal)).entries = jsonClone (.dict proposal) := by
    rw [jsonClone_eq, Json.norm_dict]
    exact congrArg Json.obj (Dict.ofPairs_of_sorted (Dict.sorted_ofPairs _))
  rw [same, jsonClone_eq, jsonClone_eq, Json.norm_norm]

theorem captured_eq {effector : Effector} {w v : World} {p : Json}
    (found : (v.moments.drop w.moments.length).findSome? Moment.executed? = some p) :
    captured effector w v = effector.executor.map fun executor => executeAndCapture executor p := by
  simp only [captured, Effector.wrapped, found]
  cases effector.executor <;> rfl

theorem Measured.error_of_health {policy : HomeostaticPolicy} {after : Measurement} {health : HealthState}
    (measured : (measure policy after).health = some health) : (measure policy after).error = none := by
  unfold measure at measured ⊢
  split at measured
  · cases measured
  · cases measured
  · split at measured
    · rfl
    · cases measured

theorem effectSuccess_good {upper : String → String} (feedbackPolicy : EffectFeedbackPolicy upper)
    (policy : HomeostaticPolicy) (after : Measurement) (cycleId status : String) :
    effectSuccess feedbackPolicy status (measure policy after) =
      (⟨cycleId, status, (measure policy after).health⟩ : Effect).good feedbackPolicy := by
  unfold effectSuccess Effect.good
  cases measured : (measure policy after).health == some .normal with
  | false => simp
  | true =>
    have health : (measure policy after).health = some .normal := by simpa using measured
    simp [Measured.error_of_health health]

section
variable {host : Host} {secret organismId : String} {f : FeedbackState} {l u v : Loop}

/-- Nothing but the journal is another, and the same feedback state is held. -/
structure Still (host : Host) (secret organismId : String) (l v : Loop) : Prop where
  feedback : v.feedback = l.feedback
  effects : v.effects = l.effects
  moments : v.world.moments = l.world.moments
  alive : l.world.fuse = none → v.world.fuse = none
  kept : Kept host secret organismId l.feedback v.world

theorem Kept.still (kept : Kept host secret organismId l.feedback l.world) : Still host secret organismId l l :=
  ⟨rfl, rfl, rfl, id, kept⟩

theorem Still.wrote {j : Journal} (kept : Kept host secret organismId l.feedback (l.world.wrote j)) :
    Still host secret organismId l { l with world := l.world.wrote j } :=
  ⟨rfl, rfl, rfl, fun alive => by simp [World.wrote, alive], kept⟩

theorem Still.settled (still : Still host secret organismId l v) : Kept host secret organismId v.feedback v.world := by
  rw [still.feedback]
  exact still.kept

theorem persist_loop (kept : Kept host secret organismId f l.world) :
    Ensures (· = l) (persistFeedback host secret) (fun _ => Still host secret organismId l)
      fun v => v = l ∧ l.world.fuse = some 0 := by
  refine .get_bind fun v same => inner_ensures fun u again => durably_ensures (fun w held burnt => ?_) fun w held _ =>
    ?_
  · subst same again held
    exact ⟨rfl, burnt⟩
  · subst same again held
    obtain ⟨done, idle, holds⟩ := @holds_setState host secret u.world.journal kept.idle u.world.organism u.feedback
    have started :=
      start_setState_other kept.idle u.world.organism (feedbackKey_ne u.world.organism u.world.organism).symm
      (envelope host secret u.feedback) idle
    have accepted (e : JournalError) : (setState u.world.journal (feedbackKey u.world.organism)
        (envelope host secret u.feedback)).1 ≠ .error e := by rw [done]; nofun
    refine ⟨fun _ _ => Still.wrote (l := u) ?_, fun e failed => absurd failed (accepted e)⟩
    generalize setState u.world.journal _ _ = stored at idle started holds ⊢
    exact kept.stored idle started holds

theorem record_loop (kept : Kept host secret organismId l.feedback l.world) (clock : String → TimeNs)
    (cycleId label eventType : String) (payload : Mapping) (causation : Option String) :
    Ensures (· = l) (inner (record host clock cycleId label eventType payload causation))
      (fun _ => Still host secret organismId l) (Still host secret organismId l) := by
  refine inner_ensures fun u again => ?_
  subst again
  refine .bind (q := fun _ w => Still host secret organismId u { u with world := w })
    (durably_ensures (fun w held burnt => ?_) fun w held _ => ?_) fun _ => .pure fun _ => id
  · subst held
    exact kept.still
  · subst held
    obtain ⟨idle, states⟩ := @append_rest host u.world.journal
      ((recordCall cycleId label eventType payload causation).timed (clock label)) kept.idle (created_range _ _)
    have appended := kept.journal idle states
    exact ⟨fun _ _ => .wrote (l := u) appended, fun _ _ => .wrote (l := u) appended⟩

/-! ### The feedback of an effect -/

section
variable {upper : String → String} (host secret organismId) (feedbackPolicy : EffectFeedbackPolicy upper)

/-- One more effect has been fed back. -/
structure Fed (effect : Effect) (l v : Loop) : Prop where
  effects : v.effects = l.effects ++ [effect]
  cycle : ∃ text, effect.cycleId = sha256Text host text
  changed : ∃ text,
    v.feedback = { l.feedback.after feedbackPolicy.failuresBeforeRecoveryGate (effect.good feedbackPolicy)
      effect.cycleId with
    lastEffectStatus := some effect.status
    lastPostEffectHealth := effect.health
    lastFeedbackReceiptHash := some (sha256Text host text) }

/-- The feedback state is held, or the process has ended before it was stored. -/
def Settled (l v : Loop) : Prop :=
  Kept host secret organismId v.feedback v.world ∨ v.world.fuse = some 0 ∧
    Kept host secret organismId l.feedback v.world

/-- What is true once an effect is fed back, stored or not. -/
structure After (effect : Effect) (l v : Loop) : Prop where
  fed : Fed host feedbackPolicy effect l v
  moments : v.world.moments = l.world.moments
  alive : l.world.fuse = none → v.world.fuse = none

variable {host secret organismId feedbackPolicy}

theorem store_feedback {w : World} {g : FeedbackState} {effects : List Effect} (kept : Kept host secret organismId f w)
    (clock : String → TimeNs) (cycleId label eventType : String) (payload : Mapping) (causation : Option String)
    {α : Type} (answer : α) :
    Ensures (· = ⟨w, g, effects⟩)
      (do
        persistFeedback host secret
        let _ ← inner (record host clock cycleId label eventType payload causation)
        return answer)
      (fun _ => Still host secret organismId ⟨w, g, effects⟩)
      fun v => Still host secret organismId ⟨w, g, effects⟩ v ∨ v = ⟨w, g, effects⟩ ∧ w.fuse = some 0 := by
  refine .bind ((persist_loop (l := ⟨w, g, effects⟩) kept).mono (fun _ => id) (fun _ _ => id) fun _ => .inr) fun _ =>
    .start fun t still => ?_
  have recorded := record_loop (l := t) still.settled clock cycleId label eventType payload causation
  have again {v : Loop} (later : Still host secret organismId t v) : Still host secret organismId ⟨w, g, effects⟩ v :=
    ⟨later.feedback.trans still.feedback, later.effects.trans still.effects, later.moments.trans still.moments,
      fun alive => later.alive (still.alive alive), still.feedback ▸ later.kept⟩
  exact .bind (recorded.mono (fun _ => id) (fun _ _ => again) fun _ later => .inl (again later)) fun _ => .pure fun _ =>
    id

theorem record_feedback (policy : HomeostaticPolicy) (kept : Kept host secret organismId l.feedback l.world)
    (input : LoopInput) {cycle : CycleResult} {c : Cycle} (named : cycle.cycleId = c.id host) (attempt : Bool)
    (outcome : Option ExecutorOutcome) :
    Ensures (· = l) (recordEffectFeedback host policy feedbackPolicy secret input cycle attempt outcome)
      (fun _ v => Kept host secret organismId v.feedback v.world ∧ After host feedbackPolicy
        ⟨cycle.cycleId, effectStatus host outcome, (measure policy input.after).health⟩ l v)
      fun v => Settled host secret organismId l v ∧ After host feedbackPolicy
        ⟨cycle.cycleId, effectStatus host outcome, (measure policy input.after).health⟩ l v := by
  have good := effectSuccess_good feedbackPolicy policy input.after cycle.cycleId (effectStatus host outcome)
  refine .get_bind fun v same => .modify_bind fun t again => ?_
  subst same again
  rw [good]
  have after {u v : Loop} (still : Still host secret organismId u v) (world : u.world = t.world)
      (fed : Fed host feedbackPolicy
        ⟨cycle.cycleId, effectStatus host outcome, (measure policy input.after).health⟩ t u) : After host feedbackPolicy
        ⟨cycle.cycleId, effectStatus host outcome, (measure policy input.after).health⟩ t v := by
    refine ⟨⟨still.effects.trans fed.effects, fed.cycle, ?_⟩, still.moments.trans (by rw [world]), fun alive => ?_⟩
    · rw [still.feedback]
      exact fed.changed
    · exact still.alive (by rw [world, alive])
  refine (store_feedback kept _ _ _ _ _ _ _).mono (fun _ => id) (fun _ v still => ?_) fun v failed => ?_
  · exact ⟨still.settled, after still rfl ⟨rfl, ⟨_, named⟩, _, rfl⟩⟩
  · rcases failed with still | ⟨rfl, burnt⟩
    · exact ⟨.inl still.settled, after still rfl ⟨rfl, ⟨_, named⟩, _, rfl⟩⟩
    · exact ⟨.inr ⟨burnt, kept⟩, ⟨rfl, ⟨_, named⟩, _, rfl⟩, rfl, id⟩

/-! ### The whole tick -/

/-- What the engine has done inside a tick of the loop. -/
structure Inside (host : Host) (secret organismId : String) (proposal : Option Mapping)
    (executor : Option (Json → ExecutorOutcome)) (ran : Option Json) (l v : Loop) : Prop where
  feedback : v.feedback = l.feedback
  effects : v.effects = l.effects
  kept : Kept host secret organismId l.feedback v.world
  ran : Ran l.world proposal executor ran v.world

theorem inner_tick (policy : HomeostaticPolicy) (kept : Kept host secret organismId l.feedback l.world)
    (stimulus : Stimulus) (effector : Effector) : Ensures (· = l) (inner (tick host policy stimulus effector))
      (fun r v => ∃ ran, (∃ c : Cycle, r.cycleId = c.id host) ∧ (r.decision = some .pass ↔ ran.isSome = true) ∧
        (∀ p, ran = some p → ∃ executor, effector.executor = some executor ∧ Recordable (executor p)) ∧
        Inside host secret organismId stimulus.proposal effector.executor ran l v)
      fun v => ∃ ran, Inside host secret organismId stimulus.proposal effector.executor ran l v := by
  refine inner_ensures fun u again => ?_
  subst again
  refine (kept_rules host secret organismId u.feedback policy stimulus effector u.world).tick.mono
    (fun w same => ⟨same ▸ kept, same⟩) (fun r w done => ?_) fun w ⟨kept, ran, held⟩ => ⟨ran, rfl, rfl, kept, held⟩
  obtain ⟨c, ran, id, _, passed, answered, kept, held⟩ := done
  exact ⟨ran, ⟨c, id⟩, passed, answered, rfl, rfl, kept, held⟩

theorem recoveryGate_none {f : FeedbackState} {proposal : Json} {origin : String}
    (passed : recoveryGate f (some proposal) = none) (pending : f.recoveryForCycleId = some origin) :
    isStr (proposal.get? "recovery_for") origin = true := by
  simpa [recoveryGate, pending] using passed

/-- The outcome and the measurement of what a tick has executed. -/
def EffectOf (host : Host) (policy : HomeostaticPolicy) (input : LoopInput) (l v : Loop) (effect : Effect) : Prop :=
  ∃ p executor, .executed p ∈ v.world.moments.drop l.world.moments.length ∧ input.effector.executor = some executor ∧
    effect.status = effectStatus host (some (executeAndCapture executor p)) ∧
    effect.health = (measure policy input.after).health

/-- How a tick may change the gate. -/
structure GateTurn (host : Host) (policy : HomeostaticPolicy) (feedbackPolicy : EffectFeedbackPolicy upper)
    (input : LoopInput)
    (l v : Loop) : Prop where
  /-- While a recovery is pending only proposals for it are executed. -/
  recovers : ∀ origin, l.feedback.recoveryForCycleId = some origin →
    ∀ p, .executed p ∈ v.world.moments.drop l.world.moments.length → isStr (p.get? "recovery_for") origin = true
  fedBack : v.feedback = l.feedback ∧ v.effects = l.effects ∨
    ∃ effect, EffectOf host policy input l v effect ∧ v.effects = l.effects ++ [effect]
  /-- A pending recovery stays the same until an effect of it is good. -/
  pending : ∀ origin, l.feedback.recoveryForCycleId = some origin → v.feedback.recoveryForCycleId = some origin ∨
    v.feedback.recoveryForCycleId = none ∧ ∃ effect, EffectOf host policy input l v effect ∧
      feedbackPolicy.accepts effect.status = true ∧ effect.health = some .normal

/-- What was executed in a tick that returns is fed back under its cycle. -/
def Returned (host : Host) (policy : HomeostaticPolicy) (input : LoopInput) (r : ClosedLoopCycleResult) (l v : Loop) :
    Prop :=
  ∀ p, .executed p ∈ v.world.moments.drop l.world.moments.length →
    ∃ effect, EffectOf host policy input l v effect ∧ effect.cycleId = r.cycle.cycleId ∧
      v.effects = l.effects ++ [effect]

/-- What a tick makes of the loop, in the terms of its one effect. -/
structure Turned (host : Host) (policy : HomeostaticPolicy) (feedbackPolicy : EffectFeedbackPolicy upper)
    (input : LoopInput)
    (l v : Loop) : Prop where
  recovers : ∀ origin, l.feedback.recoveryForCycleId = some origin →
    ∀ p, .executed p ∈ v.world.moments.drop l.world.moments.length → isStr (p.get? "recovery_for") origin = true
  fedBack : v.feedback = l.feedback ∧ v.effects = l.effects ∨
    ∃ effect, EffectOf host policy input l v effect ∧ Fed host feedbackPolicy effect l v ∧
      ∀ executor, input.effector.executor = some executor →
      ∀ p, .executed p ∈ v.world.moments.drop l.world.moments.length →
        Recordable (executeAndCapture executor p)
  alive : l.world.fuse = none → v.world.fuse = none
  once : ∀ p q, .executed p ∈ v.world.moments.drop l.world.moments.length →
    .executed q ∈ v.world.moments.drop l.world.moments.length → p = q

section
variable {policy : HomeostaticPolicy} {input : LoopInput} {proposal : Option Mapping} {ran : Option Json}
  {executor : Option (Json → ExecutorOutcome)}

theorem Inside.still (inside : Inside host secret organismId proposal executor ran l u)
    (still : Still host secret organismId u v) : Inside host secret organismId proposal executor ran l v := by
  refine ⟨still.feedback.trans inside.feedback, still.effects.trans inside.effects, inside.feedback ▸ still.kept,
    fun alive => still.alive (inside.ran.alive alive), ?_, inside.ran.asked⟩
  rw [still.moments]
  exact inside.ran.since

theorem Inside.turned (inside : Inside host secret organismId proposal executor ran l v)
    (recovers : ∀ origin p, l.feedback.recoveryForCycleId = some origin → ran = some p →
      isStr (p.get? "recovery_for") origin = true) : Turned host policy feedbackPolicy input l v where
  recovers := fun origin pending p member => recovers origin p pending ((inside.ran.mem_drop p).mp member)
  fedBack := .inl ⟨inside.feedback, inside.effects⟩
  alive := inside.ran.alive
  once := fun p q first second =>
    Option.some.inj (((inside.ran.mem_drop p).mp first).symm.trans ((inside.ran.mem_drop q).mp second))

theorem Inside.settled (inside : Inside host secret organismId proposal executor ran l v) :
    Kept host secret organismId v.feedback v.world := inside.feedback ▸ inside.kept

theorem Turned.turn (turned : Turned host policy feedbackPolicy input l v) :
    GateTurn host policy feedbackPolicy input l v where
  recovers := turned.recovers
  fedBack := turned.fedBack.imp_right fun ⟨effect, of, fed, _⟩ => ⟨effect, of, fed.effects⟩
  pending := by
    intro origin pending
    rcases turned.fedBack with ⟨same, -⟩ | ⟨effect, of, fed, -⟩
    · exact .inl (by rw [same, pending])
    · obtain ⟨text, changed⟩ := fed.changed
      rw [changed]
      unfold FeedbackState.after
      cases good : effect.good feedbackPolicy with
      | true =>
        refine .inr ⟨rfl, effect, of, ?_⟩
        simpa [Effect.good] using good
      | false =>
        simp only [Bool.false_eq_true, if_false, pending, Option.getD_some]
        split <;> exact .inl (by simp)

variable (feedbackPolicy) in
/-- However a tick ends, the feedback state of the loop is held by the journal, unless the
process ends with it. -/
theorem loopTick_turned (policy : HomeostaticPolicy) (kept : Kept host secret organismId l.feedback l.world)
    (input : LoopInput) : Ensures (· = l) (loopTick host policy feedbackPolicy secret input)
      (fun r v => Kept host secret organismId v.feedback v.world ∧ Turned host policy feedbackPolicy input l v ∧
        Returned host policy input r l v)
      fun v => Settled host secret organismId l v ∧ Turned host policy feedbackPolicy input l v := by
  refine .get_bind fun v same => ?_
  subst same
  have quiet {executor : Option (Json → ExecutorOutcome)} {ran : Option Json} {v u : Loop}
      (inside : Inside host secret organismId none executor ran v u) : ran = none := by
    cases ran with
    | none => rfl
    | some p => exact absurd (inside.ran.asked p rfl).2 (by simp)
  dsimp only
  split
  next reason held =>
    refine .bind ((inner_tick policy kept _ _).mono (fun _ => id) (fun _ _ => id)
      fun u done => ?_) fun cycle => ?_
    · obtain ⟨ran, inside⟩ := done
      refine ⟨.inl inside.settled, inside.turned fun _ _ _ executed => ?_⟩
      cases (quiet inside).symm.trans executed
    rintro u ⟨ran, -, passed, -, inside⟩
    obtain rfl := quiet inside
    have recorded {t : Loop} (still : Still host secret organismId u t) :
        Kept host secret organismId t.feedback t.world ∧
        Turned host policy feedbackPolicy input v t :=
          ⟨(inside.still still).settled, (inside.still still).turned fun _ _ _ executed => by cases executed⟩
    have written := record_loop (l := u) inside.settled input.effector.clock cycle.cycleId ":effect-recovery-gate"
      "EFFECT_RECOVERY_GATE"
    refine Ensures.bind (q := fun _ => Still host secret organismId u) (.bind ((written _ _).mono (fun _ => id)
      (fun _ _ => id) fun _ still => (recorded still).imp_left .inl) fun _ => .pure fun _ => id)
      (fun receipt => .pure fun t still => ?_) u rfl
    exact ⟨(recorded still).1, (recorded still).2,
      fun p member => by cases ((inside.still still).ran.mem_drop p).mp member⟩
  next passed =>
    have recovers {executor : Option (Json → ExecutorOutcome)} {ran : Option Json} {u : Loop}
        (inside : Inside host secret organismId
          (Option.map Json.entries (Option.map (fun proposal => jsonClone (Json.dict proposal))
          input.stimulus.proposal)) executor ran v u) (origin : String) (p : Json)
        (pending : v.feedback.recoveryForCycleId = some origin) (executed : ran = some p) :
        isStr (p.get? "recovery_for") origin = true := by
      obtain ⟨-, given, proposed, rfl⟩ := inside.ran.asked p executed
      cases asked : input.stimulus.proposal with
      | none => simp [asked] at proposed
      | some proposal =>
        rw [asked] at proposed passed
        obtain rfl : (jsonClone (.dict proposal)).entries = given := Option.some.inj proposed
        rw [clone_entries]
        exact recoveryGate_none passed pending
    refine .bind ((inner_tick policy kept _ _).mono (fun _ => id) (fun _ _ => id)
      fun u done => ?_) fun cycle => ?_
    · obtain ⟨ran, inside⟩ := done
      exact ⟨.inl inside.settled, inside.turned (recovers inside)⟩
    rintro u ⟨ran, ⟨c, id⟩, decided, answered, inside⟩
    refine Ensures.ite (fun pass => ?_) (fun other => ?_) u rfl
    · obtain ⟨p, rfl⟩ := Option.isSome_iff_exists.mp (decided.mp pass)
      refine .get_bind fun t same => ?_
      subst same
      obtain ⟨executor, armed⟩ : ∃ executor, input.effector.executor = some executor := by
        have wrapped := (inside.ran.asked p rfl).1
        cases armed : input.effector.executor with
        | some executor => exact ⟨executor, rfl⟩
        | none => simp [Effector.wrapped, armed] at wrapped
      rw [captured_eq inside.ran.findSome?, armed, Option.map_some]
      have turned {t : Loop} (after : After host feedbackPolicy ⟨cycle.cycleId,
          effectStatus host (some (executeAndCapture executor p)), (measure policy input.after).health⟩ u t) :
          Turned host policy feedbackPolicy input v t ∧
            EffectOf host policy input v t ⟨cycle.cycleId, effectStatus host (some (executeAndCapture executor p)),
              (measure policy input.after).health⟩ := by
        have of : EffectOf host policy input v t ⟨cycle.cycleId,
            effectStatus host (some (executeAndCapture executor p)), (measure policy input.after).health⟩ :=
          ⟨p, executor, by rw [after.moments, inside.ran.mem_drop], armed, rfl, rfl⟩
        refine ⟨⟨fun origin pending q member => ?_, .inr ⟨_, of, ?_, fun executor' armed' q member => ?_⟩,
          fun alive => after.alive (inside.ran.alive alive), fun q q' first second => ?_⟩, of⟩
        · rw [after.moments, inside.ran.mem_drop] at member
          exact recovers inside origin q pending member
        · refine ⟨by rw [after.fed.effects, inside.effects], after.fed.cycle, ?_⟩
          rw [← inside.feedback]
          exact after.fed.changed
        · rw [after.moments, inside.ran.mem_drop] at member
          obtain ⟨wrapped, captures, recordable⟩ := answered q member
          rw [Effector.wrapped, armed', Option.map_some] at captures
          exact Option.some.inj captures ▸ recordable
        · rw [after.moments, inside.ran.mem_drop] at first second
          exact Option.some.inj (first.symm.trans second)
      have settled {t : Loop} (settled : Settled host secret organismId u t) : Settled host secret organismId v t := by
        unfold Settled at settled ⊢
        rwa [inside.feedback] at settled
      refine .bind ((record_feedback (l := u) policy inside.settled input id _ _).mono (fun _ same => same)
        (fun _ _ done => done) fun t done => ⟨settled done.1, (turned done.2).1⟩) fun answer => ?_
      refine .get_bind fun s done => .pure fun t same => ?_
      subst same
      refine ⟨done.1, (turned done.2).1, fun q member => ⟨_, (turned done.2).2, rfl, ?_⟩⟩
      rw [done.2.fed.effects, inside.effects]
    · refine .pure fun t same => ?_
      subst same
      refine ⟨inside.settled, inside.turned (recovers inside), fun p member => ?_⟩
      have executed := (inside.ran.mem_drop p).mp member
      exact absurd (decided.mpr (by simp [executed])) other

end

end

end

/-! ## Runs -/

/-- Ticks, and restarts over the same journal. -/
inductive LoopCall (organismId : String) where
  | tick (input : LoopInput)
  | restart (organism : { o : GovernedOrganism // o.identity.organismId = organismId })

section
variable (host : Host) {upper : String → String} (policy : HomeostaticPolicy)
    (feedbackPolicy : EffectFeedbackPolicy upper)
  (secret : String) {organismId : String}

/-- The loop after a call: after a tick that raises, too. -/
def loopCall (l : Loop) : LoopCall organismId → Except EngineError Loop
  | .tick input => .ok (afterwards (loopTick host policy feedbackPolicy secret input) l)
  | .restart organism => do
    let (feedback, runtime) ← startLoop host secret l.world.journal.reopen organism.1
    return { l with
      world := { l.world with journal := l.world.journal.reopen, organism := organism.1, runtime := runtime }
      feedback := feedback }

variable (organismId) in
/-- What the gate is in every state of a run. -/
structure GateLaw (l : Loop) : Prop where
  required : l.feedback.recoveryRequired = true ↔ ∃ origin, l.feedback.recoveryForCycleId = some origin
  reached : l.feedback.recoveryRequired = true ↔ feedbackPolicy.failuresBeforeRecoveryGate ≤ l.feedback.failureStreak
  streak : l.feedback.failureStreak = (failures feedbackPolicy l.effects).length
  /-- The cycle of the effect at which the streak has reached the bound. -/
  origin : l.feedback.recoveryForCycleId =
    (failures feedbackPolicy l.effects)[feedbackPolicy.failuresBeforeRecoveryGate - 1]?
  /-- What an engine takes up from the journal. -/
  reloaded : ∀ o : GovernedOrganism, o.identity.organismId = organismId →
    reload host secret l.world.journal.reopen o = .ok l.feedback

/-- How a call may change the gate. -/
def GateStep (l v : Loop) : LoopCall organismId → Prop
  | .tick input => GateTurn host policy feedbackPolicy input l v ∧
      ∀ r, loopTick host policy feedbackPolicy secret input l = .ok r v → Returned host policy input r l v
  | .restart _ => v.feedback = l.feedback ∧ v.effects = l.effects ∧ v.world.moments = l.world.moments

end

section
variable {host : Host} {upper : String → String} {policy : HomeostaticPolicy}
    {feedbackPolicy : EffectFeedbackPolicy upper}
  {secret organismId : String} {l : Loop}

theorem startLoop_ok {journal : Journal} {o : GovernedOrganism} {feedback : FeedbackState} {runtime : RuntimeState} :
    startLoop host secret journal o = .ok (feedback, runtime) ↔
      secret ≠ "" ∧ reload host secret journal o = .ok feedback ∧ start journal o = .ok runtime := by
  unfold startLoop
  split
  next empty => exact ⟨nofun, fun done => absurd empty done.1⟩
  next nonempty =>
    cases reload host secret journal o with
    | error e => exact ⟨nofun, fun done => nomatch done.2.1⟩
    | ok f =>
      cases start journal o with
      | error e => exact ⟨nofun, fun done => nomatch done.2.2⟩
      | ok r => simp [nonempty, bind, Except.bind, pure, Except.pure]

theorem isSha256_digest {host : Host} (lengths : host.Sha256Length) (bytes : ByteArray) :
    isSha256 (host.sha256 bytes) = true := by
  have digits : (host.sha256 bytes).toList.all Hex.isDigit = true := host.sha256Digits bytes
  simp [isSha256, lengths bytes, digits]

theorem digest_nonempty {host : Host} (lengths : host.Sha256Length) (bytes : ByteArray) : host.sha256 bytes ≠ "" := by
  intro empty
  have length := lengths bytes
  rw [empty] at length
  cases length

theorem FeedbackState.Valid.after {f : FeedbackState} (valid : f.Valid) (limit : Nat) (success : Bool)
    {cycleId : String} (nonempty : cycleId ≠ "") : (f.after limit success cycleId).Valid := by
  unfold FeedbackState.after
  split
  · exact ⟨rfl, nofun, valid.digest⟩
  · split
    · refine ⟨rfl, fun s same => ?_, valid.digest⟩
      obtain rfl : f.recoveryForCycleId.getD cycleId = s := Option.some.inj same
      cases before : f.recoveryForCycleId with
      | none => exact nonempty
      | some origin => exact valid.named origin before
    · exact ⟨valid.consistent, valid.named, valid.digest⟩

variable (host secret organismId feedbackPolicy l) in
/-- A loop between ticks: its feedback state is held, valid and what the effects make it. -/
structure Closed : Prop where
  alive : l.world.fuse = none
  kept : Kept host secret organismId l.feedback l.world
  gated : Gated feedbackPolicy l.effects l.feedback
  valid : l.feedback.Valid

theorem Closed.turned {input : LoopInput} {v : Loop} (closed : Closed host feedbackPolicy secret organismId l)
    (lengths : host.Sha256Length) (turned : Turned host policy feedbackPolicy input l v)
    (kept : Kept host secret organismId v.feedback v.world) : Closed host feedbackPolicy secret organismId v := by
  refine ⟨turned.alive closed.alive, kept, ?_, ?_⟩
  all_goals rcases turned.fedBack with ⟨feedback, effects⟩ | ⟨effect, -, ⟨effects, ⟨cycle, named⟩, receipt, changed⟩, -⟩
  · rw [feedback, effects]
    exact closed.gated
  · have gated := closed.gated.after effect
    rw [effects, changed]
    exact ⟨gated.streak, gated.origin, gated.required⟩
  · rw [feedback]
    exact closed.valid
  · have valid := closed.valid.after feedbackPolicy.failuresBeforeRecoveryGate (effect.good feedbackPolicy)
      (ne_of_eq_of_ne named (digest_nonempty lengths _))
    rw [changed]
    refine ⟨valid.consistent, valid.named, fun s same => ?_⟩
    obtain rfl := Option.some.inj same
    exact isSha256_digest lengths _

theorem Closed.reloaded (closed : Closed host feedbackPolicy secret organismId l) {o : GovernedOrganism}
    (named : o.identity.organismId = organismId) : reload host secret l.world.journal.reopen o = .ok l.feedback :=
  (closed.kept.holds.congr (k := l.world.journal.reopen) (closed.kept.named.trans named.symm) rfl).reload rfl
    closed.valid

theorem Closed.law (closed : Closed host feedbackPolicy secret organismId l) :
    GateLaw host feedbackPolicy secret organismId l where
  required := by rw [closed.gated.required, Option.isSome_iff_exists]
  reached := closed.gated.required_iff
  streak := closed.gated.streak
  origin := closed.gated.origin
  reloaded := fun _ => closed.reloaded

theorem loopCall_closed (lengths : host.Sha256Length) (nonempty : secret ≠ "")
    (closed : Closed host feedbackPolicy secret organismId l) (c : LoopCall organismId) :
    ∃ v, loopCall host policy feedbackPolicy secret l c = .ok v ∧ Closed host feedbackPolicy secret organismId v ∧
      GateStep host policy feedbackPolicy secret l v c := by
  cases c with
  | tick input =>
    refine ⟨_, rfl, ?_⟩
    have turned := loopTick_turned feedbackPolicy policy closed.kept input l rfl
    unfold afterwards GateStep
    cases ran : loopTick host policy feedbackPolicy secret input l with
    | ok r v =>
      rw [ran] at turned
      refine ⟨closed.turned lengths turned.2.1 turned.1, turned.2.1.turn, fun r' same => ?_⟩
      obtain ⟨rfl, -⟩ := EStateM.Result.ok.inj (ran.symm.trans same)
      exact turned.2.2
    | error e v =>
      rw [ran] at turned
      obtain ⟨settled, turned⟩ := turned
      have kept : Kept host secret organismId v.feedback v.world :=
        settled.resolve_right fun burnt => by simp [turned.alive closed.alive] at burnt
      exact ⟨closed.turned lengths turned kept, turned.turn, fun r same => nomatch ran.symm.trans same⟩
  | restart organism =>
    obtain ⟨runtime, started⟩ := closed.kept.started
    have stored := closed.reloaded organism.2
    have again : start l.world.journal.reopen organism.1 = .ok runtime :=
      (start_congr (j := l.world.journal.reopen) rfl closed.kept.idle rfl
        (organism.2.trans closed.kept.named.symm)).trans
        started
    have holds : Holds host secret l.world.journal.reopen organism.1 l.feedback :=
      closed.kept.holds.congr (closed.kept.named.trans organism.2.symm) rfl
    refine ⟨{ l with world :=
      { l.world with journal := l.world.journal.reopen, organism := organism.1, runtime := runtime } }, ?_, ?_, rfl,
      rfl, rfl⟩
    · rw [loopCall, startLoop_ok.mpr ⟨nonempty, stored, again⟩]
      rfl
    · exact ⟨closed.alive, ⟨rfl, organism.2, ⟨runtime, again⟩, holds⟩, closed.gated, closed.valid⟩

/-- From an engine without feedback every run of ticks and restarts goes through, the gate
obeys its law in every state, and every further call changes it as it may. -/
theorem recovery_gate_governs (lengths : host.Sha256Length) (policy : HomeostaticPolicy)
    (feedbackPolicy : EffectFeedbackPolicy upper) {journal : Journal} (idle : journal.working = none)
    (organism : GovernedOrganism) (unstored : getState journal (feedbackKey organism) = .ok none)
    {feedback : FeedbackState} {runtime : RuntimeState}
    (started : startLoop host secret journal organism = .ok (feedback, runtime))
    (calls : List (LoopCall organism.identity.organismId)) :
    ∃ l, calls.foldlM (loopCall host policy feedbackPolicy secret)
        ⟨⟨journal, organism, runtime, [], none⟩, feedback, []⟩ = .ok l ∧
      GateLaw host feedbackPolicy secret organism.identity.organismId l ∧
      ∀ c : LoopCall organism.identity.organismId, ∃ v, loopCall host policy feedbackPolicy secret l c = .ok v ∧
        GateStep host policy feedbackPolicy secret l v c := by
  obtain ⟨nonempty, loaded, booted⟩ := startLoop_ok.mp started
  have fresh : reload host secret journal organism = .ok .fresh := by simp only [reload, unstored]
  obtain rfl : FeedbackState.fresh = feedback := Except.ok.inj (fresh.symm.trans loaded)
  have closed : Closed host feedbackPolicy secret organism.identity.organismId
      ⟨⟨journal, organism, runtime, [], none⟩, .fresh, []⟩ :=
    ⟨rfl, ⟨idle, rfl, ⟨runtime, booted⟩, holds_unstored idle unstored⟩, gated_fresh, FeedbackState.valid_fresh⟩
  generalize (⟨⟨journal, organism, runtime, [], none⟩, .fresh, []⟩ : Loop) = l at closed ⊢
  induction calls generalizing l with
  | nil =>
    refine ⟨l, rfl, closed.law, fun c => ?_⟩
    obtain ⟨v, done, -, step⟩ := @loopCall_closed host _ policy _ _ _ _ lengths nonempty closed c
    exact ⟨v, done, step⟩
  | cons c rest ih =>
    obtain ⟨v, done, later, -⟩ := @loopCall_closed host _ policy _ _ _ _ lengths nonempty closed c
    rw [List.foldlM_cons, done]
    exact ih v later

/-- The default policy. -/
def defaultFeedbackPolicy : EffectFeedbackPolicy String.toUpper where
  successStatuses := ["OK", "PASS", "SUCCESS"]
  failuresBeforeRecoveryGate := 1
  some := ⟨"OK", by decide +kernel⟩
  unique := by decide +kernel
  positive := Nat.le_refl 1

theorem getState_unstored (o : GovernedOrganism) : getState Journal.empty (feedbackKey o) = .ok none := by
  simp only [getState, feedbackKey_nonempty]
  rfl

def failingInput : LoopInput :=
  ⟨sampleStimulus, ⟨some fun _ => .result (.str "FAILED") [], fun _ => ⟨0, zero_range⟩⟩, .unavailable "OSError" ""⟩

theorem recovery_gate_governs_sample :
    ∃ l, [LoopCall.tick failingInput, .restart ⟨.sample zeroHost, rfl⟩].foldlM
        (loopCall zeroHost samplePolicy defaultFeedbackPolicy "feedback-secret")
        ⟨⟨Journal.empty, .sample zeroHost, .fresh, [], none⟩, .fresh, []⟩ = .ok l ∧
      GateLaw zeroHost defaultFeedbackPolicy "feedback-secret" (GovernedOrganism.sample zeroHost).identity.organismId
      l ∧ ∀ c : LoopCall (GovernedOrganism.sample zeroHost).identity.organismId,
        ∃ v, loopCall zeroHost samplePolicy defaultFeedbackPolicy "feedback-secret" l c = .ok v ∧
          GateStep zeroHost samplePolicy defaultFeedbackPolicy "feedback-secret" l v c :=
  recovery_gate_governs zeroHost_sha256Length samplePolicy defaultFeedbackPolicy rfl (.sample zeroHost)
    (getState_unstored _)
    (startLoop_ok.mpr ⟨by decide, by simp only [reload, getState_unstored], by simp only [start, getState_empty]⟩) _

end

end MatVerse.Physiology
