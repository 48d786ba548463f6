import MatVerse.RecoveryTrace

/-! The supervisor's trace while its engine runs: a tick adds no proposal and no outcome, and
links its effect to the event that feeds it back. -/
namespace MatVerse.Physiology

open Fallible

section
variable {host : Host} {j : Journal} {c : AppendCall}

theorem Sound.appended (sound : Sound host j) (range : c.created < 2 ^ 63) : ∃ t, (append host j c).2 = ⟨t, none⟩ ∧
    Sound host ⟨t, none⟩ ∧ (t = j.durable ∨ New j c ∧ t = j.durable.added host c) := by
  have idle := (@append_rest host j c sound.idle range).1
  have grows := sound.append_grows (c := c)
  generalize (append host j c).2 = k at idle grows
  obtain ⟨durable, working⟩ := k
  obtain rfl : working = none := idle
  refine ⟨durable, rfl, ?_, grows⟩
  rcases grows with same | ⟨new, added⟩
  · obtain rfl : durable = j.durable := same
    exact sound.closed
  · obtain rfl : durable = j.durable.added host c := added
    exact sound.added new

theorem setState_eq (idle : j.working = none) {key : String} (label : validateLabel key "key" = .ok ()) (value : Json) :
    setState j key value =
      (.ok (), ⟨{ j.durable with
        runtimeState := Dict.insert (Text.strip key) (canonicalJson value) j.durable.runtimeState }, none⟩) := by
  simp [setState, label, Connection.write, Connection.view, idle]

end

/-- What was recorded since: no proposal and no outcome. -/
def Trail (t u : Tables) : Prop :=
  ∃ added, u.events = t.events ++ added ∧ ∀ row ∈ added, row.isProposal = false ∧ row.isOutcome = false

theorem Trail.refl (t : Tables) : Trail t t := ⟨[], by simp, nofun⟩

theorem Trail.added {host : Host} {t u : Tables} (trail : Trail t u) {c : AppendCall}
    (proposal : (c.row host (u.sequence + 1)).isProposal = false)
    (outcome : (c.row host (u.sequence + 1)).isOutcome = false) : Trail t (u.added host c) := by
  obtain ⟨added, events, plain⟩ := trail
  refine ⟨added ++ [c.row host (u.sequence + 1)], by rw [Tables.added, events, List.append_assoc], fun row member => ?_⟩
  rcases List.mem_append.mp member with earlier | last
  · exact plain row earlier
  · obtain rfl := List.mem_singleton.mp last
    exact ⟨proposal, outcome⟩

theorem stateKey_ne_policyKey (o : GovernedOrganism) (organismId : String) :
    Text.strip (policyKey organismId) ≠ Text.strip (stateKey o) :=
  marked_policyKey.strip_ne marked_stateKey (by decide) organismId o.identity.organismId

theorem stateKey_ne_attemptsKey (o : GovernedOrganism) (organismId : String) :
    Text.strip (attemptsKey organismId) ≠ Text.strip (stateKey o) :=
  marked_attemptsKey.strip_ne marked_stateKey (by decide) organismId o.identity.organismId

theorem feedbackKey_ne_policyKey (o : GovernedOrganism) (organismId : String) :
    Text.strip (policyKey organismId) ≠ Text.strip (feedbackKey o) :=
  marked_policyKey.strip_ne marked_feedbackKey (by decide) organismId o.identity.organismId

theorem feedbackKey_ne_attemptsKey (o : GovernedOrganism) (organismId : String) :
    Text.strip (attemptsKey organismId) ≠ Text.strip (feedbackKey o) :=
  marked_attemptsKey.strip_ne marked_feedbackKey (by decide) organismId o.identity.organismId

section
variable {host : Host} {organismId : String} {f : FeedbackState} {before w : World} {c : Cycle} {k : Nat}

variable (host organismId f before) in
/-- An engine in a tick, for the feedback state before it. -/
structure Followed (w : World) : Prop where
  sound : Sound host w.journal
  traced : Traced host organismId f w.journal.durable
  trail : Trail before.journal.durable w.journal.durable

theorem plain_row {place : Nat × String × String} (member : place ∈ places) (other : place.1 ≠ 10) {payload : Mapping}
    {causation : Option String} {time : TimeNs} (seq : Nat) :
    ((c.call host place payload causation time).row host seq).isFeedback = false ∧
      ((c.call host place payload causation time).row host seq).isProposal = false ∧
        ((c.call host place payload causation time).row host seq).isOutcome = false := by
  show (Text.strip place.2.2 == _) = false ∧ (Text.strip place.2.2 == _) = false ∧ (Text.strip place.2.2 == _) = false
  rw [(places_text member).2.2.1]
  have apart : ∀ a ∈ places, a.1 ≠ 10 → (a.2.2 == "EFFECT_FEEDBACK") = false ∧
      (a.2.2 == "BOUNDED_AUTONOMOUS_RECOVERY_PROPOSED") = false ∧ (a.2.2 == "BOUNDED_AUTONOMOUS_RECOVERY_OUTCOME") =
        false := by
    decide
  exact apart place member other

theorem unlinked_row (call : AppendCall) (seq : Nat) (receipt : Dict.get? "receipt" (Dict.ofPairs call.payload) = none ∨
    ∃ type inputs outputs, type ≠ "PHYSIOLOGY_EFFECT_FEEDBACK" ∧
      Dict.get? "receipt" (Dict.ofPairs call.payload) = some (evidenceReceipt host type inputs outputs).toJson) :
    Unlinked host (call.row host seq) := by
  have read : (call.row host seq).payload.get? "receipt" =
      (Dict.get? "receipt" (Dict.ofPairs call.payload)).map Json.norm := by
    rw [payload_row, Json.norm_dict, Json.get?_dict, ← Dict.ofPairs_map, Dict.get?_map]
  unfold Unlinked
  rw [read]
  rcases receipt with none | ⟨type, inputs, outputs, other, same⟩
  · exact .inl (by rw [none, Option.map_none])
  · exact .inr ⟨type, inputs, outputs, other, by rw [same, Option.map_some, EvidenceReceipt.norm_toJson]⟩

theorem Followed.recorded (followed : Followed host organismId f before w) (free : host.CollisionFree)
    {place : Nat × String × String} (member : place ∈ places) (other : place.1 ≠ 10) {payload : Mapping}
    (causation : Option String) (time : TimeNs) (receipt : Dict.get? "receipt" (Dict.ofPairs payload) = none ∨
      ∃ type inputs outputs, type ≠ "PHYSIOLOGY_EFFECT_FEEDBACK" ∧
        Dict.get? "receipt" (Dict.ofPairs payload) = some (evidenceReceipt host type inputs outputs).toJson) :
    Followed host organismId f before
    (w.wrote (append host w.journal (c.call host place payload causation time)).2) := by
  have range := created_range (recordCall (c.id host) place.2.1 place.2.2 payload causation) time
  obtain ⟨t, done, sound, grown⟩ := followed.sound.appended (c := c.call host place payload causation time) range
  rw [done]
  refine ⟨sound, ?_, ?_⟩
  all_goals rcases grown with rfl | ⟨-, rfl⟩
  · exact followed.traced
  · obtain ⟨quiet, proposal, outcome⟩ := @plain_row host c place member other payload causation time
      (w.journal.durable.sequence + 1)
    exact followed.traced.added free quiet (unlinked_row _ _ receipt)
      (fun proposes => nomatch proposal.symm.trans proposes)
      fun concludes => nomatch outcome.symm.trans concludes
  · exact followed.trail
  · obtain ⟨-, proposal, outcome⟩ := @plain_row host c place member other payload causation time
      (w.journal.durable.sequence + 1)
    exact followed.trail.added proposal outcome

theorem Followed.saved (followed : Followed host organismId f before w) :
    Followed host organismId f before (w.wrote (setState w.journal (stateKey w.organism) w.runtime.toJson).2) := by
  rw [setState_eq followed.sound.idle (stateKey_nonempty w.organism)]
  refine ⟨followed.sound.states _, followed.traced.insert (stateKey_ne_policyKey w.organism organismId)
    (stateKey_ne_attemptsKey w.organism organismId) _, followed.trail⟩

variable (host organismId f before) in
theorem follow_rules (free : host.CollisionFree) (policy : HomeostaticPolicy) (stimulus : Stimulus)
    (effector : Effector) :
    TickRules host policy stimulus effector (Followed host organismId f before)
    (fun _ _ _ => Followed host organismId f before)
      (Followed host organismId f before) where
  opened := fun followed => ⟨followed.sound, followed.traced, followed.trail⟩
  adopted := fun _ followed => ⟨followed.sound, followed.traced, followed.trail⟩
  organism := fun followed _ => ⟨followed.sound, followed.traced, followed.trail⟩
  decided := fun _ followed => ⟨followed.sound, followed.traced, followed.trail⟩
  executed := fun followed _ _ => ⟨followed.sound, followed.traced, followed.trail⟩
  recorded := by
    intro c _ _ w i label eventType payload causation time followed due member _
    have other : i ≠ 10 := by
      have below : ∀ a ∈ writes, a.1 ≠ 10 := by decide
      exact below _ member
    have later := followed.recorded (c := c) free (List.mem_append_left _ member) other causation time
      (due.receipted.imp_right fun ⟨inputs, outputs, same⟩ => ⟨_, inputs, outputs, by decide, same⟩)
    exact ⟨fun _ _ => later, fun _ _ => later⟩
  saved := fun followed _ _ _ => followed.saved
  crashed := fun followed _ => followed
  early := fun followed _ => followed
  answered := fun followed _ => followed

end

/-! ## A tick of the loop -/

section
variable {host : Host} {organismId : String} {f g : FeedbackState} {before w : World} {stimulus : Stimulus}
    {effector : Effector}
  {ran : Option Json} {c : Cycle} {receiptHash : String}

theorem feedback_place : ((10, ":effect-feedback", "EFFECT_FEEDBACK") : Nat × String × String) ∈ places := by
  simp [places]

/-- No event has the receipt of a cycle that has not fed back its effect. -/
theorem Counting.unseen (counting : Counting host c 9 w) (free : host.CollisionFree)
    (traced : Traced host organismId f w.journal.durable) (known : FeedbackHash host c receiptHash) :
    ∀ row ∈ w.journal.durable.events, receiptIs receiptHash (rowToEvent row) = false := by
  obtain ⟨r, -, ⟨-, early, -⟩ | ⟨-, numbered⟩⟩ := counting.stored
  · omega
  intro row member
  rcases traced.sourced row member with unlinked | links
  · exact unlinked.other free known
  · refine Bool.eq_false_iff.mpr fun is => ?_
    have before := numbered.early row member c _ feedback_place (links.named free known is)
    simp at before

variable (host organismId f g before stimulus effector ran c receiptHash) in
/-- An engine that has executed a proposal and not yet recorded the effect. -/
structure Feeding (w : World) : Prop where
  inCycle : InCycle host stimulus effector before ran c 9 w
  followed : Followed host organismId f before w
  changed : Traced host organismId g w.journal.durable

/-- What the loop has done in a tick. -/
structure Since (proposal : Option Mapping) (l v : Loop) : Prop where
  trail : Trail l.world.journal.durable v.world.journal.durable
  asked : ∀ p, .executed p ∈ v.world.moments.drop l.world.moments.length →
    ∃ given, proposal = some given ∧ p = jsonClone (.dict given)

theorem FeedbackState.after_digits {limit : Nat} {success : Bool}
    (named : ∀ origin, f.recoveryForCycleId = some origin → Hex.Digits origin) (c : Cycle) :
    ∀ origin, (f.after limit success (c.id host)).recoveryForCycleId = some origin → Hex.Digits origin := by
  intro origin same
  unfold FeedbackState.after at same
  split at same
  · cases same
  · split at same
    · obtain rfl := Option.some.inj same
      cases earlier : f.recoveryForCycleId with
      | none => exact c.digits host
      | some first => exact named first earlier
    · exact named origin same

theorem Feeding.stored (feeding : Feeding host organismId f g before stimulus effector ran c w) (value : Json) :
    Feeding host organismId f g before stimulus effector ran c
    (w.wrote (setState w.journal (feedbackKey w.organism) value).2) := by
  have next := feeding.inCycle.1.savedOther (feedbackKey_ne w.organism w.organism).symm value
  rw [setState_eq feeding.followed.sound.idle (feedbackKey_nonempty w.organism)] at next ⊢
  have apart := feedbackKey_ne_policyKey w.organism organismId
  have apart' := feedbackKey_ne_attemptsKey w.organism organismId
  exact ⟨⟨next, feeding.inCycle.2.wrote _⟩,
    ⟨feeding.followed.sound.states _, feeding.followed.traced.insert apart apart' _, feeding.followed.trail⟩,
    feeding.changed.insert apart apart' _⟩

theorem persist_feeding (secret : String) :
    Keeps (fun v : Loop => v.feedback = g ∧ Feeding host organismId f g before stimulus effector ran c v.world)
      (persistFeedback host secret) := by
  refine .get_bind fun v ⟨same, feeding⟩ => inner_ensures fun u again => durably_ensures
    (fun t last _ => ?_) fun t last _ => ?_
  · subst again last
    exact ⟨same, feeding⟩
  · subst again last
    exact ⟨fun _ _ => ⟨same, feeding.stored _⟩, fun _ _ => ⟨same, feeding.stored _⟩⟩

variable (host organismId before stimulus effector ran) in
/-- An engine whose tick is over, for the feedback state after it. -/
structure Fulfilled (g : FeedbackState) (w : World) : Prop where
  traced : Traced host organismId g w.journal.durable
  trail : Trail before.journal.durable w.journal.durable
  held : Ran before stimulus.proposal effector.executor ran w

variable (host organismId before stimulus effector ran f) in
/-- An engine in a tick, with what it has executed. -/
def Fulfilling (w : World) : Prop :=
  Followed host organismId f before w ∧ Ran before stimulus.proposal effector.executor ran w

theorem Followed.fulfilled (followed : Followed host organismId f before w)
    (held : Ran before stimulus.proposal effector.executor ran w) :
    Fulfilled host organismId before stimulus effector ran f w :=
  ⟨followed.traced, followed.trail, held⟩

theorem links_row {inputs : Mapping} {outputs : Json}
    (about : (Json.dict inputs).norm.get? "cycle_id" = some (.str (c.id host))) {payload : Mapping}
    (receipt : Dict.get? "receipt" (Dict.ofPairs payload) =
      some (evidenceReceipt host "PHYSIOLOGY_EFFECT_FEEDBACK" (.dict inputs) outputs).toJson) (causation :
      Option String)
    (time : TimeNs) (seq : Nat) :
    Links host ((c.call host (10, ":effect-feedback", "EFFECT_FEEDBACK") payload causation time).row host seq) := by
  have type : (Text.strip "EFFECT_FEEDBACK" == "EFFECT_FEEDBACK") = true := by decide
  refine ⟨type, c, inputs, outputs, Cycle.id_call host c feedback_place payload causation time, ?_, about⟩
  rw [payload_row, Json.norm_dict, Json.get?_dict, ← Dict.ofPairs_map, Dict.get?_map]
  show (Dict.get? "receipt" (Dict.ofPairs payload)).map Json.norm = _
  rw [receipt, Option.map_some, EvidenceReceipt.norm_toJson]

theorem record_feeding (free : host.CollisionFree) (clock : String → TimeNs) {inputs : Mapping} {outputs : Json}
    (about : (Json.dict inputs).norm.get? "cycle_id" = some (.str (c.id host)))
    (last : g.lastFeedbackReceiptHash =
      some (evidenceReceipt host "PHYSIOLOGY_EFFECT_FEEDBACK" (.dict inputs) outputs).receiptHash) {payload : Mapping}
    (receipt : Dict.get? "receipt" (Dict.ofPairs payload) =
      some (evidenceReceipt host "PHYSIOLOGY_EFFECT_FEEDBACK" (.dict inputs) outputs).toJson) (causation :
      Option String) :
    Ensures (fun v : Loop => v.feedback = g ∧ Feeding host organismId f g before stimulus effector ran c v.world)
      (inner (record host clock (c.id host) ":effect-feedback" "EFFECT_FEEDBACK" payload causation))
      (fun _ v => v.feedback = g ∧ Fulfilled host organismId before stimulus effector ran g v.world)
      fun v => v.feedback = g ∧ Feeding host organismId f g before stimulus effector ran c v.world := by
  refine inner_ensures fun v held => .bind (q := fun _ w => v.feedback = g ∧
      Fulfilled host organismId before stimulus effector ran g w)
    (durably_ensures (fun w again _ => ?_) fun w again _ => ?_) fun _ => .pure fun _ => id
  all_goals obtain ⟨same, feeding⟩ := held
  · subst again
    exact ⟨same, feeding⟩
  subst again
  obtain ⟨event, t, done, grown, -⟩ := feeding.inCycle.1.append free feedback_place payload causation (Nat.le_succ 9)
    (fun _ => by decide)
    (fun zero => by cases zero) (clock ":effect-feedback")
  have unseen := feeding.inCycle.1.unseen free feeding.followed.traced ⟨inputs, outputs, rfl, about⟩
  have links := links_row about receipt causation (clock ":effect-feedback") (v.world.journal.durable.sequence + 1)
  obtain rfl := grown.resolve_right fun zero => by cases zero.1
  have grows := feeding.changed.fedBack links last unseen
  have type := links.1
  simp only [EventRow.isFeedback, beq_iff_eq] at type
  have trail := @Trail.added host _ _ feeding.followed.trail
    (c.call host (10, ":effect-feedback", "EFFECT_FEEDBACK") payload causation (clock ":effect-feedback"))
    (by rw [EventRow.isProposal, type]; decide) (by rw [EventRow.isOutcome, type]; decide)
  unfold Cycle.call recordCall AppendCall.timed at done grows trail
  rw [done]
  exact ⟨fun _ _ => ⟨same, grows, trail, feeding.inCycle.2.wrote _⟩, fun _ failed => by cases failed⟩

/-- An effect is linked to its event, or its event is not there. -/
theorem recordEffectFeedback_traced (free : host.CollisionFree) (policy : HomeostaticPolicy) {upper : String → String}
    (feedbackPolicy : EffectFeedbackPolicy upper) (secret : String) (input : LoopInput) {cycle : CycleResult}
    (named : cycle.cycleId = c.id host) (attempt : Bool) (outcome : Option ExecutorOutcome) {l : Loop}
    (inCycle : InCycle host stimulus effector before ran c 9 l.world)
    (followed : Followed host organismId l.feedback before l.world) :
    Ensures (· = l) (recordEffectFeedback host policy feedbackPolicy secret input cycle attempt outcome)
      (fun _ v => Fulfilled host organismId before stimulus effector ran v.feedback v.world)
      fun v => Fulfilled host organismId before stimulus effector ran v.feedback v.world ∧
        Fulfilled host organismId before stimulus effector ran l.feedback v.world := by
  have failed {g : FeedbackState} {v : Loop}
      (stopped : v.feedback = g ∧ Feeding host organismId l.feedback g before stimulus effector ran c v.world) :
      Fulfilled host organismId before stimulus effector ran v.feedback v.world ∧
        Fulfilled host organismId before stimulus effector ran l.feedback v.world := by
    obtain ⟨rfl, feeding⟩ := stopped
    have settled := feeding.followed.fulfilled feeding.inCycle.2
    exact ⟨⟨feeding.changed, settled.trail, settled.held⟩, settled⟩
  unfold recordEffectFeedback
  rw [named]
  refine .get_bind fun v same => .modify_bind fun t again => ?_
  subst same again
  have about : (Json.dict (feedbackInputs host cycle attempt outcome (measure policy input.after))).norm.get?
      "cycle_id" =
      some (.str (c.id host)) := by simp [feedbackInputs, named]
  have origins := @FeedbackState.after_digits host _ feedbackPolicy.failuresBeforeRecoveryGate
    (effectSuccess feedbackPolicy (effectStatus host outcome) (measure policy input.after)) followed.traced.origin c
  have unseen (outputs : Json) := inCycle.1.unseen free followed.traced
    ⟨feedbackInputs host cycle attempt outcome (measure policy input.after), outputs, rfl, about⟩
  intro u last
  have current := congrArg (fun v => v.feedback.lastFeedbackReceiptHash) last
  have changed := congrArg (fun v => v.feedback.recoveryForCycleId) last
  have world := congrArg Loop.world last
  dsimp only at current changed world
  have feeding : u.feedback = u.feedback ∧
      Feeding host organismId t.feedback u.feedback before stimulus effector ran c u.world := by
    rw [world]
    exact ⟨rfl, inCycle, followed, followed.traced.unsent (by rw [changed]; exact origins) current ⟨_, _, rfl, about⟩
      (unseen _)⟩
  refine Ensures.bind ((persist_feeding secret).mono (fun _ => id) (fun _ _ => id) fun _ => failed) (fun _ =>
    .bind ((record_feeding free input.effector.clock about current (by simp) _).mono (fun _ => id) (fun _ _ => id)
      fun _ => failed) fun _ => .pure ?_) u feeding
  rintro r ⟨same, fulfilled⟩
  rw [same]
  exact fulfilled

theorem record_followed (free : host.CollisionFree) {place : Nat × String × String} (member : place ∈ places)
    (other : place.1 ≠ 10) (clock : String → TimeNs) {payload : Mapping} (causation : Option String)
    (receipt : Dict.get? "receipt" (Dict.ofPairs payload) = none ∨ ∃ type inputs outputs,
      type ≠ "PHYSIOLOGY_EFFECT_FEEDBACK" ∧
      Dict.get? "receipt" (Dict.ofPairs payload) = some (evidenceReceipt host type inputs outputs).toJson) :
    Keeps (Fulfilling host organismId f before stimulus effector ran)
      (record host clock (c.id host) place.2.1 place.2.2 payload causation) := by
  refine .bind (q := fun _ => Fulfilling host organismId f before stimulus effector ran)
    (durably_ensures (fun w held _ => held) fun w held _ => ?_) fun _ => .pure fun _ => id
  have later := held.1.recorded (c := c) free member other causation (clock place.2.1) receipt
  exact ⟨fun _ _ => ⟨later, held.2.wrote _⟩, fun _ _ => ⟨later, held.2.wrote _⟩⟩

theorem recordGateHold_followed (free : host.CollisionFree) (clock : String → TimeNs) {cycle : CycleResult}
    (named : cycle.cycleId = c.id host) (reason : String) :
    Keeps (fun v : Loop => v.feedback = f ∧ Fulfilling host organismId f before stimulus effector ran v.world)
      (recordGateHold host clock g cycle reason) := by
  have member : ((9, ":effect-recovery-gate", "EFFECT_RECOVERY_GATE") : Nat × String × String) ∈ places := by
    simp [places]
  unfold recordGateHold
  rw [named]
  refine .bind (q := fun _ v => v.feedback = f ∧ Fulfilling host organismId f before stimulus effector ran v.world)
    (inner_ensures fun v held => (record_followed free member (by decide) clock _
      (.inr ⟨_, _, _, ?_, by simp; rfl⟩)).mono
      (fun w again => again ▸ held.2) (fun _ _ later => ⟨held.1, later⟩) fun _ later => ⟨held.1, later⟩) fun _ =>
      .pure fun _ => id
  decide

theorem Fulfilled.since {proposal : Option Mapping} {l v : Loop}
    (fulfilled : Fulfilled host organismId l.world stimulus effector ran g v.world) (given : stimulus.proposal = none ∨
      stimulus.proposal = (proposal.map fun proposal => jsonClone (.dict proposal)).map Json.entries) :
      Since proposal l v := by
  refine ⟨fulfilled.trail, fun p member => ?_⟩
  obtain ⟨-, entries, same, rfl⟩ := fulfilled.held.asked p ((fulfilled.held.mem_drop p).mp member)
  rcases given with none | given
  · cases none.symm.trans same
  · rw [given] at same
    cases proposal with
    | none => cases same
    | some proposal =>
      obtain rfl := Option.some.inj same
      exact ⟨proposal, rfl, clone_entries proposal⟩

/-- A tick of the loop keeps the trace, for the feedback state that it comes to. -/
theorem loopTick_traced (free : host.CollisionFree) (policy : HomeostaticPolicy) {upper : String → String}
    (feedbackPolicy : EffectFeedbackPolicy upper) (secret : String) {l : Loop} (counted : Counted host l.world)
    (traced : Traced host organismId l.feedback l.world.journal.durable) (input : LoopInput) :
    Ensures (· = l) (loopTick host policy feedbackPolicy secret input)
      (fun _ v => Traced host organismId v.feedback v.world.journal.durable ∧ Since input.stimulus.proposal l v)
      fun v => (Traced host organismId v.feedback v.world.journal.durable ∧
        Traced host organismId l.feedback v.world.journal.durable) ∧ Since input.stimulus.proposal l v := by
  refine .get_bind fun v same => ?_
  subst same
  have ticked {stimulus : Stimulus} (given : stimulus.proposal = none ∨ stimulus.proposal =
      (input.stimulus.proposal.map fun proposal => jsonClone (.dict proposal)).map Json.entries) :
      Ensures (· = v) (inner (tick host policy stimulus input.effector.wrapped))
        (fun r u => ∃ c ran, r.cycleId = c.id host ∧ u.feedback = v.feedback ∧
          InCycle host stimulus input.effector.wrapped v.world ran c 9 u.world ∧
            Followed host organismId v.feedback v.world u.world)
        fun u => (Traced host organismId u.feedback u.world.journal.durable ∧
          Traced host organismId v.feedback u.world.journal.durable) ∧ Since input.stimulus.proposal v u := by
    refine inner_ensures fun u again => ?_
    subst again
    refine ((count_rules host free policy stimulus input.effector.wrapped u.world).and
      (follow_rules host organismId u.feedback u.world free policy stimulus input.effector.wrapped)).tick.mono
        (fun w same => ?_) (fun r w done => ?_) fun w ⟨⟨_, ran, held, _⟩, followed⟩ => ?_
    · subst same
      exact ⟨⟨counted, rfl⟩, counted.sound, traced, .refl _⟩
    · obtain ⟨c, ran, named, -, -, -, inCycle, followed⟩ := done
      exact ⟨c, ran, named, rfl, inCycle, followed⟩
    · exact ⟨⟨followed.traced, followed.traced⟩, (followed.fulfilled held).since (v := { u with world := w }) given⟩
  dsimp only
  split
  · refine .bind (ticked (.inl rfl)) fun cycle => ?_
    rintro u ⟨c, ran, named, same, inCycle, followed⟩
    have settled (t : Loop) (held : t.feedback = v.feedback ∧
        Fulfilling host organismId v.feedback v.world { input.stimulus with proposal := none } input.effector.wrapped
        ran t.world) :
        Traced host organismId t.feedback t.world.journal.durable ∧ Since input.stimulus.proposal v t :=
      ⟨held.1 ▸ held.2.1.traced, (held.2.1.fulfilled held.2.2).since (.inl rfl)⟩
    refine Ensures.bind ((recordGateHold_followed free input.effector.clock named _).mono (fun _ => id)
      (fun _ t => settled t)
      fun t held => ⟨⟨(settled t held).1, held.2.1.traced⟩, (settled t held).2⟩) (fun _ => .pure fun _ => id) u
        ⟨same, followed, inCycle.2⟩
  · refine .bind (ticked (.inr rfl)) fun cycle => ?_
    rintro u ⟨c, ran, named, same, inCycle, followed⟩
    refine Ensures.ite (fun pass => ?_) (fun other => ?_) u rfl
    · refine .get_bind fun t again => ?_
      subst again
      refine .bind ((recordEffectFeedback_traced free policy feedbackPolicy secret input named _ _ inCycle
        (same ▸ followed)).mono (fun _ => id) (fun _ _ => id) fun s stopped => ?_) fun answer =>
        .get_bind fun s fulfilled =>
          .pure fun r last => ?_
      · exact ⟨⟨stopped.1.traced, same ▸ stopped.2.traced⟩, stopped.1.since (.inr rfl)⟩
      · subst last
        exact ⟨fulfilled.traced, fulfilled.since (.inr rfl)⟩
    · refine .pure fun t again => ?_
      subst again
      exact ⟨same ▸ followed.traced, (followed.fulfilled inCycle.2).since (.inr rfl)⟩

end

end MatVerse.Physiology
