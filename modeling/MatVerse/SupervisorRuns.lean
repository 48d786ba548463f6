import MatVerse.TracedTick
import MatVerse.EffectRecorded

/-! What a supervisor does, over any run of steps, crashes and restarts: every recovery that
is executed was proposed under its own number, the bound policy and the last feedback. -/
namespace MatVerse.Physiology

open Fallible

-- what a program ensures is derived by rules, never by running it
attribute [local irreducible] Ensures

/-! ## Ids -/

section
variable {host : Host} {origin origin' digest digest' : String} {number number' : Int}

/-- The id of an attempt names its origin and its number. -/
theorem recoveryEventId_injective (hex : Hex.Digits origin) (hex' : Hex.Digits origin')
    (same : recoveryEventId host origin number digest = recoveryEventId host origin' number' digest') :
    origin = origin' ∧ number = number' := by
  obtain ⟨rfl, marks⟩ := hex.append_inj hex' (recoveryEventId_mark host number digest)
    (recoveryEventId_mark host number' digest') ⟨rfl, rfl⟩ same
  have texts := congrArg String.toList marks
  simp only [String.toList_append, pyStr, String.toList_ofList, List.append_cancel_left_eq] at texts
  have stops (digest : String) : NumberText.Stops (":".toList ++ digest.toList) := by
    rintro c head
    obtain rfl : ':' = c := Option.some.inj head
    decide
  have scanned := NumberText.scan_text (NumberText.intLiteral_wellFormed number) (stops digest)
  rw [texts, NumberText.scan_text (NumberText.intLiteral_wellFormed number') (stops digest')] at scanned
  have literals := congrArg Prod.fst (Option.some.inj scanned)
  have values := congrArg NumberText.Literal.toInt literals
  simp at values
  exact ⟨rfl, values.symm⟩

theorem recoveryEventId_ne (hex : Hex.Digits origin) (more : String) (d : Cycle) {place : Nat × String × String}
    (member : place ∈ places) : recoveryEventId host origin number digest ++ more ≠ d.id host ++ place.2.1 := by
  intro same
  rw [recoveryEventId, String.append_assoc] at same
  have starts : (":autonomous-recovery:" ++ (pyStr host (.int number) ++ (":" ++ digest)) ++ more).toList.head? =
      some ':' := by
    simp [String.toList_append]
  have marks := (hex.append_inj (d.digits host) starts (places_text member).1 ⟨rfl, rfl⟩ same).2
  have second := congrArg (fun s => s.toList[1]?) marks
  have others : ∀ a ∈ places, a.2.1.toList[1]? ≠ some 'a' := by decide
  refine others place member (second.symm.trans ?_)
  simp [String.toList_append]

end

/-! ## Writes of the supervisor -/

section
variable {host : Host} {secret organismId : String} {f : FeedbackState} {w : World} {call : AppendCall}

/-- The call records nothing of a cycle. -/
def Foreign (host : Host) (call : AppendCall) : Prop := ∀ d : Cycle, ∀ place ∈ places, call.id ≠ d.id host ++ place.2.1

theorem Numbered.foreign {s k : Nat} {t : Tables} (numbered : Numbered host s k t) (foreign : Foreign host call) :
    Numbered host s k (t.added host call) := by
  constructor
  · intro row listed d place member same
    rcases List.mem_append.mp listed with earlier | last
    · exact numbered.early row earlier d place member same
    · obtain rfl := List.mem_singleton.mp last
      exact absurd same (foreign d place member)
  · intro row listed d same
    rcases List.mem_append.mp listed with earlier | last
    · exact numbered.opened row earlier d same
    · obtain rfl := List.mem_singleton.mp last
      exact absurd same (foreign d _ tick_place)

variable (host secret organismId f) in
/-- An engine that holds its feedback state, with its cycles counted and the trace of its supervisor. -/
structure Sure (w : World) : Prop where
  kept : Kept host secret organismId f w
  counted : Counted host w
  traced : Traced host organismId f w.journal.durable

/-- An append of the supervisor adds its row or nothing. -/
theorem Sure.appended (sure : Sure host secret organismId f w) (range : call.created < 2 ^ 63)
    (foreign : Foreign host call) : ∃ t, (append host w.journal call).2 = ⟨t, none⟩ ∧ (t = w.journal.durable ∨
      New w.journal call ∧ t = w.journal.durable.added host call) ∧
        (Traced host organismId f t → Sure host secret organismId f (w.wrote ⟨t, none⟩)) := by
  obtain ⟨t, done, sound, grown⟩ := sure.counted.sound.appended (c := call) range
  refine ⟨t, done, grown, fun traced => ⟨?_, ⟨sound, ?_⟩, traced⟩⟩
  · have states : t.runtimeState = w.journal.durable.runtimeState := by rcases grown with rfl | ⟨-, rfl⟩ <;> rfl
    exact sure.kept.journal rfl states
  · obtain ⟨r, started, below, numbered⟩ := sure.counted.stored
    have states : t.runtimeState = w.journal.durable.runtimeState := by rcases grown with rfl | ⟨-, rfl⟩ <;> rfl
    refine ⟨r, (start_congr (j := ⟨t, none⟩) rfl sure.kept.idle states rfl).trans started, below, ?_⟩
    rcases grown with rfl | ⟨-, rfl⟩
    · exact numbered
    · exact numbered.foreign foreign

theorem Sure.inserted (sure : Sure host secret organismId f w) {key : String} (label : validateLabel key "key" = .ok ())
    (apart : ∀ o : GovernedOrganism, Text.strip (stateKey o) ≠ Text.strip key)
    (apart' : ∀ o : GovernedOrganism, Text.strip (feedbackKey o) ≠ Text.strip key) (value : Json)
    (traced : Traced host organismId f { w.journal.durable with
      runtimeState := Dict.insert (Text.strip key) (canonicalJson value) w.journal.durable.runtimeState }) :
    Sure host secret organismId f (w.wrote (setState w.journal key value).2) := by
  have started := start_setState_other sure.kept.idle w.organism (apart w.organism) value
    (by rw [setState_eq sure.kept.idle label])
  have held := get?_setState sure.kept.idle (apart' w.organism) value
  rw [setState_eq sure.kept.idle label] at started held ⊢
  obtain ⟨r, before, below, numbered⟩ := sure.counted.stored
  exact ⟨⟨rfl, sure.kept.named, ⟨r, started.trans before⟩, sure.kept.holds.congr rfl held⟩,
    ⟨sure.counted.sound.states _, r, started.trans before, below, numbered.states _⟩, traced⟩

theorem label_marked {a : String} (marked : Text.Marked a) (s : String) : validateLabel (a ++ s) "key" = .ok () := by
  refine validateLabel_ok.mpr fun empty => ?_
  have kept := marked.prefix_strip s
  rw [empty] at kept
  obtain ⟨⟨c, head, -⟩, -⟩ := marked
  rw [List.prefix_nil.mp kept] at head
  cases head

theorem policyKey_label (organismId : String) : validateLabel (policyKey organismId) "key" = .ok () :=
  label_marked marked_policyKey organismId

theorem attemptsKey_label (organismId : String) : validateLabel (attemptsKey organismId) "key" = .ok () :=
  label_marked marked_attemptsKey organismId

theorem Sure.bound (sure : Sure host secret organismId f w)
    (unbound : Dict.get? (Text.strip (policyKey organismId)) w.journal.durable.runtimeState = none)
    (fingerprint : String) :
    Sure host secret organismId f (w.wrote (setState w.journal (policyKey organismId) (binding fingerprint)).2) :=
  sure.inserted (policyKey_label organismId) (fun o => (stateKey_ne_policyKey o organismId).symm)
    (fun o => (feedbackKey_ne_policyKey o organismId).symm) _ (sure.traced.bound unbound fingerprint)

end

/-! ## Programs of the supervisor -/

section
variable {host : Host} {secret organismId : String} {l : Loop} {recovery : BoundedRecoveryPolicy}

/-- The loop after a program that writes no event. -/
structure Undisturbed (l v : Loop) : Prop where
  feedback : v.feedback = l.feedback
  moments : v.world.moments = l.world.moments
  events : v.world.journal.durable.events = l.world.journal.durable.events
  alive : l.world.fuse = none → v.world.fuse = none

theorem Undisturbed.refl (l : Loop) : Undisturbed l l := ⟨rfl, rfl, rfl, id⟩

theorem Undisturbed.trans {u v : Loop} (first : Undisturbed l u) (second : Undisturbed u v) : Undisturbed l v :=
  ⟨second.feedback.trans first.feedback, second.moments.trans first.moments, second.events.trans first.events,
    fun alive => second.alive (first.alive alive)⟩

variable (recovery) in
/-- The policy is bound in a journal. -/
def IsBound (host : Host) (organismId : String) (t : Tables) : Prop :=
  Dict.get? (Text.strip (policyKey organismId)) t.runtimeState = some
    (canonicalJson (binding (recovery.fingerprint host)))

theorem getState_eq {j : Journal} (idle : j.working = none) {key : String} (label : validateLabel key "key" = .ok ()) :
    getState j key = .ok ((Dict.get? (Text.strip key) j.durable.runtimeState).map fun text =>
      (JsonText.loads text).getD .null) := by
  simp [getState, label, Connection.view, idle, bind, Except.bind, pure, Except.pure]

theorem consult_ensures {α : Type} {a : α} {answer : Except JournalError α} (same : answer = .ok a)
    {fails : Loop → Prop} : Ensures (· = l) (consult answer) (fun b v => b = a ∧ v = l) fails := by
  subst same
  exact .pure fun _ same => ⟨rfl, same⟩

/-- A state is stored, unless the process ends first. -/
theorem store_ensures {fails : Loop → Prop} (key : String) (value : Json) (crashed : l.world.fuse = some 0 → fails l)
    (idle : l.world.journal.working = none) (label : validateLabel key "key" = .ok ()) :
    Ensures (· = l) (inner (durably fun j => setState j key value))
      (fun _ v => v = { l with world := l.world.wrote (setState l.world.journal key value).2 }) fails := by
  refine inner_ensures fun u again => durably_ensures (fun w same burnt => ?_) fun w same burning => ?_
  · subst again same
    exact crashed burnt
  · subst again same
    refine ⟨fun _ _ => rfl, fun e failed => ?_⟩
    rw [setState_eq idle label] at failed
    cases failed

variable (recovery) in
/-- The policy is bound from then on, and it is this one. -/
theorem bindOrValidatePolicy_ensures (sure : Sure host secret organismId l.feedback l.world) :
    Ensures (· = l) (bindOrValidatePolicy host recovery)
      (fun _ v => Undisturbed l v ∧ Sure host secret organismId l.feedback v.world ∧
        IsBound recovery host organismId v.world.journal.durable) (· = l) := by
  refine .get_bind fun v same => ?_
  subst same
  have named := sure.kept.named
  have read := getState_eq sure.kept.idle (policyKey_label organismId)
  rw [named]
  refine .bind (consult_ensures read) fun stored => .given fun same => ?_
  subst same
  rcases sure.traced.policy with unbound | ⟨fingerprint, bound⟩
  · rw [unbound, Option.map_none]
    refine Ensures.guard (fun _ same => same) fun _ => (store_ensures _ _ (fun _ => rfl) sure.kept.idle
      (policyKey_label organismId)).mono
      (fun _ => id) (fun _ u same => ?_) fun _ => Eq.symm
    subst same
    have later := sure.bound unbound (recovery.fingerprint host)
    have saved := setState_eq sure.kept.idle (policyKey_label organismId) (binding (recovery.fingerprint host))
    rw [saved] at later ⊢
    exact ⟨⟨rfl, rfl, rfl, fun alive => by simp [World.wrote, alive]⟩, later, Dict.get?_insert_self _ _ _⟩
  · rw [bound, Option.map_some, loads_canonicalJson, Option.getD_some]
    obtain ⟨entries, shaped⟩ : ∃ entries, (binding fingerprint).norm = .obj entries :=
      ⟨_, by rw [binding, Json.norm_dict]; rfl⟩
    have under : (binding fingerprint).norm.get? "policy_fingerprint" = some (.str fingerprint) := by simp [binding]
    rw [shaped] at under ⊢
    refine Ensures.guard (fun _ same => same) fun _ => .guard (fun _ same => same) fun _ => .last_guard
      (fun _ same => same)
      fun other => .pure fun u same => ?_
    subst same
    refine ⟨.refl _, sure, ?_⟩
    rw [under] at other
    have equal : fingerprint = recovery.fingerprint host := by simpa [isStr] using other
    rw [IsBound, bound, equal]

variable (recovery) in
/-- A policy that is not bound, or bound as it is, is taken up. -/
theorem bindOrValidatePolicy_returns (sure : Sure host secret organismId l.feedback l.world)
    (alive : l.world.fuse = none) (calm : l.feedback.recoveryRequired = false)
    (own : Dict.get? (Text.strip (policyKey organismId)) l.world.journal.durable.runtimeState = none ∨
      IsBound recovery host organismId l.world.journal.durable) :
    Ensures (· = l) (bindOrValidatePolicy host recovery)
      (fun _ v => v.world.organism = l.world.organism ∧ v.world.runtime = l.world.runtime ∧
        start v.world.journal l.world.organism = start l.world.journal l.world.organism) fun _ => False := by
  refine .get_bind fun v same => ?_
  subst same
  have read := getState_eq sure.kept.idle (policyKey_label organismId)
  rw [sure.kept.named]
  refine .bind (consult_ensures read) fun stored => .given fun same => ?_
  subst same
  rcases own with unbound | bound
  · rw [unbound, Option.map_none]
    dsimp only
    rw [calm]
    simp only [Bool.false_eq_true, if_false]
    have burning : v.world.fuse = some 0 → False := by simp [alive]
    refine (@store_ensures v (fun _ => False) (policyKey organismId) (binding (recovery.fingerprint host)) burning
      sure.kept.idle (policyKey_label organismId)).mono (fun _ => id) (fun _ u same => ?_) fun _ => id
    have saved := setState_eq sure.kept.idle (policyKey_label organismId) (binding (recovery.fingerprint host))
    have started :=
      start_setState_other sure.kept.idle v.world.organism (stateKey_ne_policyKey v.world.organism organismId).symm
      (binding (recovery.fingerprint host)) (by rw [saved])
    generalize (setState v.world.journal (policyKey organismId) (binding (recovery.fingerprint host))).2 =
      j at same started
    subst same
    exact ⟨rfl, rfl, started⟩
  · rw [bound, Option.map_some, loads_canonicalJson, Option.getD_some]
    obtain ⟨entries, shaped⟩ : ∃ entries, (binding (recovery.fingerprint host)).norm = .obj entries :=
      ⟨_, by rw [binding, Json.norm_dict]; rfl⟩
    have schema : isStr ((binding (recovery.fingerprint host)).norm.get? "schema") supervisorSchema = true := by
      simp [binding, isStr]
    have under : isStr ((binding (recovery.fingerprint host)).norm.get? "policy_fingerprint")
        (recovery.fingerprint host) = true := by
      simp [binding, isStr]
    rw [shaped] at schema under ⊢
    dsimp only
    rw [schema, under]
    simp only [Json.isObj, Bool.not_true, Bool.false_eq_true, if_false]
    exact .pure fun v same => by
      subst same
      exact ⟨rfl, rfl, rfl⟩

theorem lifted_ensures {α : Type} (answer : Except EngineError α) :
    Ensures (· = l) (inner (lifted answer)) (fun a v => answer = .ok a ∧ v = l) (· = l) := by
  refine inner_ensures fun v same => ?_
  subst same
  cases answer with
  | ok a => exact .pure fun w same => ⟨rfl, by rw [same]⟩
  | error e => exact .throw fun w same => by rw [same]

/-- The proposals for an origin have smaller numbers. -/
def Fresh (events : List EventRow) (origin : String) (number : Int) : Prop :=
  ∀ row ∈ events.filter EventRow.isProposal, row.input "recovery_origin_cycle_id" = some (.str origin) →
    ∃ m : Int, row.input "attempt_number" = some (.int m) ∧ m < number

variable (recovery) in
/-- The next number for an origin is stored before it is used. -/
theorem nextAttemptNumber_ensures (sure : Sure host secret organismId l.feedback l.world)
    (bound : IsBound recovery host organismId l.world.journal.durable) (origin : String) :
    Ensures (· = l) (nextAttemptNumber origin)
      (fun number v => Undisturbed l v ∧ Sure host secret organismId l.feedback v.world ∧
        IsBound recovery host organismId v.world.journal.durable ∧
          pyInt ((storedAttempts organismId v.world.journal.durable).get? origin) = .ok number ∧
            Fresh l.world.journal.durable.events origin number) (· = l) := by
  refine .get_bind fun v same => ?_
  subst same
  have read := getState_eq sure.kept.idle (attemptsKey_label organismId)
  rw [sure.kept.named]
  refine .bind (consult_ensures read) fun answer => .given fun same => ?_
  subst same
  change Ensures _ (let state := storedAttempts organismId v.world.journal.durable; _) _ _
  refine Ensures.guard (fun _ same => same) fun _ => .bind (lifted_ensures _) fun current => .given fun counted =>
    .guard (fun _ same => same) fun _ => .bind (q := fun _ u => u = _)
      ((store_ensures _ _ (fun _ => rfl) sure.kept.idle (attemptsKey_label organismId)).raises fun _ => Eq.symm)
      fun _ => .pure fun u same => ?_
  subst same
  obtain ⟨traced, next⟩ := sure.traced.numbered counted
  have later := sure.inserted (attemptsKey_label organismId) (fun o => (stateKey_ne_attemptsKey o organismId).symm)
    (fun o => (feedbackKey_ne_attemptsKey o organismId).symm) _ traced
  rw [setState_eq sure.kept.idle (attemptsKey_label organismId)] at later ⊢
  refine ⟨⟨rfl, rfl, rfl, fun alive => by simp [World.wrote, alive]⟩, later,
    (Dict.get?_insert_of_ne (policyKey_ne organismId organismId) _ _).trans bound, next, fun row member named => ?_⟩
  obtain ⟨listed, proposal⟩ := List.mem_filter.mp member
  obtain ⟨origin', _, _, number, stored, -, -, named', numbered, -, before, enough, -⟩ :=
    sure.traced.covered row listed proposal
  obtain rfl : origin' = origin := by
    have same := named'.symm.trans named
    simpa using same
  obtain rfl := Except.ok.inj (before.symm.trans counted)
  exact ⟨number, numbered, by omega⟩

theorem feedbackEventIdForReceipt_ensures (traced : Traced host organismId l.feedback l.world.journal.durable)
    (idle : l.world.journal.working = none) :
    Ensures (· = l) (feedbackEventIdForReceipt l.feedback.lastFeedbackReceiptHash)
      (fun source v => v = l ∧ ∃ row, lastFeedback l.world.journal.durable.events = some row ∧ source = row.eventId)
      (· = l) := by
  refine .get_bind fun v same => ?_
  subst same
  cases last : v.feedback.lastFeedbackReceiptHash with
  | none => exact .throw fun _ same => same
  | some receiptHash =>
    have view : v.world.journal.view = v.world.journal.durable := by rw [Connection.view, idle, Option.getD_none]
    rw [view]
    refine .bind (consult_ensures (by rw [readEvents, if_neg (by decide), if_neg (by decide)])) fun events =>
      .given fun same => ?_
    subst same
    split
    next event found =>
      refine .pure fun u same => ⟨same, ?_⟩
      obtain ⟨row, member, rfl⟩ := List.mem_map.mp (List.mem_reverse.mp (List.mem_of_find?_eq_some found))
      have is : receiptIs receiptHash (rowToEvent row) = true := List.find?_some found
      exact ⟨row, traced.linked receiptHash last row (mem_rowsAfter.mp (List.mem_of_mem_take member)).1 is, rfl⟩
    next => exact .throw fun _ same => same

theorem Sound.append_cases {j : Journal} {call : AppendCall} (sound : Sound host j) (free : host.CollisionFree)
    (accepted : Accepted call) (range : call.created < 2 ^ 63) :
    New j call ∧ append host j call = (.ok (rowToEvent (call.row host (j.durable.sequence + 1))),
      ⟨j.durable.added host call, none⟩) ∨ ∃ row ∈ j.durable.events, row.eventId = call.id ∧ append host j call =
        (if differs row call then .error (.valueError "event_id collision with different event content")
          else .ok (rowToEvent row), ⟨j.durable, none⟩) := by
  by_cases new : New j call
  · exact .inl ⟨new, sound.append_new free accepted range new⟩
  · simp only [New, not_forall, not_not] at new
    obtain ⟨row, listed, named⟩ := new
    exact .inr ⟨row, listed, named, sound.append_known accepted range listed named⟩

section
variable {a : RecoveryAttempt} {time : TimeNs}

theorem RecoveryAttempt.foreign_call (hex : Hex.Digits a.origin) : Foreign host (a.call host time) := by
  intro d place member same
  rw [RecoveryAttempt.id_call hex] at same
  exact recoveryEventId_ne hex "" d member (by rw [String.append_empty]; exact same)

theorem recoveryEventId_nonempty (host : Host) (origin : String) (number : Int) (digest more : String) :
    recoveryEventId host origin number digest ++ more ≠ "" := by
  intro empty
  have lists := congrArg String.toList empty
  simp [recoveryEventId, String.toList_append] at lists

theorem RecoveryAttempt.accepted_call (hex : Hex.Digits a.origin) : Accepted (a.call host time) where
  eventId := by
    show AppendCall.id _ ≠ ""
    rw [RecoveryAttempt.id_call hex]
    have nonempty := recoveryEventId_nonempty host a.origin a.number (String.ofList ((a.id host).toList.take 16)) ""
    rwa [String.append_empty] at nonempty
  topic := by
    show Text.strip "physiology" ≠ ""
    decide
  eventType := by
    show Text.strip "BOUNDED_AUTONOMOUS_RECOVERY_PROPOSED" ≠ ""
    decide
  created := time.2.1

end

section
variable (host : Host) (a : RecoveryAttempt) (time : TimeNs) (seq : Nat)

theorem RecoveryAttempt.row_type :
    ((a.call host time).row host seq).eventType = "BOUNDED_AUTONOMOUS_RECOVERY_PROPOSED" := by
  show Text.strip "BOUNDED_AUTONOMOUS_RECOVERY_PROPOSED" = _
  decide

theorem RecoveryAttempt.row_isProposal : ((a.call host time).row host seq).isProposal = true := by
  rw [EventRow.isProposal, a.row_type]
  decide

theorem RecoveryAttempt.row_input :
    ((a.call host time).row host seq).input "recovery_origin_cycle_id" = some (.str a.origin) ∧
    ((a.call host time).row host seq).input "attempt_number" = some (.int a.number) ∧
      ((a.call host time).row host seq).input "policy_fingerprint" = some (.str a.policyFingerprint) := by
  simp only [EventRow.input, payload_row, RecoveryAttempt.call, RecoveryAttempt.payload]
  refine ⟨?_, ?_, ?_⟩ <;> simp [RecoveryAttempt.inputs]

theorem RecoveryAttempt.row_proposal :
    ((a.call host time).row host seq).proposal = some (Json.dict a.proposal).norm := by
  simp only [EventRow.proposal, payload_row, RecoveryAttempt.call, RecoveryAttempt.payload]
  simp [RecoveryAttempt.outputs]

theorem RecoveryAttempt.row_unlinked : Unlinked host ((a.call host time).row host seq) :=
  unlinked_row _ _ (.inr ⟨"BOUNDED_AUTONOMOUS_RECOVERY_PROPOSAL", _, _, by decide, by simp [call, payload]; rfl⟩)

end

/-- The proposal of an attempt is recorded, under a number that no earlier one has. -/
theorem propose_ensures (free : host.CollisionFree) (sure : Sure host secret organismId l.feedback l.world)
    {a : RecoveryAttempt} (hex : Hex.Digits a.origin) (bound : IsBound recovery host organismId l.world.journal.durable)
    (under : a.policyFingerprint = recovery.fingerprint host)
    (counted : pyInt ((storedAttempts organismId l.world.journal.durable).get? a.origin) = .ok a.number)
    (fresh : Fresh l.world.journal.durable.events a.origin a.number) (time : TimeNs) :
    Ensures (· = l) (inner (appendEvent host (a.call host time)))
      (fun id v => (v.feedback = l.feedback ∧ v.world.moments = l.world.moments ∧
        (l.world.fuse = none → v.world.fuse = none)) ∧
        Sure host secret organismId l.feedback v.world ∧ ∃ row, row = (a.call host time).row host row.seq ∧
        id = row.eventId ∧
          v.world.journal.durable.events = l.world.journal.durable.events ++ [row])
      fun v => Undisturbed l v ∧ Sure host secret organismId l.feedback v.world := by
  refine inner_ensures fun v same => .bind (q := fun event w => _)
    (durably_ensures (fun w again burnt => ?_) fun w again _ => ?_)
    fun event => .pure fun _ => id
  · subst same again
    exact ⟨.refl _, sure⟩
  subst same again
  have range : (a.call host time).created < 2 ^ 63 := time.2.2
  obtain ⟨t, grown, -, later⟩ := sure.appended range (RecoveryAttempt.foreign_call hex)
  rcases sure.counted.sound.append_cases free (RecoveryAttempt.accepted_call hex) range with ⟨-, done⟩ | ⟨row, listed,
    named, done⟩
  · rw [done] at grown ⊢
    obtain rfl : _ = t := congrArg Connection.durable grown
    obtain ⟨origin, number, policy⟩ := a.row_input host time (v.world.journal.durable.sequence + 1)
    have traced := sure.traced.added (c := a.call host time) free (by rw [EventRow.isFeedback, a.row_type]; decide)
      (a.row_unlinked host time _)
        (fun _ => ⟨⟨a.origin, _, _, a.number, a.number, hex, RecoveryAttempt.id_call hex, origin, number,
        policy, counted, Int.le_refl _, under ▸ bound⟩, fun earlier member same => ?_⟩)
      fun outcome => by rw [EventRow.isOutcome, a.row_type] at outcome; exact absurd outcome (by decide)
    · refine ⟨fun event same => ?_, fun _ failed => by cases failed⟩
      obtain rfl := Except.ok.inj same
      exact ⟨⟨rfl, rfl, fun alive => by simp [World.wrote, alive]⟩, later traced, _, rfl, rfl, rfl⟩
    · obtain ⟨m, numbered, less⟩ := fresh earlier member (same.trans origin)
      exact ⟨m, a.number, numbered, number, less⟩
  · rw [done] at grown ⊢
    obtain rfl : _ = t := congrArg Connection.durable grown
    have kept := later sure.traced
    refine ⟨fun event same => ?_, fun e _ => ⟨⟨rfl, rfl, rfl, fun alive => by simp [World.wrote, alive]⟩, kept⟩⟩
    -- an event of this id with the same content would be an attempt of the same number
    exfalso
    dsimp only at same
    split at same
    next => cases same
    next equal =>
      simp only [differs, Bool.not_eq_true, Bool.or_eq_false_iff, bne_eq_false_iff_eq] at equal
      have proposal : row.isProposal = true := by
        rw [EventRow.isProposal, equal.1.1.1.2]
        show (Text.strip "BOUNDED_AUTONOMOUS_RECOVERY_PROPOSED" == _) = true
        decide
      obtain ⟨origin, digest, _, number, _, hex', id, origin', number', -, -, -, -⟩ :=
        sure.traced.covered row listed proposal
      rw [RecoveryAttempt.id_call hex, id] at named
      obtain ⟨rfl, rfl⟩ := recoveryEventId_injective hex' hex named
      obtain ⟨m, numbered, less⟩ := fresh row (List.mem_filter.mpr ⟨listed, proposal⟩) origin'
      have last := numbered.symm.trans number'
      simp at last
      omega

/-- What an outcome adds. -/
structure Concluded (host : Host) (secret organismId : String) (l v : Loop) : Prop where
  feedback : v.feedback = l.feedback
  moments : v.world.moments = l.world.moments
  alive : l.world.fuse = none → v.world.fuse = none
  sure : Sure host secret organismId l.feedback v.world
  added : ∃ added, v.world.journal.durable.events = l.world.journal.durable.events ++ added ∧
    added.filter EventRow.isProposal = []

theorem Concluded.refl {w : Loop} (sure : Sure host secret organismId w.feedback w.world) :
    Concluded host secret organismId w w := ⟨rfl, rfl, id, sure, [], by simp, rfl⟩

/-- The outcome of a proposal is recorded, if it is not there. -/
theorem outcome_ensures (free : host.CollisionFree) (sure : Sure host secret organismId l.feedback l.world)
    {a : RecoveryAttempt} {time : TimeNs} (hex : Hex.Digits a.origin) {row : EventRow}
    (listed : row ∈ l.world.journal.durable.events) (proposal : row = (a.call host time).row host row.seq)
    (cycle : ClosedLoopCycleResult) (time' : TimeNs) :
    Ensures (· = l) (inner (appendEvent host (a.outcomeCall host row.eventId cycle time')))
      (fun _ => Concluded host secret organismId l) (Concluded host secret organismId l) := by
  have called : row.eventId = recoveryEventId host a.origin a.number (String.ofList ((a.id host).toList.take 16)) := by
    rw [proposal]
    exact RecoveryAttempt.id_call hex
  have named : (a.outcomeCall host _ cycle time').id = _ := RecoveryAttempt.id_outcomeCall hex cycle
  rw [← called] at named
  have foreign : Foreign host (a.outcomeCall host row.eventId cycle time') := by
    intro d place member same
    rw [named, called] at same
    exact recoveryEventId_ne hex ":outcome" d member same
  have range : (a.outcomeCall host row.eventId cycle time').created < 2 ^ 63 := time'.2.2
  obtain ⟨t, grown, added, later⟩ := sure.appended range foreign
  refine inner_ensures fun v same => .bind (q := fun _ w => Concluded host secret organismId l { v with world := w })
    (durably_ensures (fun w again _ => ?_) fun w again _ => ?_) fun _ => .pure fun _ => id
  · subst same again
    exact .refl sure
  subst same again
  have concluded : Concluded host secret organismId v { v with world := v.world.wrote ⟨t, none⟩ } := by
    have type :
        ((a.outcomeCall host row.eventId cycle time').row host (v.world.journal.durable.sequence + 1)).eventType =
        "BOUNDED_AUTONOMOUS_RECOVERY_OUTCOME" := by
      show Text.strip "BOUNDED_AUTONOMOUS_RECOVERY_OUTCOME" = _
      decide
    rcases added with rfl | ⟨-, rfl⟩
    · exact ⟨rfl, rfl, fun alive => by simp [World.wrote, alive], later sure.traced, [], by simp [World.wrote], rfl⟩
    · refine ⟨rfl, rfl, fun alive => by simp [World.wrote, alive], later ?_, [_], rfl, ?_⟩
      · refine sure.traced.added free (by rw [EventRow.isFeedback, type]; decide)
          (unlinked_row _ _ (.inr ⟨"BOUNDED_AUTONOMOUS_RECOVERY_OUTCOME", _, _, by decide, by
            simp [RecoveryAttempt.outcomeCall]; rfl⟩)) (fun proposes => ?_) fun _ => ⟨row, listed, ?_, rfl, named⟩
        · rw [EventRow.isProposal, type] at proposes
          exact absurd proposes (by decide)
        · rw [proposal]
          exact a.row_isProposal host time _
      · rw [List.filter_eq_nil_iff]
        intro r member
        obtain rfl := List.mem_singleton.mp member
        rw [EventRow.isProposal, type]
        decide
  rw [grown]
  exact ⟨fun _ _ => concluded, fun _ _ => concluded⟩

/-- What a step has proposed before it has executed anything, and what it has executed. -/
structure Attempted (host : Host) (recovery : BoundedRecoveryPolicy) (origin : String) (l v : Loop) : Prop where
  grown : l.world.journal.durable.events <+: v.world.journal.durable.events
  executed : ∀ p, .executed p ∈ v.world.moments.drop l.world.moments.length → ∃ row,
    (v.world.journal.durable.events.drop l.world.journal.durable.events.length).filter EventRow.isProposal = [row] ∧
      row.proposal = some p ∧ p = (Json.dict (recovery.recovery origin)).norm ∧
        ∃ source, lastFeedback l.world.journal.durable.events = some source ∧ row.causationId = some source.eventId

theorem Undisturbed.attempted {origin : String} {v : Loop} (same : Undisturbed l v) :
    Attempted host recovery origin l v := by
  refine ⟨by rw [same.events], fun p member => ?_⟩
  rw [same.moments, List.drop_length] at member
  cases member

variable (host secret organismId l) in
/-- A feedback state is held after a step, that of the loop unless its process has ended. -/
structure Lasting (v : Loop) : Prop where
  alive : l.world.fuse = none → v.world.fuse = none
  sure : Sure host secret organismId v.feedback v.world ∨ v.world.fuse = some 0 ∧ ∃ f,
    Sure host secret organismId f v.world

theorem Undisturbed.lasting {v : Loop} (same : Undisturbed l v)
    (sure : Sure host secret organismId l.feedback v.world) :
    Lasting host secret organismId l v := ⟨same.alive, .inl (same.feedback ▸ sure)⟩

section
variable {upper : String → String} (policy : HomeostaticPolicy) (feedbackPolicy : EffectFeedbackPolicy upper)

theorem loopTick_sure (free : host.CollisionFree) (sure : Sure host secret organismId l.feedback l.world)
    (input : LoopInput) : Ensures (· = l) (loopTick host policy feedbackPolicy secret input)
      (fun _ v => ((l.world.fuse = none → v.world.fuse = none) ∧ Sure host secret organismId v.feedback v.world) ∧
        Since input.stimulus.proposal l v)
      fun v => Lasting host secret organismId l v ∧ Since input.stimulus.proposal l v := by
  refine (((loopTick_turned feedbackPolicy policy sure.kept input).and
    (loopTick_counted free policy feedbackPolicy secret sure.counted input)).and
      (loopTick_traced free policy feedbackPolicy secret sure.counted sure.traced input)).mono
      (fun v same => ⟨⟨same, same⟩, same⟩)
    (fun r v done => ?_) fun v failed => ?_
  · obtain ⟨⟨⟨kept, turned, -⟩, counted⟩, traced, since⟩ := done
    exact ⟨⟨turned.alive, kept, counted, traced⟩, since⟩
  · obtain ⟨⟨⟨settled, turned⟩, -, counted, -⟩, ⟨traced, before⟩, since⟩ := failed
    refine ⟨⟨turned.alive, settled.imp (fun kept => ⟨kept, counted, traced⟩) fun burnt => ⟨burnt.1, _, burnt.2, counted,
      before⟩⟩, since⟩

/-- After its proposal a step adds none, and executes it if anything. -/
theorem Attempted.proposed {origin : String} {u v : Loop} {row : EventRow} {more : List EventRow}
    (moments : u.world.moments = l.world.moments)
    (events : v.world.journal.durable.events = l.world.journal.durable.events ++ row :: more)
    (plain : more.filter EventRow.isProposal = []) (isProposal : row.isProposal = true)
    (proposal : row.proposal = some (Json.dict (recovery.recovery origin)).norm)
    (source : ∃ source, lastFeedback l.world.journal.durable.events = some source ∧
      row.causationId = some source.eventId) (executed :
      ∀ p, .executed p ∈ v.world.moments.drop u.world.moments.length →
      p = (Json.dict (recovery.recovery origin)).norm) : Attempted host recovery origin l v := by
  refine ⟨by rw [events]; exact List.prefix_append _ _, fun p member => ⟨row, ?_, ?_, ?_, source⟩⟩
  · rw [events, List.drop_left, List.filter_cons_of_pos isProposal, plain]
  · rw [proposal, executed p (by rw [moments]; exact member)]
  · exact executed p (by rw [moments]; exact member)

variable (recovery) in
/-- A pending recovery is attempted under its next number. -/
theorem attemptRecovery_ensures (free : host.CollisionFree) (sure : Sure host secret organismId l.feedback l.world)
    (bound : IsBound recovery host organismId l.world.journal.durable) (input : LoopInput) {origin : String}
    (required : l.feedback.recoveryRequired = true) (pending : l.feedback.recoveryForCycleId = some origin) :
    Ensures (· = l) (attemptRecovery host policy feedbackPolicy secret recovery input l.feedback origin)
      (fun _ v => ((l.world.fuse = none → v.world.fuse = none) ∧ Sure host secret organismId v.feedback v.world) ∧
        Attempted host recovery origin l v)
      fun v => Lasting host secret organismId l v ∧ Attempted host recovery origin l v := by
  unfold attemptRecovery
  have hex := sure.traced.origin origin pending
  have early {v : Loop} (same : Undisturbed l v) (sure : Sure host secret organismId l.feedback v.world) :
      Lasting host secret organismId l v ∧ Attempted host recovery origin l v := ⟨same.lasting sure, same.attempted⟩
  refine .bind ((nextAttemptNumber_ensures recovery sure bound origin).raises fun v same => ?_)
    fun number => .start fun u reserved => ?_
  · subst same
    exact early (.refl _) sure
  obtain ⟨quiet, sure', bound', counted, fresh⟩ := reserved
  rw [← quiet.feedback] at sure'
  have stay {v : Loop} (same : v = u) : Lasting host secret organismId l v ∧ Attempted host recovery origin l v := by
    subst same
    exact early quiet (quiet.feedback ▸ sure')
  have answer : recovery.proposalFor l.feedback = .ok (recovery.recovery origin) := by
    rw [BoundedRecoveryPolicy.proposalFor, required, pending]
  rw [answer, ← quiet.feedback]
  refine .bind ((feedbackEventIdForReceipt_ensures sure'.traced sure'.kept.idle).raises fun v => stay)
    fun source => .start fun v found => ?_
  obtain ⟨same, cause, last, rfl⟩ := found
  subst same
  refine .bind ((lifted_ensures (.ok (recovery.recovery origin))).raises fun v => stay)
    fun proposal => .given fun same => .get_bind fun t again => ?_
  obtain rfl := Except.ok.inj same
  subst again
  rw [quiet.events] at last
  generalize shape : RecoveryAttempt.mk t.world.organism.identity.organismId _ _ _ _ _ _ _ _ _ _ = a
  obtain ⟨origins, numbers, fingerprints, proposals, sources⟩ : a.origin = origin ∧ a.number = number ∧
      a.policyFingerprint = recovery.fingerprint host ∧ a.proposal = recovery.recovery origin ∧
        a.sourceEventId = cause.eventId := by
    subst shape
    exact ⟨rfl, rfl, rfl, rfl, rfl⟩
  rw [← origins] at hex
  refine .bind ((propose_ensures free sure' hex bound' fingerprints (by rw [origins, numbers]; exact counted)
    (by rw [origins, numbers, quiet.events]; exact fresh) _).raises fun v held => ?_) fun id => .start fun w recorded =>
    ?_
  · exact early (quiet.trans held.1) (quiet.feedback ▸ held.2)
  obtain ⟨⟨feedback, moments, alive⟩, sureW, row, is, rfl, events⟩ := recorded
  rw [quiet.moments] at moments
  rw [quiet.events] at events
  replace alive := fun first => alive (quiet.alive first)
  rw [← feedback] at sureW
  have isProposal : row.isProposal = true := by
    rw [is]
    exact a.row_isProposal host _ _
  have proposal : row.proposal = some (Json.dict (recovery.recovery origin)).norm := by
    rw [is, a.row_proposal, proposals]
  have source : row.causationId = some cause.eventId := by
    rw [is, ← sources]
    rfl
  have since {v : Loop} (since : Since (some (recovery.recovery origin)) w v) {u : Loop}
      (moments' : u.world.moments = v.world.moments)
      {added : List EventRow} (grown : u.world.journal.durable.events = v.world.journal.durable.events ++ added)
      (plain : added.filter EventRow.isProposal = []) : Attempted host recovery origin l u := by
    obtain ⟨more, further, quietly⟩ := since.trail
    have all : u.world.journal.durable.events = l.world.journal.durable.events ++ row :: (more ++ added) := by
      rw [grown, further, events]
      simp
    refine Attempted.proposed (u := w) moments all ?_ isProposal proposal
      ⟨cause, last, source⟩ fun p member => ?_
    · rw [List.filter_append, plain, List.append_nil, List.filter_eq_nil_iff]
      exact fun r member => by rw [(quietly r member).1]; decide
    · rw [moments'] at member
      obtain ⟨given, same, rfl⟩ := since.asked p member
      obtain rfl := Option.some.inj same
      exact jsonClone_eq _
  refine .bind ((loopTick_sure policy feedbackPolicy free sureW (input.proposing _)).raises fun v failed => ?_)
    fun cycle => .start fun v ticked => ?_
  · exact ⟨⟨fun first => failed.1.alive (alive first), failed.1.sure⟩,
      since failed.2 rfl (by rw [List.append_nil]) rfl⟩
  obtain ⟨⟨alive', sureV⟩, ticked⟩ := ticked
  have concluded {u : Loop} (concluded : Concluded host secret organismId v u) :
      ((l.world.fuse = none → u.world.fuse = none) ∧ Sure host secret organismId u.feedback u.world) ∧
        Attempted host recovery origin l u := by
    obtain ⟨added, grown, plain⟩ := concluded.added
    exact ⟨⟨fun first => concluded.alive (alive' (alive first)), concluded.feedback ▸ concluded.sure⟩,
      since ticked concluded.moments grown plain⟩
  refine .bind ((outcome_ensures free sureV hex ?_ is cycle _).raises fun u done => ?_) fun _ => .pure fun u done =>
    concluded done
  · obtain ⟨more, further, -⟩ := ticked.trail
    rw [further, events]
    simp
  · exact ⟨⟨(concluded done).1.1, .inl (concluded done).1.2⟩, (concluded done).2⟩

variable (recovery) in
/-- What an executor was called for while a recovery is pending. -/
def Recovered (l v : Loop) : Prop :=
  l.feedback.recoveryRequired = true → ∀ p, .executed p ∈ v.world.moments.drop l.world.moments.length →
    ∃ origin row source, l.feedback.recoveryForCycleId = some origin ∧
      (v.world.journal.durable.events.drop l.world.journal.durable.events.length).filter EventRow.isProposal = [row] ∧
        row.proposal = some p ∧ p = (Json.dict (recovery.recovery origin)).norm ∧
          lastFeedback l.world.journal.durable.events = some source ∧ row.causationId = some source.eventId

theorem Undisturbed.recovered {v : Loop} (same : Undisturbed l v) : Recovered recovery l v := by
  intro _ p member
  rw [same.moments, List.drop_length] at member
  cases member

theorem Attempted.recovered {origin : String} {u v : Loop} (quiet : Undisturbed l u)
    (pending : u.feedback.recoveryForCycleId = some origin) (attempted : Attempted host recovery origin u v) :
    Recovered recovery l v := by
  intro _ p member
  rw [← quiet.moments] at member
  obtain ⟨row, proposed, proposal, same, source, last, caused⟩ := attempted.executed p member
  rw [quiet.events] at proposed last
  exact ⟨origin, row, source, by rw [← quiet.feedback]; exact pending, proposed, proposal, same, last, caused⟩

variable (recovery) in
/-- A step of the supervisor, with all that is kept in it. -/
theorem superviseStep_ensures (free : host.CollisionFree) (sure : Sure host secret organismId l.feedback l.world)
    (input : LoopInput) : Ensures (· = l) (superviseStep host policy feedbackPolicy secret recovery input)
      (fun _ v => ((l.world.fuse = none → v.world.fuse = none) ∧ Sure host secret organismId v.feedback v.world) ∧
        Recovered recovery l v)
      fun v => Lasting host secret organismId l v ∧ Recovered recovery l v := by
  refine .bind ((bindOrValidatePolicy_ensures recovery sure).raises fun v same => ?_) fun _ => .start fun u checked =>
    .get_bind fun v same => ?_
  · subst same
    exact ⟨(Undisturbed.refl _).lasting sure, (Undisturbed.refl _).recovered⟩
  subst same
  obtain ⟨quiet, sure', bound⟩ := checked
  have early {w : Loop} (same : w = v) : Lasting host secret organismId l w ∧ Recovered recovery l w := by
    subst same
    exact ⟨quiet.lasting sure', quiet.recovered⟩
  rw [← quiet.feedback] at sure'
  refine .ite (fun required => .guard (fun _ => early) fun _ => ?_) fun idle => ?_
  · cases pending : v.feedback.recoveryForCycleId with
    | none => exact .throw fun _ => early
    | some origin =>
      refine (attemptRecovery_ensures recovery policy feedbackPolicy free sure' bound input required pending).mono
        (fun _ => id)
        (fun _ w done => ?_) fun w failed => ?_
      · exact ⟨⟨fun first => done.1.1 (quiet.alive first), done.1.2⟩, done.2.recovered quiet pending⟩
      · exact ⟨⟨fun first => failed.1.alive (quiet.alive first), failed.1.sure⟩, failed.2.recovered quiet pending⟩
  · have never (w : Loop) : Recovered recovery l w := fun required => absurd (quiet.feedback ▸ required) idle
    refine .bind ((loopTick_sure policy feedbackPolicy free sure' input).raises fun w failed => ?_) fun cycle =>
      .pure fun w done => ?_
    · exact ⟨⟨fun first => failed.1.alive (quiet.alive first), failed.1.sure⟩, never w⟩
    · exact ⟨⟨fun first => done.1.1 (quiet.alive first), done.1.2⟩, never w⟩

end

end

/-! ## Runs -/

section
variable {host : Host} {secret organismId : String} {upper : String → String} {f : FeedbackState} {w : World} {l : Loop}

theorem Sure.fused (sure : Sure host secret organismId f w) (fuse : Option Nat) :
    Sure host secret organismId f { w with fuse := fuse } :=
  ⟨sure.kept.fused fuse, sure.counted.fused fuse, sure.traced⟩

variable (host secret organismId) in
/-- A journal between steps, and a process over it that holds its feedback state, if one is running. -/
structure Orderly (s : Site upper) : Prop where
  alive : s.loop.world.fuse = none
  running : s.supervisor.isSome → Sure host secret organismId s.loop.feedback s.loop.world
  held : ∃ f, Sure host secret organismId f s.loop.world

/-- The site after a program that keeps the trace, whether its process goes on or not. -/
theorem Orderly.of_sure {s : Site upper} (alive : s.loop.world.fuse = none)
    (sure : Sure host secret organismId s.loop.feedback s.loop.world) : Orderly host secret organismId s :=
  ⟨alive, fun _ => sure, _, sure⟩

theorem bootSite_orderly (held : Sure host secret organismId f l.world) (alive : l.world.fuse = none)
    {organism : GovernedOrganism} (named : organism.identity.organismId = organismId) (supervisor : Supervisor upper) :
    Orderly host secret organismId (bootSite host secret l organism supervisor) := by
  unfold bootSite
  cases started : startLoop host secret l.world.journal.reopen organism with
  | error e => exact ⟨alive, fun running => (by cases running), f, held⟩
  | ok answer =>
    obtain ⟨feedback, runtime⟩ := answer
    obtain ⟨-, loaded, booted⟩ := startLoop_ok.mp started
    have same : l.world.organism.identity.organismId = organism.identity.organismId := held.kept.named.trans named.symm
    have holds : Holds host secret l.world.journal.reopen organism f := held.kept.holds.congr same rfl
    obtain rfl := holds.reloaded rfl loaded
    obtain ⟨r, before, below, numbered⟩ := held.counted.stored
    have again : start l.world.journal.reopen organism = start l.world.journal l.world.organism :=
      start_congr (j := l.world.journal.reopen) rfl held.kept.idle rfl same.symm
    obtain rfl := Except.ok.inj (booted.symm.trans (again.trans before))
    have sure : Sure host secret organismId feedback
        { l.world with journal := l.world.journal.reopen, organism := organism, runtime := runtime } :=
      ⟨⟨rfl, named, ⟨runtime, booted⟩, holds⟩, ⟨held.counted.sound.closed, runtime, booted, Nat.le_refl _, numbered⟩,
        held.traced⟩
    dsimp only
    generalize shape : Loop.mk _ feedback l.effects = started'
    have bound := bindOrValidatePolicy_ensures supervisor.recovery (l := started') (by rw [← shape]; exact sure)
    have alive' : started'.world.fuse = none := by rw [← shape]; exact alive
    cases ran : bindOrValidatePolicy host supervisor.recovery started' with
    | ok _ v =>
      obtain ⟨quiet, later, -⟩ := bound.returned rfl ran
      exact .of_sure (quiet.alive alive') (quiet.feedback ▸ later)
    | error _ v =>
      obtain rfl : v = started' := bound.raised rfl ran
      exact .of_sure alive' (by rw [← shape]; exact sure)

theorem Supervisor.stepped_lasting (free : host.CollisionFree) (supervisor : Supervisor upper)
    (sure : Sure host secret organismId l.feedback l.world) (input : LoopInput) :
    Lasting host secret organismId l (supervisor.stepped host secret input l) ∧
      Recovered supervisor.recovery l (supervisor.stepped host secret input l) :=
  ((superviseStep_ensures supervisor.recovery supervisor.policy supervisor.feedbackPolicy free sure input).mono
    (fun _ => id)
    (fun _ v done => (⟨⟨done.1.1, .inl done.1.2⟩, done.2⟩ : Lasting host secret organismId l v ∧
      Recovered supervisor.recovery l v))
    fun _ => id).final rfl

theorem siteStep_orderly (free : host.CollisionFree) {s : Site upper} (orderly : Orderly host secret organismId s)
    (step : SiteStep upper organismId) : Orderly host secret organismId (siteStep host secret s step) := by
  cases step with
  | boot organism supervisor =>
    obtain ⟨f, held⟩ := orderly.held
    exact bootSite_orderly held orderly.alive organism.2 supervisor
  | step input =>
    unfold siteStep
    cases running : s.supervisor with
    | none => exact orderly
    | some supervisor =>
      have lasting := (supervisor.stepped_lasting free (orderly.running (by rw [running]; rfl)) input).1
      dsimp only
      generalize supervisor.stepped host secret input s.loop = after at lasting ⊢
      have alive := lasting.alive orderly.alive
      exact .of_sure alive (lasting.sure.resolve_right fun burnt => by simp [alive] at burnt)
  | crash input writes =>
    unfold siteStep
    cases running : s.supervisor with
    | none => exact orderly
    | some supervisor =>
      have lasting := (supervisor.stepped_lasting free (l := s.loop.fused (some writes))
        ((orderly.running (by rw [running]; rfl)).fused _) input).1
      dsimp only
      generalize supervisor.stepped host secret input (s.loop.fused (some writes)) = after at lasting ⊢
      refine ⟨rfl, fun running => (by cases running), ?_⟩
      rcases lasting.sure with sure | ⟨-, g, sure⟩
      · exact ⟨_, sure.fused none⟩
      · exact ⟨g, sure.fused none⟩

theorem run_orderly (free : host.CollisionFree) (steps : List (SiteStep upper organismId)) {s : Site upper}
    (orderly : Orderly host secret organismId s) :
    Orderly host secret organismId (steps.foldl (siteStep host secret) s) := by
  induction steps generalizing s with
  | nil => exact orderly
  | cons step rest ih => exact ih (siteStep_orderly free orderly step)

/-- A journal that nothing has been written to, with no process. -/
def emptySite (organism : GovernedOrganism) : Site upper :=
  ⟨⟨⟨Journal.empty, organism, .fresh, [], none⟩, .fresh, []⟩, none⟩

variable (host secret) in
theorem emptySite_sure (organism : GovernedOrganism) :
    Sure host secret organism.identity.organismId .fresh (emptySite organism : Site upper).loop.world := by
  have steadfast := steadfast_empty host secret organism
  have nothing : (Journal.empty.durable).events = [] := by simp [Journal.empty, Connection.connect]
  have unstored : (Journal.empty.durable).runtimeState = [] := by simp [Journal.empty, Connection.connect]
  refine ⟨steadfast.kept, steadfast.counted, ?_⟩
  show Traced host organism.identity.organismId .fresh Journal.empty.durable
  constructor
  case ordered => constructor <;> simp [nothing]
  case attempted => exact ⟨[], by simp [storedAttempts, unstored, Json.dict]⟩
  case policy => exact .inl (by rw [unstored]; rfl)
  case caused => rw [nothing]; exact .nil
  all_goals simp [nothing, FeedbackState.fresh]

/-! ## The trace of a recovery -/

/-- What the events of a supervisor say of its recoveries. -/
structure RecoveryTrace (events : List EventRow) : Prop where
  /-- The proposals for one cycle are numbered upwards. -/
  numbered : (events.filter EventRow.isProposal).Pairwise Earlier
  origins : ∀ row ∈ events, row.isProposal = true → ∃ (origin : String) (number : Int),
    row.input "recovery_origin_cycle_id" = some (.str origin) ∧ row.input "attempt_number" = some (.int number)
  /-- An outcome is caused by one proposal, that is there before it. -/
  caused : Chronicle (fun before row => row.isOutcome = true →
    ∃! p, p ∈ before ∧ p.isProposal = true ∧ row.causationId = some p.eventId) events
  /-- No two outcomes are caused by the same proposal. -/
  single : (events.filter EventRow.isOutcome).Pairwise (·.causationId ≠ ·.causationId)
  fingerprint : ∃ fingerprint, ∀ row ∈ events, row.isProposal = true →
    row.input "policy_fingerprint" = some (.str fingerprint)

theorem binding_injective {fingerprint fingerprint' : String}
    (same : canonicalJson (binding fingerprint) = canonicalJson (binding fingerprint')) :
    fingerprint = fingerprint' := by
  have texts := congrArg (fun text => ((JsonText.loads text).getD .null).get? "policy_fingerprint") same
  simpa [binding] using texts

theorem Sure.trace (sure : Sure host secret organismId f w) : RecoveryTrace w.journal.durable.events where
  numbered := sure.traced.increasing
  origins := by
    intro row member proposal
    obtain ⟨origin, _, _, number, _, -, -, named, numbered, -⟩ := sure.traced.covered row member proposal
    exact ⟨origin, number, named, numbered⟩
  caused := by
    refine sure.traced.caused.imp fun before row within allowed outcome => ?_
    obtain ⟨p, member, proposal, caused, -⟩ := allowed outcome
    refine ⟨p, ⟨member, proposal, caused⟩, fun q ⟨listed, _, same⟩ => ?_⟩
    have inside {r : EventRow} (listed : r ∈ before) : r ∈ w.journal.durable.events :=
      within.subset (List.mem_append_left _ listed)
    exact sure.counted.sound.unique q (inside listed) p (inside member) (Option.some.inj (same.symm.trans caused))
  single := by
    have apart := sure.traced.ordered.increasing.filter EventRow.isOutcome
    refine apart.imp_of_mem fun {row row'} member member' less same => ?_
    obtain ⟨listed, outcome⟩ := List.mem_filter.mp member
    obtain ⟨listed', outcome'⟩ := List.mem_filter.mp member'
    obtain ⟨before, after, split⟩ := List.append_of_mem listed
    obtain ⟨before', after', split'⟩ := List.append_of_mem listed'
    obtain ⟨p, -, -, caused, named⟩ := sure.traced.caused.allowed_at _ _ _ split outcome
    obtain ⟨q, -, -, caused', named'⟩ := sure.traced.caused.allowed_at _ _ _ split' outcome'
    have ids : p.eventId = q.eventId := Option.some.inj (caused.symm.trans (same.trans caused'))
    obtain rfl := sure.counted.sound.unique row listed row' listed' (by rw [named, named', ids])
    exact absurd less (Nat.lt_irrefl _)
  fingerprint := by
    rcases sure.traced.policy with unbound | ⟨fingerprint, bound⟩
    · refine ⟨"", fun row member proposal => ?_⟩
      obtain ⟨_, _, _, _, _, -, -, -, -, -, -, -, stored⟩ := sure.traced.covered row member proposal
      cases unbound.symm.trans stored
    · refine ⟨fingerprint, fun row member proposal => ?_⟩
      obtain ⟨_, _, other, _, _, -, -, -, -, under, -, -, stored⟩ := sure.traced.covered row member proposal
      rw [under, binding_injective (Option.some.inj (stored.symm.trans bound))]

/-- In every run, crashes and restarts included: the events say so, and what an executor is
called for while a recovery is pending was proposed before, alone in its step. -/
theorem recovery_trace (free : host.CollisionFree) (organism : GovernedOrganism)
    (steps : List (SiteStep upper organism.identity.organismId)) :
    RecoveryTrace (steps.foldl (siteStep host secret) (emptySite organism)).loop.world.journal.durable.events ∧
      ∀ supervisor, (steps.foldl (siteStep host secret) (emptySite organism)).supervisor = some supervisor →
        ∀ (input : LoopInput) (fuse : Option Nat), Recovered supervisor.recovery
          ((steps.foldl (siteStep host secret) (emptySite organism)).loop.fused fuse)
          (supervisor.stepped host secret input
            ((steps.foldl (siteStep host secret) (emptySite organism)).loop.fused fuse)) := by
  have orderly := run_orderly free steps (.of_sure (s := emptySite organism) rfl (emptySite_sure host secret organism))
  generalize steps.foldl (siteStep host secret) (emptySite organism) = s at orderly ⊢
  obtain ⟨f, held⟩ := orderly.held
  exact ⟨held.trace, fun supervisor running input fuse =>
    (supervisor.stepped_lasting free ((orderly.running (by rw [running]; rfl)).fused fuse) input).2⟩

end

/-! ### A process started twice, a failed effect, and its recovery -/

section
variable {host : Host} {secret : String} {upper : String → String} {l : Loop}

variable (host secret) in
/-- A journal over which no cycle has been run, with its policy bound or none. -/
structure Untouched (organism : GovernedOrganism) (recovery : BoundedRecoveryPolicy) (l : Loop) : Prop where
  sure : Sure host secret organism.identity.organismId .fresh l.world
  alive : l.world.fuse = none
  started : start l.world.journal organism = .ok .fresh
  own : Dict.get? (Text.strip (policyKey organism.identity.organismId)) l.world.journal.durable.runtimeState = none ∨
    IsBound recovery host organism.identity.organismId l.world.journal.durable

variable (host secret) in
theorem untouched_empty (organism : GovernedOrganism) (recovery : BoundedRecoveryPolicy) :
    Untouched host secret organism recovery (emptySite organism : Site upper).loop := by
  refine ⟨emptySite_sure host secret organism, rfl, ?_, .inl ?_⟩
  · show start Journal.empty organism = _
    simp only [start, getState_empty]
  · simp [emptySite, Journal.empty, Connection.connect]

/-- A process started over it goes on, and leaves it so. -/
theorem bootSite_untouched (nonempty : secret ≠ "") {organism : GovernedOrganism} {supervisor : Supervisor upper}
    (untouched : Untouched host secret organism supervisor.recovery l) :
    ∃ v, bootSite host secret l organism supervisor = ⟨v, some supervisor⟩ ∧
    Untouched host secret organism supervisor.recovery v ∧
      v.feedback = .fresh ∧ v.world.organism = organism ∧ v.world.runtime = .fresh := by
  obtain ⟨sure, alive, started, own⟩ := untouched
  have holds : Holds host secret l.world.journal.reopen organism .fresh := sure.kept.holds.congr sure.kept.named rfl
  have reopened : start l.world.journal.reopen organism = .ok .fresh :=
    (start_congr (j := l.world.journal.reopen) rfl sure.kept.idle rfl rfl).trans started
  have booted : startLoop host secret l.world.journal.reopen organism = .ok (.fresh, .fresh) :=
    startLoop_ok.mpr ⟨nonempty, holds.reload rfl FeedbackState.valid_fresh, reopened⟩
  obtain ⟨r, before, -, numbered⟩ := sure.counted.stored
  obtain rfl :=
    Except.ok.inj ((start_congr (j := l.world.journal) sure.kept.idle sure.kept.idle rfl sure.kept.named).symm.trans
    before |>.symm.trans started)
  unfold bootSite
  rw [booted]
  dsimp only
  generalize shape : Loop.mk _ FeedbackState.fresh l.effects = u
  obtain ⟨fresh, organisms, runtime, fuse⟩ : u.feedback = .fresh ∧ u.world.organism = organism ∧
      u.world.runtime = .fresh ∧
      u.world.fuse = none := by
    subst shape
    exact ⟨rfl, rfl, rfl, alive⟩
  have later : Sure host secret organism.identity.organismId u.feedback u.world ∧
      start u.world.journal u.world.organism = .ok .fresh := by
    subst shape
    exact ⟨⟨⟨rfl, rfl, ⟨_, reopened⟩, holds⟩, ⟨sure.counted.sound.closed, _, reopened, Nat.le_refl _, numbered⟩,
      sure.traced⟩, reopened⟩
  have bound : Dict.get? (Text.strip (policyKey organism.identity.organismId)) u.world.journal.durable.runtimeState =
      none ∨
      IsBound supervisor.recovery host organism.identity.organismId u.world.journal.durable := by
    subst shape
    exact own
  have done := (bindOrValidatePolicy_ensures supervisor.recovery later.1).and
    (bindOrValidatePolicy_returns supervisor.recovery later.1 fuse (by rw [fresh]; rfl) bound)
  cases ran : bindOrValidatePolicy host supervisor.recovery u with
  | error _ v => exact (done.raised ⟨rfl, rfl⟩ ran).2.elim
  | ok _ v =>
    obtain ⟨⟨quiet, sureV, boundV⟩, organismV, runtimeV, startedV⟩ := done.returned ⟨rfl, rfl⟩ ran
    refine ⟨v, rfl, ⟨fresh ▸ sureV, quiet.alive fuse, ?_, .inr boundV⟩, quiet.feedback.trans fresh,
      organismV.trans organisms, runtimeV.trans runtime⟩
    rw [← organisms, startedV, later.2]

end

def sampleSupervisor : Supervisor String.toUpper :=
  ⟨samplePolicy, defaultFeedbackPolicy, ⟨"RECOVER", canonicalJson (.dict []), by decide, [], rfl, by decide⟩⟩

def failedInput : LoopInput := recordedInput fun _ => .raised "RuntimeError" "executor down"

/-- A process is started again before its first step, whose effect fails. -/
def sampleSteps (host : Host) : List (SiteStep String.toUpper (GovernedOrganism.sample host).identity.organismId) :=
  [.boot ⟨.sample host, rfl⟩ sampleSupervisor, .boot ⟨.sample host, rfl⟩ sampleSupervisor, .step failedInput]

def sampleSite (host : Host) : Site String.toUpper :=
  (sampleSteps host).foldl (siteStep host "feedback-secret") (emptySite (.sample host))

def Pending (l : Loop) : Prop := l.feedback.recoveryRequired = true

/-- An effect that fails over an untouched journal opens a recovery. -/
theorem failed_pending {host : Host} (free : host.CollisionFree) {l : Loop} {organismId : String}
    (sure : Sure host "feedback-secret" organismId l.feedback l.world) (alive : l.world.fuse = none)
    (fresh : l.feedback = .fresh) (organism : l.world.organism = .sample host) (runtime : l.world.runtime = .fresh) :
    Pending (afterwards (loopTick host samplePolicy defaultFeedbackPolicy "feedback-secret" failedInput) l) := by
  obtain ⟨a, assessed, normal⟩ := assess_sample
  have executed := @loopTick_executes host _ _ free _ defaultFeedbackPolicy "feedback-secret" failedInput
    ⟨rfl, rfl, rfl, rfl⟩ assessed normal _ rfl _ rfl l sure.counted alive (by rw [runtime]; rfl)
      (by rw [organism]; exact ⟨rfl, rfl⟩)
    (by rw [fresh]; rfl)
  have fed := Recordable.fedBack samplePolicy defaultFeedbackPolicy free ⟨alive, sure.kept,
    sure.counted⟩ failedInput rfl
    ⟨_, _, rfl⟩ executed
  obtain ⟨streak, gated⟩ := fed.failure fun good => nomatch good.2
  exact gated (by rw [streak]; exact Nat.le_add_left 1 _)

theorem failed_step {host : Host} (free : host.CollisionFree) {l : Loop} {organismId : String}
    (sure : Sure host "feedback-secret" organismId l.feedback l.world) (alive : l.world.fuse = none)
    (own : Dict.get? (Text.strip (policyKey organismId)) l.world.journal.durable.runtimeState = none ∨
      IsBound sampleSupervisor.recovery host organismId l.world.journal.durable)
    (fresh : l.feedback = .fresh) (organism : l.world.organism = .sample host) (runtime : l.world.runtime = .fresh) :
    Pending (sampleSupervisor.stepped host "feedback-secret" failedInput l) := by
  suffices pending : Ensures (· = l)
    (superviseStep host sampleSupervisor.policy sampleSupervisor.feedbackPolicy "feedback-secret"
      sampleSupervisor.recovery failedInput) (fun _ => Pending) Pending from pending.final rfl
  have calm : l.feedback.recoveryRequired = false := by rw [fresh]; rfl
  have bound := (bindOrValidatePolicy_ensures sampleSupervisor.recovery sure).and
    (bindOrValidatePolicy_returns sampleSupervisor.recovery sure alive calm own)
  refine .bind (bound.mono (fun _ same => ⟨same, same⟩) (fun _ _ => id) fun _ never => never.2.elim) fun _ =>
    .start fun w taken =>
    .get_bind fun w' same => ?_
  subst same
  obtain ⟨⟨quiet, sure', -⟩, organism', runtime', -⟩ := taken
  rw [← quiet.feedback] at sure'
  refine .ite (fun required => ?_) fun _ => .bind (.of_final (failed_pending free sure' (quiet.alive alive)
    (quiet.feedback.trans fresh) (organism'.trans organism) (runtime'.trans runtime))) fun _ => .pure fun _ => id
  rw [quiet.feedback, calm] at required
  cases required

theorem sampleSite_pending {host : Host} (free : host.CollisionFree) :
    (sampleSite host).supervisor = some sampleSupervisor ∧ Pending (sampleSite host).loop := by
  have empty : Untouched host "feedback-secret" (.sample host) sampleSupervisor.recovery
      (emptySite (.sample host) : Site String.toUpper).loop := untouched_empty _ _ _ _
  obtain ⟨u, first, untouched, -⟩ := bootSite_untouched (by decide) empty
  obtain ⟨v, second, ⟨sure, alive, -, own⟩, fresh, organism, runtime⟩ := bootSite_untouched (by decide) untouched
  have site : sampleSite host = ⟨sampleSupervisor.stepped host "feedback-secret" failedInput v,
      some sampleSupervisor⟩ := by
    simp only [sampleSite, sampleSteps, List.foldl_cons, List.foldl_nil, siteStep, first, second]
  rw [← fresh] at sure
  simp only [site, true_and]
  exact failed_step free sure alive own fresh organism runtime

/-- The recovery is attempted, and another attempt is cut off. -/
def laterSteps (host : Host) : List (SiteStep String.toUpper (GovernedOrganism.sample host).identity.organismId) :=
  let again : LoopInput := { failedInput with stimulus := { failedInput.stimulus with proposal := none } }
  [.step again, .crash again 5]

theorem recovery_trace_sample :
    ((sampleSite hexHost).supervisor = some sampleSupervisor ∧ Pending (sampleSite hexHost).loop ∧
      ∀ (input : LoopInput) (fuse : Option Nat),
      Recovered sampleSupervisor.recovery ((sampleSite hexHost).loop.fused fuse)
        (sampleSupervisor.stepped hexHost "feedback-secret" input ((sampleSite hexHost).loop.fused fuse))) ∧
      RecoveryTrace ((sampleSteps hexHost ++ laterSteps hexHost).foldl (siteStep hexHost "feedback-secret")
        (emptySite (.sample hexHost))).loop.world.journal.durable.events := by
  have free := hexHost_collisionFree
  generalize hexHost = host at free ⊢
  obtain ⟨running, pending⟩ := sampleSite_pending free
  exact ⟨⟨running, pending, (recovery_trace free (.sample host) (sampleSteps host)).2 sampleSupervisor running⟩,
    (recovery_trace free (.sample host) (sampleSteps host ++ laterSteps host)).1⟩

end MatVerse.Physiology
