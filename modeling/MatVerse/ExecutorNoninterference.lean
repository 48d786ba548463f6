import MatVerse.Lib.Run
import MatVerse.OrganismProvenance
import MatVerse.PhysiologyEngine

/-! What an executor does reaches the events of its own effect and of the cycle's memory,
and nothing that a later cycle reads. -/
namespace MatVerse.Physiology

/-- What an event says, without its place, its time and its receipt. -/
structure Content where
  eventId : String
  topic : String
  eventType : String
  payloadJson : String
  causationId : Option String
  correlationId : Option String
  deriving DecidableEq

def EventRow.content (r : EventRow) : Content :=
  ⟨r.eventId, r.topic, r.eventType, r.payloadJson, r.causationId, r.correlationId⟩

/-- The events that tell what was sensed, planned and decided. -/
def deliberationTypes : List String := ["TICK", "RECOVERY_PLAN", "DECISION"]

/-- The contents of the events of a deliberation, in journal order. -/
def deliberations (t : Tables) : List Content :=
  (t.events.map EventRow.content).filter (fun c => deliberationTypes.contains c.eventType)

/-- Labels of the events that an outcome reaches. -/
def effectLabels : List String := [":execution", ":effect", ":memory"]

def ofEffect (eventId : String) : Bool := effectLabels.any (fun label => decide (label.toList <:+ eventId.toList))

/-- All but the events that an outcome reaches. -/
def isKept (c : Content) : Bool := !ofEffect c.eventId || deliberationTypes.contains c.eventType

def keptContents (t : Tables) : List Content := (t.events.map EventRow.content).filter isKept

/-- Engines that differ at most in the events of effects. -/
structure Same (host : Host) (w v : World) : Prop where
  organism : w.organism = v.organism
  runtime : w.runtime = v.runtime
  contents : keptContents w.journal.durable = keptContents v.journal.durable
  left : Sound host w.journal
  right : Sound host v.journal
  alive : w.fuse = none ∧ v.fuse = none

theorem deliberations_eq {t u : Tables} (same : keptContents t = keptContents u) :
    deliberations t = deliberations u := by
  have part (t : Tables) : deliberations t =
      (keptContents t).filter (fun c => deliberationTypes.contains c.eventType) := by
    unfold deliberations keptContents
    rw [List.filter_filter]
    refine List.filter_congr fun c _ => ?_
    cases listed : deliberationTypes.contains c.eventType with
    | true => simp only [isKept, listed, Bool.or_true, Bool.and_self]
    | false => simp
  rw [part, part, same]

/-! ## Labels -/

/-- Stripping leaves a label at the end of an event id. -/
theorem strip_label {label : String} (first : ∀ c ∈ label.toList.head?, Text.isSpace c = false)
    (last : ∀ c ∈ label.toList.getLast?, Text.isSpace c = false) (nonempty : label.toList ≠ []) (name : String) :
    label.toList <:+ (Text.strip (name ++ label)).toList := by
  have head : (name ++ label).toList.dropWhile Text.isSpace = name.toList.dropWhile Text.isSpace ++ label.toList := by
    rw [String.toList_append, List.dropWhile_append]
    split
    · next empty =>
      rw [List.isEmpty_iff.mp empty, List.nil_append]
      exact Text.dropWhile_of_head first
    · rfl
  have tail : (name.toList.dropWhile Text.isSpace ++ label.toList).reverse.dropWhile Text.isSpace =
      (name.toList.dropWhile Text.isSpace ++ label.toList).reverse := by
    apply Text.dropWhile_of_head
    rw [List.head?_reverse, List.getLast?_append_of_ne_nil _ nonempty]
    exact last
  rw [Text.strip, String.toList_ofList, head, tail, List.reverse_reverse]
  exact List.suffix_append _ _

def deliberationLabels : List String := [":tick", ":observation", ":plan", ":decision"]

theorem ofEffect_deliberation {label : String} (listed : label ∈ deliberationLabels) (name : String) :
    ofEffect (Text.strip (name ++ label)) = false := by
  have ends : label.toList <:+ (Text.strip (name ++ label)).toList := by
    simp only [deliberationLabels, List.mem_cons, List.not_mem_nil, or_false] at listed
    rcases listed with rfl | rfl | rfl | rfl <;> exact strip_label (by rintro _ ⟨⟩; decide) (by rintro _ ⟨⟩; decide)
      (by decide) name
  have apart : ∀ effect ∈ effectLabels, ¬effect.toList <:+ label.toList ∧ ¬label.toList <:+ effect.toList := by
    simp only [deliberationLabels, List.mem_cons, List.not_mem_nil, or_false] at listed
    rcases listed with rfl | rfl | rfl | rfl <;> decide
  refine List.any_eq_false.mpr fun effect member => ?_
  rw [decide_eq_true_eq]
  intro other
  rcases List.suffix_or_suffix_of_suffix other ends with within | within
  · exact (apart effect member).1 within
  · exact (apart effect member).2 within

theorem ofEffect_effect {label : String} (listed : label ∈ effectLabels) (name : String) :
    ofEffect (Text.strip (name ++ label)) = true := by
  have ends : label.toList <:+ (Text.strip (name ++ label)).toList := by
    simp only [effectLabels, List.mem_cons, List.not_mem_nil, or_false] at listed
    rcases listed with rfl | rfl | rfl <;> exact strip_label (by rintro _ ⟨⟩; decide) (by rintro _ ⟨⟩; decide)
      (by decide) name
  exact List.any_eq_true.mpr ⟨label, listed, decide_eq_true ends⟩

/-! ## Journals -/

theorem accepted_at (c : AppendCall) (s t : TimeNs) : Accepted (c.timed s) ↔ Accepted (c.timed t) := by
  constructor
  · rintro ⟨eventId, topic, eventType, _⟩
    exact ⟨eventId, topic, eventType, t.2.1⟩
  · rintro ⟨eventId, topic, eventType, _⟩
    exact ⟨eventId, topic, eventType, s.2.1⟩

section
variable {host : Host} {j k : Journal}

theorem content_at (c : AppendCall) (s t : TimeNs) (m n : Nat) :
    ((c.timed s).row host m).content = ((c.timed t).row host n).content := rfl

theorem keptContents_added (t : Tables) (c : AppendCall) : keptContents (t.added host c) =
    keptContents t ++ if isKept (c.row host (t.sequence + 1)).content then [(c.row host (t.sequence + 1)).content]
      else [] := by
  unfold keptContents Tables.added
  rw [List.map_append, List.filter_append]
  simp [List.filter_cons]

theorem exists_content (same : keptContents j.durable = keptContents k.durable) {row : EventRow}
    (member : row ∈ j.durable.events) (kept : isKept row.content = true) :
    ∃ other ∈ k.durable.events, other.content = row.content := by
  have listed : row.content ∈ keptContents j.durable :=
    List.mem_filter.mpr ⟨List.mem_map_of_mem member, kept⟩
  rw [same] at listed
  obtain ⟨other, member', content⟩ := List.mem_map.mp (List.mem_filter.mp listed).1
  exact ⟨other, member', content⟩

theorem differs_content {row other : EventRow} (content : other.content = row.content) (c : AppendCall) (s t : TimeNs) :
    differs row (c.timed s) = differs other (c.timed t) := by
  unfold EventRow.content at content
  simp only [Content.mk.injEq] at content
  obtain ⟨_, topic, eventType, payload, causation, correlation⟩ := content
  simp only [differs, AppendCall.timed, AppendCall.payloadCopy, topic, eventType, payload, causation, correlation]

/-- One append of an event that is not of an effect, in journals that differ in effects only. -/
theorem append_agree (free : host.CollisionFree) (same : keptContents j.durable = keptContents k.durable)
    (left : Sound host j) (right : Sound host k) {c : AppendCall} (plain : ofEffect c.id = false) (s t : TimeNs) :
    keptContents (append host j (c.timed s)).2.durable = keptContents (append host k (c.timed t)).2.durable ∧
      ((append host j (c.timed s)).1.map JournalEvent.eventId).toOption =
        ((append host k (c.timed t)).1.map JournalEvent.eventId).toOption := by
  by_cases accepted : Accepted (c.timed s)
  · have accepted' := (accepted_at c s t).mp accepted
    by_cases new : New j (c.timed s)
    · have new' : New k (c.timed t) := by
        intro row member named
        have kept : isKept row.content = true := by
          have : row.content.eventId = c.id := named
          simp [isKept, this, plain]
        obtain ⟨other, member', content⟩ := exists_content same.symm member kept
        exact new other member' ((congrArg Content.eventId content).trans named)
      rw [left.append_new free accepted (created_range c s) new,
        right.append_new free accepted' (created_range c t) new']
      refine ⟨?_, rfl⟩
      rw [keptContents_added, keptContents_added, same, content_at c s t _ (k.durable.sequence + 1)]
    · simp only [New, not_forall, not_not] at new
      obtain ⟨row, member, named⟩ := new
      have kept : isKept row.content = true := by
        have : row.content.eventId = c.id := named
        simp [isKept, this, plain]
      obtain ⟨other, member', content⟩ := exists_content same member kept
      have named' : other.eventId = (c.timed t).id := (congrArg Content.eventId content).trans named
      rw [left.append_known accepted (created_range c s) member named,
        right.append_known accepted' (created_range c t) member' named', differs_content content c s t]
      refine ⟨same, ?_⟩
      split
      · rfl
      · have ids : (rowToEvent row).eventId = (rowToEvent other).eventId := (congrArg Content.eventId content).symm
        exact congrArg some ids
  · obtain ⟨e, refused⟩ := @append_refused host j (c.timed s) accepted
    obtain ⟨e', refused'⟩ := @append_refused host k (c.timed t) ((accepted_at c s t).not.mp accepted)
    rw [refused, refused']
    exact ⟨same, rfl⟩

theorem append_effect (free : host.CollisionFree) (sound : Sound host j) {c : AppendCall}
    (effect : ofEffect c.id = true) (silent : deliberationTypes.contains (Text.strip c.eventType) = false)
    (t : TimeNs) : keptContents (append host j (c.timed t)).2.durable = keptContents j.durable := by
  by_cases accepted : Accepted (c.timed t)
  · by_cases new : New j (c.timed t)
    · rw [sound.append_new free accepted (created_range c t) new, keptContents_added]
      have dropped : isKept ((c.timed t).row host (j.durable.sequence + 1)).content = false := by
        have id : ((c.timed t).row host (j.durable.sequence + 1)).content.eventId = c.id := rfl
        have type : ((c.timed t).row host (j.durable.sequence + 1)).content.eventType = Text.strip c.eventType := rfl
        simp only [isKept, id, effect, type, silent, Bool.not_true, Bool.or_self]
      rw [dropped, if_neg Bool.false_ne_true, List.append_nil]
    · simp only [New, not_forall, not_not] at new
      obtain ⟨row, member, named⟩ := new
      rw [sound.append_known accepted (created_range c t) member named]
  · obtain ⟨e, refused⟩ := @append_refused host j (c.timed t) accepted
    rw [refused]

end

/-! ## Programs -/

section
variable {host : Host} {w v : World}

theorem record_agree (free : host.CollisionFree) {label : String} (listed : label ∈ deliberationLabels)
    (clock clock' : String → TimeNs) (cycleId eventType : String) (payload : Mapping) (causation : Option String) :
    Agree (Same host) (record host clock cycleId label eventType payload causation)
      (record host clock' cycleId label eventType payload causation) := by
  intro w v same
  have plain : ofEffect (recordCall cycleId label eventType payload causation).id = false :=
    ofEffect_deliberation listed cycleId
  obtain ⟨contents, answers⟩ := append_agree free same.contents same.left same.right plain (clock label) (clock' label)
  have left := same.left.next free (c := (recordCall cycleId label eventType payload causation).timed (clock label))
    fun _ => created_range _ _
  have right := same.right.next free (c := (recordCall cycleId label eventType payload causation).timed (clock' label))
    fun _ => created_range _ _
  rw [record_alive clock _ _ _ _ _ same.alive.1, record_alive clock' _ _ _ _ _ same.alive.2]
  generalize append host w.journal _ = one at contents answers left ⊢
  generalize append host v.journal _ = two at contents answers right ⊢
  obtain ⟨one, j⟩ := one
  obtain ⟨two, k⟩ := two
  have further : Same host { w with journal := j } { v with journal := k } :=
    ⟨same.organism, same.runtime, contents, left, right, same.alive⟩
  cases one with
  | ok event =>
    cases two with
    | ok event' => exact ⟨Option.some.inj answers, further⟩
    | error e => cases answers
  | error e =>
    cases two with
    | ok event' => cases answers
    | error e' => exact further

theorem setState_sound {j : Journal} (sound : Sound host j) (key : String) (value : Json) :
    Sound host (setState j key value).2 ∧
      (setState j key value).2.durable.events = j.durable.events := by
  unfold setState
  split
  · exact ⟨sound, rfl⟩
  · simp only [Connection.write, sound.idle, Connection.view, Option.getD_none]
    exact ⟨⟨rfl, sound.written, sound.ordered, sound.unique⟩, trivial⟩

theorem persist_agree : Agree (Same host) persistRuntimeState persistRuntimeState := by
  intro w v same
  have left := setState_sound same.left (stateKey w.organism) w.runtime.toJson
  have right := setState_sound same.right (stateKey v.organism) v.runtime.toJson
  have contents : keptContents (setState w.journal (stateKey w.organism) w.runtime.toJson).2.durable =
      keptContents (setState v.journal (stateKey v.organism) v.runtime.toJson).2.durable := by
    unfold keptContents
    rw [left.2, right.2]
    exact same.contents
  have answers : (setState w.journal (stateKey w.organism) w.runtime.toJson).1 =
      (setState v.journal (stateKey v.organism) v.runtime.toJson).1 := by
    rw [same.organism]
    unfold setState
    split <;> rfl
  rw [persist_alive same.alive.1, persist_alive same.alive.2]
  generalize setState w.journal (stateKey w.organism) w.runtime.toJson = one at contents answers left ⊢
  generalize setState v.journal (stateKey v.organism) v.runtime.toJson = two at contents answers right ⊢
  obtain ⟨one, j⟩ := one
  obtain ⟨two, k⟩ := two
  obtain rfl : one = two := answers
  have further : Same host { w with journal := j } { v with journal := k } :=
    ⟨same.organism, same.runtime, contents, left.1, right.1, same.alive⟩
  cases one with
  | ok _ => exact ⟨rfl, further⟩
  | error _ => exact further

theorem stateRoot_agree : Agree (Same host) (stateRoot host) (stateRoot host) := by
  intro w v same
  refine ⟨by rw [same.organism], ?_⟩
  exact ⟨by rw [same.organism], same.runtime, same.contents, same.left, same.right, same.alive⟩

theorem lifted_agree {α : Type} (answer : Except EngineError α) :
    Agree (Same host) (lifted answer) (lifted answer) := by
  cases answer with
  | ok a => exact .pure a
  | error e => exact .throw e e

theorem noted_agree (m : Moment) :
    Agree (Same host) (modify (·.noted m) : Physiological Unit) (modify (·.noted m)) :=
  .modify fun _ _ same => ⟨same.organism, same.runtime, same.contents, same.left, same.right, same.alive⟩

theorem openCycle_agree (free : host.CollisionFree) (clock clock' : String → TimeNs) :
    Agree (Same host) (openCycle host clock) (openCycle host clock') := by
  refine .bind (.modify fun w v same => ?_) fun _ => .get_bind fun w v same => ?_
  · exact ⟨same.organism, by rw [same.runtime], same.contents, same.left, same.right, same.alive⟩
  · rw [same.organism, same.runtime]
    exact .bind stateRoot_agree fun root => .bind (record_agree free (by decide) _ _ _ _ _ _) fun _ => .pure _

theorem adopt_agree (policy : HomeostaticPolicy) (health : HealthState) :
    Agree (Same host) (adopt policy health) (adopt policy health) := by
  intro w v same
  refine ⟨by rw [same.runtime], ?_⟩
  exact ⟨same.organism, by rw [same.runtime]; rfl, same.contents, same.left, same.right, same.alive⟩

theorem sense_agree (free : host.CollisionFree) (policy : HomeostaticPolicy) (stimulus : Stimulus)
    (clock clock' : String → TimeNs) (cycleId tick : String) :
    Agree (Same host) (sense host policy stimulus clock cycleId tick)
    (sense host policy stimulus clock' cycleId tick) := by
  refine .bind (lifted_agree _) fun assessment => .bind (adopt_agree policy _) fun action =>
    .bind persist_agree fun _ => .bind (record_agree free (by decide) _ _ _ _ _ _) fun observation =>
      .get_bind fun w v same => ?_
  rw [same.runtime]
  exact .bind (record_agree free (by decide) _ _ _ _ _ _) fun plan => .pure _

theorem evaluate_agree (args : GovernedOrganism.EvaluateArgs) :
    Agree (Same host) (evaluate host args) (evaluate host args) := by
  intro w v same
  unfold evaluate
  rw [same.organism]
  cases GovernedOrganism.evaluate host v.organism args with
  | ok done => exact ⟨rfl, ⟨rfl, same.runtime, same.contents, same.left, same.right, same.alive⟩⟩
  | error e => exact same

theorem decideOn_agree (free : host.CollisionFree) (stimulus : Stimulus) (clock clock' : String → TimeNs)
    (cycleId plan : String) (proposal : Mapping) :
    Agree (Same host) (decideOn host stimulus clock cycleId plan proposal)
      (decideOn host stimulus clock' cycleId plan proposal) := by
  refine .get_bind fun w v same => ?_
  rw [same.runtime]
  refine .ite (fun _ => ?_) fun _ => ?_
  · exact .bind (noted_agree _) fun _ => .bind (record_agree free (by decide) _ _ _ _ _ _) fun _ => .pure _
  · exact .bind (evaluate_agree _) fun result => .bind (noted_agree _) fun _ =>
      .bind (record_agree free (by decide) _ _ _ _ _ _) fun _ => .pure _

/-- A deliberation is the same, whatever effects the journal holds. -/
theorem deliberate_agree (free : host.CollisionFree) (policy : HomeostaticPolicy) (stimulus : Stimulus)
    (clock clock' : String → TimeNs) :
    Agree (Same host) (deliberate host policy stimulus clock) (deliberate host policy stimulus clock') := by
  refine .bind (openCycle_agree free _ _) fun ⟨cycleSeq, cycleId, tick⟩ =>
    .bind (sense_agree free _ _ _ _ _ _) fun ⟨health, action, plan⟩ => ?_
  cases stimulus.proposal with
  | none => exact .pure _
  | some proposal => exact .bind (decideOn_agree free _ _ _ _ _ _) fun _ => .pure _

/-! ## Effects -/

/-- The root of the organism's state is known. -/
def Rooted (o : GovernedOrganism) : Prop :=
  ∃ root, o.cachedStateRoot = some root ∧ o.cachedStateGeneration = o.stateGeneration

theorem rooted_stateRoot (host : Host) (o : GovernedOrganism) : Rooted (o.stateRoot host).2 := by
  unfold GovernedOrganism.stateRoot
  cases cached : o.cachedStateRoot with
  | none => exact ⟨_, rfl, rfl⟩
  | some root =>
    by_cases current : o.cachedStateGeneration = o.stateGeneration
    · simp only [current, if_true]
      exact ⟨root, cached, current⟩
    · simp only [current, if_false]
      exact ⟨_, rfl, rfl⟩

theorem Rooted.stateRoot {o : GovernedOrganism} (rooted : Rooted o) : (o.stateRoot host).2 = o := by
  obtain ⟨root, cached, current⟩ := rooted
  simp [GovernedOrganism.stateRoot, cached, current]

theorem rooted_evaluate {o o' : GovernedOrganism} {args : GovernedOrganism.EvaluateArgs} {result : LoopResult}
    (done : o.evaluate host args = .ok (result, o')) : Rooted o' := by
  obtain ⟨_, _, matched, _, same⟩ := GovernedOrganism.evaluate_ok done
  have state := congrArg Prod.snd same
  simp only [GovernedOrganism.recordEvaluation] at state
  rw [state]
  exact rooted_stateRoot host _

theorem durably_cases {α : Type} (write : Journal → Except JournalError α × Journal) (t : World) :
    durably write t = .error .crash t ∨
      ∃ fuse, durably write t = answered { t with journal := (write t.journal).2, fuse := fuse }
      (write t.journal).1 := by
  obtain ⟨journal, organism, runtime, moments, fuse⟩ := t
  cases fuse with
  | none => exact .inr ⟨_, rfl⟩
  | some n =>
    cases n with
    | zero => exact .inl rfl
    | succ n => exact .inr ⟨_, rfl⟩

theorem durably_organism {α : Type} (write : Journal → Except JournalError α × Journal)
    (property : GovernedOrganism → Prop) :
    Ensures (fun t => property t.organism) (durably write) (fun _ t => property t.organism) (fun _ => True) := by
  intro t holds
  rcases durably_cases write t with crashed | ⟨fuse, done⟩
  · rw [crashed]
    trivial
  · rw [done]
    cases (write t.journal).1 with
    | ok a => exact holds
    | error e => trivial

theorem record_organism (clock : String → TimeNs) (cycleId label eventType : String) (payload : Mapping)
    (causation : Option String) (property : GovernedOrganism → Prop) :
    Ensures (fun t => property t.organism) (record host clock cycleId label eventType payload causation)
      (fun _ t => property t.organism) (fun _ => True) :=
  .bind (durably_organism _ property) fun _ => .pure fun _ holds => holds

theorem adopt_organism (policy : HomeostaticPolicy) (health : HealthState) (property : GovernedOrganism → Prop) :
    Ensures (fun t => property t.organism) (adopt policy health) (fun _ t => property t.organism) (fun _ => True) :=
  fun _ holds => holds

theorem openCycle_rooted (clock : String → TimeNs) :
    Ensures (fun _ => True) (openCycle host clock) (fun _ t => Rooted t.organism) (fun _ => True) := by
  refine .bind (m := modify _) (q := fun _ _ => True) (.modify fun _ _ => trivial) fun _ =>
    .get_bind fun w _ => .bind (q := fun _ t => Rooted t.organism) ?_ fun root => ?_
  · intro t _
    exact rooted_stateRoot host t.organism
  · exact .bind (record_organism _ _ _ _ _ _ Rooted) fun _ => .pure fun _ rooted => rooted

theorem sense_rooted (policy : HomeostaticPolicy) (stimulus : Stimulus) (clock : String → TimeNs)
    (cycleId tick : String) : Ensures (fun t => Rooted t.organism) (sense host policy stimulus clock cycleId tick)
      (fun _ t => Rooted t.organism) (fun _ => True) := by
  refine .bind (q := fun _ t => Rooted t.organism) ?_ fun assessment =>
    .bind (adopt_organism policy assessment.state Rooted) fun action =>
      .bind (q := fun _ t => Rooted t.organism) ?_ fun _ => .bind (record_organism _ _ _ _ _ _ Rooted) fun _ =>
        .get_bind fun w rooted => .bind (q := fun _ t => Rooted t.organism) ?_ fun _ => .pure fun _ rooted => rooted
  · cases assess policy stimulus.sample stimulus.journalOk with
    | ok assessment => exact .pure fun _ rooted => rooted
    | error e => exact .throw fun _ _ => trivial
  · exact .get_bind fun w rooted => (durably_organism _ Rooted).mono (fun t same => same ▸ rooted) (fun _ _ => id)
      fun _ _ => trivial
  · exact (record_organism _ _ _ _ _ _ Rooted).mono (fun t same => same ▸ rooted) (fun _ _ => id) fun _ _ => trivial

theorem decideOn_rooted (stimulus : Stimulus) (clock : String → TimeNs) (cycleId plan : String) (proposal : Mapping) :
    Ensures (fun t => Rooted t.organism) (decideOn host stimulus clock cycleId plan proposal)
      (fun _ t => Rooted t.organism) (fun _ => True) := by
  refine .get_bind fun w rooted => .ite (fun _ => ?_) fun _ => ?_
  · exact .bind (q := fun _ t => Rooted t.organism) (.modify fun t same => same ▸ rooted) fun _ =>
      .bind (record_organism _ _ _ _ _ _ Rooted) fun _ => .pure fun _ rooted => rooted
  · refine .bind (q := fun _ t => Rooted t.organism) ?_ fun result =>
      .bind (q := fun _ t => Rooted t.organism) (.modify fun t rooted => rooted) fun _ =>
        .bind (record_organism _ _ _ _ _ _ Rooted) fun _ => .pure fun _ rooted => rooted
    intro t same
    unfold evaluate
    cases done : t.organism.evaluate host _ with
    | ok result => exact rooted_evaluate done
    | error e => trivial

theorem deliberate_rooted (policy : HomeostaticPolicy) (stimulus : Stimulus) (clock : String → TimeNs) :
    Ensures (fun _ => True) (deliberate host policy stimulus clock) (fun _ t => Rooted t.organism) (fun _ => True) := by
  refine .bind (openCycle_rooted clock) fun ⟨cycleSeq, cycleId, tick⟩ =>
    .bind (sense_rooted policy stimulus clock cycleId tick) fun ⟨health, action, plan⟩ => ?_
  cases stimulus.proposal with
  | none => exact .pure fun _ rooted => rooted
  | some proposal => exact .bind (decideOn_rooted _ _ _ _ _) fun _ => .pure fun _ rooted => rooted

/-- An engine like another one, with a known state root. -/
def LikeRooted (host : Host) (v t : World) : Prop := Same host t v ∧ Rooted t.organism

theorem record_effect (free : host.CollisionFree) {label eventType : String} (listed : label ∈ effectLabels)
    (silent : deliberationTypes.contains (Text.strip eventType) = false) (clock : String → TimeNs) (cycleId : String)
    (payload : Mapping) (causation : Option String) :
    Keeps (LikeRooted host v) (record host clock cycleId label eventType payload causation) := by
  intro t like
  obtain ⟨same, rooted⟩ := like
  have effect : ofEffect (recordCall cycleId label eventType payload causation).id = true :=
    ofEffect_effect listed cycleId
  have contents := append_effect free same.left effect silent (clock label)
  have sound := same.left.next free (c := (recordCall cycleId label eventType payload causation).timed (clock label))
    fun _ => created_range _ _
  rw [record_alive clock _ _ _ _ _ same.alive.1]
  generalize append host t.journal _ = done at contents sound ⊢
  obtain ⟨answer, j⟩ := done
  have further : LikeRooted host v { t with journal := j } :=
    ⟨⟨same.organism, same.runtime, contents.trans same.contents, sound, same.right, same.alive⟩, rooted⟩
  cases answer with
  | ok event => exact further
  | error e => exact further

theorem persist_like : Keeps (LikeRooted host v) persistRuntimeState := by
  intro t like
  obtain ⟨same, rooted⟩ := like
  obtain ⟨sound, events⟩ := setState_sound same.left (stateKey t.organism) t.runtime.toJson
  have contents : keptContents (setState t.journal (stateKey t.organism) t.runtime.toJson).2.durable =
      keptContents t.journal.durable := by
    unfold keptContents
    rw [events]
  rw [persist_alive same.alive.1]
  generalize setState t.journal (stateKey t.organism) t.runtime.toJson = done at contents sound ⊢
  obtain ⟨answer, j⟩ := done
  have further : LikeRooted host v { t with journal := j } :=
    ⟨⟨same.organism, same.runtime, contents.trans same.contents, sound, same.right, same.alive⟩, rooted⟩
  cases answer with
  | ok _ => exact further
  | error _ => exact further

theorem execute_like (free : host.CollisionFree) (effector : Effector) (cycleId decision : String) (proposal : Json) :
    Keeps (LikeRooted host v) (execute host effector cycleId decision proposal) := by
  unfold execute
  cases effector.executor with
  | none => exact .throw fun _ like => like
  | some executor =>
    refine .bind (q := fun _ => LikeRooted host v) (.modify fun t like => ?_) fun _ =>
      .bind (q := fun _ => LikeRooted host v) ?_ fun ⟨executed, effect⟩ =>
        .bind (record_effect free (by decide) (by decide) _ _ _ _) fun execution => ?_
    · obtain ⟨same, rooted⟩ := like
      exact ⟨⟨same.organism, same.runtime, same.contents, same.left, same.right, same.alive⟩, rooted⟩
    · cases effectPayload (executor proposal) with
      | ok effect => exact .pure fun _ like => like
      | error e => exact .throw fun _ like => like
    · cases effect with
      | none => exact .throw fun _ like => like
      | some payload =>
        exact .bind (record_effect free (by decide) (by decide) _ _ _ _) fun _ => .pure fun _ like => like

theorem remember_like (free : host.CollisionFree) (clock : String → TimeNs) (cycleSeq : Nat) (cycleId plan : String)
    (health : HealthState) (action : RecoveryAction) (decision : Option Decision) (execution : Option (Bool × String)) :
    Keeps (LikeRooted host v) (remember host clock cycleSeq cycleId plan health action decision execution) := by
  refine .bind (q := fun _ => LikeRooted host v) ?_ fun root => .get_bind fun w like =>
    .bind (q := fun _ => LikeRooted host v)
      ((record_effect free (by decide) (by decide) _ _ _ _).mono (fun t same => same ▸ like) (fun _ _ => id) fun _ =>
        id)
      fun _ => .bind persist_like fun _ => .pure fun _ like => like
  rintro t ⟨same, rooted⟩
  have unmoved : { t with organism := (t.organism.stateRoot host).2 } = t := by rw [rooted.stateRoot]
  show LikeRooted host v { t with organism := (t.organism.stateRoot host).2 }
  rw [unmoved]
  exact ⟨same, rooted⟩

/-- Once the decision is taken, nothing of the engine changes but the events of the effect. -/
theorem conclude_like (free : host.CollisionFree) (effector : Effector) (cycleSeq : Nat) (cycleId : String)
    (health : HealthState) (action : RecoveryAction) (plan : String) (decided : Option (Decision × String × Json)) :
    Keeps (LikeRooted host v) (conclude host effector cycleSeq cycleId health action plan decided) := by
  cases decided with
  | none => exact remember_like free _ _ _ _ _ _ _ _
  | some decided =>
    obtain ⟨decision, event, proposal⟩ := decided
    refine .ite (fun _ => ?_) fun _ => ?_
    · exact .bind (execute_like free _ _ _ _) fun _ => remember_like free _ _ _ _ _ _ _ _
    · exact remember_like free _ _ _ _ _ _ _ _

/-! ## Runs -/

theorem Same.symm (same : Same host w v) : Same host v w :=
  ⟨same.organism.symm, same.runtime.symm, same.contents.symm, same.right, same.left, same.alive.symm⟩

/-- Ticks with different executors and clocks leave engines that differ in effects only. -/
theorem tick_same (free : host.CollisionFree) (policy : HomeostaticPolicy) (stimulus : Stimulus)
    (first second : Effector) (same : Same host w v) :
    Same host (afterwards (tick host policy stimulus first) w) (afterwards (tick host policy stimulus second) v) := by
  have head := deliberate_agree free policy stimulus first.clock second.clock w v same
  have left := @deliberate_rooted host policy stimulus first.clock w trivial
  have right := @deliberate_rooted host policy stimulus second.clock v trivial
  show Same host (afterwards (EStateM.bind _ _) w) (afterwards (EStateM.bind _ _) v)
  unfold afterwards EStateM.bind
  cases one : deliberate host policy stimulus first.clock w with
  | error e s =>
    cases two : deliberate host policy stimulus second.clock v with
    | error e' t =>
      rw [one, two] at head
      exact head
    | ok b t => simp [one, two] at head
  | ok a s =>
    cases two : deliberate host policy stimulus second.clock v with
    | error e' t => simp [one, two] at head
    | ok b t =>
      rw [one, two] at head
      rw [one] at left
      rw [two] at right
      obtain ⟨rfl, further⟩ := head
      obtain ⟨cycleSeq, cycleId, health, action, plan, decided⟩ := a
      have here := Ensures.final (conclude_like free first cycleSeq cycleId health action plan decided)
        (⟨further, left⟩ : LikeRooted host t s)
      have there := Ensures.final (conclude_like free second cycleSeq cycleId health action plan decided)
        (⟨here.1.symm, right⟩ : LikeRooted host _ t)
      exact there.1.symm

/-- What an observer of an engine reads: the state root, and the deliberations of the journal. -/
def observe (host : Host) (w : World) : String × List Content :=
  ((w.organism.stateRoot host).1, deliberations w.journal.durable)

/-- An engine that is driven by one of two effectors. -/
def drive (host : Host) (policy : HomeostaticPolicy) (choice : Effector × Effector → Effector) (w : World)
    (d : Stimulus × Effector × Effector) : (String × List Content) × World :=
  (observe host (afterwards (tick host policy d.1 (choice d.2)) w), afterwards (tick host policy d.1 (choice d.2)) w)

def engine (journal : Journal) (organism : GovernedOrganism) (runtime : RuntimeState) : World :=
  ⟨journal, organism, runtime, [], none⟩

/-- After every tick of two engines that start alike and are driven alike, whatever their
executors do, the state roots and the deliberations are the same. -/
theorem executor_noninterference (free : host.CollisionFree) (policy : HomeostaticPolicy) {journal : Journal}
    (sound : Sound host journal) (organism : GovernedOrganism) (runtime : RuntimeState)
    (drives : List (Stimulus × Effector × Effector)) :
    Machine.outputs (drive host policy Prod.fst) (engine journal organism runtime) drives =
      Machine.outputs (drive host policy Prod.snd) (engine journal organism runtime) drives := by
  refine (Machine.outputs_eq (Same host) (fun w v d same => ?_) drives
    ⟨rfl, rfl, rfl, sound, sound, rfl, rfl⟩).1
  have further := tick_same free policy d.1 d.2.1 d.2.2 same
  refine ⟨?_, further⟩
  show observe host _ = observe host _
  rw [observe, observe, further.organism, deliberations_eq further.contents]

/-- The executor of one engine succeeds, that of the other one raises. -/
def sampleDrive : Stimulus × Effector × Effector :=
  (sampleStimulus, ⟨some fun _ => .result (.str "OK") [], fun _ => ⟨0, by decide⟩⟩,
    ⟨some fun _ => .raised "RuntimeError" "lost", fun _ => ⟨1, by decide⟩⟩)

theorem executor_noninterference_sample :
    Machine.outputs (drive hexHost samplePolicy Prod.fst)
        (engine Journal.empty (.sample hexHost) .fresh) [sampleDrive, sampleDrive] =
      Machine.outputs (drive hexHost samplePolicy Prod.snd)
        (engine Journal.empty (.sample hexHost) .fresh) [sampleDrive, sampleDrive] :=
  executor_noninterference hexHost_collisionFree samplePolicy Sound.empty (.sample hexHost) .fresh
    [sampleDrive, sampleDrive]

end

end MatVerse.Physiology
