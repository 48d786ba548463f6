import MatVerse.ProposalExecuted

/-! What an executed effect leaves: it is fed back and stored exactly when the tick could
record the answer of its executor, in whatever way the engine came to that tick. -/
namespace MatVerse.Physiology

open Fallible

/-! ## Runs with crashes -/

/-- Ticks, restarts, and processes that end inside a tick. -/
inductive LoopStep (organismId : String) where
  | call (c : LoopCall organismId)
  /-- The process ends after so many durable writes of a tick, and another one starts. -/
  | crash (input : LoopInput) (writes : Nat) (organism : { o : GovernedOrganism // o.identity.organismId = organismId })

section
variable (host : Host) {upper : String → String} (policy : HomeostaticPolicy)
    (feedbackPolicy : EffectFeedbackPolicy upper)
  (secret : String) {organismId : String}

def loopStep (l : Loop) : LoopStep organismId → Except EngineError Loop
  | .call c => loopCall host policy feedbackPolicy secret l c
  | .crash input writes organism =>
    loopCall host policy feedbackPolicy secret
      ((afterwards (loopTick host policy feedbackPolicy secret input) (l.fused (some writes))).fused none)
      (.restart organism)

/-- What the outcome of an execution must leave: one effect more, the streak and the gate
that it makes, and all of this stored. -/
structure FedBack (input : LoopInput) (outcome : ExecutorOutcome) (l v : Loop) : Prop where
  stored : Holds host secret v.world.journal v.world.organism v.feedback
  effects : ∃ cycleId, v.effects = l.effects ++
    [⟨cycleId, effectStatus host (some outcome), (measure policy input.after).health⟩]
  success : feedbackPolicy.accepts (effectStatus host (some outcome)) = true →
    (measure policy input.after).health = some .normal → v.feedback.failureStreak = 0 ∧
    v.feedback.recoveryRequired = false
  failure : ¬(feedbackPolicy.accepts (effectStatus host (some outcome)) = true ∧
      (measure policy input.after).health = some .normal) →
    v.feedback.failureStreak = l.feedback.failureStreak + 1 ∧
      (feedbackPolicy.failuresBeforeRecoveryGate ≤ v.feedback.failureStreak → v.feedback.recoveryRequired = true)

end

section
variable {host : Host} {upper : String → String} {policy : HomeostaticPolicy}
    {feedbackPolicy : EffectFeedbackPolicy upper}
  {secret organismId : String} {l v : Loop}

variable (host secret organismId l) in
/-- A loop between ticks: its feedback state is held, and its events are counted. -/
structure Steadfast : Prop where
  alive : l.world.fuse = none
  kept : Kept host secret organismId l.feedback l.world
  counted : Counted host l.world

theorem Counted.fused {w : World} (counted : Counted host w) (fuse : Option Nat) :
    Counted host { w with fuse := fuse } :=
  ⟨counted.sound, counted.stored⟩

theorem Kept.fused {f : FeedbackState} {w : World} (kept : Kept host secret organismId f w) (fuse : Option Nat) :
    Kept host secret organismId f { w with fuse := fuse } := ⟨kept.idle, kept.named, kept.started, kept.holds⟩

variable (policy feedbackPolicy) in
theorem restart_steadfast {f : FeedbackState} (kept : Kept host secret organismId f l.world)
    (counted : Counted host l.world) (alive : l.world.fuse = none)
    {organism : { o : GovernedOrganism // o.identity.organismId = organismId }}
    (done : loopCall host policy feedbackPolicy secret l (.restart organism) = .ok v) :
    Steadfast host secret organismId v := by
  obtain ⟨⟨feedback, runtime⟩, started, done⟩ := bind_ok.mp done
  obtain rfl := Except.ok.inj done
  obtain ⟨-, loaded, booted⟩ := startLoop_ok.mp started
  have named : l.world.organism.identity.organismId = organism.1.identity.organismId := kept.named.trans organism.2.symm
  have holds : Holds host secret l.world.journal.reopen organism.1 f := kept.holds.congr named rfl
  obtain rfl := holds.reloaded rfl loaded
  obtain ⟨r, before, below, numbered⟩ := counted.stored
  have same : start l.world.journal.reopen organism.1 = start l.world.journal l.world.organism :=
    start_congr (j := l.world.journal.reopen) rfl counted.sound.idle rfl named.symm
  have again := Except.ok.inj (booted.symm.trans (same.trans before))
  subst again
  exact ⟨alive, ⟨rfl, organism.2, ⟨runtime, booted⟩, holds⟩, counted.sound.closed, runtime, booted, Nat.le_refl _,
    numbered⟩

variable (policy feedbackPolicy) in
theorem loopTick_steadfast (free : host.CollisionFree) (kept : Kept host secret organismId l.feedback l.world)
    (counted : Counted host l.world) (input : LoopInput) :
    (∃ f, Kept host secret organismId f (afterwards (loopTick host policy feedbackPolicy secret input) l).world) ∧
      Counted host (afterwards (loopTick host policy feedbackPolicy secret input) l).world ∧
      (l.world.fuse = none →
        Steadfast host secret organismId (afterwards (loopTick host policy feedbackPolicy secret input) l)) := by
  have turned := loopTick_turned feedbackPolicy policy kept input l rfl
  have counted := loopTick_counted free policy feedbackPolicy secret counted input l rfl
  unfold afterwards
  cases ran : loopTick host policy feedbackPolicy secret input l with
  | ok r v =>
    rw [ran] at turned counted
    exact ⟨⟨_, turned.1⟩, counted, fun alive => ⟨turned.2.1.alive alive, turned.1, counted⟩⟩
  | error e v =>
    rw [ran] at turned counted
    obtain ⟨settled, turned⟩ := turned
    obtain ⟨-, counted, -⟩ := counted
    refine ⟨settled.elim (fun kept => ⟨_, kept⟩) fun burnt => ⟨_, burnt.2⟩, counted, fun alive => ?_⟩
    have alive := turned.alive alive
    exact ⟨alive, settled.resolve_right fun burnt => by simp [alive] at burnt, counted⟩

theorem loopStep_steadfast (free : host.CollisionFree) (steadfast : Steadfast host secret organismId l)
    {s : LoopStep organismId} (done : loopStep host policy feedbackPolicy secret l s = .ok v) :
    Steadfast host secret organismId v := by
  cases s with
  | call c =>
    cases c with
    | tick input =>
      obtain rfl := Except.ok.inj done
      exact (loopTick_steadfast policy feedbackPolicy free steadfast.kept steadfast.counted input).2.2 steadfast.alive
    | restart organism =>
      exact restart_steadfast policy feedbackPolicy steadfast.kept steadfast.counted steadfast.alive done
  | crash input writes organism =>
    obtain ⟨⟨f, kept⟩, counted, -⟩ := loopTick_steadfast policy feedbackPolicy free
      (l := l.fused (some writes)) (steadfast.kept.fused _) (steadfast.counted.fused _) input
    exact restart_steadfast policy feedbackPolicy (kept.fused none) (counted.fused none) rfl done

variable (host secret) in
theorem steadfast_empty (organism : GovernedOrganism) :
    Steadfast host secret organism.identity.organismId ⟨⟨Journal.empty, organism, .fresh, [], none⟩, .fresh, []⟩ := by
  have booted : start Journal.empty organism = .ok .fresh := by simp only [start, getState_empty]
  refine ⟨rfl, ⟨rfl, rfl, ⟨_, booted⟩, holds_unstored rfl (getState_unstored organism)⟩, .empty, _, booted,
    Nat.le_refl _, ?_⟩
  constructor <;> simp [Journal.empty, Connection.connect]

theorem run_steadfast (free : host.CollisionFree) (steps : List (LoopStep organismId))
    (steadfast : Steadfast host secret organismId l)
    (run : steps.foldlM (loopStep host policy feedbackPolicy secret) l = .ok v) :
    Steadfast host secret organismId v := by
  induction steps generalizing l with
  | nil => exact Except.ok.inj run ▸ steadfast
  | cons s rest ih =>
    rw [List.foldlM_cons] at run
    obtain ⟨u, done, run⟩ := bind_ok.mp run
    exact ih (loopStep_steadfast free steadfast done) run

theorem Fed.fedBack {input : LoopInput} {outcome : ExecutorOutcome} {effect : Effect}
    (fed : Fed host feedbackPolicy effect l v) (status : effect.status = effectStatus host (some outcome))
    (health : effect.health = (measure policy input.after).health)
    (stored : Holds host secret v.world.journal v.world.organism v.feedback) :
    FedBack host policy feedbackPolicy secret input outcome l v := by
  obtain ⟨text, changed⟩ := fed.changed
  have good : effect.good feedbackPolicy = true ↔ feedbackPolicy.accepts (effectStatus host (some outcome)) = true ∧
      (measure policy input.after).health = some .normal := by
    simp [Effect.good, status, health]
  refine ⟨stored, ⟨effect.cycleId, by rw [fed.effects, ← status, ← health]⟩, fun accepted normal => ?_, fun bad => ?_⟩
  · rw [changed, good.mpr ⟨accepted, normal⟩]
    exact ⟨rfl, rfl⟩
  · rw [← good, Bool.not_eq_true] at bad
    rw [changed, bad]
    unfold FeedbackState.after
    simp only [Bool.false_eq_true, if_false]
    split
    next reached => exact ⟨rfl, fun _ => rfl⟩
    next short => exact ⟨rfl, fun reached => absurd reached short⟩

variable (policy feedbackPolicy) in
theorem Recordable.fedBack (free : host.CollisionFree) (steadfast : Steadfast host secret organismId l)
    (input : LoopInput) {executor : Json → ExecutorOutcome} (armed : input.effector.executor = some executor) {p : Json}
    (fit : Recordable (executeAndCapture executor p))
    (executed : .executed p ∈ (afterwards (loopTick host policy feedbackPolicy secret input) l).world.moments.drop
      l.world.moments.length) :
    FedBack host policy feedbackPolicy secret input (executeAndCapture executor p) l
      (afterwards (loopTick host policy feedbackPolicy secret input) l) := by
  have turned := loopTick_turned feedbackPolicy policy steadfast.kept input l rfl
  have counted := loopTick_counted free policy feedbackPolicy secret steadfast.counted input l rfl
  have later :=
    (loopTick_steadfast policy feedbackPolicy free steadfast.kept steadfast.counted input).2.2 steadfast.alive
  unfold afterwards at executed later ⊢
  cases ran : loopTick host policy feedbackPolicy secret input l with
  | ok r v =>
    rw [ran] at turned executed later
    obtain ⟨-, turned, returned⟩ := turned
    obtain ⟨_, -, -, more⟩ := returned p executed
    rcases turned.fedBack with ⟨-, same⟩ | ⟨effect, ⟨q, executor', listed, armed', status, health⟩, fed, -⟩
    · exact absurd (same.symm.trans more) (by simp)
    · obtain rfl := turned.once p q executed listed
      obtain rfl := Option.some.inj (armed.symm.trans armed')
      exact fed.fedBack status health later.kept.holds
  | error e v =>
    rw [ran] at counted executed later
    obtain ⟨stimulus, -, ran, held, stopped⟩ := counted
    have same : ran = some p := (held.mem_drop p).mp executed
    rcases stopped with idle | burnt | ⟨q, asked, unfit⟩
    · cases same.symm.trans idle
    · cases later.alive.symm.trans burnt
    · obtain rfl := Option.some.inj (same.symm.trans asked)
      exact absurd fit (unfit _ (by rw [Effector.wrapped, armed, Option.map_some]))

theorem FedBack.recordable {input : LoopInput} {executor : Json → ExecutorOutcome}
    (armed : input.effector.executor = some executor) {p : Json} (turned : Turned host policy feedbackPolicy input l v)
    (executed : .executed p ∈ v.world.moments.drop l.world.moments.length)
    (fed : FedBack host policy feedbackPolicy secret input (executeAndCapture executor p) l v) :
    Recordable (executeAndCapture executor p) := by
  rcases turned.fedBack with ⟨-, same⟩ | ⟨effect, -, -, recordable⟩
  · obtain ⟨cycleId, more⟩ := fed.effects
    exact absurd (same.symm.trans more) (by simp)
  · exact recordable executor armed p executed

/-- In every run, crashes included: what an executor was called for is fed back exactly when
its answer can be recorded. -/
theorem feedback_recorded_iff (free : host.CollisionFree) (organism : GovernedOrganism)
    {steps : List (LoopStep organism.identity.organismId)}
    (run : steps.foldlM (loopStep host policy feedbackPolicy secret)
      ⟨⟨Journal.empty, organism, .fresh, [], none⟩, .fresh, []⟩ = .ok l) (input : LoopInput)
    {executor : Json → ExecutorOutcome} (armed : input.effector.executor = some executor) {p : Json}
    (executed : .executed p ∈ (afterwards (loopTick host policy feedbackPolicy secret input) l).world.moments.drop
      l.world.moments.length) :
    FedBack host policy feedbackPolicy secret input (executeAndCapture executor p) l
        (afterwards (loopTick host policy feedbackPolicy secret input) l) ↔
      Recordable (executeAndCapture executor p) := by
  have steadfast := run_steadfast free steps (steadfast_empty host secret organism) run
  have turned := ((loopTick_turned feedbackPolicy policy steadfast.kept input).mono (fun _ => id)
    (fun _ _ done => done.2.1) fun _ done => done.2).final rfl
  exact ⟨FedBack.recordable armed turned executed, fun fit =>
    fit.fedBack policy feedbackPolicy free steadfast input armed executed⟩

/-! ### On a first tick -/

def recordedInput (executor : Json → ExecutorOutcome) : LoopInput :=
  ⟨sampleStimulus, ⟨some executor, fun _ => ⟨0, zero_range⟩⟩, .unavailable "OSError" ""⟩

def firstLoop (host : Host) : Loop := ⟨⟨Journal.empty, .sample host, .fresh, [], none⟩, .fresh, []⟩

def firstTick (host : Host) (executor : Json → ExecutorOutcome) : Loop :=
  afterwards (loopTick host samplePolicy defaultFeedbackPolicy "feedback-secret" (recordedInput executor))
    (firstLoop host)

theorem assess_sample : ∃ a, assess samplePolicy sampleStimulus.sample sampleStimulus.journalOk = .ok a ∧
    a.state = .normal := by
  have decided : (assess samplePolicy sampleStimulus.sample sampleStimulus.journalOk).toOption.map
      HealthAssessment.state =
      some .normal := by decide +kernel
  cases done : assess samplePolicy sampleStimulus.sample sampleStimulus.journalOk with
  | ok a =>
    rw [done] at decided
    exact ⟨a, rfl, Option.some.inj decided⟩
  | error e =>
    rw [done] at decided
    cases decided

theorem firstTick_executes (free : host.CollisionFree) (executor : Json → ExecutorOutcome) :
    .executed (jsonClone (.dict [("action", .str "A")])) ∈
      (firstTick host executor).world.moments.drop (firstLoop host).world.moments.length := by
  obtain ⟨a, assessed, normal⟩ := assess_sample
  exact @loopTick_executes host _ _ free _ defaultFeedbackPolicy "feedback-secret" (recordedInput executor)
    ⟨rfl, rfl, rfl, rfl⟩ assessed normal _ rfl _ rfl (firstLoop host)
    (steadfast_empty host "feedback-secret" (.sample host)).counted rfl rfl ⟨rfl, rfl⟩ rfl

theorem firstRun : ([] : List (LoopStep (GovernedOrganism.sample host).identity.organismId)).foldlM
    (loopStep host samplePolicy defaultFeedbackPolicy "feedback-secret") (firstLoop host) = .ok (firstLoop host) := rfl

theorem feedback_recorded_iff_sample :
    FedBack hexHost samplePolicy defaultFeedbackPolicy "feedback-secret" (recordedInput fun _ => .result (.str "OK") [])
        (executeAndCapture (fun _ => .result (.str "OK") []) (jsonClone (.dict [("action", .str "A")])))
        (firstLoop hexHost) (firstTick hexHost fun _ => .result (.str "OK") []) ↔
      Recordable (executeAndCapture (fun _ => .result (.str "OK") []) (jsonClone (.dict [("action", .str "A")]))) := by
  have free := hexHost_collisionFree
  generalize hexHost = host at free ⊢
  exact feedback_recorded_iff free (.sample host) firstRun (recordedInput fun _ => .result (.str "OK") []) rfl
    (firstTick_executes free fun _ => .result (.str "OK") [])

theorem firstTick_turned (executor : Json → ExecutorOutcome) :
    Turned host samplePolicy defaultFeedbackPolicy (recordedInput executor) (firstLoop host)
    (firstTick host executor) :=
  Ensures.final ((loopTick_turned defaultFeedbackPolicy samplePolicy
    (steadfast_empty host "feedback-secret" (.sample host)).kept (recordedInput executor)).mono
      (fun _ => id) (fun _ _ done => done.2.1) fun _ done => done.2) rfl

/-- A tick whose executor returns what has no JSON text: it was executed, and nothing is fed back. -/
theorem feedback_unrecorded : ∃ p, .executed p ∈ (firstTick hexHost fun _ => .unrecordable true true).world.moments ∧
    (firstTick hexHost fun _ => .unrecordable true true).feedback = .fresh ∧
    ¬FedBack hexHost samplePolicy defaultFeedbackPolicy "feedback-secret"
    (recordedInput fun _ => .unrecordable true true)
      (.unrecordable true true) (firstLoop hexHost) (firstTick hexHost fun _ => .unrecordable true true) := by
  have executed := firstTick_executes hexHost_collisionFree fun _ => .unrecordable true true
  refine ⟨_, List.mem_of_mem_drop executed, ?_⟩
  rcases (firstTick_turned fun _ => .unrecordable true true).fedBack with ⟨same, effects⟩ | ⟨effect, -, -, recordable⟩
  · refine ⟨same, fun fed => ?_⟩
    obtain ⟨cycleId, more⟩ := fed.effects
    exact absurd (effects.symm.trans more) (by simp)
  · obtain ⟨_, _, refused⟩ := recordable _ rfl _ executed
    cases refused

end

end MatVerse.Physiology
