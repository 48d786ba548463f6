import MatVerse.LlmPublicationBridge

/-! Plans of external writes. Each call of the bridge checks one link of the chain
proposal, review, authorization, plan; the law of a plan is about the whole chain. -/
namespace MatVerse.LlmPublication

open Fallible

/-- A key of a value, at any depth. -/
inductive KeyIn (key : String) : Json → Prop where
  | here {entries : List (String × Json)} {v : Json} : (key, v) ∈ entries → KeyIn key (.obj entries)
  | entry {entries : List (String × Json)} {k : String} {v : Json} :
      (k, v) ∈ entries → KeyIn key v → KeyIn key (.obj entries)
  | item {items : List Json} {v : Json} : v ∈ items → KeyIn key v → KeyIn key (.arr items)

/-- A key that names an authority or secret field. -/
def Forbidden (key : String) : Prop := lower (Text.strip key) ∈ forbiddenAgentOutputKeys

/-- A plan, with the arguments it was made from and the registry at that moment. -/
structure Plan where
  registry : CapabilityRegistry
  work : WorkItem
  proposal : AgentProposal
  target : String
  authorization : Option Authorization
  planned : PlannedAction

inductive PlanCall where
  | bridge (call : Call)
  | planAction (work : WorkItem) (proposal : AgentProposal) (action target : String)
      (authorization : Option Authorization)

structure Planning where
  world : World
  plans : List Plan

def Planning.empty : Planning := ⟨World.empty, []⟩

/-- The call is given objects that earlier calls returned. -/
def PlanCall.Known (w : World) : PlanCall → Prop
  | .bridge call => call.Known w
  | .planAction _ proposal _ _ authorization =>
    proposal ∈ w.proposals ∧ ∀ a, authorization = some a → a ∈ w.authorizations

section
variable (host : Host)

def Planning.after (s : Planning) : PlanCall → Planning
  | .bridge call => { s with world := s.world.after host call }
  | .planAction work proposal action target authorization =>
    match LlmPublication.planAction host work proposal action target authorization with
    | .ok planned => { s with
        plans := s.plans ++ [⟨s.world.registry, work, proposal, target, authorization, planned⟩] }
    | .error _ => s

/-- A call may be given any arguments, also objects that a caller has built. -/
def PlanStep (s : Planning) (call : PlanCall) (next : Planning) : Prop := next = s.after host call

/-- Every call is given objects that earlier calls returned. -/
def PassedOn : Planning → List PlanCall → Prop
  | _, [] => True
  | s, call :: rest => call.Known s.world ∧ PassedOn (s.after host call) rest

/-- The review that an authorization was issued on, with its proposal. -/
def IssuedOn (w : World) (a : Authorization) (p : AgentProposal) (r : AgentReview) : Prop :=
  p ∈ w.proposals ∧ r ∈ w.reviews ∧
    authorize host p r a.action a.principal a.authorityKind a.scope = .ok a

/-- The separation of powers behind a plan: `covers` says which targets a scope is for. -/
structure Lawful (covers : String → String → Prop) (w : World) (plan : Plan) : Prop where
  work : plan.proposal.workId = plan.work.workId ∧ plan.planned.workId = plan.work.workId
  authorized : ∃ a, plan.authorization = some a ∧ a.proposalId = plan.proposal.proposalId ∧
    a.action = plan.planned.action ∧ covers a.scope plan.planned.target ∧
    (∃ p r, IssuedOn host w a p r) ∧
    (∀ p r, IssuedOn host w a p r →
      [plan.proposal.capabilityPrincipal, r.reviewerPrincipal, a.principal].Nodup) ∧
    ∀ c ∈ plan.registry, c.principal ≠ a.principal
  clean : ∀ key, KeyIn key (Json.dict plan.proposal.payload).norm → ¬ Forbidden key

end

/-- What no call checks: the proposal is the work's, the scope is for the target, the
authorizer is not a registered model, and no field below the payload's own is forbidden. -/
structure Unchecked (covers : String → String → Prop) (plan : Plan) : Prop where
  work : plan.proposal.workId = plan.work.workId
  scope : ∀ a, plan.authorization = some a → covers a.scope plan.target
  authorizer : ∀ a, plan.authorization = some a → ∀ c ∈ plan.registry, c.principal ≠ a.principal
  nested : ∀ field ∈ Dict.ofPairs plan.proposal.payload, ∀ key, KeyIn key field.2.norm → ¬ Forbidden key

/-! ## What the calls check -/

variable {host : Host} {w : World} {s next : Planning}

theorem assertAgentPayload_ok {payload : Mapping} (done : assertAgentPayload payload = .ok ()) :
    ∀ field ∈ payload, ¬ Forbidden field.1 := by
  unfold assertAgentPayload at done
  split at done
  case h_1 => cases done
  case h_2 none_found =>
    intro field member forbidden
    have passed := List.find?_eq_none.mp none_found field member
    rw [List.contains_iff_mem] at passed
    exact passed forbidden

/-- A forbidden field is the payload's own or below one of them. -/
theorem keyIn_payload {payload : Mapping} {key : String} :
    KeyIn key (Json.dict payload).norm ↔
      ∃ field ∈ Dict.ofPairs payload, field.1 = key ∨ KeyIn key field.2.norm := by
  rw [Json.norm_dict, Json.dict, ← Dict.ofPairs_map]
  constructor
  · intro occurs
    cases occurs with
    | here member =>
      obtain ⟨field, listed, same⟩ := List.mem_map.mp member
      exact ⟨field, listed, .inl (Prod.mk.inj same).1⟩
    | entry member below =>
      obtain ⟨field, listed, same⟩ := List.mem_map.mp member
      obtain ⟨_, rfl⟩ := Prod.mk.inj same
      exact ⟨field, listed, .inr below⟩
  · rintro ⟨field, listed, rfl | below⟩
    · exact .here (List.mem_map.mpr ⟨field, listed, rfl⟩)
    · exact .entry (List.mem_map.mpr ⟨field, listed, rfl⟩) below

theorem propose_clean {registry : CapabilityRegistry} {work : WorkItem} {capabilityId : String} {role : Role}
    {payload : Mapping} {p : AgentProposal} (done : propose host registry work capabilityId role payload = .ok p) :
    ∀ field ∈ p.payload, ¬ Forbidden field.1 := by
  simp only [propose, bind_ok, guard_ok, pure_ok] at done
  obtain ⟨capability, _, _, _, checked, rfl⟩ := done
  exact assertAgentPayload_ok checked

/-- An authorization stands on its proposal and an approval of it, by a third principal. -/
theorem authorize_fields {proposal : AgentProposal} {r : AgentReview} {action principal scope : String}
    {authorityKind : AuthorityKind} {a : Authorization}
    (done : authorize host proposal r action principal authorityKind scope = .ok a) :
    a.proposalId = proposal.proposalId ∧ r.proposalId = proposal.proposalId ∧
      a.principal ≠ proposal.capabilityPrincipal ∧ a.principal ≠ r.reviewerPrincipal ∧
      authorize host proposal r a.action a.principal a.authorityKind a.scope = .ok a := by
  have fields := done
  simp only [authorize, guard_ok, pure_ok, bne_iff_ne, ne_eq, not_not, Bool.or_eq_true, beq_iff_eq,
    not_or] at fields
  obtain ⟨same, _, ⟨⟨_, generator⟩, reviewer⟩, _, _, rfl⟩ := fields
  exact ⟨rfl, same, generator, reviewer, done⟩

theorem coverWrite_ok {proposal : AgentProposal} {action : String} {authorization : Option Authorization}
    (done : coverWrite proposal action authorization = .ok ()) :
    ∃ a, authorization = some a ∧ a.proposalId = proposal.proposalId ∧ a.action = action := by
  cases authorization with
  | none => cases done
  | some a =>
    simp only [coverWrite] at done
    split at done
    · cases done
    next both =>
      simp only [Bool.or_eq_true, bne_iff_ne, ne_eq, not_or, not_not] at both
      exact ⟨a, rfl, both⟩

theorem planAction_ok {work : WorkItem} {proposal : AgentProposal} {action target : String}
    {authorization : Option Authorization} {planned : PlannedAction}
    (done : planAction host work proposal action target authorization = .ok planned) :
    planned.workId = work.workId ∧ planned.target = target ∧
      (planned.sideEffect = true → ∃ a, authorization = some a ∧ a.proposalId = proposal.proposalId ∧
        a.action = planned.action) := by
  unfold planAction at done
  by_cases write : writeActions.contains action = true
  · simp only [write, if_true, bind_ok, pure_ok] at done
    obtain ⟨_, covered, rfl⟩ := done
    exact ⟨rfl, rfl, fun _ => coverWrite_ok covered⟩
  · rw [if_neg write] at done
    obtain rfl := pure_ok.mp done
    exact ⟨rfl, rfl, fun effect => absurd effect write⟩

/-! ## Runs -/

/-- What planning has checked of a plan, whatever its arguments were. -/
structure Checked (plan : Plan) : Prop where
  work : plan.planned.workId = plan.work.workId
  target : plan.planned.target = plan.target
  covered : plan.planned.sideEffect = true → ∃ a, plan.authorization = some a ∧
    a.proposalId = plan.proposal.proposalId ∧ a.action = plan.planned.action

theorem checked_step {call : PlanCall} (checked : ∀ plan ∈ s.plans, Checked plan)
    (step : PlanStep host s call next) : ∀ plan ∈ next.plans, Checked plan := by
  subst step
  cases call with
  | bridge call => exact checked
  | planAction work proposal action target authorization =>
    simp only [Planning.after]
    split
    next planned done =>
      intro plan member
      rcases List.mem_append.mp member with earlier | new
      · exact checked plan earlier
      · obtain rfl := List.mem_singleton.mp new
        obtain ⟨work, target, covered⟩ := planAction_ok done
        exact ⟨work, target, covered⟩
    · exact checked

theorem checked_run {calls : List PlanCall} (run : Run (PlanStep host) Planning.empty calls s) :
    ∀ plan ∈ s.plans, Checked plan :=
  run.invariant (fun s => ∀ plan ∈ s.plans, Checked plan) (fun _ _ _ checked step => checked_step checked step)
    (by simp [Planning.empty])

/-- How the plans of a run hang together with what the bridge returned. -/
structure Grounded (host : Host) (s : Planning) : Prop where
  linked : Linked host s.world
  clean : ∀ p ∈ s.world.proposals, ∀ field ∈ p.payload, ¬ Forbidden field.1
  issued : ∀ a ∈ s.world.authorizations, ∃ p r, IssuedOn host s.world a p r
  planned : ∀ plan ∈ s.plans, plan.proposal ∈ s.world.proposals ∧
    ∀ a, plan.authorization = some a → a ∈ s.world.authorizations

theorem Grounded.empty (host : Host) : Grounded host Planning.empty :=
  ⟨Linked.empty host, by simp [Planning.empty, World.empty], by simp [Planning.empty, World.empty],
    by simp [Planning.empty]⟩

/-- What a call of the bridge adds to a run. -/
structure Extends (host : Host) (w next : World) : Prop where
  proposals : ∀ p ∈ w.proposals, p ∈ next.proposals
  reviews : ∀ r ∈ w.reviews, r ∈ next.reviews
  authorizations : ∀ a ∈ w.authorizations, a ∈ next.authorizations
  proposed : ∀ p ∈ next.proposals, p ∈ w.proposals ∨ ∀ field ∈ p.payload, ¬ Forbidden field.1
  authorized : ∀ a ∈ next.authorizations, a ∈ w.authorizations ∨ ∃ p r, IssuedOn host w a p r

theorem Extends.refl (host : Host) (w : World) : Extends host w w :=
  ⟨fun _ => id, fun _ => id, fun _ => id, fun _ => .inl, fun _ => .inl⟩

/-- One call: it keeps what was returned, and returns checked objects. -/
theorem after_extends {call : Call} (known : call.Known w) : Extends host w (w.after host call) := by
  have kept := Extends.refl host w
  cases call with
  | register capability =>
    simp only [World.after]
    split <;> exact ⟨kept.proposals, kept.reviews, kept.authorizations, kept.proposed, kept.authorized⟩
  | propose work capabilityId role payload =>
    simp only [World.after]
    split
    next p done =>
      refine ⟨fun q member => List.mem_append_left _ member, kept.reviews, kept.authorizations, ?_,
        kept.authorized⟩
      intro q member
      rcases List.mem_append.mp member with earlier | new
      · exact .inl earlier
      · obtain rfl := List.mem_singleton.mp new
        exact .inr (propose_clean done)
    · exact kept
  | review proposal reviewerCapabilityId decision findings =>
    simp only [World.after]
    split
    · exact ⟨kept.proposals, fun r member => List.mem_append_left _ member, kept.authorizations, kept.proposed,
        kept.authorized⟩
    · exact kept
  | authorize proposal r action principal authorityKind scope =>
    simp only [World.after]
    split
    next a done =>
      refine ⟨kept.proposals, kept.reviews, fun b member => List.mem_append_left _ member, kept.proposed, ?_⟩
      intro b member
      rcases List.mem_append.mp member with earlier | new
      · exact .inl earlier
      · obtain rfl := List.mem_singleton.mp new
        exact .inr ⟨proposal, r, known.1, known.2, (authorize_fields done).2.2.2.2⟩
    · exact kept
  | start work =>
    exact ⟨kept.proposals, kept.reviews, kept.authorizations, kept.proposed, kept.authorized⟩
  | transition state target authorization =>
    simp only [World.after]
    split <;> exact ⟨kept.proposals, kept.reviews, kept.authorizations, kept.proposed, kept.authorized⟩

theorem IssuedOn.mono {later : World} {a : Authorization} {p : AgentProposal} {r : AgentReview}
    (grows : Extends host w later) (issued : IssuedOn host w a p r) : IssuedOn host later a p r :=
  ⟨grows.proposals p issued.1, grows.reviews r issued.2.1, issued.2.2⟩

theorem Grounded.step {call : PlanCall} (grounded : Grounded host s) (known : call.Known s.world) :
    Grounded host (s.after host call) := by
  cases call with
  | bridge call =>
    have grows : Extends host s.world (s.world.after host call) := after_extends known
    refine ⟨grounded.linked.step ⟨known, rfl⟩, ?_, ?_, ?_⟩
    · intro p member
      exact (grows.proposed p member).elim (grounded.clean p) id
    · intro a member
      have issued := (grows.authorized a member).elim (grounded.issued a) id
      obtain ⟨p, r, issued⟩ := issued
      exact ⟨p, r, issued.mono grows⟩
    · intro plan member
      obtain ⟨proposal, authorization⟩ := grounded.planned plan member
      exact ⟨grows.proposals _ proposal, fun a carried => grows.authorizations a (authorization a carried)⟩
  | planAction work proposal action target authorization =>
    simp only [Planning.after]
    split
    next planned done =>
      refine ⟨grounded.linked, grounded.clean, grounded.issued, ?_⟩
      intro plan member
      rcases List.mem_append.mp member with earlier | new
      · exact grounded.planned plan earlier
      · obtain rfl := List.mem_singleton.mp new
        exact known
    · exact grounded

theorem Grounded.run {calls : List PlanCall} (run : Run (PlanStep host) s calls next)
    (passed : PassedOn host s calls) (grounded : Grounded host s) : Grounded host next := by
  induction run with
  | nil => exact grounded
  | cons step _ ih =>
    obtain ⟨known, others⟩ := passed
    subst step
    exact ih others (grounded.step known)

/-- Generator, reviewer and authorizer behind an authorization of a proposal's name. -/
theorem Grounded.separated (grounded : Grounded host s) (apart : TellsApart host s.world.cores)
    {plan : AgentProposal} (planned : plan ∈ s.world.proposals) {a : Authorization}
    (covers : a.proposalId = plan.proposalId) {p : AgentProposal} {r : AgentReview}
    (issued : IssuedOn host s.world a p r) :
    [plan.capabilityPrincipal, r.reviewerPrincipal, a.principal].Nodup := by
  obtain ⟨proposed, reviewed, done⟩ := issued
  obtain ⟨about, same, generator, reviewer, _⟩ := authorize_fields done
  obtain ⟨q, generated, reviewOf, independent⟩ := grounded.linked.reviewed r reviewed
  have own : plan.capabilityPrincipal = p.capabilityPrincipal :=
    grounded.linked.principal apart planned proposed (covers.symm.trans about)
  have other : q.capabilityPrincipal = p.capabilityPrincipal :=
    grounded.linked.principal apart generated proposed (reviewOf.symm.trans same)
  rw [own]
  rw [other] at independent
  simp [independent.symm, generator.symm, reviewer.symm]

/-- In every run, whatever the calls are given, a planned write keeps the separation of powers
only if what no call checks holds of it, and does if the calls were given what earlier calls
returned. -/
theorem plan_lawful_iff (covers : String → String → Prop) {calls : List PlanCall}
    (run : Run (PlanStep host) Planning.empty calls s) (apart : TellsApart host s.world.cores) {plan : Plan}
    (member : plan ∈ s.plans) (write : plan.planned.sideEffect = true) :
    (Lawful host covers s.world plan → Unchecked covers plan) ∧
      (PassedOn host Planning.empty calls → Unchecked covers plan → Lawful host covers s.world plan) := by
  have checked := checked_run run plan member
  constructor
  · intro lawful
    obtain ⟨a, carried, _, _, scope, _, _, registered⟩ := lawful.authorized
    refine ⟨lawful.work.1, ?_, ?_, ?_⟩
    · intro b other
      obtain rfl := Option.some.inj (carried.symm.trans other)
      rwa [← checked.target]
    · intro b other
      obtain rfl := Option.some.inj (carried.symm.trans other)
      exact registered
    · intro field listed key below
      exact lawful.clean key (keyIn_payload.mpr ⟨field, listed, .inr below⟩)
  · intro passed unchecked
    have grounded := Grounded.run run passed (Grounded.empty host)
    obtain ⟨proposal, authorization⟩ := grounded.planned plan member
    obtain ⟨a, carried, about, action⟩ := checked.covered write
    refine ⟨⟨unchecked.work, checked.work⟩, ⟨a, carried, about, action, ?_, grounded.issued a (authorization a carried),
      fun p r issued => grounded.separated apart proposal about issued, unchecked.authorizer a carried⟩, ?_⟩
    · rw [checked.target]
      exact unchecked.scope a carried
    · intro key occurs
      obtain ⟨field, listed, rfl | below⟩ := keyIn_payload.mp occurs
      · exact grounded.clean _ proposal field (Dict.mem_ofPairs listed)
      · exact unchecked.nested field listed key below

/-- A run of the bridge is a run of the planner that plans nothing. -/
theorem run_bridge {calls : List Call} {before after : World} (run : Run (Step host) before calls after)
    (plans : List Plan) : Run (PlanStep host) ⟨before, plans⟩ (calls.map .bridge) ⟨after, plans⟩ := by
  induction run with
  | nil => exact .nil
  | cons step _ ih =>
    obtain ⟨_, rfl⟩ := step
    exact .cons rfl ih

theorem passedOn_bridge {calls : List Call} {before after : World} (run : Run (Step host) before calls after)
    (plans : List Plan) {rest : List PlanCall} (passed : PassedOn host ⟨after, plans⟩ rest) :
    PassedOn host ⟨before, plans⟩ (calls.map .bridge ++ rest) := by
  induction run with
  | nil => exact passed
  | cons step _ ih =>
    obtain ⟨known, rfl⟩ := step
    exact ⟨known, ih passed⟩

def samplePlan (workId : String) : PlanCall :=
  .planAction (sampleWork workId) sampleProposal "git.push" "publication:paper-001"
    (some (sampleAuthorization "git.push"))

def sampleChain (workId : String) : List PlanCall :=
  (sampleCalls "git.push" "paper-001").map .bridge ++ [samplePlan workId]

/-- The proposal for `paper-001` is authorized, then a push is planned for some work. -/
theorem sample_planned (workId : String) : ∃ s plan,
    Run (PlanStep zeroHost) Planning.empty (sampleChain workId) s ∧
    PassedOn zeroHost Planning.empty (sampleChain workId) ∧ TellsApart zeroHost s.world.cores ∧
    plan ∈ s.plans ∧ plan.planned.sideEffect = true ∧ plan.work = sampleWork workId ∧
    plan.proposal = sampleProposal ∧ plan.target = "publication:paper-001" ∧
    plan.authorization = some (sampleAuthorization "git.push") ∧ plan.registry = [gpt, minimax] := by
  obtain ⟨run, cores, proposals, _, _⟩ := @sample_run "git.push" (by simp) "paper-001"
  have authorizations : (sampleWorld "git.push" "paper-001").authorizations =
      [sampleAuthorization "git.push"] := rfl
  have known : (samplePlan workId).Known (sampleWorld "git.push" "paper-001") := by
    constructor
    · rw [proposals]
      exact List.mem_singleton.mpr rfl
    · rintro a ⟨⟩
      rw [authorizations]
      exact List.mem_singleton.mpr rfl
  refine ⟨_, _, (run_bridge run []).append (.single rfl), passedOn_bridge run [] ⟨known, trivial⟩, ?_, .head _,
    rfl, rfl, rfl, rfl, rfl, rfl⟩
  change TellsApart zeroHost (sampleWorld "git.push" "paper-001").cores
  rw [cores]
  intro a left b right _
  rw [List.mem_singleton.mp left, List.mem_singleton.mp right]

/-- A push of the proposal's own work, within the scope of its authorization. -/
theorem plan_lawful_sample : ∃ w plan, plan.work = sampleWork "paper-001" ∧ Lawful zeroHost Eq w plan := by
  obtain ⟨s, plan, run, passed, apart, member, write, work, proposal, target, carried, registry⟩ :=
    sample_planned "paper-001"
  have unchecked : Unchecked Eq plan := by
    refine ⟨by rw [proposal, work]; rfl, ?_, ?_, ?_⟩
    · intro a other
      obtain rfl := Option.some.inj (carried.symm.trans other)
      exact target.symm
    · intro a other
      obtain rfl := Option.some.inj (carried.symm.trans other)
      rw [registry]
      simp [gpt, minimax, sampleAuthorization]
    · rw [proposal]
      rintro field ⟨⟩
  exact ⟨s.world, plan, work, (plan_lawful_iff Eq run apart member write).2 passed unchecked⟩

/-- A push of another work than the proposal's, whatever the scope is for. -/
theorem plan_unlawful : ∃ calls s, Run (PlanStep zeroHost) Planning.empty calls s ∧
    TellsApart zeroHost s.world.cores ∧
    ∀ covers, ∃ plan ∈ s.plans, plan.planned.sideEffect = true ∧ ¬ Lawful zeroHost covers s.world plan := by
  obtain ⟨s, plan, run, _, apart, member, write, work, proposal, _⟩ := sample_planned "paper-002"
  refine ⟨_, s, run, apart, fun covers => ⟨plan, member, write, fun lawful => ?_⟩⟩
  have same := lawful.work.1
  rw [proposal, work] at same
  exact absurd same (by decide)

end MatVerse.LlmPublication
