import MatVerse.Core
import MatVerse.Lib.Fallible
import MatVerse.Lib.Run
import MatVerse.Lib.Text

/-! The publication bridge of the language models: capabilities propose and review,
an external authority authorizes, and a state machine leads a work to publication. -/
namespace MatVerse.LlmPublication

open Fallible

def schema : String := "matverse.llm-publication-bridge.v1"

inductive Role where
  | research
  | draft
  | code
  | metadata
  | review
  | curation
  | workflow
  | redteam
  deriving DecidableEq

def Role.value : Role → String
  | .research => "research"
  | .draft => "draft"
  | .code => "code"
  | .metadata => "metadata"
  | .review => "review"
  | .curation => "curation"
  | .workflow => "workflow"
  | .redteam => "redteam"

inductive ReviewDecision where
  | approve
  | hold
  | block
  deriving DecidableEq

def ReviewDecision.value : ReviewDecision → String
  | .approve => "APPROVE"
  | .hold => "HOLD"
  | .block => "BLOCK"

inductive AuthorityKind where
  | human
  | constitutional
  deriving DecidableEq

def AuthorityKind.value : AuthorityKind → String
  | .human => "HUMAN"
  | .constitutional => "CONSTITUTIONAL"

inductive Stage where
  | localSource
  | analyzed
  | gitStaged
  | governancePass
  | hfStaged
  | zenodoDraft
  | communityReview
  | publishAuthorized
  | published
  deriving DecidableEq

def Stage.value : Stage → String
  | .localSource => "LOCAL_SOURCE"
  | .analyzed => "ANALYZED"
  | .gitStaged => "GIT_STAGED"
  | .governancePass => "GOVERNANCE_PASS"
  | .hfStaged => "HF_STAGED"
  | .zenodoDraft => "ZENODO_DRAFT"
  | .communityReview => "COMMUNITY_REVIEW"
  | .publishAuthorized => "PUBLISH_AUTHORIZED"
  | .published => "PUBLISHED"

def forbiddenAgentOutputKeys : List String :=
  ["authorized", "authorization", "publish", "published", "merge", "canonical", "canonize", "secret", "token",
    "password", "credential", "api_key"]

def writeActions : List String :=
  ["git.push", "git.merge", "hf.push", "zenodo.create_draft", "zenodo.publish", "community.submit"]

/-- The write actions that publish. -/
def publishActions : List String := ["zenodo.publish"]

structure Capability where
  capabilityId : String
  provider : String
  model : String
  principal : String
  roles : List Role
  enabled : Bool
  named : capabilityId ≠ "" ∧ provider ≠ "" ∧ model ≠ "" ∧ principal ≠ ""
  admitted : roles ≠ []

structure WorkItem where
  workId : String
  artifactSha256 : String
  title : String
  sourceRef : String
  publicationKind : String
  targetVenues : List String
  digest : artifactSha256.length = 64 ∧ Hex.Digits artifactSha256

/-- `asdict(work)`. -/
def WorkItem.toJson (w : WorkItem) : Json :=
  .dict [("work_id", .str w.workId), ("artifact_sha256", .str w.artifactSha256), ("title", .str w.title),
    ("source_ref", .str w.sourceRef), ("publication_kind", .str w.publicationKind),
    ("target_venues", .arr (w.targetVenues.map .str))]

structure AgentProposal where
  proposalId : String
  workId : String
  capabilityId : String
  capabilityPrincipal : String
  role : Role
  payload : Mapping
  payloadHash : String
  receipt : EvidenceReceipt

structure AgentReview where
  reviewId : String
  proposalId : String
  reviewerCapabilityId : String
  reviewerPrincipal : String
  decision : ReviewDecision
  findings : List String
  receipt : EvidenceReceipt

structure Authorization where
  authorizationId : String
  proposalId : String
  action : String
  principal : String
  authorityKind : AuthorityKind
  scope : String
  receipt : EvidenceReceipt

structure PlannedAction where
  actionId : String
  workId : String
  proposalId : String
  action : String
  target : String
  authorizationId : Option String
  sideEffect : Bool
  receipt : EvidenceReceipt

structure PublicationState where
  workId : String
  stage : Stage
  history : List String
  deriving DecidableEq

def bridgeError (message : String) : PyError := .runtimeError message

/-! ## The registry -/

/-- The registered capabilities, in the order of their registration. -/
abbrev CapabilityRegistry := List Capability

namespace CapabilityRegistry

def find (registry : CapabilityRegistry) (capabilityId : String) : Option Capability :=
  registry.find? (fun c => c.capabilityId == capabilityId)

def register (registry : CapabilityRegistry) (capability : Capability) : Except PyError CapabilityRegistry :=
  if (registry.find capability.capabilityId).isSome then
    .error (bridgeError ("duplicate capability_id: " ++ capability.capabilityId))
  else .ok (registry ++ [capability])

def get (registry : CapabilityRegistry) (capabilityId : String) : Except PyError Capability :=
  match registry.find capabilityId with
  | none => .error (bridgeError ("unknown capability: " ++ capabilityId))
  | some capability =>
    if capability.enabled then .ok capability
    else .error (bridgeError ("capability disabled: " ++ capabilityId))

end CapabilityRegistry

/-! ## The bridge -/

/-- `lower()`, as far as it can end in an ASCII word: the Kelvin sign has an ASCII lower case. -/
def lower (s : String) : String := s.map (fun c => if c.toNat = 0x212A then 'k' else c.toLower)

def assertAgentPayload (payload : Mapping) : Except PyError Unit :=
  match payload.find? (fun p => forbiddenAgentOutputKeys.contains (lower (Text.strip p.1))) with
  | some p => .error (bridgeError ("agent output contains authority/secret field: " ++ p.1))
  | none => .ok ()

section
variable (host : Host)

/-- The twenty digits of a digest that an identifier keeps. -/
def shortDigest (document : Json) : String :=
  String.ofList ((sha256Text host (canonicalJson document)).toList.take 20)

/-- `_id`. -/
def identifier (kind : String) (document : Json) : String := kind ++ "-" ++ shortDigest host document

def proposalCore (work : WorkItem) (capabilityId principal : String) (role : Role) (payload : Mapping) : Mapping :=
  [("schema", .str schema), ("work_id", .str work.workId), ("artifact_sha256", .str work.artifactSha256),
    ("capability_id", .str capabilityId), ("capability_principal", .str principal), ("role", .str role.value),
    ("payload", .dict payload)]

def propose (registry : CapabilityRegistry) (work : WorkItem) (capabilityId : String) (role : Role)
    (payload : Mapping) : Except PyError AgentProposal := do
  let capability ← registry.get capabilityId
  if !capability.roles.contains role then
    throw (bridgeError ("capability " ++ capabilityId ++ " is not admitted for role " ++ role.value))
  assertAgentPayload payload
  let core := proposalCore work capability.capabilityId capability.principal role payload
  let proposalId := identifier host "proposal" (.dict core)
  return ⟨proposalId, work.workId, capability.capabilityId, capability.principal, role, payload,
    sha256Text host (canonicalJson (.dict payload)),
    evidenceReceipt host "llm_publication.proposal" (.dict [("work", work.toJson)])
      (.dict (core ++ [("proposal_id", .str proposalId)]))⟩

def review (registry : CapabilityRegistry) (proposal : AgentProposal) (reviewerCapabilityId : String)
    (decision : ReviewDecision) (findings : List String) : Except PyError AgentReview := do
  let reviewer ← registry.get reviewerCapabilityId
  if !reviewer.roles.contains .review && !reviewer.roles.contains .redteam && !reviewer.roles.contains .curation then
    throw (bridgeError "reviewer capability lacks review/redteam/curation role")
  if reviewer.capabilityId == proposal.capabilityId || reviewer.principal == proposal.capabilityPrincipal then
    throw (bridgeError "generator and reviewer must be independent principals")
  let findings := (findings.map Text.strip).filter (· != "")
  let core : Mapping := [("schema", .str schema), ("proposal_id", .str proposal.proposalId),
    ("reviewer_capability_id", .str reviewer.capabilityId), ("reviewer_principal", .str reviewer.principal),
    ("decision", .str decision.value), ("findings", .arr (findings.map .str))]
  let reviewId := identifier host "review" (.dict core)
  return ⟨reviewId, proposal.proposalId, reviewer.capabilityId, reviewer.principal, decision, findings,
    evidenceReceipt host "llm_publication.review" (.dict [("proposal_id", .str proposal.proposalId)])
      (.dict (core ++ [("review_id", .str reviewId)]))⟩

def authorize (proposal : AgentProposal) (review : AgentReview) (action principal : String)
    (authorityKind : AuthorityKind) (scope : String) : Except PyError Authorization := do
  if review.proposalId != proposal.proposalId then throw (bridgeError "review does not belong to proposal")
  if review.decision != .approve then
    throw (bridgeError "only an APPROVE advisory review can proceed to external authorization")
  if principal == "" || principal == proposal.capabilityPrincipal || principal == review.reviewerPrincipal then
    throw (bridgeError "authorizer must be independent from LLM generator/reviewer principals")
  if !writeActions.contains action then throw (bridgeError ("unknown governed write action: " ++ action))
  if scope == "" then throw (bridgeError "authorization scope is required")
  let core : Mapping := [("schema", .str schema), ("proposal_id", .str proposal.proposalId),
    ("review_id", .str review.reviewId), ("action", .str action), ("principal", .str principal),
    ("authority_kind", .str authorityKind.value), ("scope", .str scope)]
  let authorizationId := identifier host "auth" (.dict core)
  return ⟨authorizationId, proposal.proposalId, action, principal, authorityKind, scope,
    evidenceReceipt host "llm_publication.authorization" (.dict [("proposal_id", .str proposal.proposalId)])
      (.dict (core ++ [("authorization_id", .str authorizationId)]))⟩

/-- What `plan_action` asks of the authorization of a write. -/
def coverWrite (proposal : AgentProposal) (action : String) : Option Authorization → Except PyError Unit
  | none => .error (bridgeError ("external write requires authorization: " ++ action))
  | some a =>
    if a.proposalId != proposal.proposalId || a.action != action then
      .error (bridgeError "authorization does not cover this proposal/action")
    else .ok ()

def planAction (work : WorkItem) (proposal : AgentProposal) (action target : String)
    (authorization : Option Authorization) : Except PyError PlannedAction := do
  let sideEffect := writeActions.contains action
  if sideEffect then coverWrite proposal action authorization
  let authorizationId := authorization.map Authorization.authorizationId
  let core : Mapping := [("schema", .str schema), ("work_id", .str work.workId),
    ("proposal_id", .str proposal.proposalId), ("action", .str action), ("target", .str target),
    ("side_effect", .bool sideEffect), ("authorization_id", (authorizationId.map Json.str).getD .null)]
  let actionId := identifier host "action" (.dict core)
  return ⟨actionId, work.workId, proposal.proposalId, action, target, authorizationId, sideEffect,
    evidenceReceipt host "llm_publication.action_plan" (.dict [("proposal_id", .str proposal.proposalId)])
      (.dict (core ++ [("action_id", .str actionId)]))⟩

end

def initialState (work : WorkItem) : PublicationState :=
  ⟨work.workId, .localSource, [Stage.localSource.value]⟩

def allowed : Stage → List Stage
  | .localSource => [.analyzed]
  | .analyzed => [.gitStaged]
  | .gitStaged => [.governancePass]
  | .governancePass => [.hfStaged, .zenodoDraft]
  | .hfStaged => [.zenodoDraft]
  | .zenodoDraft => [.communityReview, .publishAuthorized]
  | .communityReview => [.publishAuthorized]
  | .publishAuthorized => [.published]
  | .published => []

/-- The stages that require an external authorization. -/
def publishStages : List Stage := [.publishAuthorized, .published]

def transition (state : PublicationState) (target : Stage) (authorization : Option Authorization) :
    Except PyError PublicationState := do
  if !(allowed state.stage).contains target then
    throw (bridgeError ("invalid publication transition: " ++ state.stage.value ++ " -> " ++ target.value))
  if publishStages.contains target && authorization.isNone then
    throw (bridgeError (target.value ++ " requires external authorization"))
  return ⟨state.workId, target, state.history ++ [target.value]⟩

/-! ## Runs -/

structure Move where
  before : PublicationState
  after : PublicationState
  authorization : Option Authorization

/-- What the calls of a run have returned. -/
structure World where
  registry : CapabilityRegistry
  proposals : List AgentProposal
  /-- The documents whose digests name the proposals. -/
  cores : List Json
  reviews : List AgentReview
  authorizations : List Authorization
  states : List PublicationState
  moves : List Move

def World.empty : World := ⟨[], [], [], [], [], [], []⟩

inductive Call where
  | register (capability : Capability)
  | propose (work : WorkItem) (capabilityId : String) (role : Role) (payload : Mapping)
  | review (proposal : AgentProposal) (reviewerCapabilityId : String) (decision : ReviewDecision)
      (findings : List String)
  | authorize (proposal : AgentProposal) (review : AgentReview) (action principal : String)
      (authorityKind : AuthorityKind) (scope : String)
  | start (work : WorkItem)
  | transition (state : PublicationState) (target : Stage) (authorization : Option Authorization)

/-- A caller passes on what earlier calls returned. -/
def Call.Known (w : World) : Call → Prop
  | .review proposal _ _ _ => proposal ∈ w.proposals
  | .authorize proposal r _ _ _ _ => proposal ∈ w.proposals ∧ r ∈ w.reviews
  | .transition state _ authorization => state ∈ w.states ∧ ∀ a, authorization = some a → a ∈ w.authorizations
  | .register _ | .propose _ _ _ _ | .start _ => True

section
variable (host : Host)

/-- A call that raises returns nothing. -/
def World.after (w : World) : Call → World
  | .register capability =>
    match w.registry.register capability with
    | .ok registry => { w with registry := registry }
    | .error _ => w
  | .propose work capabilityId role payload =>
    match LlmPublication.propose host w.registry work capabilityId role payload with
    | .ok p => { w with
        proposals := w.proposals ++ [p]
        cores := w.cores ++ [.dict (proposalCore work p.capabilityId p.capabilityPrincipal role payload)] }
    | .error _ => w
  | .review proposal reviewerCapabilityId decision findings =>
    match LlmPublication.review host w.registry proposal reviewerCapabilityId decision findings with
    | .ok r => { w with reviews := w.reviews ++ [r] }
    | .error _ => w
  | .authorize proposal r action principal authorityKind scope =>
    match LlmPublication.authorize host proposal r action principal authorityKind scope with
    | .ok a => { w with authorizations := w.authorizations ++ [a] }
    | .error _ => w
  | .start work => { w with states := w.states ++ [initialState work] }
  | .transition state target authorization =>
    match LlmPublication.transition state target authorization with
    | .ok next => { w with
        states := w.states ++ [next]
        moves := w.moves ++ [⟨state, next, authorization⟩] }
    | .error _ => w

def Step (w : World) (call : Call) (next : World) : Prop := call.Known w ∧ next = w.after host call

end

/-! ## What governs a publication -/

/-- The authorization of a move is for publishing a proposal of the work that moves. -/
def Covered (w : World) (move : Move) : Prop :=
  ∃ a, move.authorization = some a ∧ a.action ∈ publishActions ∧
    ∃ p ∈ w.proposals, p.proposalId = a.proposalId ∧ p.workId = move.after.workId

/-- A move has an authorization to publish a proposal of its work that a principal other
than the generator has approved. -/
def Warranted (w : World) (move : Move) : Prop :=
  ∃ a ∈ w.authorizations, move.authorization = some a ∧ a.action ∈ publishActions ∧
    ∃ p ∈ w.proposals, p.proposalId = a.proposalId ∧ p.workId = move.after.workId ∧
      ∃ r ∈ w.reviews, r.proposalId = p.proposalId ∧ r.decision = .approve ∧
        r.reviewerPrincipal ≠ p.capabilityPrincipal

/-- Whatever reached a stage of publication was moved there with a warrant. -/
def Governed (w : World) : Prop := ∀ move ∈ w.moves, move.after.stage ∈ publishStages → Warranted w move

/-- The short digests of a run tell its proposals apart. -/
def TellsApart (host : Host) (cores : List Json) : Prop :=
  ∀ a ∈ cores, ∀ b ∈ cores, shortDigest host a = shortDigest host b → canonicalJson a = canonicalJson b

/-- How the objects of a run hang together. -/
structure Linked (host : Host) (w : World) : Prop where
  proposed : ∀ p ∈ w.proposals, ∃ core ∈ w.cores, p.proposalId = identifier host "proposal" core ∧
    core.norm.get? "capability_principal" = some (.str p.capabilityPrincipal)
  reviewed : ∀ r ∈ w.reviews, ∃ p ∈ w.proposals, r.proposalId = p.proposalId ∧
    r.reviewerPrincipal ≠ p.capabilityPrincipal
  authorized : ∀ a ∈ w.authorizations, ∃ r ∈ w.reviews, r.proposalId = a.proposalId ∧ r.decision = .approve
  moved : ∀ move ∈ w.moves, ∀ a, move.authorization = some a → a ∈ w.authorizations
  reached : ∀ s ∈ w.states, (∃ work, s = initialState work) ∨
    ∃ move ∈ w.moves, move.after = s ∧ move.before ∈ w.states ∧ move.before.workId = s.workId

variable {host : Host} {w next : World}

theorem propose_ok {registry : CapabilityRegistry} {work : WorkItem} {capabilityId : String} {role : Role}
    {payload : Mapping} {p : AgentProposal} (done : propose host registry work capabilityId role payload = .ok p) :
    p.proposalId = identifier host "proposal"
      (.dict (proposalCore work p.capabilityId p.capabilityPrincipal role payload)) ∧ p.workId = work.workId := by
  simp only [propose, bind_ok, guard_ok, pure_ok] at done
  obtain ⟨capability, _, _, _, _, rfl⟩ := done
  exact ⟨rfl, rfl⟩

theorem review_ok {registry : CapabilityRegistry} {proposal : AgentProposal} {reviewerCapabilityId : String}
    {decision : ReviewDecision} {findings : List String} {r : AgentReview}
    (done : review host registry proposal reviewerCapabilityId decision findings = .ok r) :
    r.proposalId = proposal.proposalId ∧ r.reviewerPrincipal ≠ proposal.capabilityPrincipal := by
  simp only [review, bind_ok, guard_ok, pure_ok, Bool.or_eq_true, beq_iff_eq, not_or] at done
  obtain ⟨reviewer, _, _, ⟨_, independent⟩, rfl⟩ := done
  exact ⟨rfl, independent⟩

theorem authorize_ok {proposal : AgentProposal} {r : AgentReview} {action principal scope : String}
    {authorityKind : AuthorityKind} {a : Authorization}
    (done : authorize host proposal r action principal authorityKind scope = .ok a) :
    r.proposalId = a.proposalId ∧ r.decision = .approve := by
  simp only [authorize, guard_ok, pure_ok, bne_iff_ne, ne_eq, not_not] at done
  obtain ⟨same, approved, _, _, _, rfl⟩ := done
  exact ⟨same, approved⟩

theorem transition_ok {state s : PublicationState} {target : Stage} {authorization : Option Authorization}
    (done : transition state target authorization = .ok s) :
    s.workId = state.workId ∧ (s.stage ∈ publishStages → authorization.isSome = true) := by
  simp only [transition, guard_ok, pure_ok, Bool.and_eq_true, List.contains_iff_mem, not_and,
    Bool.not_eq_true, Option.isNone_eq_false_iff] at done
  obtain ⟨_, required, rfl⟩ := done
  exact ⟨rfl, required⟩

theorem Linked.empty (host : Host) : Linked host World.empty := by
  constructor <;> simp [World.empty]

theorem Linked.step {call : Call} (linked : Linked host w) (step : Step host w call next) : Linked host next := by
  obtain ⟨known, rfl⟩ := step
  cases call with
  | register capability =>
    simp only [World.after]
    split
    · exact ⟨linked.proposed, linked.reviewed, linked.authorized, linked.moved, linked.reached⟩
    · exact linked
  | propose work capabilityId role payload =>
    simp only [World.after]
    split
    next p done =>
      refine ⟨?_, ?_, linked.authorized, linked.moved, linked.reached⟩
      · intro q member
        rcases List.mem_append.mp member with earlier | new
        · obtain ⟨core, listed, rest⟩ := linked.proposed q earlier
          exact ⟨core, List.mem_append_left _ listed, rest⟩
        · obtain rfl := List.mem_singleton.mp new
          exact ⟨_, List.mem_append_right _ (List.mem_singleton.mpr rfl), (propose_ok done).1,
            by simp [proposalCore]⟩
      · intro r member
        obtain ⟨q, listed, rest⟩ := linked.reviewed r member
        exact ⟨q, List.mem_append_left _ listed, rest⟩
    · exact linked
  | review proposal reviewerCapabilityId decision findings =>
    simp only [World.after]
    split
    next r done =>
      refine ⟨linked.proposed, ?_, ?_, linked.moved, linked.reached⟩
      · intro q member
        rcases List.mem_append.mp member with earlier | new
        · exact linked.reviewed q earlier
        · obtain rfl := List.mem_singleton.mp new
          exact ⟨proposal, known, review_ok done⟩
      · intro a member
        obtain ⟨q, listed, rest⟩ := linked.authorized a member
        exact ⟨q, List.mem_append_left _ listed, rest⟩
    · exact linked
  | authorize proposal r action principal authorityKind scope =>
    simp only [World.after]
    split
    next a done =>
      refine ⟨linked.proposed, linked.reviewed, ?_, ?_, linked.reached⟩
      · intro b member
        rcases List.mem_append.mp member with earlier | new
        · exact linked.authorized b earlier
        · obtain rfl := List.mem_singleton.mp new
          exact ⟨r, known.2, authorize_ok done⟩
      · intro move member b carried
        exact List.mem_append_left _ (linked.moved move member b carried)
    · exact linked
  | start work =>
    refine ⟨linked.proposed, linked.reviewed, linked.authorized, linked.moved, ?_⟩
    intro s member
    rcases List.mem_append.mp member with earlier | new
    · refine (linked.reached s earlier).imp id ?_
      rintro ⟨move, listed, after, before, same⟩
      exact ⟨move, listed, after, List.mem_append_left _ before, same⟩
    · exact .inl ⟨work, List.mem_singleton.mp new⟩
  | transition state target authorization =>
    simp only [World.after]
    split
    next s done =>
      refine ⟨linked.proposed, linked.reviewed, linked.authorized, ?_, ?_⟩
      · intro move member a carried
        rcases List.mem_append.mp member with earlier | new
        · exact linked.moved move earlier a carried
        · obtain rfl := List.mem_singleton.mp new
          exact known.2 a carried
      · intro t member
        rcases List.mem_append.mp member with earlier | new
        · refine (linked.reached t earlier).imp id ?_
          rintro ⟨move, listed, after, before, same⟩
          exact ⟨move, List.mem_append_left _ listed, after, List.mem_append_left _ before, same⟩
        · obtain rfl := List.mem_singleton.mp new
          exact .inr ⟨_, List.mem_append_right _ (List.mem_singleton.mpr rfl), rfl, List.mem_append_left _ known.1,
            (transition_ok done).1.symm⟩
    · exact linked

theorem Linked.run {calls : List Call} (run : Run (Step host) World.empty calls w) : Linked host w :=
  run.invariant (Linked host) (fun _ _ _ linked step => linked.step step) (Linked.empty host)

theorem Linked.principal (linked : Linked host w) (apart : TellsApart host w.cores) {p q : AgentProposal}
    (left : p ∈ w.proposals) (right : q ∈ w.proposals) (same : p.proposalId = q.proposalId) :
    p.capabilityPrincipal = q.capabilityPrincipal := by
  obtain ⟨core, listed, named, generator⟩ := linked.proposed p left
  obtain ⟨core', listed', named', generator'⟩ := linked.proposed q right
  rw [named, named', identifier, identifier] at same
  have digests := String.append_right_inj _ |>.mp same
  rw [canonicalJson_injective (apart core listed core' listed' digests), generator'] at generator
  exact (Json.str.inj (Option.some.inj generator)).symm

/-- A covered move is warranted: whoever authorized it had an approval by another principal. -/
theorem Linked.warranted_iff (linked : Linked host w) (apart : TellsApart host w.cores) {move : Move}
    (member : move ∈ w.moves) : Warranted w move ↔ Covered w move := by
  constructor
  · rintro ⟨a, _, carried, publishes, p, proposed, named, own, _⟩
    exact ⟨a, carried, publishes, p, proposed, named, own⟩
  · rintro ⟨a, carried, publishes, p, proposed, named, own⟩
    have issued := linked.moved move member a carried
    obtain ⟨r, reviewed, about, approved⟩ := linked.authorized a issued
    obtain ⟨q, generated, reviewOf, independent⟩ := linked.reviewed r reviewed
    have one : p.proposalId = q.proposalId := named.trans (about.symm.trans reviewOf)
    refine ⟨a, issued, carried, publishes, p, proposed, named, own, r, reviewed, about.trans named.symm, approved, ?_⟩
    rwa [linked.principal apart proposed generated one]

/-- In every run a state that reached a stage of publication was moved there, and its
moves are warranted exactly when their authorizations cover publishing its work. -/
theorem publication_governed_iff {calls : List Call} (run : Run (Step host) World.empty calls w)
    (apart : TellsApart host w.cores) :
    (∀ s ∈ w.states, s.stage ∈ publishStages → ∃ move ∈ w.moves, move.after = s) ∧
      (Governed w ↔ ∀ move ∈ w.moves, move.after.stage ∈ publishStages → Covered w move) := by
  have linked := Linked.run run
  constructor
  · intro s member stage
    rcases linked.reached s member with ⟨work, rfl⟩ | ⟨move, listed, after, _⟩
    · simp [initialState, publishStages] at stage
    · exact ⟨move, listed, after⟩
  · refine forall₃_congr fun move member _ => ?_
    exact linked.warranted_iff apart member

def gpt : Capability :=
  ⟨"gpt", "openai", "configured-openai-model", "llm:openai:gpt", [.research, .draft, .metadata, .review], true,
    by decide, by decide⟩

def minimax : Capability :=
  ⟨"minimax", "minimax", "configured-minimax-model", "llm:minimax", [.review, .redteam, .curation, .metadata], true,
    by decide, by decide⟩

def sampleWork (workId : String) : WorkItem :=
  ⟨workId, zeroDigest, "MatVerse governed publication test", "local://papers/test.md", "living-paper",
    ["git", "hf", "zenodo"], by decide, zeroDigest_digits⟩

def sampleProposal : AgentProposal :=
  let core := proposalCore (sampleWork "paper-001") "gpt" "llm:openai:gpt" .draft []
  let proposalId := identifier zeroHost "proposal" (.dict core)
  ⟨proposalId, "paper-001", "gpt", "llm:openai:gpt", .draft, [], sha256Text zeroHost (canonicalJson (.dict [])),
    evidenceReceipt zeroHost "llm_publication.proposal" (.dict [("work", (sampleWork "paper-001").toJson)])
      (.dict (core ++ [("proposal_id", .str proposalId)]))⟩

def sampleReview : AgentReview :=
  let core : Mapping := [("schema", .str schema), ("proposal_id", .str sampleProposal.proposalId),
    ("reviewer_capability_id", .str "minimax"), ("reviewer_principal", .str "llm:minimax"),
    ("decision", .str "APPROVE"), ("findings", .arr [])]
  let reviewId := identifier zeroHost "review" (.dict core)
  ⟨reviewId, sampleProposal.proposalId, "minimax", "llm:minimax", .approve, [],
    evidenceReceipt zeroHost "llm_publication.review" (.dict [("proposal_id", .str sampleProposal.proposalId)])
      (.dict (core ++ [("review_id", .str reviewId)]))⟩

def sampleAuthorization (action : String) : Authorization :=
  let core : Mapping := [("schema", .str schema), ("proposal_id", .str sampleProposal.proposalId),
    ("review_id", .str sampleReview.reviewId), ("action", .str action), ("principal", .str "human:owner"),
    ("authority_kind", .str "HUMAN"), ("scope", .str "publication:paper-001")]
  let authorizationId := identifier zeroHost "auth" (.dict core)
  ⟨authorizationId, sampleProposal.proposalId, action, "human:owner", .human, "publication:paper-001",
    evidenceReceipt zeroHost "llm_publication.authorization"
      (.dict [("proposal_id", .str sampleProposal.proposalId)])
      (.dict (core ++ [("authorization_id", .str authorizationId)]))⟩

/-- A work of one of the stages on the way to its authorization. -/
def sampleState (workId : String) (stages : List Stage) : PublicationState :=
  ⟨workId, stages.getLastD .localSource, "LOCAL_SOURCE" :: stages.map Stage.value⟩

/-- One proposal is generated, approved and authorized, and a work is led to publication
with that authorization. -/
def sampleCalls (action workId : String) : List Call :=
  [.register gpt, .register minimax, .propose (sampleWork "paper-001") "gpt" .draft [],
    .review sampleProposal "minimax" .approve [],
    .authorize sampleProposal sampleReview action "human:owner" .human "publication:paper-001",
    .start (sampleWork workId), .transition (sampleState workId []) .analyzed none,
    .transition (sampleState workId [.analyzed]) .gitStaged none,
    .transition (sampleState workId [.analyzed, .gitStaged]) .governancePass none,
    .transition (sampleState workId [.analyzed, .gitStaged, .governancePass]) .zenodoDraft none,
    .transition (sampleState workId [.analyzed, .gitStaged, .governancePass, .zenodoDraft]) .publishAuthorized
      (some (sampleAuthorization action))]

def sampleWorld (action workId : String) : World := (sampleCalls action workId).foldl (World.after zeroHost) World.empty

/-- The run, whichever of two writes is authorized and whichever work is led on. -/
theorem sample_run {action : String} (write : action ∈ ["git.push", "zenodo.publish"]) (workId : String) :
    Run (Step zeroHost) World.empty (sampleCalls action workId) (sampleWorld action workId) ∧
      (sampleWorld action workId).cores =
        [.dict (proposalCore (sampleWork "paper-001") "gpt" "llm:openai:gpt" .draft [])] ∧
      (sampleWorld action workId).proposals = [sampleProposal] ∧
      (sampleWorld action workId).moves.map (fun move => (move.after.stage, move.authorization)) =
        [(.analyzed, none), (.gitStaged, none), (.governancePass, none), (.zenodoDraft, none),
          (.publishAuthorized, some (sampleAuthorization action))] ∧
      ∀ move ∈ (sampleWorld action workId).moves, move.after.workId = workId := by
  simp only [List.mem_cons, List.not_mem_nil, or_false] at write
  have works : (sampleWorld action workId).moves.map (fun move => move.after.workId) =
      [workId, workId, workId, workId, workId] := by
    rcases write with rfl | rfl <;> rfl
  have each : ∀ move ∈ (sampleWorld action workId).moves, move.after.workId = workId := by
    intro move member
    have listed := List.mem_map_of_mem (f := fun move => move.after.workId) member
    rw [works] at listed
    simpa using listed
  rcases write with rfl | rfl <;>
    exact ⟨.cons ⟨trivial, rfl⟩ (.cons ⟨trivial, rfl⟩ (.cons ⟨trivial, rfl⟩ (.cons ⟨.head _, rfl⟩
      (.cons ⟨⟨.head _, .head _⟩, rfl⟩ (.cons ⟨trivial, rfl⟩ (.cons ⟨⟨.head _, nofun⟩, rfl⟩
        (.cons ⟨⟨.tail _ (.head _), nofun⟩, rfl⟩ (.cons ⟨⟨.tail _ (.tail _ (.head _)), nofun⟩, rfl⟩
          (.cons ⟨⟨.tail _ (.tail _ (.tail _ (.head _))), nofun⟩, rfl⟩
            (.cons ⟨⟨.tail _ (.tail _ (.tail _ (.tail _ (.head _)))),
              fun a same => Option.some.inj same ▸ .head _⟩, rfl⟩ .nil)))))))))), rfl, rfl, rfl, each⟩

/-- The proposal's own work, with an authorization to publish it. -/
theorem publication_governed_sample : Governed (sampleWorld "zenodo.publish" "paper-001") := by
  obtain ⟨run, cores, proposals, moves, works⟩ := @sample_run "zenodo.publish" (by simp) "paper-001"
  refine (publication_governed_iff run ?_).2.mpr ?_
  · rw [cores]
    intro a left b right _
    rw [List.mem_singleton.mp left, List.mem_singleton.mp right]
  · intro move member stage
    have listed := List.mem_map_of_mem (f := fun move => (move.after.stage, move.authorization)) member
    rw [moves] at listed
    refine ⟨sampleAuthorization "zenodo.publish", ?_, by simp [sampleAuthorization, publishActions], sampleProposal,
      by rw [proposals]; exact List.mem_singleton.mpr rfl, rfl, (works move member).symm⟩
    simp only [List.mem_cons, Prod.mk.injEq, List.not_mem_nil, or_false] at listed
    rcases listed with ⟨same, _⟩ | ⟨same, _⟩ | ⟨same, _⟩ | ⟨same, _⟩ | ⟨_, carried⟩
    · simp [same, publishStages] at stage
    · simp [same, publishStages] at stage
    · simp [same, publishStages] at stage
    · simp [same, publishStages] at stage
    · exact carried

/-- Another work, published with the authorization to push that proposal to a repository. -/
theorem publication_ungoverned : ∃ calls w, Run (Step zeroHost) World.empty calls w ∧
    TellsApart zeroHost w.cores ∧ ¬Governed w := by
  obtain ⟨run, cores, _, moves, _⟩ := @sample_run "git.push" (by simp) "paper-002"
  refine ⟨_, _, run, ?_, ?_⟩
  · rw [cores]
    intro a left b right _
    rw [List.mem_singleton.mp left, List.mem_singleton.mp right]
  · intro governed
    have last : (Stage.publishAuthorized, some (sampleAuthorization "git.push")) ∈
        (sampleWorld "git.push" "paper-002").moves.map (fun move => (move.after.stage, move.authorization)) := by
      rw [moves]
      simp
    obtain ⟨move, member, same⟩ := List.mem_map.mp last
    obtain ⟨stage, carried⟩ := Prod.mk.inj same
    obtain ⟨a, _, authorized, publishes, _⟩ := governed move member (by simp [stage, publishStages])
    obtain rfl := Option.some.inj (carried.symm.trans authorized)
    simp [sampleAuthorization, publishActions] at publishes

end MatVerse.LlmPublication
