import MatVerse.FederationGovernedGate
import MatVerse.FederationRouting

/-! Federated capability graphs: each crossing between domains names a relation,
and a route only uses the crossings whose relation the gate admits now. -/
namespace MatVerse

open Fallible

variable {K : Type}

structure FederatedCrossingFields (K : Type) where
  src : String
  dst : String
  cost : K
  relationId : String
  capability : String
  contractHash : String
  reason : String

def FederatedCrossingFields.postInit (arith : CostArith K) (c : FederatedCrossingFields K) :
    Except PyError Unit := do
  requireText c.src "src"
  requireText c.dst "dst"
  requireText c.relationId "relation_id"
  requireText c.capability "capability"
  requireSha256 c.contractHash "contract_hash"
  if arith.lt c.cost arith.zero then throw (.valueError "crossing cost must be non-negative")

structure FederatedCrossing (arith : CostArith K) extends FederatedCrossingFields K where
  valid : toFederatedCrossingFields.postInit arith = .ok ()

variable {arith : CostArith K}

theorem FederatedCrossing.nonnegative (c : FederatedCrossing arith) : arith.lt c.cost arith.zero = false := by
  have valid := c.valid
  simp only [FederatedCrossingFields.postInit, bind_ok] at valid
  obtain ⟨_, _, _, _, _, _, _, _, _, _, nonnegative⟩ := valid
  simpa using (last_guard_ok.mp nonnegative).1

/-- The crossing of the capability graph. -/
def FederatedCrossing.crossing (c : FederatedCrossing arith) : Crossing arith :=
  ⟨c.src, c.dst, c.cost, c.reason, c.nonnegative⟩

def FederatedCrossing.pair (c : FederatedCrossing arith) : String × String := (c.src, c.dst)

def FederatedCrossing.blockedKey (c : FederatedCrossing arith) : String :=
  JsonText.dumpsAscii JsonText.compact (.arr [.str c.src, .str c.dst, .str c.relationId])

/-- At most one crossing leads from one domain to another. -/
structure FederatedCapabilityGraph (arith : CostArith K) where
  nodes : List (CapabilityNode K)
  crossings : List (FederatedCrossing arith)
  capabilityGate : AdmissibilityGate K
  preference : Potential K
  relationGate : RelationGate
  distinctPairs : (crossings.map FederatedCrossing.pair).Nodup

namespace FederatedCapabilityGraph

def init (nodes : List (CapabilityNode K)) (crossings : List (FederatedCrossing arith))
    (capabilityGate : AdmissibilityGate K) (preference : Potential K) (relationGate : RelationGate) :
    Except PyError (FederatedCapabilityGraph arith) :=
  if distinct : (crossings.map FederatedCrossing.pair).Nodup then
    .ok ⟨nodes, crossings, capabilityGate, preference, relationGate, distinct⟩
  else .error (.valueError "parallel federated crossings are not supported in v1")

/-- What the loop of `_validated_state` builds. -/
structure Validation (arith : CostArith K) where
  crossingByPair : List ((String × String) × FederatedCrossing arith)
  blockedRelations : List (String × List String)
  validCrossings : List (Crossing arith)
  relationDigestById : List (String × String)

/-- The reasons against a crossing, and the decision of the gate when it was asked;
the gate is asked about the crossing at position `index`. -/
def judge (graph : FederatedCapabilityGraph arith) (relations : List FederationRelation) (capability : String)
    (index : Nat) (c : FederatedCrossing arith) : Except PyError (List String × Option RelationDecision) :=
  let mismatch := reasonIf (c.capability != capability) "crossing_capability_mismatch"
  match relations.find? (fun relation => relation.relationId == c.relationId) with
  | none => .ok (mismatch ++ ["relation_not_found"], none)
  | some relation =>
    if routingGovernedWitnessSchemes.contains relation.witnessScheme && !graph.relationGate.enforcesKeyLifecycle then
      .ok (mismatch ++ ["governed_key_lifecycle_required"], none)
    else do
      let request ← RelationRequestFields.build ⟨c.src, c.dst, c.contractHash, capability⟩
      let decision ← graph.relationGate.evaluate index relation request
      return (mismatch ++ decision.reasons, some decision)

def Validation.record (v : Validation arith) (c : FederatedCrossing arith) :
    List String × Option RelationDecision → Validation arith
  | ([], some decision) =>
    { v with
      crossingByPair := (c.pair, c) :: v.crossingByPair
      validCrossings := v.validCrossings ++ [c.crossing]
      relationDigestById := Dict.insert c.relationId decision.relationSha256 v.relationDigestById }
  | ([], none) => v
  | (reasons, _) => { v with blockedRelations := Dict.insert c.blockedKey reasons v.blockedRelations }

def validateFrom (graph : FederatedCapabilityGraph arith) (relations : List FederationRelation)
    (capability : String) : Nat → List (FederatedCrossing arith) → Validation arith →
    Except PyError (Validation arith)
  | _, [], v => .ok v
  | index, c :: rest, v => do
    let judged ← graph.judge relations capability index c
    graph.validateFrom relations capability (index + 1) rest (v.record c judged)

def validatedState (graph : FederatedCapabilityGraph arith) (relations : List FederationRelation)
    (capability : String) : Except PyError (CapabilityGraph arith × Validation arith) := do
  requireText capability "capability"
  if !decide ((relations.map (fun relation => relation.relationId)).Nodup) then
    throw (.valueError "duplicate relation_id")
  let validation ← graph.validateFrom relations capability 0 graph.crossings ⟨[], [], [], []⟩
  let capabilityGraph ← CapabilityGraph.init graph.nodes validation.validCrossings graph.capabilityGate
    graph.preference
  return (capabilityGraph, validation)

structure FederatedRoutingResult (K : Type) where
  route : CapabilityGraph.RoutingResult K
  traversedRelations : List String
  blockedRelations : List (String × List String)
  relationReceiptSha256 : String

/-- The relations of the consecutive pairs of a path. -/
def traverse (crossingByPair : List ((String × String) × FederatedCrossing arith)) :
    List String → Except PyError (List String)
  | src :: dst :: rest =>
    match crossingByPair.lookup (src, dst) with
    | none => .error (.runtimeError "route crossed an edge without a validated federation relation")
    | some crossing => do
      let traversed ← traverse crossingByPair (dst :: rest)
      return crossing.relationId :: traversed
  | _ => .ok []

def relationHashes (relationDigestById : List (String × String)) (traversed : List String) :
    Except PyError Mapping :=
  (traversed.dedup.mergeSort (· ≤ ·)).mapM fun relationId =>
    match Dict.get? relationId relationDigestById with
    | some digest => .ok (relationId, .str digest)
    | none => .error (.keyError relationId)

def payload (capability routeReceipt : String) (traversed : List String) (hashes : Mapping)
    (blockedRelations : List (String × List String)) : Json :=
  .dict [("requested_capability", .str capability), ("route_receipt_sha256", .str routeReceipt),
    ("traversed_relations", .arr (traversed.map .str)), ("relation_hashes", .dict hashes),
    ("blocked_relations", .dict (blockedRelations.map fun p => (p.1, .arr (p.2.map .str))))]

/-- What `route` makes of the path. -/
def traversedResult (host : Host) (validation : Validation arith) (capability : String)
    (route : CapabilityGraph.RoutingResult K) : Except PyError (FederatedRoutingResult K) := do
  let traversed ← traverse validation.crossingByPair route.path
  let hashes ← relationHashes validation.relationDigestById traversed
  let receipt := JsonText.dumpsAscii JsonText.compact
    (payload capability route.receiptSha256 traversed hashes validation.blockedRelations)
  return ⟨route, traversed, validation.blockedRelations, sha256Text host receipt⟩

/-- `FederatedCapabilityGraph.route`, on the relations current at the call. -/
def route (host : Host) (interpreter : Interpreter) (graph : FederatedCapabilityGraph arith)
    (relations : List FederationRelation) (fuel : Nat) (origin : String) (targets : Option (List String))
    (capability : String) : Option (Except PyError (FederatedRoutingResult K)) :=
  match graph.validatedState relations capability with
  | .error e => some (.error e)
  | .ok (capabilityGraph, validation) =>
    (capabilityGraph.route host interpreter fuel origin targets).map fun routed =>
      routed.bind (traversedResult host validation capability)

/-! ## Which crossings a route may use -/

variable {graph : FederatedCapabilityGraph arith} {relations : List FederationRelation} {capability : String}

/-- The crossing at a position is for the requested capability, and the gate admits
its relation; a scheme that needs the key lifecycle has a gate that enforces it. -/
def Governed (graph : FederatedCapabilityGraph arith) (relations : List FederationRelation) (capability : String)
    (index : Nat) (c : FederatedCrossing arith) : Prop :=
  c.capability = capability ∧ ∃ relation ∈ relations, relation.relationId = c.relationId ∧
    (relation.witnessScheme ∈ routingGovernedWitnessSchemes → graph.relationGate.enforcesKeyLifecycle = true) ∧
    ∃ request decision,
      request.toRelationRequestFields = ⟨c.src, c.dst, c.contractHash, capability⟩ ∧
        graph.relationGate.evaluate index relation request = .ok decision ∧ decision.admissible = true

/-- Every verdict of the gate is admissible exactly when it carries no reason. -/
def Reasoned (graph : FederatedCapabilityGraph arith) : Prop :=
  ∀ index relation request decision,
    graph.relationGate.evaluate index relation request = .ok decision → decision.Reasoned

theorem judge_governed {index : Nat} {c : FederatedCrossing arith} {decision : Option RelationDecision}
    (reasoned : graph.Reasoned) (judged : graph.judge relations capability index c = .ok ([], decision)) :
    graph.Governed relations capability index c ∧ ∃ d, decision = some d := by
  simp only [judge] at judged
  split at judged
  · simp at judged
  next relation found =>
    split at judged
    · simp at judged
    next lifecycle =>
      simp only [bind_ok, pure_ok, Prod.mk.injEq, List.append_eq_nil_iff, reasonIf_eq_nil] at judged
      obtain ⟨request, built, d, verdict, ⟨same, none⟩, rfl⟩ := judged
      have named := List.find?_some found
      refine ⟨⟨by simpa using same, relation, List.mem_of_find?_eq_some found, by simpa using named, ?_,
        request, d, RelationRequestFields.build_ok built, verdict, (reasoned _ _ _ _ verdict).mpr none⟩, d, rfl⟩
      intro governed
      simpa [governed] using lifecycle

/-- What the loop has established of the crossings before a position. -/
structure Validation.Sound (graph : FederatedCapabilityGraph arith) (relations : List FederationRelation)
    (capability : String) (v : Validation arith) (index : Nat) : Prop where
  matched : ∀ c ∈ v.validCrossings, ∃ f, v.crossingByPair.lookup (c.src, c.dst) = some f
  governed : ∀ pair f, v.crossingByPair.lookup pair = some f → f.pair = pair ∧
    (∃ i : Nat, graph.crossings[i]? = some f ∧ graph.Governed relations capability i f) ∧
    ∃ digest, Dict.get? f.relationId v.relationDigestById = some digest
  reasons : ∀ key given, Dict.get? key v.blockedRelations = some given → given ≠ []
  reported : ∀ (i : Nat) f, i < index → graph.crossings[i]? = some f →
    ¬ graph.Governed relations capability i f → ∃ given, Dict.get? f.blockedKey v.blockedRelations = some given

theorem Validation.sound_empty : Validation.Sound graph relations capability ⟨[], [], [], []⟩ 0 where
  matched := by simp
  governed := by simp
  reasons := by simp
  reported := by simp

theorem Validation.Sound.admit {v : Validation arith} {index : Nat} {c : FederatedCrossing arith}
    (sound : v.Sound graph relations capability index) (here : graph.crossings[index]? = some c)
    (governed : graph.Governed relations capability index c) (decision : RelationDecision) :
    (v.record c ([], some decision)).Sound graph relations capability (index + 1) where
  matched := by
    intro crossing member
    rcases List.mem_append.mp member with member | member
    · obtain ⟨f, found⟩ := sound.matched crossing member
      simp only [record, List.lookup_cons]
      split
      · exact ⟨c, rfl⟩
      · exact ⟨f, found⟩
    · obtain rfl := List.mem_singleton.mp member
      exact ⟨c, by simp [record, FederatedCrossing.pair, FederatedCrossing.crossing]⟩
  governed := by
    intro pair f found
    simp only [record, List.lookup_cons] at found ⊢
    split at found
    next same =>
      obtain rfl := Option.some.inj found
      exact ⟨(beq_iff_eq.mp same).symm, ⟨index, here, governed⟩, _, Dict.get?_insert_self _ _ _⟩
    next =>
      obtain ⟨same, at_, digest, noted⟩ := sound.governed pair f found
      refine ⟨same, at_, ?_⟩
      rw [Dict.get?_insert]
      split
      · exact ⟨_, rfl⟩
      · exact ⟨digest, noted⟩
  reasons := sound.reasons
  reported := by
    intro i f before listed ungoverned
    by_cases last : i = index
    · subst last
      obtain rfl := Option.some.inj (here.symm.trans listed)
      exact absurd governed ungoverned
    · exact sound.reported i f (by omega) listed ungoverned

theorem Validation.Sound.block {v : Validation arith} {index : Nat} {c : FederatedCrossing arith}
    (sound : v.Sound graph relations capability index) (here : graph.crossings[index]? = some c)
    {reasons : List String} (some_ : reasons ≠ []) (decision : Option RelationDecision) :
    (v.record c (reasons, decision)).Sound graph relations capability (index + 1) := by
  obtain ⟨first, rest, rfl⟩ := List.exists_cons_of_ne_nil some_
  refine ⟨sound.matched, sound.governed, ?_, ?_⟩
  · intro key given found
    simp only [record, Dict.get?_insert] at found
    split at found
    · cases found
      simp
    · exact sound.reasons key given found
  · intro i f before listed ungoverned
    simp only [record, Dict.get?_insert]
    split
    · exact ⟨_, rfl⟩
    next other =>
      refine sound.reported i f (Nat.lt_of_le_of_ne (Nat.le_of_lt_succ before) ?_) listed ungoverned
      rintro rfl
      obtain rfl := Option.some.inj (here.symm.trans listed)
      exact other rfl

theorem validateFrom_sound (reasoned : graph.Reasoned) {rest : List (FederatedCrossing arith)} {index : Nat}
    {v final : Validation arith} (remaining : graph.crossings.drop index = rest)
    (sound : v.Sound graph relations capability index)
    (done : graph.validateFrom relations capability index rest v = .ok final) :
    final.Sound graph relations capability graph.crossings.length := by
  induction rest generalizing index v with
  | nil =>
    obtain rfl := Except.ok.inj done
    refine ⟨sound.matched, sound.governed, sound.reasons, fun i f _ listed => sound.reported i f ?_ listed⟩
    have short := List.drop_eq_nil_iff.mp remaining
    have := (List.getElem?_eq_some_iff.mp listed).1
    omega
  | cons c rest ih =>
    have here : graph.crossings[index]? = some c := by
      rw [← List.head?_drop, remaining]
      rfl
    have further : graph.crossings.drop (index + 1) = rest := by
      rw [← List.tail_drop, remaining]
      rfl
    simp only [validateFrom, bind_ok] at done
    obtain ⟨⟨reasons, decision⟩, judged, done⟩ := done
    refine ih further ?_ done
    by_cases clear : reasons = []
    · subst clear
      obtain ⟨governed, d, rfl⟩ := judge_governed reasoned judged
      exact sound.admit here governed d
    · exact sound.block here clear decision

theorem init_crossings {nodes : List (CapabilityNode K)} {crossings : List (Crossing arith)}
    {gate : AdmissibilityGate K} {potential : Potential K} {capabilityGraph : CapabilityGraph arith}
    (built : CapabilityGraph.init nodes crossings gate potential = .ok capabilityGraph) :
    capabilityGraph.crossings = crossings := by
  simp only [CapabilityGraph.init, bind_ok, pure_ok] at built
  obtain ⟨_, _, rfl⟩ := built
  rfl

theorem validatedState_sound (reasoned : graph.Reasoned) {capabilityGraph : CapabilityGraph arith}
    {v : Validation arith} (validated : graph.validatedState relations capability = .ok (capabilityGraph, v)) :
    v.Sound graph relations capability graph.crossings.length ∧ capabilityGraph.crossings = v.validCrossings := by
  simp only [validatedState, bind_ok, guard_ok, pure_ok, Prod.mk.injEq] at validated
  obtain ⟨_, _, _, _, looped, _, built, rfl, rfl⟩ := validated
  exact ⟨validateFrom_sound reasoned rfl Validation.sound_empty looped, init_crossings built⟩

/-! ## What a route crosses -/

/-- A crossing of the graph that is governed where it stands and whose digest is noted. -/
def Traversable (graph : FederatedCapabilityGraph arith) (relations : List FederationRelation)
    (capability : String) (v : Validation arith) (c : FederatedCrossing arith) : Prop :=
  (∃ i : Nat, graph.crossings[i]? = some c ∧ graph.Governed relations capability i c) ∧
    ∃ digest, Dict.get? c.relationId v.relationDigestById = some digest

/-- The pair-indexed map finds, for each step of a path, the crossing the search used. -/
theorem traverse_ok {v : Validation arith} {index : Nat} (sound : v.Sound graph relations capability index)
    {capabilityGraph : CapabilityGraph arith} (valid : capabilityGraph.crossings = v.validCrossings)
    {path : List String} (chain : path.IsChain capabilityGraph.Crosses) :
    ∃ crossed : List (FederatedCrossing arith),
      path.zip path.tail = crossed.map FederatedCrossing.pair ∧
        traverse v.crossingByPair path = .ok (crossed.map (fun c => c.relationId)) ∧
          ∀ c ∈ crossed, graph.Traversable relations capability v c := by
  induction chain with
  | nil => exact ⟨[], rfl, rfl, by simp⟩
  | singleton node => exact ⟨[], rfl, rfl, by simp⟩
  | @cons_cons src dst rest crosses _ ih =>
    obtain ⟨crossed, pairs, further, traversable⟩ := ih
    obtain ⟨c, member, rfl, rfl, _⟩ := crosses
    obtain ⟨f, found⟩ := sound.matched c (valid ▸ member)
    obtain ⟨same, governed, noted⟩ := sound.governed _ f found
    refine ⟨f :: crossed, ?_, ?_, ?_⟩
    · simp only [List.tail_cons, List.zip_cons_cons, List.map_cons, same] at pairs ⊢
      rw [pairs]
    · simp only [traverse, found, further, ok_bind, List.map_cons]
      rfl
    · intro other member
      rcases List.mem_cons.mp member with rfl | member
      · exact ⟨governed, noted⟩
      · exact traversable other member

theorem relationHashes_ok {digests : List (String × String)} {traversed : List String}
    (noted : ∀ relationId ∈ traversed, ∃ digest, Dict.get? relationId digests = some digest) :
    ∃ hashes, relationHashes digests traversed = .ok hashes := by
  apply mapM_ok
  intro relationId member
  obtain ⟨digest, found⟩ := noted relationId (List.mem_dedup.mp (List.mem_mergeSort.mp member))
  exact ⟨(relationId, .str digest), by rw [found]⟩

/-- A path of the capability graph has a result: no step of it lacks its relation. -/
theorem traversedResult_ok (host : Host) {v : Validation arith} {index : Nat}
    (sound : v.Sound graph relations capability index) {capabilityGraph : CapabilityGraph arith}
    (valid : capabilityGraph.crossings = v.validCrossings) {route : CapabilityGraph.RoutingResult K}
    (chain : route.path.IsChain capabilityGraph.Crosses) :
    ∃ result, ∃ crossed : List (FederatedCrossing arith), traversedResult host v capability route = .ok result ∧
    result.route = route ∧
      result.blockedRelations = v.blockedRelations ∧
      route.path.zip route.path.tail = crossed.map FederatedCrossing.pair ∧
      result.traversedRelations = crossed.map (fun c => c.relationId) ∧
      ∀ c ∈ crossed, ∃ i : Nat, graph.crossings[i]? = some c ∧ graph.Governed relations capability i c := by
  obtain ⟨crossed, pairs, traversed, traversable⟩ := traverse_ok sound valid chain
  obtain ⟨hashes, hashed⟩ : ∃ hashes,
      relationHashes v.relationDigestById (crossed.map (fun c => c.relationId)) = .ok hashes := by
    apply relationHashes_ok
    intro relationId member
    obtain ⟨c, listed, rfl⟩ := List.mem_map.mp member
    exact (traversable c listed).2
  let receipt := JsonText.dumpsAscii JsonText.compact (payload capability route.receiptSha256
    (crossed.map (fun c => c.relationId)) hashes v.blockedRelations)
  refine ⟨⟨route, crossed.map (fun c => c.relationId), v.blockedRelations, sha256Text host receipt⟩, crossed,
    ?_, rfl, rfl, pairs, rfl, fun c member => (traversable c member).1⟩
  rw [traversedResult, traversed, ok_bind, hashed, ok_bind]
  rfl

/-- Routes cross governed edges only, and the crossings that are not governed are
reported with a reason. -/
theorem route_crossed (host : Host) (interpreter : Interpreter) (reasoned : graph.Reasoned) {fuel : Nat}
    {origin : String} {targets : Option (List String)} {result : FederatedRoutingResult K}
    (routed : graph.route host interpreter relations fuel origin targets capability = some (.ok result)) :
    (∃ crossed : List (FederatedCrossing arith),
      result.route.path.zip result.route.path.tail = crossed.map (fun c => (c.src, c.dst)) ∧
      result.traversedRelations = crossed.map (fun c => c.relationId) ∧
      ∀ c ∈ crossed, ∃ i : Nat, graph.crossings[i]? = some c ∧ graph.Governed relations capability i c) ∧
    ∀ (i : Nat) c, graph.crossings[i]? = some c → ¬ graph.Governed relations capability i c →
      ∃ reasons, Dict.get? c.blockedKey result.blockedRelations = some reasons ∧ reasons ≠ [] := by
  unfold route at routed
  split at routed
  · cases routed
  next capabilityGraph validation validated =>
    obtain ⟨sound, valid⟩ := validatedState_sound reasoned validated
    obtain ⟨found, returned, finished⟩ := Option.map_eq_some_iff.mp routed
    cases found with
    | error e => cases finished
    | ok path =>
      obtain ⟨made, crossed, done, rfl, blocked, pairs, ids, governed⟩ :=
        traversedResult_ok host sound valid (CapabilityGraph.route_crosses returned)
      obtain rfl := Except.ok.inj (done.symm.trans finished)
      refine ⟨⟨crossed, pairs, ids, governed⟩, ?_⟩
      intro i c listed ungoverned
      rw [blocked]
      obtain ⟨reasons, reported⟩ :=
        sound.reported i c (List.getElem?_eq_some_iff.mp listed).1 listed ungoverned
      exact ⟨reasons, reported, sound.reasons _ _ reported⟩

/-- Routes cross governed edges only. The traversed relations are those of the
crossings of the path in order, the lookup of a step never fails, and every crossing
that is not governed is reported with a reason. -/
theorem route_governed (host : Host) (interpreter : Interpreter) (graph : FederatedCapabilityGraph arith)
    (reasoned : graph.Reasoned) (relations : List FederationRelation) (fuel : Nat) (origin : String)
    (targets : Option (List String)) (capability : String) :
    (∀ capabilityGraph validation route,
      graph.validatedState relations capability = .ok (capabilityGraph, validation) →
      capabilityGraph.route host interpreter fuel origin targets = some (.ok route) →
      ∃ traversed, traverse validation.crossingByPair route.path = .ok traversed) ∧
    ∀ result, graph.route host interpreter relations fuel origin targets capability = some (.ok result) →
      (∃ crossed : List (FederatedCrossing arith),
        result.route.path.zip result.route.path.tail = crossed.map (fun c => (c.src, c.dst)) ∧
        result.traversedRelations = crossed.map (fun c => c.relationId) ∧
        ∀ c ∈ crossed, ∃ i : Nat, graph.crossings[i]? = some c ∧ graph.Governed relations capability i c) ∧
      ∀ (i : Nat) c, graph.crossings[i]? = some c → ¬ graph.Governed relations capability i c →
        ∃ reasons, Dict.get? c.blockedKey result.blockedRelations = some reasons ∧ reasons ≠ [] := by
  constructor
  · intro capabilityGraph validation route validated routed
    obtain ⟨sound, valid⟩ := validatedState_sound reasoned validated
    obtain ⟨crossed, _, traversed, _⟩ := traverse_ok sound valid (CapabilityGraph.route_crosses routed)
    exact ⟨_, traversed⟩
  · exact fun result routed => route_crossed host interpreter reasoned routed

/-! ## The gates of the federation -/

section

variable {host : Host} {verify : Ed25519Verify} {now : Nat → Int}

/-- Both gates admit exactly what they have no reason against. -/
theorem reasoned_of_gate {registry : Nat → Database} {authoritySecrets : List (String × String)}
    {publicKeys : List (String × ByteArray)}
    (gate : graph.relationGate = governedGate host verify registry now ∨
      graph.relationGate = hybridGate host verify authoritySecrets publicKeys now) : graph.Reasoned := by
  intro index relation request decision judged
  rcases gate with governed | hybrid
  · rw [governed] at judged
    exact governedEvaluate_reasoned judged
  · rw [hybrid] at judged
    exact hybridEvaluate_reasoned judged

/-- Over the governed gate every edge of a route rests on a relation whose binding, keys
and signatures the registry held when the crossing was judged. -/
theorem route_evidenced {registry : Nat → Database} (interpreter : Interpreter)
    (gate : graph.relationGate = governedGate host verify registry now) {fuel : Nat} {origin : String}
    {targets : Option (List String)} {result : FederatedRoutingResult K}
    (routed : graph.route host interpreter relations fuel origin targets capability = some (.ok result)) :
    ∃ crossed : List (FederatedCrossing arith),
      result.route.path.zip result.route.path.tail = crossed.map (fun c => (c.src, c.dst)) ∧
      ∀ c ∈ crossed, ∃ (i : Nat), ∃ relation ∈ relations, ∃ request binding source target witness,
        graph.crossings[i]? = some c ∧ relation.relationId = c.relationId ∧
        GovernedEvidence host verify (registry i) (now i) relation request binding source target witness := by
  have reasoned : graph.Reasoned := @reasoned_of_gate _ _ _ host verify now registry [] [] (.inl gate)
  obtain ⟨⟨crossed, pairs, _, governed⟩, _⟩ := route_crossed host interpreter reasoned routed
  refine ⟨crossed, pairs, fun c member => ?_⟩
  obtain ⟨i, listed, _, relation, known, named, _, request, decision, _, verdict, admissible⟩ := governed c member
  rw [gate] at verdict
  obtain ⟨binding, source, target, witness, evidence⟩ := governed_evidence verdict admissible
  exact ⟨i, relation, known, request, binding, source, target, witness, listed, named, evidence⟩

end

/-! Two domains, one relation, and a gate that admits it. -/

def sampleRelation : FederationRelation where
  relationId := "audit-1"
  sourceDomain := "edge"
  targetDomain := "core"
  sourceAuthority := "edge-authority"
  targetAuthority := "core-authority"
  contractHash := zeroDigest
  capabilities := ["audit:read"]
  validFrom := 0
  validUntil := 1
  status := .active
  evidencePolicy := "receipts"
  witnessScheme := hmacSharedSecretScheme
  witness := none
  valid := by decide +kernel

def sampleCrossing : FederatedCrossing exactCosts where
  src := "edge"
  dst := "core"
  cost := 1
  relationId := "audit-1"
  capability := "audit:read"
  contractHash := zeroDigest
  reason := ""
  valid := by decide +kernel

def sampleGraph : FederatedCapabilityGraph exactCosts where
  nodes := [⟨"edge", "", [], []⟩, ⟨"core", "", [], []⟩]
  crossings := [sampleCrossing]
  capabilityGate := ⟨[]⟩
  preference _ := .ok 0
  relationGate := ⟨false, fun _ relation _ => .ok ⟨relation.relationId, true, [], zeroDigest, 0⟩⟩
  distinctPairs := by simp

def inOrder : Interpreter where
  iterate ids := ids
  iterate_perm := List.Perm.refl
  repr s := s

theorem sampleGraph_reasoned : sampleGraph.Reasoned := by
  intro index relation request decision verdict
  cases verdict
  simp [RelationDecision.Reasoned]

theorem route_governed_sample :
    ∃ result, sampleGraph.route zeroHost inOrder [sampleRelation] 4 "edge" (some ["core"]) "audit:read" =
        some (.ok result) ∧
      result.route.path = ["edge", "core"] ∧
      ∃ crossed : List (FederatedCrossing exactCosts),
        result.route.path.zip result.route.path.tail = crossed.map (fun c => (c.src, c.dst)) ∧
        result.traversedRelations = crossed.map (fun c => c.relationId) ∧
        ∀ c ∈ crossed, ∃ i : Nat, sampleGraph.crossings[i]? = some c ∧
          sampleGraph.Governed [sampleRelation] "audit:read" i c := by
  have arrives : ((sampleGraph.route zeroHost inOrder [sampleRelation] 4 "edge" (some ["core"])
      "audit:read").bind Except.toOption).map (fun result => result.route.path) = some ["edge", "core"] := by
    decide +kernel
  obtain ⟨result, found, path⟩ := Option.map_eq_some_iff.mp arrives
  obtain ⟨answer, routed, returned⟩ := Option.bind_eq_some_iff.mp found
  cases answer with
  | error e => cases returned
  | ok answer =>
    obtain rfl := Option.some.inj returned
    exact ⟨_, routed, path, ((route_governed zeroHost inOrder sampleGraph sampleGraph_reasoned [sampleRelation] 4
      "edge" (some ["core"]) "audit:read").2 _ routed).1⟩

end FederatedCapabilityGraph
end MatVerse
