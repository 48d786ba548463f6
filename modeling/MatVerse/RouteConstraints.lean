import MatVerse.FederationPreference
import MatVerse.RouteSearch

/-! Hard constraints on routes. The gate judges definitions and the search walks
over ids, so an id that is defined twice is only safe when the gate says the same
of both definitions. -/
namespace MatVerse

open ShortestPath Floats

variable {K L : Type} [LinearOrder L] [OrderTop L] {arith : CostArith K} {val : K → L}

/-- `metric_floor`; `shown` is the `.6g` format. -/
def metricFloor (shown : Binary64 → String) (metric : String) (minimum : Binary64) :
    HardConstraint Binary64 := fun node =>
  match Dict.get? metric node.raw with
  | none => .ok (some ("missing:" ++ metric))
  | some value =>
    .ok (if atMost minimum value then none
      else some (metric ++ "=" ++ shown value ++ "<" ++ shown minimum))

namespace CapabilityGraph

variable {graph : CapabilityGraph arith} {origin : String}

/-- Every walk also leads on from each of its nodes, at no greater cost. -/
theorem Walk.from_node (lawful : arith.Lawful val) {path : List String} {k : K} (walk : graph.Walk origin path k) :
    val arith.zero ≤ val k ∧ ∀ last before, path = last :: before → ∀ id ∈ path,
      ∃ rest k', graph.Walk id (last :: rest) k' ∧ val k' ≤ val k := by
  induction walk with
  | start =>
    refine ⟨le_rfl, ?_⟩
    rintro last before same id member
    obtain ⟨rfl, rfl⟩ := List.cons.inj same
    obtain rfl := List.mem_singleton.mp member
    exact ⟨[], arith.zero, .start, le_rfl⟩
  | @step at_ path k c walk leaves ih =>
    obtain ⟨above, further⟩ := ih
    have longer := above.trans (lawful.inflates c.cost c.nonnegative k)
    refine ⟨longer, ?_⟩
    rintro last before same id member
    obtain ⟨rfl, rfl⟩ := List.cons.inj same
    rcases List.mem_cons.mp member with rfl | earlier
    · exact ⟨[], arith.zero, .start, longer⟩
    · obtain ⟨rest, k', walk', below⟩ := further at_ path rfl id earlier
      exact ⟨at_ :: rest, arith.add k' c.cost, .step walk' leaves,
        lawful.monotone c.cost c.nonnegative k' k below⟩

/-- The id is listed with a definition that passes the gate and with one that does not. -/
def Conflicted (gate : AdmissibilityGate K) (nodes : List (CapabilityNode K)) (id : String) : Prop :=
  (∃ node ∈ nodes, node.nodeId = id ∧ gate.Satisfied node) ∧
    ∃ node ∈ nodes, node.nodeId = id ∧ ¬gate.Satisfied node

/-- The nodes of every route satisfy the hard constraints as the graph defines them,
and none of them is reported as blocked. -/
def Unbypassed (host : Host) (gate : AdmissibilityGate K) (graph : CapabilityGraph arith) : Prop :=
  ∀ (interpreter : Interpreter) (fuel : Nat) (origin : String) (targets : Option (List String))
    (result : RoutingResult K), graph.crossings.length + 2 ≤ fuel →
    graph.route host interpreter fuel origin targets = some (.ok result) →
    ∀ id ∈ result.path, (∃ node, graph.node id = .ok node ∧ gate.Satisfied node) ∧
      Dict.get? id result.blocked = none

/-- A walk of finite cost leads from the node to one that has a potential. -/
def Routable (graph : CapabilityGraph arith) (val : K → L) (id : String) : Prop :=
  ∃ target path cost node potential, graph.Walk id (target :: path) cost ∧ val cost < ⊤ ∧
    graph.node target = .ok node ∧ graph.potential node = .ok potential

section
variable {nodes : List (CapabilityNode K)} {crossings : List (Crossing arith)} {gate : AdmissibilityGate K}
  {potential : Potential K}

theorem Routable.route (host : Host) (interpreter : Interpreter) (lawful : arith.Lawful val) {id : String}
    (admissible : id ∈ graph.admissibleIds) (routable : graph.Routable val id) {fuel : Nat}
    (enough : graph.crossings.length + 2 ≤ fuel) :
    ∃ targets result, graph.route host interpreter fuel id targets = some (.ok result) ∧ id ∈ result.path ∧
      result.blocked = graph.blocked := by
  obtain ⟨target, path, cost, node, p, walk, finite, held, priced⟩ := routable
  obtain ⟨s, found, shortest⟩ := search_shortest graph lawful id enough
  have requested : graph.Requested (some [target]) target :=
    ⟨walk.admissible admissible target (by simp), fun listed same => by cases same; simp⟩
  obtain ⟨terminals, made⟩ := terminals_total s interpreter (some [target])
    fun other d wanted _ => by
      obtain rfl : other = target := List.mem_singleton.mp (wanted.2 _ rfl)
      exact ⟨node, p, held, priced⟩
  obtain ⟨d, known, -⟩ := shortest.complete walk finite
  obtain ⟨t, member, -⟩ := (terminals_listed made).complete requested known
  cases terminals with
  | nil => cases member
  | cons first rest =>
    obtain ⟨path', tight, routed⟩ := route_returns shortest host admissible found made
    refine ⟨_, _, routed, ?_, rfl⟩
    exact List.mem_reverse.mpr (List.mem_of_getLast? (walk_of_trail tight.trail).getLast)

theorem unbypassed_iff (host : Host) (lawful : arith.Lawful val)
    (made : init nodes crossings gate potential = .ok graph) :
    graph.Unbypassed host gate ↔ ∀ id, Conflicted gate nodes id → ¬graph.Routable val id := by
  have built := built_of_init made
  constructor
  · rintro safe id ⟨passing, failing⟩ routable
    obtain ⟨targets, result, routed, member, same⟩ := routable.route host asListed lawful
      (built.mem_admissibleIds.mpr passing) le_rfl
    obtain ⟨reasons, reported⟩ := (built.filtered.blocks id).mpr failing
    have unreported := (safe asListed _ id targets result le_rfl routed id member).2
    rw [same, reported] at unreported
    cases unreported
  · intro unroutable interpreter fuel origin targets result enough routed id member
    obtain ⟨s, found, shortest⟩ := search_shortest graph lawful origin enough
    obtain ⟨first, rest, walked, listing, back, rfl⟩ := route_ok found routed
    obtain ⟨-, reached⟩ := (terminals_listed listing).sound _ (leastTerminal_mem arith first rest)
    obtain ⟨path, back', tight⟩ := shortest.traced reached.distance
    obtain rfl := Option.some.inj (back.symm.trans back')
    have walk := walk_of_trail tight.trail
    have visited := List.mem_reverse.mp member
    obtain ⟨passing, listed, own, satisfied⟩ := built.mem_admissibleIds.mp
      (walk.admissible (admissible_of_route routed) id visited)
    have unconflicted : ¬∃ node ∈ nodes, node.nodeId = id ∧ ¬gate.Satisfied node := by
      intro failing
      obtain ⟨rest', cost, onward, below⟩ := (walk.from_node lawful).2 _ _ rfl id visited
      obtain ⟨node, held, priced⟩ := reached.potential
      exact unroutable id ⟨⟨passing, listed, own, satisfied⟩, failing⟩
        ⟨_, rest', cost, node, _, onward, below.trans_lt (shortest.bounded reached.distance).2, held, priced⟩
    constructor
    · obtain ⟨used, held⟩ := built.node_exists listed
      obtain ⟨listed', own'⟩ := built.node_listed held
      refine ⟨used, own ▸ held, by_contra fun fails => ?_⟩
      exact unconflicted ⟨used, listed', own'.trans own, fails⟩
    · cases reported : Dict.get? id graph.blocked with
      | none => exact reported
      | some reasons => exact absurd ((built.filtered.blocks id).mp ⟨reasons, reported⟩) unconflicted

end

/-- Over binary64 costs, the hard constraints are never bypassed exactly when no
routable id is defined twice with different verdicts. -/
theorem route_unbypassed_iff (host : Host) {nodes : List (CapabilityNode Binary64)}
    {crossings : List (Crossing floatCosts)} {gate : AdmissibilityGate Binary64} {potential : Potential Binary64}
    {graph : CapabilityGraph floatCosts} (made : init nodes crossings gate potential = .ok graph) :
    graph.Unbypassed host gate ↔ ∀ id, Conflicted gate nodes id → ¬graph.Routable Binary64.val id :=
  unbypassed_iff host floatCosts_lawful made

/-! One id, listed with enough of the metric that the gate asks for and again with less. -/

def floatsOfOne : FloatMath where
  sum xs := xs.foldl Binary64.add (.zero false)
  log10 x := x
  fixed12 _ := ""

def minusOne : Binary64 := .ofSigned (-1)

def shownUnit (x : Binary64) : String := if x = minusOne then "-1" else "0"

def trusted : CapabilityNode Binary64 := ⟨"a", "", [("trust", .zero false)], []⟩

def distrusted : CapabilityNode Binary64 := ⟨"a", "", [("trust", minusOne)], []⟩

def twiceNodes : List (CapabilityNode Binary64) := [trusted, distrusted]

def trustGate : AdmissibilityGate Binary64 := ⟨[metricFloor shownUnit "trust" (.zero false)]⟩

theorem trust_ascending : atMost .one (.zero false) = false := by decide +kernel

def trustCriterion : Floats.Criterion where
  name := "trust"
  direction := .higherIsBetter
  lo := .zero false
  hi := .one
  scale := .linear
  ascending := trust_ascending
  logarithmic := nofun

theorem trust_weighed : (Binary64.ofDecimal false ⟨1, -9⟩).lt
    (((floatsOfOne.sum [.one]).sub .one).withSign false) = false := by
  decide +kernel

theorem trust_nonnegative : ∀ w ∈ [("trust", Binary64.one)], w.2.lt (.zero false) = false := by
  decide +kernel

theorem trust_covered : ∀ w ∈ [("trust", Binary64.one)], (Dict.get? w.1 [("trust", trustCriterion)]).isSome = true := by
  simp

def trustPreference : Floats.PreferenceModel floatsOfOne where
  criteria := [("trust", trustCriterion)]
  weights := [("trust", .one)]
  covered := trust_covered
  nonnegative := trust_nonnegative
  total := trust_weighed

def twiceGraph : CapabilityGraph floatCosts where
  nodes := [("a", distrusted)]
  crossings := []
  potential := trustPreference.potential asListed
  admissible := [trusted]
  blocked := [("a", ["trust=-1<0"])]

theorem twiceGraph_made :
    init twiceNodes [] trustGate (trustPreference.potential asListed) = .ok twiceGraph := by
  have holds : atMost (.zero false) (.zero false) = true := by decide +kernel
  have fails : atMost (.zero false) minusOne = false := by decide +kernel
  have shown : shownUnit minusOne = "-1" ∧ shownUnit (.zero false) = "0" := by decide +kernel
  have passes : trustGate.evaluate trusted = .ok ⟨"a", true, []⟩ := by
    simp only [AdmissibilityGate.evaluate, trustGate, List.mapM_cons, List.mapM_nil, metricFloor, trusted,
      Dict.get?_cons, if_true, holds]
    rfl
  have blocks : trustGate.evaluate distrusted = .ok ⟨"a", false, ["trust=-1<0"]⟩ := by
    simp only [AdmissibilityGate.evaluate, trustGate, List.mapM_cons, List.mapM_nil, metricFloor, distrusted,
      Dict.get?_cons, if_true, fails, Bool.false_eq_true, if_false, shown.1, shown.2]
    rfl
  simp only [init, AdmissibilityGate.filter, twiceNodes, List.foldlM_cons, passes, blocks, Fallible.ok_bind]
  rfl

theorem route_unbypassed_sample : twiceGraph.Unbypassed zeroHost trustGate ↔
    ∀ id, Conflicted trustGate twiceNodes id → ¬twiceGraph.Routable Binary64.val id :=
  route_unbypassed_iff zeroHost twiceGraph_made

def twiceAnswer : Option (List String × Binary64 × List (String × List String)) :=
  ((twiceGraph.route zeroHost asListed 2 "a" none).bind Except.toOption).map
    fun result => (result.path, result.totalCost, result.blocked)

/-- The route goes through the id that it reports as blocked. -/
theorem twice_bypassed : ¬∀ (nodes : List (CapabilityNode Binary64)) (crossings : List (Crossing floatCosts))
    (gate : AdmissibilityGate Binary64) (preference : Floats.PreferenceModel floatsOfOne)
    (graph : CapabilityGraph floatCosts),
    init nodes crossings gate (preference.potential asListed) = .ok graph → graph.Unbypassed zeroHost gate := by
  intro safe
  have arrives : twiceAnswer = some (["a"], .one, [("a", ["trust=-1<0"])]) := by decide +kernel
  obtain ⟨result, returned, same⟩ := Option.map_eq_some_iff.mp arrives
  obtain ⟨path, rest⟩ := Prod.mk.inj same
  obtain ⟨answer, routed, held⟩ := Option.bind_eq_some_iff.mp returned
  cases answer with
  | error e => cases held
  | ok answer =>
    obtain rfl := Option.some.inj held
    have unreported := (safe _ _ _ _ _ twiceGraph_made asListed 2 "a" none answer (by decide) routed "a"
      (by simp [path])).2
    rw [(Prod.mk.inj rest).2] at unreported
    cases unreported

end CapabilityGraph
end MatVerse
