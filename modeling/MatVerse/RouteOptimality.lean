import MatVerse.FederationPreference
import MatVerse.RouteSearch
import Mathlib.Algebra.Order.Monoid.WithTop

/-! Over exact costs a route is a least walk: its crossings are the cheapest
between their ends, and no requested node can be had for less in all. -/
namespace MatVerse

open ShortestPath Fallible

/-! ## Preferences -/

structure Criterion where
  name : String
  direction : Direction
  lo : ℚ
  hi : ℚ
  scale : Scale
  ordered : lo < hi
  positive : scale = .log → 0 < lo

/-- `math.log10` is taken from outside. -/
def Criterion.goodness (log10 : ℚ → ℚ) (criterion : Criterion) (raw : ℚ) : ℚ :=
  let (lo, hi, value) :=
    match criterion.scale with
    | .linear => (criterion.lo, criterion.hi, raw)
    | .log => (log10 criterion.lo, log10 criterion.hi, log10 (max raw (1 / 10 ^ 12)))
  let t := min 1 (max 0 ((value - lo) / (hi - lo)))
  match criterion.direction with
  | .higherIsBetter => t
  | .lowerIsBetter => 1 - t

def lookup {α : Type} (key : String) (d : List (String × α)) : Except PyError α :=
  match Dict.get? key d with
  | some value => .ok value
  | none => .error (.keyError key)

structure PreferenceModel where
  criteria : List (String × Criterion)
  weights : List (String × ℚ)
  defined : ∀ name ∈ weights.map Prod.fst, name ∈ criteria.map Prod.fst
  nonnegative : ∀ weight ∈ weights.map Prod.snd, 0 ≤ weight
  normalized : |(weights.map Prod.snd).sum - 1| ≤ 1 / 10 ^ 9

namespace PreferenceModel

variable (log10 : ℚ → ℚ) (interpreter : Interpreter)

/-- `sorted(missing)` as the message shows it. -/
def shown (names : List String) : String :=
  "[" ++ ", ".intercalate ((names.mergeSort (· ≤ ·)).map interpreter.repr) ++ "]"

def goodnessVector (model : PreferenceModel) (node : CapabilityNode ℚ) : Except PyError (List (String × ℚ)) :=
  let missing := (model.weights.map Prod.fst).filter fun name => !(node.raw.map Prod.fst).contains name
  if missing.isEmpty then
    model.weights.mapM fun (name, _) => do
      let criterion ← lookup name model.criteria
      let raw ← lookup name node.raw
      return (name, criterion.goodness log10 raw)
  else .error (.keyError (node.nodeId ++ ": missing criteria " ++ shown interpreter missing))

def score (model : PreferenceModel) (node : CapabilityNode ℚ) : Except PyError ℚ := do
  let vector ← model.goodnessVector log10 interpreter node
  let terms ← model.weights.mapM fun (name, weight) => do return weight * (← lookup name vector)
  return terms.sum

def potential (model : PreferenceModel) : Potential ℚ := fun node => do
  return 1 - (← model.score log10 interpreter node)

/-- The node carries all the weighted criteria. -/
def Weighs (model : PreferenceModel) (node : CapabilityNode ℚ) : Prop :=
  ∀ name ∈ model.weights.map Prod.fst, name ∈ node.raw.map Prod.fst

theorem lookup_ok {α : Type} {key : String} {d : List (String × α)} (listed : key ∈ d.map Prod.fst) :
    ∃ value, lookup key d = .ok value := by
  induction d with
  | nil => simp at listed
  | cons p rest ih =>
    obtain ⟨k, v⟩ := p
    simp only [lookup, Dict.get?_cons]
    split
    next found =>
      split at found
      · exact ⟨_, rfl⟩
      · exact ⟨_, rfl⟩
    next missing =>
      split at missing
      · cases missing
      next other =>
        obtain ⟨value, held⟩ := ih ((List.mem_cons.mp listed).resolve_left other)
        simp [lookup, missing] at held

theorem potential_ok {model : PreferenceModel} {node : CapabilityNode ℚ} (weighs : model.Weighs node) :
    ∃ p, model.potential log10 interpreter node = .ok p := by
  have complete : ((model.weights.map Prod.fst).filter
      fun name => !(node.raw.map Prod.fst).contains name).isEmpty = true := by
    simp only [List.isEmpty_iff, List.filter_eq_nil_iff, Bool.not_eq_true', Bool.not_eq_false,
      List.contains_iff_mem]
    exact weighs
  obtain ⟨vector, made⟩ : ∃ vector, model.goodnessVector log10 interpreter node = .ok vector := by
    simp only [goodnessVector, complete, if_true]
    refine mapM_ok fun ⟨name, weight⟩ listed => ?_
    have weighted : name ∈ model.weights.map Prod.fst := List.mem_map.mpr ⟨_, listed, rfl⟩
    obtain ⟨criterion, first⟩ := lookup_ok (model.defined name weighted)
    obtain ⟨raw, second⟩ := lookup_ok (weighs name weighted)
    exact ⟨(name, criterion.goodness log10 raw), by simp only [first, second, ok_bind]; rfl⟩
  have names : vector.map Prod.fst = model.weights.map Prod.fst := by
    simp only [goodnessVector, complete, if_true] at made
    refine mapM_map (fun returned => ?_) made
    simp only [bind_ok, pure_ok] at returned
    obtain ⟨_, _, _, _, rfl⟩ := returned
    rfl
  obtain ⟨terms, summed⟩ : ∃ terms, (model.weights.mapM fun (name, weight) => do
      return weight * (← lookup name vector) : Except PyError (List ℚ)) = .ok terms := by
    refine mapM_ok fun ⟨name, weight⟩ listed => ?_
    have weighted : name ∈ vector.map Prod.fst := by
      rw [names]
      exact List.mem_map.mpr ⟨_, listed, rfl⟩
    obtain ⟨value, held⟩ := lookup_ok weighted
    exact ⟨weight * value, by simp only [held, ok_bind]; rfl⟩
  exact ⟨1 - terms.sum, by simp only [potential, score, made, summed, ok_bind]; rfl⟩

end PreferenceModel

/-! ## Exact costs -/

def exactVal (q : ℚ) : WithTop ℚ := q

theorem exactCosts_lawful : exactCosts.Lawful exactVal where
  zero_lt := WithTop.coe_lt_top _
  finite_iff x := by simp [exactCosts, exactVal]
  lt_iff x y _ := by simp [exactCosts, exactVal]
  eq_iff x y _ := by simp [exactCosts, exactVal]
  inflates c nonnegative k := by
    have : 0 ≤ c := by simpa [exactCosts] using nonnegative
    exact WithTop.coe_le_coe.mpr (le_add_of_nonneg_right this)
  monotone c _ a b below := WithTop.coe_le_coe.mpr (add_le_add_left (WithTop.coe_le_coe.mp below) c)

namespace CapabilityGraph

/-- The least cost of the crossings from one node to another. -/
def leastCost (graph : CapabilityGraph exactCosts) (src dst : String) : ℚ :=
  (((graph.adj src).filter fun c => c.dst == dst).map fun c => c.cost).min?.getD 0

def pathCost (graph : CapabilityGraph exactCosts) : List String → ℚ
  | src :: dst :: rest => graph.leastCost src dst + graph.pathCost (dst :: rest)
  | _ => 0

variable {graph : CapabilityGraph exactCosts} {origin : String} {targets : Option (List String)}

theorem leastCost_eq {src : String} {c : Crossing exactCosts} (leaves : c ∈ graph.adj src)
    (least : ∀ other ∈ graph.adj src, other.dst = c.dst → c.cost ≤ other.cost) :
    graph.leastCost src c.dst = c.cost := by
  have found : (((graph.adj src).filter fun other => other.dst == c.dst).map fun other => other.cost).min? =
      some c.cost := by
    rw [List.min?_eq_some_iff]
    refine ⟨List.mem_map.mpr ⟨c, List.mem_filter.mpr ⟨leaves, beq_self_eq_true _⟩, rfl⟩, fun cost member => ?_⟩
    obtain ⟨other, parallel, rfl⟩ := List.mem_map.mp member
    obtain ⟨listed, same⟩ := List.mem_filter.mp parallel
    exact least other listed (beq_iff_eq.mp same)
  rw [leastCost, found]
  rfl

theorem pathCost_snoc (path : List String) (src dst : String) :
    graph.pathCost (path ++ [src, dst]) = graph.pathCost (path ++ [src]) + graph.leastCost src dst := by
  induction path with
  | nil => simp [pathCost]
  | cons first rest ih =>
    cases rest with
    | nil => simp [pathCost]
    | cons second rest =>
      simp only [List.cons_append, pathCost] at ih ⊢
      rw [ih, add_assoc]

/-- The cost of a walk over cheapest crossings is that of its nodes. -/
theorem cost_of_tight {path : List String} {d : ℚ}
    (tight : Tight (graph.network exactCosts_lawful) origin exactCosts.zero path d) :
    d = graph.pathCost path.reverse := by
  induction tight with
  | start => rfl
  | @step id path k e _ leaves cheapest ih =>
    obtain ⟨c, listed, rfl⟩ := List.mem_map.mp leaves
    have least : ∀ other ∈ graph.adj id, other.dst = c.dst → c.cost ≤ other.cost := by
      intro other parallel same
      have bound := cheapest _ (List.mem_map.mpr ⟨other, parallel, rfl⟩) same
      exact le_of_add_le_add_left (WithTop.coe_le_coe.mp bound)
    rw [List.reverse_cons, List.reverse_cons, List.append_assoc, List.singleton_append, pathCost_snoc,
      leastCost_eq listed least, ← List.reverse_cons, ← ih]
    rfl

theorem leastTerminal_le (first : Terminal ℚ) (rest : List (Terminal ℚ)) :
    ∀ t ∈ first :: rest, (leastTerminal exactCosts first rest).total exactCosts ≤ t.total exactCosts := by
  induction rest generalizing first with
  | nil => simp [leastTerminal]
  | cons next rest ih =>
    have least := ih (if exactCosts.lt (next.total exactCosts) (first.total exactCosts) then next else first)
    obtain ⟨chosen, later⟩ := List.forall_mem_cons.mp least
    have both : (if exactCosts.lt (next.total exactCosts) (first.total exactCosts) then next else first).total
        exactCosts ≤ min (first.total exactCosts) (next.total exactCosts) := by
      split
      next less =>
        have below : next.total exactCosts < first.total exactCosts := of_decide_eq_true less
        exact le_min below.le le_rfl
      next not =>
        have above : ¬ next.total exactCosts < first.total exactCosts := fun less => not (decide_eq_true less)
        exact le_min le_rfl (not_lt.mp above)
    rw [leastTerminal, List.foldl_cons] at *
    refine List.forall_mem_cons.mpr ⟨?_, List.forall_mem_cons.mpr ⟨?_, later⟩⟩
    · exact chosen.trans (both.trans (min_le_left _ _))
    · exact chosen.trans (both.trans (min_le_right _ _))

/-- A walk from the origin to a requested node over cheapest crossings, for less
than which no requested node can be had. -/
structure Optimal (graph : CapabilityGraph exactCosts) (origin : String) (targets : Option (List String))
    (result : RoutingResult ℚ) : Prop where
  starts : result.path.head? = some origin
  walks : graph.Walk origin result.path.reverse result.crossingCost
  chain : result.path.IsChain graph.Crosses
  admissible : ∀ id ∈ result.path, id ∈ graph.admissibleIds
  arrives : ∃ target node, result.path.getLast? = some target ∧ graph.Requested targets target ∧
    graph.node target = .ok node ∧ graph.potential node = .ok result.terminalPotential
  crossing : result.crossingCost = graph.pathCost result.path
  total : result.totalCost = result.crossingCost + result.terminalPotential
  least : ∀ {target path cost node potential}, graph.Requested targets target →
    graph.Walk origin (target :: path) cost → graph.node target = .ok node →
    graph.potential node = .ok potential → result.totalCost ≤ cost + potential

theorem optimal_of_tight {host : Host} {fuel : Nat} {s : Search ℚ}
    (shortest : graph.Shortest origin exactCosts_lawful fuel s) (admissible : origin ∈ graph.admissibleIds)
    {first : Terminal ℚ} {rest : List (Terminal ℚ)} (listed : graph.Listed s targets (first :: rest))
    {path : List String} (tight : Tight (graph.network exactCosts_lawful) origin exactCosts.zero
      ((leastTerminal exactCosts first rest).node :: path) (leastTerminal exactCosts first rest).distance) :
    graph.Optimal origin targets (graph.resultAt host ((leastTerminal exactCosts first rest).node :: path)
      (leastTerminal exactCosts first rest)) := by
  have walk := walk_of_trail tight.trail
  obtain ⟨requested, reached⟩ := listed.sound _ (leastTerminal_mem exactCosts first rest)
  obtain ⟨node, held, potential⟩ := reached.potential
  refine ⟨?_, ?_, ?_, ?_, ⟨_, node, ?_, requested, held, potential⟩, cost_of_tight tight, rfl, ?_⟩
  · rw [resultAt, List.head?_reverse]
    exact walk.getLast
  · rw [resultAt, List.reverse_reverse]
    exact walk
  · exact List.isChain_reverse.mpr walk.chain
  · exact fun id member => walk.admissible admissible id (List.mem_reverse.mp member)
  · rw [resultAt, List.getLast?_reverse]
    rfl
  · intro target path' cost node' p' requested' walk' held' potential'
    obtain ⟨d, known, below⟩ := shortest.complete walk' (WithTop.coe_lt_top _)
    obtain ⟨t, member, rfl⟩ := listed.complete requested' known
    obtain ⟨-, reached'⟩ := listed.sound t member
    obtain ⟨node'', held'', potential''⟩ := reached'.potential
    obtain rfl := Except.ok.inj (held'.symm.trans held'')
    obtain rfl := Except.ok.inj (potential'.symm.trans potential'')
    obtain rfl := Option.some.inj (known.symm.trans reached'.distance)
    calc (leastTerminal exactCosts first rest).total exactCosts ≤ t.total exactCosts :=
          leastTerminal_le first rest t member
      _ ≤ cost + t.potential := add_le_add_left (WithTop.coe_le_coe.mp below) _

/-- The search ends with a least walk, or with an error when no requested node is
within reach. -/
theorem route_optimal (host : Host) (interpreter : Interpreter) (log10 : ℚ → ℚ) {nodes : List (CapabilityNode ℚ)}
    {crossings : List (Crossing exactCosts)} {gate : AdmissibilityGate ℚ} {model : PreferenceModel}
    (made : init nodes crossings gate (model.potential log10 interpreter) = .ok graph)
    (distinct : (nodes.map fun node => node.nodeId).Nodup) (weighed : ∀ node ∈ graph.admissible, model.Weighs node)
    (admissible : origin ∈ graph.admissibleIds) (targets : Option (List String)) {fuel : Nat}
    (enough : crossings.length + 2 ≤ fuel) :
    ∃ answer, graph.route host interpreter fuel origin targets = some answer ∧
      ((∃ e, answer = .error e) ↔
        ∀ target, graph.Requested targets target → ∀ path cost, ¬graph.Walk origin (target :: path) cost) ∧
      ∀ result, answer = .ok result → graph.Optimal origin targets result := by
  have built := built_of_init made
  obtain ⟨s, found, shortest⟩ :=
    search_shortest graph exactCosts_lawful origin (built.crossings_eq ▸ enough : graph.crossings.length + 2 ≤ fuel)
  obtain ⟨terminals, listing⟩ := terminals_total s interpreter targets
    fun id d requested known => by
      obtain ⟨node, listed, rfl, held⟩ := built.mem_admissibleIds.mp requested.1
      obtain ⟨p, potential⟩ := PreferenceModel.potential_ok log10 interpreter
        (weighed node ((built.filtered.admits node).mpr ⟨listed, held⟩))
      exact ⟨node, p, built.node_eq distinct listed, by rw [built.potential_eq, potential]⟩
  have listed := terminals_listed listing
  have reaches := listed.reaches shortest
  cases terminals with
  | nil =>
    obtain ⟨e, routed⟩ := route_nothing host admissible found listing
    refine ⟨.error e, routed, iff_of_true ⟨e, rfl⟩ fun target requested path cost walk => ?_,
      fun result same => by cases same⟩
    exact absurd rfl (reaches.mpr ⟨target, path, cost, requested, walk, WithTop.coe_lt_top _⟩)
  | cons first rest =>
    obtain ⟨path, tight, routed⟩ := route_returns shortest host admissible found listing
    refine ⟨.ok _, routed, iff_of_false (fun ⟨e, same⟩ => by cases same) fun none => ?_, fun result same => ?_⟩
    · obtain ⟨target, path, cost, requested, walk, -⟩ := reaches.mp (by simp)
      exact none target requested path cost walk
    · obtain rfl := Except.ok.inj same
      exact optimal_of_tight shortest admissible listed tight

/-! Two crossings from one node to the next, and a node that the gate refuses. -/

def sampleModel : PreferenceModel where
  criteria := [("quality", ⟨"quality", .higherIsBetter, 0, 1, .linear, by norm_num, by simp⟩)]
  weights := [("quality", 1)]
  defined := by simp
  nonnegative := by simp
  normalized := by norm_num

def sampleNodes : List (CapabilityNode ℚ) :=
  [⟨"a", "edge", [("quality", 1)], []⟩, ⟨"b", "core", [("quality", 1 / 2)], []⟩, ⟨"c", "closed", [], []⟩]

def sampleCrossings : List (Crossing exactCosts) :=
  [⟨"a", "b", 2, "", rfl⟩, ⟨"a", "b", 1, "", rfl⟩, ⟨"b", "a", 0, "", rfl⟩]

def sampleGate : AdmissibilityGate ℚ := ⟨[fun node => .ok (if node.layer = "closed" then some "closed" else none)]⟩

def samplePotential : Potential ℚ := sampleModel.potential id asListed

def sampleGraph : CapabilityGraph exactCosts where
  nodes := Dict.ofPairs (sampleNodes.map fun node => (node.nodeId, node))
  crossings := sampleCrossings
  potential := samplePotential
  admissible := sampleNodes.take 2
  blocked := [("c", ["closed"])]

theorem sampleGraph_made : init sampleNodes sampleCrossings sampleGate samplePotential = .ok sampleGraph := rfl

theorem route_optimal_sample :
    ∃ answer, sampleGraph.route zeroHost asListed 5 "a" (some ["b", "c"]) = some answer ∧
      ((∃ e, answer = .error e) ↔
        ∀ target, sampleGraph.Requested (some ["b", "c"]) target →
          ∀ path cost, ¬sampleGraph.Walk "a" (target :: path) cost) ∧
      ∀ result, answer = .ok result → sampleGraph.Optimal "a" (some ["b", "c"]) result :=
  route_optimal zeroHost asListed id sampleGraph_made (by decide)
    (by simp [sampleGraph, sampleNodes, PreferenceModel.Weighs, sampleModel])
    (by simp [admissibleIds, sampleGraph, sampleNodes]) _ (by decide)

end CapabilityGraph
end MatVerse
