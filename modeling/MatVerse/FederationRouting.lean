import MatVerse.Core
import MatVerse.Lib.Fallible

/-! Capability graphs: hard constraints select the admissible nodes, and a
shortest-path search runs on the crossings between them. Costs are any number
system with the comparisons the search makes. -/
namespace MatVerse

open Fallible

/-- What the search asks of its numbers. -/
structure CostArith (K : Type) where
  zero : K
  add : K → K → K
  lt : K → K → Bool
  eq : K → K → Bool
  /-- `x < math.inf`. -/
  finite : K → Bool
  /-- `round(x, 12)` as a JSON number. -/
  rounded : K → Json

def floatCosts : CostArith Binary64 where
  zero := .zero false
  add := Binary64.add
  lt := Binary64.lt
  eq := Binary64.eqv
  finite x := x.lt (.inf false)
  rounded x := .float (x.round 12)

/-- Exact costs, rounded only when they are written down. -/
def exactCosts : CostArith ℚ where
  zero := 0
  add := (· + ·)
  lt x y := decide (x < y)
  eq x y := decide (x = y)
  finite _ := true
  rounded x := .float ((Binary64.ofSigned x).round 12)

/-- What the interpreter settles: the order a set is iterated in, and `repr`. -/
structure Interpreter where
  iterate : List String → List String
  iterate_perm : ∀ ids, (iterate ids).Perm ids
  repr : String → String

structure CapabilityNode (K : Type) where
  nodeId : String
  layer : String
  raw : List (String × K)
  attrs : Mapping

variable {K : Type}

abbrev HardConstraint (K : Type) := CapabilityNode K → Except PyError (Option String)

/-- `PreferenceModel.potential`, which raises for a node that misses a criterion. -/
abbrev Potential (K : Type) := CapabilityNode K → Except PyError K

structure GateDecision where
  nodeId : String
  admissible : Bool
  reasons : List String

structure AdmissibilityGate (K : Type) where
  constraints : List (HardConstraint K)

def AdmissibilityGate.evaluate (gate : AdmissibilityGate K) (node : CapabilityNode K) :
    Except PyError GateDecision := do
  let reasons ← gate.constraints.mapM (fun check => check node)
  return ⟨node.nodeId, (reasons.filterMap id).isEmpty, reasons.filterMap id⟩

/-- The admissible nodes, and the reasons of the others. -/
def AdmissibilityGate.filter (gate : AdmissibilityGate K) (nodes : List (CapabilityNode K)) :
    Except PyError (List (CapabilityNode K) × List (String × List String)) :=
  nodes.foldlM (fun (admissible, blocked) node => do
    let decision ← gate.evaluate node
    if decision.admissible then return (admissible ++ [node], blocked)
    else return (admissible, Dict.insert node.nodeId decision.reasons blocked)) ([], [])

structure Crossing (arith : CostArith K) where
  src : String
  dst : String
  cost : K
  reason : String
  nonnegative : arith.lt cost arith.zero = false

structure CapabilityGraph (arith : CostArith K) where
  nodes : List (String × CapabilityNode K)
  crossings : List (Crossing arith)
  potential : Potential K
  admissible : List (CapabilityNode K)
  blocked : List (String × List String)

namespace CapabilityGraph

variable {arith : CostArith K}

def init (nodes : List (CapabilityNode K)) (crossings : List (Crossing arith)) (gate : AdmissibilityGate K)
    (potential : Potential K) : Except PyError (CapabilityGraph arith) := do
  let (admissible, blocked) ← gate.filter nodes
  return ⟨Dict.ofPairs (nodes.map (fun node => (node.nodeId, node))), crossings, potential, admissible, blocked⟩

def admissibleIds (graph : CapabilityGraph arith) : List String :=
  (graph.admissible.map (fun node => node.nodeId)).dedup

/-- `_adj`: the crossings that leave an admissible node for an admissible node. -/
def adj (graph : CapabilityGraph arith) (id : String) : List (Crossing arith) :=
  graph.crossings.filter fun c =>
    c.src == id && graph.admissibleIds.contains c.src && graph.admissibleIds.contains c.dst

/-! ## The search -/

structure Search (K : Type) where
  distance : List (String × K)
  previous : List (String × String)
  queue : List (K × String)

section
variable (arith)

/-- The order of the heap: by distance, then by node. -/
def before (a b : K × String) : Bool := arith.lt a.1 b.1 || (arith.eq a.1 b.1 && a.2 < b.2)

/-- `heapq.heappop` of a heap that holds an entry. -/
def heappop : K × String → List (K × String) → (K × String) × List (K × String)
  | entry, [] => (entry, [])
  | entry, next :: rest =>
    if before arith next entry then
      let (least, others) := heappop next rest
      (least, entry :: others)
    else
      let (least, others) := heappop entry rest
      (least, next :: others)

def shorter (candidate : K) : Option K → Bool
  | none => arith.finite candidate
  | some known => arith.lt candidate known

end

def relax (current : String) (currentDistance : K) (s : Search K) (c : Crossing arith) : Search K :=
  let candidate := arith.add currentDistance c.cost
  if shorter arith candidate (Dict.get? c.dst s.distance) then
    ⟨Dict.insert c.dst candidate s.distance, Dict.insert c.dst current s.previous,
      (candidate, c.dst) :: s.queue⟩
  else s

def settled (arith : CostArith K) (s : Search K) (entry : K × String) : Bool :=
  (Dict.get? entry.2 s.distance).any (arith.eq entry.1)

/-- The loop on the queue; nothing when it is not empty within the fuel. -/
def search (graph : CapabilityGraph arith) : Nat → Search K → Option (Search K)
  | 0, _ => none
  | fuel + 1, s =>
    match s.queue with
    | [] => some s
    | entry :: rest =>
      let (least, queue) := heappop arith entry rest
      let popped := { s with queue := queue }
      if settled arith popped least then
        graph.search fuel ((graph.adj least.2).foldl (relax least.2 least.1) popped)
      else graph.search fuel popped

/-- The path to a node, last node first. -/
def walkBack (previous : List (String × String)) : Nat → String → Option (List String)
  | 0, _ => none
  | fuel + 1, node =>
    match Dict.get? node previous with
    | none => some [node]
    | some before => (walkBack previous fuel before).map (node :: ·)

/-! ## Routes -/

structure RoutingResult (K : Type) where
  path : List String
  totalCost : K
  crossingCost : K
  terminalPotential : K
  blocked : List (String × List String)
  receiptSha256 : String

/-- `_admissible_ids`, or its intersection with the targets. -/
def candidates (graph : CapabilityGraph arith) (interpreter : Interpreter) (targets : Option (List String)) :
    List String :=
  interpreter.iterate <|
    match targets with
    | none => graph.admissibleIds
    | some targets => graph.admissibleIds.filter targets.contains

def node (graph : CapabilityGraph arith) (id : String) : Except PyError (CapabilityNode K) :=
  match Dict.get? id graph.nodes with
  | some node => .ok node
  | none => .error (.keyError id)

/-- A reachable candidate with its distance and its potential. -/
structure Terminal (K : Type) where
  node : String
  distance : K
  potential : K

def terminals (graph : CapabilityGraph arith) (s : Search K) (candidates : List String) :
    Except PyError (List (Terminal K)) :=
  (candidates.filterMap fun id => (Dict.get? id s.distance).map (fun d => (id, d))).mapM fun (id, distance) => do
    let node ← graph.node id
    let potential ← graph.potential node
    return ⟨id, distance, potential⟩

section
variable (arith)

def Terminal.total (t : Terminal K) : K := arith.add t.distance t.potential

/-- `min`: the first of the least. -/
def leastTerminal (first : Terminal K) (rest : List (Terminal K)) : Terminal K :=
  rest.foldl (fun best t => if arith.lt (t.total arith) (best.total arith) then t else best) first

def receiptPayload (path : List String) (t : Terminal K) (blocked : List (String × List String)) : Json :=
  .dict [("path", .arr (path.map .str)), ("crossing_cost", arith.rounded t.distance),
    ("terminal_potential", arith.rounded t.potential), ("total_cost", arith.rounded (t.total arith)),
    ("blocked", .dict (blocked.map fun p => (p.1, .arr ((p.2.mergeSort (· ≤ ·)).map .str))))]

end

/-- `CapabilityGraph.route`; nothing when a loop has not ended within the fuel. -/
def route (host : Host) (interpreter : Interpreter) (graph : CapabilityGraph arith) (fuel : Nat)
    (origin : String) (targets : Option (List String)) : Option (Except PyError (RoutingResult K)) :=
  if !graph.admissibleIds.contains origin then
    some (.error (.valueError ("origin " ++ interpreter.repr origin ++ " is missing or inadmissible")))
  else if (graph.candidates interpreter targets).isEmpty then
    some (.error (.valueError "no admissible targets"))
  else
    match graph.search fuel ⟨[(origin, arith.zero)], [], [(arith.zero, origin)]⟩ with
    | none => none
    | some s =>
      match graph.terminals s (graph.candidates interpreter targets) with
      | .error e => some (.error e)
      | .ok [] => some (.error (.valueError "no admissible target is reachable"))
      | .ok (first :: rest) =>
        let terminal := leastTerminal arith first rest
        match walkBack s.previous fuel terminal.node with
        | none => none
        | some walked =>
          let receipt := JsonText.dumpsAscii JsonText.compact
            (receiptPayload arith walked.reverse terminal graph.blocked)
          some (.ok ⟨walked.reverse, terminal.total arith, terminal.distance, terminal.potential,
            graph.blocked, sha256Text host receipt⟩)

/-! ## Paths cross admissible edges -/

/-- Some crossing leads from one admissible node to another. -/
def Crosses (graph : CapabilityGraph arith) (src dst : String) : Prop :=
  ∃ c ∈ graph.crossings, c.src = src ∧ c.dst = dst ∧ src ∈ graph.admissibleIds ∧ dst ∈ graph.admissibleIds

variable {graph : CapabilityGraph arith}

theorem crosses_of_adj {id : String} {c : Crossing arith} (member : c ∈ graph.adj id) :
    graph.Crosses id c.dst := by
  simp only [adj, List.mem_filter, Bool.and_eq_true, beq_iff_eq, List.contains_iff_mem] at member
  obtain ⟨listed, ⟨rfl, source⟩, target⟩ := member
  exact ⟨c, listed, rfl, rfl, source, target⟩

/-- Every predecessor the search notes is the source of a crossing. -/
def Search.Traced (graph : CapabilityGraph arith) (s : Search K) : Prop :=
  ∀ dst src, Dict.get? dst s.previous = some src → graph.Crosses src dst

theorem relax_traced {s : Search K} {current : String} {d : K} {c : Crossing arith}
    (traced : s.Traced graph) (leaves : c ∈ graph.adj current) : (relax current d s c).Traced graph := by
  simp only [relax]
  split
  · intro dst src found
    rw [Dict.get?_insert] at found
    split at found
    next same =>
      obtain rfl := Option.some.inj found
      subst same
      exact crosses_of_adj leaves
    next => exact traced dst src found
  · exact traced

theorem foldl_relax_traced {current : String} {d : K} (crossings : List (Crossing arith)) {s : Search K}
    (leave : ∀ c ∈ crossings, c ∈ graph.adj current) (traced : s.Traced graph) :
    (crossings.foldl (relax current d) s).Traced graph := by
  induction crossings generalizing s with
  | nil => exact traced
  | cons c rest ih =>
    exact ih (fun c member => leave c (List.mem_cons_of_mem _ member))
      (relax_traced traced (leave c (by simp)))

theorem search_traced (fuel : Nat) {s final : Search K} (done : graph.search fuel s = some final)
    (traced : s.Traced graph) : final.Traced graph := by
  induction fuel generalizing s with
  | zero => cases done
  | succ fuel ih =>
    simp only [search] at done
    split at done
    next => exact Option.some.inj done ▸ traced
    next entry rest queued =>
      split at done
      next => exact ih done (foldl_relax_traced _ (fun _ member => member) traced)
      next => exact ih done traced

theorem walkBack_traced {previous : List (String × String)} {crosses : String → String → Prop}
    (traced : ∀ dst src, Dict.get? dst previous = some src → crosses src dst) (fuel : Nat) {node : String}
    {walked : List String} (done : walkBack previous fuel node = some walked) :
    walked.head? = some node ∧ walked.IsChain (fun dst src => crosses src dst) := by
  induction fuel generalizing node walked with
  | zero => cases done
  | succ fuel ih =>
    simp only [walkBack] at done
    split at done
    next => cases done; simp
    next src found =>
      obtain ⟨rest, further, rfl⟩ := Option.map_eq_some_iff.mp done
      obtain ⟨first, chain⟩ := ih further
      cases rest with
      | nil => cases first
      | cons head rest =>
        obtain rfl := Option.some.inj first
        exact ⟨rfl, List.isChain_cons_cons.mpr ⟨traced _ _ found, chain⟩⟩

/-- Consecutive nodes of a returned path are joined by a crossing of the graph. -/
theorem route_crosses {host : Host} {interpreter : Interpreter} {fuel : Nat} {origin : String}
    {targets : Option (List String)} {result : RoutingResult K}
    (routed : graph.route host interpreter fuel origin targets = some (.ok result)) :
    result.path.IsChain graph.Crosses := by
  unfold route at routed
  split at routed
  · cases routed
  split at routed
  · cases routed
  split at routed
  · cases routed
  next s found =>
    split at routed
    · cases routed
    · cases routed
    next first rest listed =>
      dsimp only at routed
      split at routed
      · cases routed
      next walked back =>
        obtain rfl := Except.ok.inj (Option.some.inj routed)
        have traced : s.Traced graph := search_traced fuel found (fun _ _ none => by cases none)
        exact List.isChain_reverse.mpr (walkBack_traced traced fuel back).2

end CapabilityGraph
end MatVerse
