import MatVerse.RouteOptimality
import Mathlib.Data.List.Sort

/-! `conservativity_report` walks the crossings from the least unvisited node and
compares each crossing with the difference of the sums at its ends. The sums of two
roots start from zero alike, so a crossing between two of their trees is only
consistent when a potential agrees on the roots. -/
namespace MatVerse

open Fallible Relation

/-- The sums, and the nodes whose crossings are still to be followed. -/
structure Exploration where
  phi : List (String × ℚ)
  stack : List String

structure ConservativityReport where
  conservative : Bool
  violations : List (String × ℚ)

namespace CapabilityGraph

def visit (current : String) (s : Exploration) (c : Crossing exactCosts) : Except PyError Exploration := do
  let candidate := (← lookup current s.phi) + c.cost
  if (Dict.get? c.dst s.phi).isSome then return s
  else return ⟨Dict.insert c.dst candidate s.phi, c.dst :: s.stack⟩

/-- The loop on the stack; nothing when it is not empty within the fuel. -/
def explore (graph : CapabilityGraph exactCosts) : Nat → Exploration → Option (Except PyError (List (String × ℚ)))
  | 0, _ => none
  | fuel + 1, s =>
    match s.stack with
    | [] => some (.ok s.phi)
    | current :: rest =>
      match (graph.adj current).foldlM (visit current) { s with stack := rest } with
      | .error e => some (.error e)
      | .ok s => graph.explore fuel s

def exploreRoots (graph : CapabilityGraph exactCosts) (fuel : Nat) :
    List String → List (String × ℚ) → Option (Except PyError (List (String × ℚ)))
  | [], phi => some (.ok phi)
  | root :: rest, phi =>
    if (Dict.get? root phi).isSome then graph.exploreRoots fuel rest phi
    else
      match graph.explore fuel ⟨Dict.insert root 0 phi, [root]⟩ with
      | none => none
      | some (.error e) => some (.error e)
      | some (.ok phi) => graph.exploreRoots fuel rest phi

/-- The residual of a crossing whose ends both have a sum. -/
def residual (phi : List (String × ℚ)) (c : Crossing exactCosts) : Option ℚ :=
  match Dict.get? c.src phi, Dict.get? c.dst phi with
  | some src, some dst => some (c.cost - (dst - src))
  | _, _ => none

def violations (graph : CapabilityGraph exactCosts) (tolerance : ℚ) (phi : List (String × ℚ)) : List (String × ℚ) :=
  graph.crossings.filterMap fun c =>
    match residual phi c with
    | some residual => if tolerance < |residual| then some (c.src ++ "->" ++ c.dst, residual) else none
    | none => none

/-- `conservativity_report`; nothing when a loop has not ended within the fuel. -/
def conservativityReport (graph : CapabilityGraph exactCosts) (fuel : Nat) (tolerance : ℚ) :
    Option (Except PyError ConservativityReport) :=
  (graph.exploreRoots fuel (graph.admissibleIds.mergeSort (· ≤ ·)) []).map fun explored => do
    let violations := graph.violations tolerance (← explored)
    return ⟨violations.isEmpty, violations⟩

/-! ## Potentials and roots -/

/-- The crossings between admissible nodes are differences of `ψ`. -/
def Gradient (graph : CapabilityGraph exactCosts) (ψ : String → ℚ) : Prop :=
  ∀ c ∈ graph.crossings, c.src ∈ graph.admissibleIds → c.dst ∈ graph.admissibleIds → c.cost = ψ c.dst - ψ c.src

def Reaches (graph : CapabilityGraph exactCosts) : String → String → Prop := ReflTransGen graph.Crosses

/-- The least name among the nodes that reach a node. -/
structure Root (graph : CapabilityGraph exactCosts) (id root : String) : Prop where
  listed : root ∈ graph.admissibleIds
  reaches : graph.Reaches root id
  least : ∀ other ∈ graph.admissibleIds, graph.Reaches other id → root ≤ other

variable {graph : CapabilityGraph exactCosts}

theorem Root.unique {id root root' : String} (first : graph.Root id root) (second : graph.Root id root') :
    root = root' :=
  le_antisymm (first.least root' second.listed second.reaches) (second.least root first.listed first.reaches)

theorem mem_adj {id : String} {c : Crossing exactCosts} :
    c ∈ graph.adj id ↔ c ∈ graph.crossings ∧ c.src = id ∧ c.src ∈ graph.admissibleIds ∧
    c.dst ∈ graph.admissibleIds := by
  simp [adj, and_assoc]

theorem adj_of_crosses {src dst : String} (crosses : graph.Crosses src dst) :
    ∃ c ∈ graph.adj src, c.dst = dst := by
  obtain ⟨c, listed, rfl, rfl, source, target⟩ := crosses
  exact ⟨c, mem_adj.mpr ⟨listed, rfl, source, target⟩, rfl⟩

/-! ## The exploration of one root -/

def Visited (phi : List (String × ℚ)) (id : String) : Prop := ∃ d, Dict.get? id phi = some d

/-- Sums along crossings from the root, over what was known before it. -/
structure Exploring (graph : CapabilityGraph exactCosts) (root : String) (known phi : List (String × ℚ)) : Prop where
  kept : ∀ {id d}, Dict.get? id known = some d → Dict.get? id phi = some d
  reached : ∀ {id d}, Dict.get? id phi = some d → Dict.get? id known = some d ∨
    Dict.get? id known = none ∧ id ∈ graph.admissibleIds ∧ graph.Reaches root id ∧
      ∀ ψ, graph.Gradient ψ → d = ψ id - ψ root

theorem Exploring.unknown {root : String} {known phi : List (String × ℚ)} (exploring : graph.Exploring root known phi)
    {id : String} (unvisited : Dict.get? id phi = none) : Dict.get? id known = none := by
  cases before : Dict.get? id known with
  | none => rfl
  | some d =>
    rw [exploring.kept before] at unvisited
    cases unvisited

theorem Exploring.follow {root current dst : String} {known phi : List (String × ℚ)} {d : ℚ}
    (exploring : graph.Exploring root known phi) (sum : Dict.get? current phi = some d)
    (unknown : Dict.get? current known = none) {c : Crossing exactCosts} (leaves : c ∈ graph.adj current)
    (same : c.dst = dst) (unvisited : Dict.get? dst phi = none) :
    graph.Exploring root known (Dict.insert dst (d + c.cost) phi) := by
  obtain ⟨listed, rfl, source, target⟩ := mem_adj.mp leaves
  subst same
  obtain ⟨-, -, reaches, sums⟩ := (exploring.reached sum).resolve_left (by simp [unknown])
  refine ⟨fun {id d} held => ?_, fun {id d'} held => ?_⟩
  · have before := exploring.kept held
    have other : id ≠ c.dst := by
      rintro rfl
      rw [unvisited] at before
      cases before
    rwa [Dict.get?_insert_of_ne other]
  · rw [Dict.get?_insert] at held
    split at held
    next here =>
      obtain rfl := Option.some.inj held
      subst here
      refine .inr ⟨?_, target, reaches.tail (crosses_of_adj leaves), fun ψ gradient => ?_⟩
      · exact exploring.unknown unvisited
      · rw [sums ψ gradient, gradient c listed source target]
        ring
    next => exact exploring.reached held

def unvisited (graph : CapabilityGraph exactCosts) (phi : List (String × ℚ)) : Nat :=
  (graph.admissibleIds.filter fun id => (Dict.get? id phi).isNone).length

theorem unvisited_insert {phi : List (String × ℚ)} {id : String} (listed : id ∈ graph.admissibleIds)
    (fresh : Dict.get? id phi = none) (d : ℚ) : graph.unvisited (Dict.insert id d phi) < graph.unvisited phi := by
  have fewer : (graph.admissibleIds.filter fun other => (Dict.get? other (Dict.insert id d phi)).isNone).Sublist
      (graph.admissibleIds.filter fun other => (Dict.get? other phi).isNone) := by
    refine List.monotone_filter_right _ fun other none => ?_
    rw [Dict.get?_insert] at none
    split at none
    · cases none
    · exact none
  refine lt_of_le_of_ne fewer.length_le fun same => ?_
  have member : id ∈ graph.admissibleIds.filter fun other => (Dict.get? other phi).isNone :=
    List.mem_filter.mpr ⟨listed, by simp [fresh]⟩
  rw [← fewer.eq_of_length same] at member
  simp at member

/-- A node whose crossings were all followed. -/
def Closed (graph : CapabilityGraph exactCosts) (phi : List (String × ℚ)) (id : String) : Prop :=
  ∀ dst, graph.Crosses id dst → Visited phi dst

/-- What the loop on the stack keeps, while the crossings of `open_` are followed. -/
structure Stacked (graph : CapabilityGraph exactCosts) (root : String) (known : List (String × ℚ))
    (pending : String → Prop) (s : Exploration) : Prop where
  exploring : graph.Exploring root known s.phi
  stacked : ∀ id ∈ s.stack, Visited s.phi id ∧ Dict.get? id known = none
  closed : ∀ id, Visited s.phi id → id ∈ s.stack ∨ pending id ∨ graph.Closed s.phi id

theorem visit_stacked {root current : String} {known : List (String × ℚ)} {s : Exploration}
    (stacked : graph.Stacked root known (· = current) s) {d : ℚ} (sum : Dict.get? current s.phi = some d)
    (unknown : Dict.get? current known = none) {c : Crossing exactCosts} (leaves : c ∈ graph.adj current) :
    ∃ s', visit current s c = .ok s' ∧ graph.Stacked root known (· = current) s' ∧ Visited s'.phi c.dst ∧
      (∀ id d, Dict.get? id s.phi = some d → Dict.get? id s'.phi = some d) ∧
      graph.unvisited s'.phi + s'.stack.length ≤ graph.unvisited s.phi + s.stack.length := by
  have looked : lookup current s.phi = .ok d := by simp [lookup, sum]
  cases there : Dict.get? c.dst s.phi with
  | some d' =>
    refine ⟨s, by simp [visit, looked, there], stacked, ⟨d', there⟩, fun _ _ held => held, le_rfl⟩
  | none =>
    refine ⟨⟨Dict.insert c.dst (d + c.cost) s.phi, c.dst :: s.stack⟩,
      by simp [visit, looked, there], ?_, ⟨_, Dict.get?_insert_self _ _ _⟩, ?_, ?_⟩
    · have kept {id : String} (visited : Visited s.phi id) : Visited (Dict.insert c.dst (d + c.cost) s.phi) id := by
        obtain ⟨d', held⟩ := visited
        rw [Visited, Dict.get?_insert]
        split
        · exact ⟨_, rfl⟩
        · exact ⟨d', held⟩
      refine ⟨stacked.exploring.follow sum unknown leaves rfl there, fun id member => ?_, fun id visited => ?_⟩
      · rcases List.mem_cons.mp member with rfl | before
        · exact ⟨⟨_, Dict.get?_insert_self _ _ _⟩, stacked.exploring.unknown there⟩
        · obtain ⟨held, fresh⟩ := stacked.stacked id before
          exact ⟨kept held, fresh⟩
      · rcases eq_or_ne id c.dst with rfl | other
        · exact .inl (by simp)
        · have before : Visited s.phi id := by
            obtain ⟨d', held⟩ := visited
            exact ⟨d', by rwa [Dict.get?_insert_of_ne other] at held⟩
          rcases stacked.closed id before with waiting | pending | closed
          · exact .inl (List.mem_cons_of_mem _ waiting)
          · exact .inr (.inl pending)
          · exact .inr (.inr fun dst crosses => kept (closed dst crosses))
    · intro id d' held
      have other : id ≠ c.dst := by
        rintro rfl
        rw [there] at held
        cases held
      exact (Dict.get?_insert_of_ne other _ _).trans held
    · have fewer := unvisited_insert (mem_adj.mp leaves).2.2.2 there (d + c.cost)
      simp only [List.length_cons]
      omega

/-- Following the crossings of a node that was taken off the stack. -/
theorem foldlM_stacked {root current : String} {known : List (String × ℚ)} (crossings : List (Crossing exactCosts))
    {s : Exploration} (stacked : graph.Stacked root known (· = current) s) {d : ℚ}
    (sum : Dict.get? current s.phi = some d) (unknown : Dict.get? current known = none)
    (leave : ∀ c ∈ crossings, c ∈ graph.adj current) :
    ∃ s', crossings.foldlM (visit current) s = .ok s' ∧ graph.Stacked root known (· = current) s' ∧
      (∀ c ∈ crossings, Visited s'.phi c.dst) ∧ (∀ id d, Dict.get? id s.phi = some d → Dict.get? id s'.phi = some d) ∧
      graph.unvisited s'.phi + s'.stack.length ≤ graph.unvisited s.phi + s.stack.length := by
  induction crossings generalizing s with
  | nil => exact ⟨s, rfl, stacked, by simp, fun _ _ held => held, le_rfl⟩
  | cons c rest ih =>
    obtain ⟨s', visited, stacked', reached, kept, fewer⟩ := visit_stacked stacked sum unknown (leave c (by simp))
    obtain ⟨s'', done, stacked'', others, kept', fewer'⟩ :=
      ih stacked' (kept _ _ sum) (fun c' member => leave c' (List.mem_cons_of_mem _ member))
    refine ⟨s'', by rw [List.foldlM_cons, visited, ok_bind, done], stacked'', ?_,
      fun id d held => kept' id d (kept id d held), fewer'.trans fewer⟩
    refine List.forall_mem_cons.mpr ⟨?_, others⟩
    obtain ⟨d', held⟩ := reached
    exact ⟨d', kept' _ _ held⟩

/-- The loop on the stack ends; every node it reached was closed. -/
theorem explore_ends (fuel : Nat) {root : String} {known : List (String × ℚ)} {s : Exploration}
    (stacked : graph.Stacked root known (fun _ => False) s)
    (enough : graph.unvisited s.phi + s.stack.length < fuel) :
    ∃ phi, graph.explore fuel s = some (.ok phi) ∧ graph.Exploring root known phi ∧
      (∀ id d, Dict.get? id s.phi = some d → Dict.get? id phi = some d) ∧
      ∀ id, Visited phi id → graph.Closed phi id := by
  induction fuel generalizing s with
  | zero => omega
  | succ fuel ih =>
    obtain ⟨phi, stack⟩ := s
    cases stack with
    | nil =>
      refine ⟨phi, rfl, stacked.exploring, fun _ _ held => held, fun id visited => ?_⟩
      exact ((stacked.closed id visited).resolve_left (by simp)).resolve_left fun never => never
    | cons current rest =>
      obtain ⟨⟨d, sum⟩, unknown⟩ := stacked.stacked current (by simp)
      have popped : graph.Stacked root known (· = current) ⟨phi, rest⟩ := by
        refine ⟨stacked.exploring, fun id member => stacked.stacked id (List.mem_cons_of_mem _ member),
          fun id visited => ?_⟩
        rcases stacked.closed id visited with waiting | never | closed
        · exact (List.mem_cons.mp waiting).elim (.inr ∘ .inl) .inl
        · exact never.elim
        · exact .inr (.inr closed)
      obtain ⟨s', done, stacked', reached, kept, fewer⟩ :=
        foldlM_stacked (graph.adj current) popped sum unknown (fun _ member => member)
      have settled : graph.Stacked root known (fun _ => False) s' := by
        refine ⟨stacked'.exploring, stacked'.stacked, fun id visited => ?_⟩
        rcases stacked'.closed id visited with waiting | rfl | closed
        · exact .inl waiting
        · refine .inr (.inr fun dst crosses => ?_)
          obtain ⟨c, leaves, rfl⟩ := adj_of_crosses crosses
          exact reached c leaves
        · exact .inr (.inr closed)
      obtain ⟨phi', ended, exploring, kept', closed⟩ := ih settled (by simp at enough fewer; omega)
      refine ⟨phi', ?_, exploring, fun id d held => kept' id d (kept id d held), closed⟩
      simp only [explore, done, ended]

/-! ## All the roots -/

/-- Every node that has a sum lies below its root, and so do the nodes it leads to. -/
structure Explored (graph : CapabilityGraph exactCosts) (phi : List (String × ℚ)) : Prop where
  listed : ∀ {id d}, Dict.get? id phi = some d → id ∈ graph.admissibleIds
  closed : ∀ id, Visited phi id → graph.Closed phi id
  rooted : ∀ {id d}, Dict.get? id phi = some d →
    ∃ root, graph.Root id root ∧ ∀ ψ, graph.Gradient ψ → d = ψ id - ψ root

theorem Explored.reaches {phi : List (String × ℚ)} (explored : graph.Explored phi) {src dst : String}
    (visited : Visited phi src) (reaches : graph.Reaches src dst) : Visited phi dst := by
  induction reaches with
  | refl => exact visited
  | tail _ crosses ih => exact explored.closed _ ih _ crosses

theorem Explored.explore {phi : List (String × ℚ)} (explored : graph.Explored phi) {root : String}
    (listed : root ∈ graph.admissibleIds) (fresh : Dict.get? root phi = none)
    (smaller : ∀ id ∈ graph.admissibleIds, id < root → Visited phi id) {fuel : Nat}
    (enough : graph.admissibleIds.length < fuel) :
    ∃ phi', graph.explore fuel ⟨Dict.insert root 0 phi, [root]⟩ = some (.ok phi') ∧ graph.Explored phi' ∧
      Visited phi' root ∧ ∀ id, Visited phi id → Visited phi' id := by
  have kept {id : String} (visited : Visited phi id) : Visited (Dict.insert root 0 phi) id := by
    obtain ⟨d, held⟩ := visited
    rw [Visited, Dict.get?_insert]
    split
    · exact ⟨0, rfl⟩
    · exact ⟨d, held⟩
  have started : graph.Stacked root phi (fun _ => False) ⟨Dict.insert root 0 phi, [root]⟩ := by
    refine ⟨⟨fun {id d} held => ?_, fun {id d} held => ?_⟩, fun id member => ?_, fun id visited => ?_⟩
    · have other : id ≠ root := by
        rintro rfl
        rw [fresh] at held
        cases held
      exact (Dict.get?_insert_of_ne other _ _).trans held
    · rw [Dict.get?_insert] at held
      split at held
      next same =>
        obtain rfl := Option.some.inj held
        subst same
        exact .inr ⟨fresh, listed, .refl, fun ψ _ => (sub_self _).symm⟩
      next => exact .inl held
    · obtain rfl := List.mem_singleton.mp member
      exact ⟨⟨0, Dict.get?_insert_self _ _ _⟩, fresh⟩
    · rcases eq_or_ne id root with rfl | other
      · exact .inl (by simp)
      · obtain ⟨d, held⟩ := visited
        rw [Dict.get?_insert_of_ne other] at held
        exact .inr (.inr fun dst crosses => kept (explored.closed id ⟨d, held⟩ dst crosses))
  have fewer := unvisited_insert listed fresh 0
  have most : graph.unvisited phi ≤ graph.admissibleIds.length := List.length_filter_le _ _
  obtain ⟨phi', ended, exploring, later, closed⟩ := explore_ends fuel started (by simp; omega)
  refine ⟨phi', ended, ⟨fun {id d} held => ?_, closed, fun {id d} held => ?_⟩,
    ⟨0, later _ _ (Dict.get?_insert_self _ _ _)⟩, ?_⟩
  · rcases exploring.reached held with known | ⟨-, member, -⟩
    · exact explored.listed known
    · exact member
  · rcases exploring.reached held with known | ⟨unknown, -, reaches, sums⟩
    · exact explored.rooted known
    · refine ⟨root, ⟨listed, reaches, fun other listed' reaches' => not_lt.mp fun less => ?_⟩, sums⟩
      obtain ⟨d', known⟩ := explored.reaches (smaller other listed' less) reaches'
      rw [unknown] at known
      cases known
  · rintro id ⟨d, known⟩
    exact ⟨d, exploring.kept known⟩

theorem exploreRoots_ends {fuel : Nat} (enough : graph.admissibleIds.length < fuel) (roots : List String)
    {phi : List (String × ℚ)} (explored : graph.Explored phi) (sorted : roots.Pairwise (· ≤ ·))
    (listed : ∀ root ∈ roots, root ∈ graph.admissibleIds)
    (all : ∀ id ∈ graph.admissibleIds, id ∈ roots ∨ Visited phi id) :
    ∃ phi', graph.exploreRoots fuel roots phi = some (.ok phi') ∧ graph.Explored phi' ∧
      ∀ id ∈ graph.admissibleIds, Visited phi' id := by
  induction roots generalizing phi with
  | nil => exact ⟨phi, rfl, explored, fun id member => (all id member).resolve_left (by simp)⟩
  | cons root rest ih =>
    obtain ⟨first, sorted⟩ := List.pairwise_cons.mp sorted
    have others := fun other member => listed other (List.mem_cons_of_mem root member)
    cases fresh : Dict.get? root phi with
    | some d =>
      simp only [exploreRoots, fresh, Option.isSome_some, if_true]
      refine ih explored sorted others fun id member => ?_
      rcases all id member with waiting | visited
      · rcases List.mem_cons.mp waiting with rfl | later
        · exact .inr ⟨d, fresh⟩
        · exact .inl later
      · exact .inr visited
    | none =>
      have smaller : ∀ id ∈ graph.admissibleIds, id < root → Visited phi id := by
        intro id member less
        refine (all id member).resolve_left fun waiting => ?_
        rcases List.mem_cons.mp waiting with rfl | later
        · exact lt_irrefl _ less
        · exact absurd (first id later) (not_le.mpr less)
      obtain ⟨phi', ended, explored', visited, kept⟩ :=
        explored.explore (listed root (by simp)) fresh smaller enough
      simp only [exploreRoots, fresh, Option.isSome_none, Bool.false_eq_true, if_false, ended]
      refine ih explored' sorted others fun id member => ?_
      rcases all id member with waiting | before
      · rcases List.mem_cons.mp waiting with rfl | later
        · exact .inr visited
        · exact .inl later
      · exact .inr (kept id before)

theorem report_explored (graph : CapabilityGraph exactCosts) {fuel : Nat} (enough : graph.admissibleIds.length < fuel)
    (tolerance : ℚ) :
    ∃ phi, graph.Explored phi ∧ (∀ id ∈ graph.admissibleIds, Visited phi id) ∧
      graph.conservativityReport fuel tolerance =
        some (.ok ⟨(graph.violations tolerance phi).isEmpty, graph.violations tolerance phi⟩) := by
  have perm := List.mergeSort_perm graph.admissibleIds (· ≤ ·)
  have nothing : graph.Explored [] := by
    refine ⟨fun held => ?_, fun id ⟨d, held⟩ => ?_, fun held => ?_⟩
    · cases held
    · cases held
    · cases held
  obtain ⟨phi, ended, explored, visited⟩ := exploreRoots_ends enough (graph.admissibleIds.mergeSort (· ≤ ·)) nothing
    (List.pairwise_mergeSort' (· ≤ ·) _) (fun root member => perm.mem_iff.mp member)
    (fun id member => .inl (perm.mem_iff.mpr member))
  exact ⟨phi, explored, visited, by rw [conservativityReport, ended]; rfl⟩

/-! ## What a report says -/

/-- Without tolerance, a report is conservative when each crossing is the difference
of the sums at its ends. -/
theorem violations_empty {phi : List (String × ℚ)} :
    (graph.violations 0 phi).isEmpty = true ↔ ∀ c ∈ graph.crossings, ∀ src dst,
      Dict.get? c.src phi = some src → Dict.get? c.dst phi = some dst → c.cost = dst - src := by
  simp only [violations, List.isEmpty_iff, List.filterMap_eq_nil_iff]
  refine forall_congr' fun c => imp_congr_right fun listed => ?_
  cases first : Dict.get? c.src phi with
  | none => simp [residual, first]
  | some src =>
    cases second : Dict.get? c.dst phi with
    | none => simp [residual, first, second]
    | some dst => simp [residual, first, second, sub_eq_zero]

theorem gradient_of_sums {phi : List (String × ℚ)} (visited : ∀ id ∈ graph.admissibleIds, Visited phi id)
    (conservative : (graph.violations 0 phi).isEmpty = true) :
    graph.Gradient fun id => (Dict.get? id phi).getD 0 := by
  intro c listed source target
  obtain ⟨src, first⟩ := visited c.src source
  obtain ⟨dst, second⟩ := visited c.dst target
  simpa [first, second] using violations_empty.mp conservative c listed src dst first second

/-- Where there is a potential, a report is conservative when the roots of the two
ends of each crossing have the same value. -/
theorem Explored.decides_iff {phi : List (String × ℚ)} (explored : graph.Explored phi)
    (visited : ∀ id ∈ graph.admissibleIds, Visited phi id) {ψ : String → ℚ} (gradient : graph.Gradient ψ) :
    (graph.violations 0 phi).isEmpty = true ↔ ∀ src dst root root', graph.Crosses src dst →
      graph.Root src root → graph.Root dst root' → ψ root = ψ root' := by
  rw [violations_empty]
  constructor
  · rintro exact _ _ root root' ⟨c, listed, rfl, rfl, source, target⟩ first second
    obtain ⟨src, held⟩ := visited c.src source
    obtain ⟨dst, held'⟩ := visited c.dst target
    obtain ⟨r, rooted, sum⟩ := explored.rooted held
    obtain ⟨r', rooted', sum'⟩ := explored.rooted held'
    obtain rfl := first.unique rooted
    obtain rfl := second.unique rooted'
    have difference := exact c listed src dst held held'
    rw [gradient c listed source target, sum ψ gradient, sum' ψ gradient] at difference
    linarith
  · intro agree c listed src dst held held'
    obtain ⟨r, rooted, sum⟩ := explored.rooted held
    obtain ⟨r', rooted', sum'⟩ := explored.rooted held'
    have source := explored.listed held
    have target := explored.listed held'
    have same := agree c.src c.dst r r' ⟨c, listed, rfl, rfl, source, target⟩ rooted rooted'
    rw [gradient c listed source target, sum ψ gradient, sum' ψ gradient, same]
    ring

/-- The verdict is the existence of a potential exactly when every potential has the
same value at the roots of the two ends of each crossing. -/
theorem conservative_iff (graph : CapabilityGraph exactCosts) {fuel : Nat}
    (enough : graph.admissibleIds.length < fuel) : ∃ report, graph.conservativityReport fuel 0 = some (.ok report) ∧
      ((report.conservative = true ↔ ∃ ψ, graph.Gradient ψ) ↔
        ∀ ψ, graph.Gradient ψ → ∀ src dst root root', graph.Crosses src dst →
          graph.Root src root → graph.Root dst root' → ψ root = ψ root') := by
  obtain ⟨phi, explored, visited, reported⟩ := report_explored graph enough 0
  refine ⟨_, reported, ?_⟩
  constructor
  · intro decides ψ gradient
    exact (explored.decides_iff visited gradient).mp (decides.mpr ⟨ψ, gradient⟩)
  · intro agree
    refine ⟨fun conservative => ⟨_, gradient_of_sums visited conservative⟩, ?_⟩
    rintro ⟨ψ, gradient⟩
    exact (explored.decides_iff visited gradient).mpr (agree ψ gradient)

/-! Two sources, one sink: a potential exists, but both sources are roots. -/

def forkNodes : List (CapabilityNode ℚ) := [⟨"a", "", [], []⟩, ⟨"b", "", [], []⟩, ⟨"c", "", [], []⟩]

theorem one_nonnegative : exactCosts.lt 1 exactCosts.zero = false := rfl

theorem two_nonnegative : exactCosts.lt 2 exactCosts.zero = false := rfl

def forkGraph : CapabilityGraph exactCosts where
  nodes := Dict.ofPairs (forkNodes.map fun node => (node.nodeId, node))
  crossings := [⟨"a", "c", 1, "", one_nonnegative⟩, ⟨"b", "c", 2, "", two_nonnegative⟩]
  potential _ := .ok 0
  admissible := forkNodes
  blocked := []

theorem conservative_sample :
    ∃ report, forkGraph.conservativityReport 4 0 = some (.ok report) ∧
      ((report.conservative = true ↔ ∃ ψ, forkGraph.Gradient ψ) ↔
        ∀ ψ, forkGraph.Gradient ψ → ∀ src dst root root', forkGraph.Crosses src dst →
          forkGraph.Root src root → forkGraph.Root dst root' → ψ root = ψ root') :=
  conservative_iff forkGraph (by decide)

/-- The report calls the second crossing a violation. -/
theorem fork_reported_nonconservative :
    forkGraph.conservativityReport 4 0 = some (.ok ⟨false, [("b->c", 1)]⟩) ∧ ∃ ψ, forkGraph.Gradient ψ := by
  constructor
  · have sorted : forkGraph.admissibleIds.mergeSort (· ≤ ·) = ["a", "b", "c"] := by
      have listed : forkGraph.admissibleIds = ["a", "b", "c"] := by decide
      rw [listed]
      exact List.mergeSort_eq_self (· ≤ ·) (by decide)
    have sums : (forkGraph.exploreRoots 4 ["a", "b", "c"] []).bind Except.toOption =
        some [("a", 0), ("b", 0), ("c", 1)] := by decide +kernel
    obtain ⟨explored, ended, returned⟩ := Option.bind_eq_some_iff.mp sums
    have residuals : forkGraph.violations 0 [("a", 0), ("b", 0), ("c", 1)] = [("b->c", 1)] := by decide +kernel
    rw [conservativityReport, sorted, ended]
    cases explored with
    | error e => cases returned
    | ok phi =>
      obtain rfl := Option.some.inj returned
      simp only [Option.map_some, ok_bind, residuals]
      rfl
  · refine ⟨fun id => if id = "a" then 0 else if id = "b" then -1 else 1, ?_⟩
    simp only [Gradient, forkGraph, List.forall_mem_cons]
    refine ⟨fun _ _ => ?_, fun _ _ => ?_, by simp⟩
    · simp
    · simp
      norm_num

end CapabilityGraph
end MatVerse
