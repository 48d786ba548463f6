import MatVerse.RouteSearch

/-! The order a set is iterated in decides between targets of equal total. Routes
agree in every order when one reachable target is cheaper than all the others. -/
namespace MatVerse

open ShortestPath

variable {K L : Type} [LinearOrder L] [OrderTop L]

/-- Comparing totals: a shorter walk has no larger total. -/
structure CostArith.Totals (arith : CostArith K) (val : K → L) : Prop where
  asymm : ∀ x y, arith.lt x y = true → arith.lt y x = false
  smaller : ∀ a b p x, val arith.zero ≤ val a → val a ≤ val b → val b < ⊤ →
    arith.lt (arith.add b p) x = true → arith.lt (arith.add a p) x = true
  larger : ∀ a b p x, val arith.zero ≤ val a → val a ≤ val b → val b < ⊤ →
    arith.lt x (arith.add a p) = true → arith.lt x (arith.add b p) = true

/-! ## Binary64 costs -/

theorem floatCosts_add {a b : Binary64} (p : Binary64) (above : Binary64.val floatCosts.zero ≤ a.val)
    (le : a.val ≤ b.val) (finite : b.val < ⊤) : a.add p = b.add p ∨
      (a.add p ≠ .nan ∧ b.add p ≠ .nan ∧ (a.add p).val ≤ (b.add p).val) := by
  have lower : ⊥ < a.val := (bot_lt_iff_ne_bot.mpr (by simp [floatCosts, Binary64.zero, Binary64.val])).trans_le above
  obtain ⟨x, first⟩ := Binary64.toRat?_of_lt_top (le.trans_lt finite) lower
  obtain ⟨y, second⟩ := Binary64.toRat?_of_lt_top finite (lower.trans_le le)
  refine Binary64.add_mono p first second ?_
  rw [Binary64.val_of_toRat? first, Binary64.val_of_toRat? second] at le
  exact WithTop.coe_le_coe.mp (WithBot.coe_le_coe.mp le)

theorem floatCosts_totals : floatCosts.Totals Binary64.val where
  asymm x y less := by
    refine Bool.eq_false_of_not_eq_true fun greater => ?_
    exact lt_asymm (Binary64.lt_iff.mp less).2.2 (Binary64.lt_iff.mp greater).2.2
  smaller a b p x above le finite less := by
    rcases floatCosts_add p above le finite with same | ⟨number, -, grown⟩
    · exact (congrArg (Binary64.lt · x) same).trans less
    · obtain ⟨-, other, below⟩ := Binary64.lt_iff.mp less
      exact Binary64.lt_iff.mpr ⟨number, other, grown.trans_lt below⟩
  larger a b p x above le finite less := by
    rcases floatCosts_add p above le finite with same | ⟨-, number, grown⟩
    · exact (congrArg (Binary64.lt x) same).symm.trans less
    · obtain ⟨other, -, below⟩ := Binary64.lt_iff.mp less
      exact Binary64.lt_iff.mpr ⟨other, number, below.trans_le grown⟩

namespace CapabilityGraph

variable {arith : CostArith K} {val : K → L} {graph : CapabilityGraph arith} {origin : String}
  {targets : Option (List String)}

/-! ## What a route answers with -/

/-- A walk of finite cost to a requested node, and the total it makes. -/
structure Offer (graph : CapabilityGraph arith) (val : K → L) (origin : String) (targets : Option (List String))
    (id : String) (total : K) : Prop where
  requested : graph.Requested targets id
  priced : ∃ path cost node potential, graph.Walk origin (id :: path) cost ∧ val cost < ⊤ ∧
    graph.node id = .ok node ∧ graph.potential node = .ok potential ∧ total = arith.add cost potential

/-- The origin is admissible, some requested node is reached, and all those that
are have a potential. -/
structure Answered (graph : CapabilityGraph arith) (val : K → L) (origin : String)
    (targets : Option (List String)) : Prop where
  admissible : origin ∈ graph.admissibleIds
  reaches : ∃ id path cost, graph.Requested targets id ∧ graph.Walk origin (id :: path) cost ∧ val cost < ⊤
  priced : ∀ {id path cost}, graph.Requested targets id → graph.Walk origin (id :: path) cost → val cost < ⊤ →
    ∃ node potential, graph.node id = .ok node ∧ graph.potential node = .ok potential

/-- One target can be had for less than any other. -/
def Decided (graph : CapabilityGraph arith) (val : K → L) (origin : String) (targets : Option (List String)) : Prop :=
  ∃ best total, graph.Offer val origin targets best total ∧
    ∀ other total', graph.Offer val origin targets other total' → other ≠ best → arith.lt total total' = true

/-- The result is the same in every order of iteration. -/
def Deterministic (host : Host) (graph : CapabilityGraph arith) (fuel : Nat) (origin : String)
    (targets : Option (List String)) : Prop :=
  ∀ (first second : Interpreter) (result other : RoutingResult K),
    graph.route host first fuel origin targets = some (.ok result) →
    graph.route host second fuel origin targets = some (.ok other) → result = other

theorem leastTerminal_eq (totals : arith.Totals val) {best : Terminal K} (first : Terminal K)
    (rest : List (Terminal K)) (member : best ∈ first :: rest)
    (least : ∀ t ∈ first :: rest, t ≠ best → arith.lt (best.total arith) (t.total arith) = true) :
    leastTerminal arith first rest = best := by
  induction rest generalizing first with
  | nil => exact (List.mem_singleton.mp member).symm
  | cons next rest ih =>
    rw [leastTerminal, List.foldl_cons]
    refine ih _ ?_ fun t listed => ?_
    · rcases List.mem_cons.mp member with rfl | later
      · rcases eq_or_ne next best with rfl | other
        · simp
        · have above := totals.asymm _ _ (least next (by simp) other)
          simp [above]
      · rcases List.mem_cons.mp later with rfl | later
        · rcases eq_or_ne first best with rfl | other
          · simp
          · have below := least first (by simp) other
            simp [below]
        · exact List.mem_cons_of_mem _ later
    · rcases List.mem_cons.mp listed with rfl | later
      · split
        · exact least next (by simp)
        · exact least first (by simp)
      · exact least t (by simp [later])

/-- A terminal that is not below the first one is not chosen before it. -/
theorem leastTerminal_second {first second : Terminal K} {rest : List (Terminal K)}
    (not : arith.lt (second.total arith) (first.total arith) = false) :
    leastTerminal arith first (second :: rest) ∈ first :: rest := by
  have same : leastTerminal arith first (second :: rest) = leastTerminal arith first rest := by
    simp [leastTerminal, not]
  rw [same]
  exact leastTerminal_mem _ first rest

/-! ## Orders of iteration -/

def front (id : String) (ids : List String) : List String :=
  ids.filter (fun other => other == id) ++ ids.filter (fun other => !(other == id))

/-- An interpreter that iterates two given elements first. -/
def leading (first second : String) : Interpreter where
  iterate ids := front first (front second ids)
  iterate_perm _ := (List.filter_append_perm _ _).trans (List.filter_append_perm _ _)
  repr id := id

theorem front_eq {id : String} {ids : List String} (distinct : ids.Nodup) (member : id ∈ ids) :
    front id ids = id :: ids.filter (fun other => !(other == id)) := by
  rw [front, List.filter_beq, List.count_eq_one_of_mem distinct member]
  rfl

theorem leading_iterate {first second : String} (other : first ≠ second) {ids : List String} (distinct : ids.Nodup)
    (member : first ∈ ids) (member' : second ∈ ids) :
    ∃ rest, (leading first second).iterate ids = first :: second :: rest := by
  have perm : (front second ids).Perm ids := List.filter_append_perm _ _
  have later : (!(second == first)) = true := by simpa using other.symm
  simp only [leading]
  rw [front_eq (perm.nodup_iff.mpr distinct) (perm.mem_iff.mpr member), front_eq distinct member',
    List.filter_cons, if_pos later]
  exact ⟨_, rfl⟩

theorem candidates_leading {first second : String} (other : first ≠ second)
    (requested : graph.Requested targets first) (requested' : graph.Requested targets second) :
    ∃ rest, graph.candidates (leading first second) targets = first :: second :: rest := by
  have distinct : graph.admissibleIds.Nodup := List.nodup_dedup _
  unfold candidates
  cases targets with
  | none => exact leading_iterate other distinct requested.1 requested'.1
  | some listed =>
    have wanted {id : String} (requested : graph.Requested (some listed) id) :
        id ∈ graph.admissibleIds.filter listed.contains :=
      List.mem_filter.mpr ⟨requested.1, List.contains_iff_mem.mpr (requested.2 listed rfl)⟩
    exact leading_iterate other (distinct.filter _) (wanted requested) (wanted requested')

section
variable {lawful : arith.Lawful val} {fuel : Nat} {s : Search K} (shortest : graph.Shortest origin lawful fuel s)
include shortest

theorem Answered.terminals (answered : graph.Answered val origin targets) (interpreter : Interpreter) :
    ∃ first rest, graph.terminals s (graph.candidates interpreter targets) = .ok (first :: rest) := by
  obtain ⟨terminals, made⟩ := terminals_total s interpreter targets
    fun id d requested known => by
      obtain ⟨path, -, tight⟩ := shortest.traced known
      exact answered.priced requested (walk_of_trail tight.trail) (shortest.bounded known).2
  cases terminals with
  | nil => exact absurd rfl (((terminals_listed made).reaches shortest).mpr answered.reaches)
  | cons first rest => exact ⟨first, rest, made⟩

theorem answered_of_terminals {interpreter : Interpreter} {first : Terminal K} {rest : List (Terminal K)}
    (admissible : origin ∈ graph.admissibleIds)
    (made : graph.terminals s (graph.candidates interpreter targets) = .ok (first :: rest)) :
    graph.Answered val origin targets := by
  have listed := terminals_listed made
  refine ⟨admissible, (listed.reaches shortest).mp (by simp), fun {id path cost} requested walk finite => ?_⟩
  obtain ⟨d, known, -⟩ := shortest.complete walk finite
  obtain ⟨t, member, rfl⟩ := listed.complete requested known
  obtain ⟨node, held, potential⟩ := (listed.sound t member).2.potential
  exact ⟨node, t.potential, held, potential⟩

theorem Reached.offer {t : Terminal K} (requested : graph.Requested targets t.node) (reached : graph.Reached s t) :
    graph.Offer val origin targets t.node (t.total arith) := by
  obtain ⟨path, -, tight⟩ := shortest.traced reached.distance
  obtain ⟨node, held, potential⟩ := reached.potential
  exact ⟨requested, path, t.distance, node, t.potential, walk_of_trail tight.trail,
    (shortest.bounded reached.distance).2, held, potential, rfl⟩

/-- What is offered is reached at no greater distance. -/
theorem Offer.reached {id : String} {total : K} (offer : graph.Offer val origin targets id total) :
    ∃ t cost, t.node = id ∧ graph.Reached s t ∧ val arith.zero ≤ val t.distance ∧ val t.distance ≤ val cost ∧
      val cost < ⊤ ∧ total = arith.add cost t.potential := by
  obtain ⟨path, cost, node, p, walk, finite, held, potential, rfl⟩ := offer.priced
  obtain ⟨d, known, below⟩ := shortest.complete walk finite
  exact ⟨⟨id, d, p⟩, cost, rfl, ⟨known, node, held, potential⟩, (shortest.bounded known).1, below, finite, rfl⟩

end

/-- Iterating `u` before `t`, a route only prefers `t` when its total is less. -/
theorem leading_returns (host : Host) {lawful : arith.Lawful val} {fuel : Nat} {s : Search K}
    (shortest : graph.Shortest origin lawful fuel s) (found : graph.search fuel (begin arith origin) = some s)
    (answered : graph.Answered val origin targets) {t u : Terminal K} (other : u.node ≠ t.node)
    (requested : graph.Requested targets t.node) (requested' : graph.Requested targets u.node)
    (reached : graph.Reached s t) (reached' : graph.Reached s u)
    (not : arith.lt (t.total arith) (u.total arith) = false) :
    ∃ result, graph.route host (leading u.node t.node) fuel origin targets = some (.ok result) ∧
      result.path.getLast? ≠ some t.node := by
  obtain ⟨first, rest, made⟩ := answered.terminals shortest (leading u.node t.node)
  have listed := terminals_listed made
  obtain ⟨path, -, routed⟩ := route_returns shortest host answered.admissible found made
  refine ⟨_, routed, ?_⟩
  have last : (graph.resultAt host ((leastTerminal arith first rest).node :: path)
      (leastTerminal arith first rest)).path.getLast? = some (leastTerminal arith first rest).node := by
    rw [resultAt, List.getLast?_reverse]
    rfl
  rw [last]
  -- the first two terminals are those of `u` and `t`
  obtain ⟨ids, candidates⟩ := candidates_leading other requested' requested
  have order := terminals_nodes made
  rw [candidates, List.filter_cons_of_pos (by simp [reached'.distance]),
    List.filter_cons_of_pos (by simp [reached.distance]), List.map_cons] at order
  obtain ⟨own, further⟩ := List.cons.inj order
  obtain rfl := (listed.sound first (by simp)).2.unique reached' own
  cases rest with
  | nil => cases further
  | cons second rest =>
    obtain ⟨own', -⟩ := List.cons.inj further
    obtain rfl := (listed.sound second (by simp)).2.unique reached own'
    have apart := (List.nodup_cons.mp (List.nodup_cons.mp listed.distinct).2).1
    intro same
    rcases List.mem_cons.mp (leastTerminal_second not) with chosen | later
    · rw [chosen] at same
      exact other (Option.some.inj same)
    · exact apart (List.mem_map.mpr ⟨_, later, Option.some.inj same⟩)

theorem deterministic_iff (host : Host) (lawful : arith.Lawful val) (totals : arith.Totals val)
    (graph : CapabilityGraph arith) {fuel : Nat} (enough : graph.crossings.length + 2 ≤ fuel) (origin : String)
    (targets : Option (List String)) :
    graph.Deterministic host fuel origin targets ↔
      (graph.Answered val origin targets → graph.Decided val origin targets) := by
  obtain ⟨s, found, shortest⟩ := search_shortest graph lawful origin enough
  constructor
  · intro same answered
    obtain ⟨first, rest, made⟩ := answered.terminals shortest (leading origin origin)
    have listed := terminals_listed made
    obtain ⟨requested, reached⟩ := listed.sound _ (leastTerminal_mem arith first rest)
    obtain ⟨path, -, routed⟩ := route_returns shortest host answered.admissible found made
    refine ⟨_, _, reached.offer shortest requested, fun other total offer apart => ?_⟩
    obtain ⟨u, cost, rfl, reached', above, below, finite, rfl⟩ := offer.reached shortest
    refine totals.larger _ _ _ _ above below finite (Bool.eq_true_of_not_eq_false fun not => ?_)
    obtain ⟨result, routed', last⟩ :=
      leading_returns host shortest found answered apart requested offer.requested reached reached' not
    rw [← same _ _ _ _ routed routed', resultAt, List.getLast?_reverse] at last
    exact last rfl
  · intro decided first second result other routed routed'
    obtain ⟨t₁, rest₁, walked₁, made₁, back₁, rfl⟩ := route_ok found routed
    obtain ⟨t₂, rest₂, walked₂, made₂, back₂, rfl⟩ := route_ok found routed'
    obtain ⟨best, total, offer, least⟩ :=
      decided (answered_of_terminals shortest (admissible_of_route routed) made₁)
    obtain ⟨b, cost, rfl, reached, above, below, finite, rfl⟩ := offer.reached shortest
    have chosen {interpreter : Interpreter} {t : Terminal K} {rest : List (Terminal K)}
        (made : graph.terminals s (graph.candidates interpreter targets) = .ok (t :: rest)) :
        leastTerminal arith t rest = b := by
      have listed := terminals_listed made
      obtain ⟨b', member, same⟩ := listed.complete offer.requested reached.distance
      obtain rfl := (listed.sound b' member).2.unique reached same
      refine leastTerminal_eq totals t rest member fun u listed' apart => ?_
      obtain ⟨requested, reached'⟩ := listed.sound u listed'
      exact totals.smaller _ _ _ _ above below finite
        (least u.node _ (reached'.offer shortest requested) fun same => apart (reached'.unique reached same))
    rw [chosen made₁] at back₁ ⊢
    rw [chosen made₂] at back₂ ⊢
    rw [Option.some.inj (back₁.symm.trans back₂)]

/-- One target strictly cheaper than the others is what makes the route the same in
every order, whenever there is a route at all. -/
theorem route_deterministic_iff (host : Host) (graph : CapabilityGraph floatCosts) {fuel : Nat}
    (enough : graph.crossings.length + 2 ≤ fuel) (origin : String) (targets : Option (List String)) :
    graph.Deterministic host fuel origin targets ↔
      (graph.Answered Binary64.val origin targets → graph.Decided Binary64.val origin targets) :=
  deterministic_iff host floatCosts_lawful floatCosts_totals graph enough origin targets

/-! Two targets that cost the same. -/

def zeroCost : Binary64 := .zero false

def tiedGraph : CapabilityGraph floatCosts where
  nodes := Dict.ofPairs [("a", ⟨"a", "", [], []⟩), ("b", ⟨"b", "", [], []⟩), ("o", ⟨"o", "", [], []⟩)]
  crossings := [⟨"o", "a", zeroCost, "", by decide +kernel⟩, ⟨"o", "b", zeroCost, "", by decide +kernel⟩]
  potential _ := .ok zeroCost
  admissible := [⟨"o", "", [], []⟩, ⟨"a", "", [], []⟩, ⟨"b", "", [], []⟩]
  blocked := []

theorem route_deterministic_sample :
    tiedGraph.Deterministic zeroHost 4 "o" (some ["a"]) ↔
      (tiedGraph.Answered Binary64.val "o" (some ["a"]) → tiedGraph.Decided Binary64.val "o" (some ["a"])) :=
  route_deterministic_iff zeroHost tiedGraph (by decide) "o" (some ["a"])

def tiedPath (first second : String) : Option (List String) :=
  ((tiedGraph.route zeroHost (leading first second) 4 "o" (some ["a", "b"])).bind Except.toOption).map
    fun result => result.path

theorem returned_of_tiedPath {first second : String} {path : List String} (found : tiedPath first second = some path) :
    ∃ result, tiedGraph.route zeroHost (leading first second) 4 "o" (some ["a", "b"]) = some (.ok result) ∧
      result.path = path := by
  obtain ⟨result, returned, same⟩ := Option.map_eq_some_iff.mp found
  obtain ⟨answer, routed, held⟩ := Option.bind_eq_some_iff.mp returned
  cases answer with
  | error e => cases held
  | ok answer =>
    obtain rfl := Option.some.inj held
    exact ⟨_, routed, same⟩

/-- The two orders of the targets lead to two paths. -/
theorem tied_not_deterministic : ¬tiedGraph.Deterministic zeroHost 4 "o" (some ["a", "b"]) := by
  intro same
  have first : tiedPath "a" "b" = some ["o", "a"] := by decide +kernel
  have second : tiedPath "b" "a" = some ["o", "b"] := by decide +kernel
  obtain ⟨result, routed, path⟩ := returned_of_tiedPath first
  obtain ⟨other, routed', path'⟩ := returned_of_tiedPath second
  obtain rfl := same _ _ _ _ routed routed'
  exact absurd (path.symm.trans path') (by decide)

end CapabilityGraph
end MatVerse
