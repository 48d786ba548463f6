import MatVerse.FederationRouting
import MatVerse.Lib.Binary64Order
import MatVerse.Lib.ShortestPath

/-! The queue loop of a capability graph is a shortest-path search: it ends, and
its distances and predecessors are those of least walks. -/
namespace MatVerse

open ShortestPath

variable {K L : Type} [LinearOrder L] [OrderTop L]

/-- Costs ordered by `val`, where `⊤` is what `x < math.inf` refuses. Sums may be
rounded, as long as a crossing never shortens a walk or reverses an order. -/
structure CostArith.Lawful (arith : CostArith K) (val : K → L) : Prop where
  zero_lt : val arith.zero < ⊤
  finite_iff : ∀ x, arith.finite x = true ↔ val x < ⊤
  lt_iff : ∀ x y, val y < ⊤ → (arith.lt x y = true ↔ val x < val y)
  eq_iff : ∀ x y, val y < ⊤ → (arith.eq x y = true ↔ val x = val y)
  inflates : ∀ c, arith.lt c arith.zero = false → ∀ k, val k ≤ val (arith.add k c)
  monotone : ∀ c, arith.lt c arith.zero = false → ∀ a b, val a ≤ val b → val (arith.add a c) ≤ val (arith.add b c)

theorem floatCosts_lawful : floatCosts.Lawful Binary64.val where
  zero_lt := by
    rw [floatCosts, Binary64.val_of_toRat? Binary64.toRat?_zero]
    exact Binary64.coe_lt_top 0
  finite_iff x := by
    have top : (Binary64.inf false).val = ⊤ := rfl
    rw [floatCosts, Binary64.lt_iff, top]
    refine ⟨fun held => held.2.2, fun below => ⟨?_, by simp, below⟩⟩
    rintro rfl
    exact absurd below (by simp [Binary64.val])
  lt_iff x y finite := by
    rw [floatCosts, Binary64.lt_iff]
    refine ⟨fun held => held.2.2, fun below => ⟨?_, ?_, below⟩⟩
    · rintro rfl
      exact absurd (below.trans finite) (by simp [Binary64.val])
    · rintro rfl
      exact absurd finite (by simp [Binary64.val])
  eq_iff x y finite := Binary64.eqv_iff finite
  inflates c nonnegative k := Binary64.val_le_add nonnegative
  monotone c nonnegative a b le := Binary64.val_add_mono nonnegative le

variable {arith : CostArith K} {val : K → L}

namespace CapabilityGraph

/-- The crossings of the admissible subgraph. -/
def network (graph : CapabilityGraph arith) (lawful : arith.Lawful val) : Network String K L where
  edges id := (graph.adj id).map fun c => ⟨c.dst, fun k => arith.add k c.cost⟩
  val := val
  inflates id e leaves k := by
    obtain ⟨c, -, rfl⟩ := List.mem_map.mp leaves
    exact lawful.inflates c.cost c.nonnegative k
  monotone id e leaves a b below := by
    obtain ⟨c, -, rfl⟩ := List.mem_map.mp leaves
    exact lawful.monotone c.cost c.nonnegative a b below

/-- The nodes of a walk over crossings of the admissible subgraph, last node first,
and its cost. -/
inductive Walk (graph : CapabilityGraph arith) (origin : String) : List String → K → Prop
  | start : Walk graph origin [origin] arith.zero
  | step {id : String} {path : List String} {k : K} {c : Crossing arith} : Walk graph origin (id :: path) k →
      c ∈ graph.adj id → Walk graph origin (c.dst :: id :: path) (arith.add k c.cost)

variable {graph : CapabilityGraph arith} {lawful : arith.Lawful val} {origin : String}

theorem Walk.trail {path : List String} {k : K} (walk : graph.Walk origin path k) :
    Trail (graph.network lawful) origin arith.zero path k := by
  induction walk with
  | start => exact .start
  | step _ leaves ih => exact .step ih (List.mem_map.mpr ⟨_, leaves, rfl⟩)

theorem walk_of_trail {path : List String} {k : K} (trail : Trail (graph.network lawful) origin arith.zero path k) :
    graph.Walk origin path k := by
  induction trail with
  | start => exact .start
  | step _ leaves ih =>
    obtain ⟨c, listed, rfl⟩ := List.mem_map.mp leaves
    exact .step ih listed

theorem Walk.getLast {path : List String} {k : K} (walk : graph.Walk origin path k) :
    path.getLast? = some origin := by
  induction walk with
  | start => rfl
  | step _ _ ih => rwa [List.getLast?_cons_cons]

theorem Walk.admissible {path : List String} {k : K} (walk : graph.Walk origin path k)
    (admissible : origin ∈ graph.admissibleIds) : ∀ id ∈ path, id ∈ graph.admissibleIds := by
  induction walk with
  | start => simpa using admissible
  | step _ leaves ih =>
    obtain ⟨_, -, -, -, -, target⟩ := crosses_of_adj leaves
    simpa [target] using ih

theorem Walk.chain {path : List String} {k : K} (walk : graph.Walk origin path k) :
    path.IsChain fun dst src => graph.Crosses src dst := by
  induction walk with
  | start => simp
  | step _ leaves ih => exact List.isChain_cons_cons.mpr ⟨crosses_of_adj leaves, ih⟩

/-! ## The heap -/

variable (arith) in
theorem heappop_perm (entry : K × String) (rest : List (K × String)) :
    ((heappop arith entry rest).1 :: (heappop arith entry rest).2).Perm (entry :: rest) := by
  induction rest generalizing entry with
  | nil => rfl
  | cons next rest ih =>
    simp only [heappop]
    split
    · exact ((List.Perm.swap _ _ _).trans ((ih next).cons entry))
    · exact ((List.Perm.swap _ _ _).trans ((ih entry).cons next)).trans (List.Perm.swap _ _ _)

section
variable (lawful)
include lawful

theorem val_le_of_before {a b : K × String} (finite : val b.1 < ⊤) (ahead : before arith a b = true) :
    val a.1 ≤ val b.1 := by
  simp only [before, Bool.or_eq_true, Bool.and_eq_true] at ahead
  rcases ahead with less | ⟨equal, -⟩
  · exact ((lawful.lt_iff _ _ finite).mp less).le
  · exact ((lawful.eq_iff _ _ finite).mp equal).le

theorem val_le_of_not_before {a b : K × String} (finite : val b.1 < ⊤) (behind : before arith a b = false) :
    val b.1 ≤ val a.1 := by
  simp only [before, Bool.or_eq_false_iff] at behind
  exact not_lt.mp fun less => by simp [(lawful.lt_iff _ _ finite).mpr less] at behind

theorem heappop_least (entry : K × String) (rest : List (K × String)) (finite : ∀ q ∈ entry :: rest, val q.1 < ⊤) :
    ∀ q ∈ entry :: rest, val (heappop arith entry rest).1.1 ≤ val q.1 := by
  induction rest generalizing entry with
  | nil => simp [heappop]
  | cons next rest ih =>
    have first := finite entry (by simp)
    have second := finite next (by simp)
    have others (q : K × String) (member : q ∈ rest) := finite q (by simp [member])
    simp only [heappop]
    split
    next ahead =>
      have least := ih next (List.forall_mem_cons.mpr ⟨second, others⟩)
      refine List.forall_mem_cons.mpr ⟨?_, least⟩
      exact (least next (by simp)).trans (val_le_of_before lawful first ahead)
    next behind =>
      have least := ih entry (List.forall_mem_cons.mpr ⟨first, others⟩)
      obtain ⟨own, later⟩ := List.forall_mem_cons.mp least
      have lower := val_le_of_not_before lawful first (Bool.eq_false_of_not_eq_true behind)
      exact List.forall_mem_cons.mpr ⟨own, List.forall_mem_cons.mpr ⟨own.trans lower, later⟩⟩

/-! ## Steps of the loop -/

omit lawful in
def Search.labels (s : Search K) : Labels String K :=
  ⟨fun id => Dict.get? id s.distance, fun id => Dict.get? id s.previous, s.queue⟩

omit lawful in
theorem labels_insert (s : Search K) (id before : String) (d : K) (queue : List (K × String)) :
    Search.labels ⟨Dict.insert id d s.distance, Dict.insert id before s.previous, queue⟩ =
      ⟨Function.update s.labels.dist id (some d), Function.update s.labels.pred id (some before), queue⟩ := by
  simp only [Search.labels, Labels.mk.injEq, and_true]
  constructor <;>
  · funext other
    rw [Dict.get?_insert, Function.update_apply]

def Search.Finite (val : K → L) (s : Search K) : Prop := ∀ id d, Dict.get? id s.distance = some d → val d < ⊤

theorem shorter_iff {s : Search K} (finite : s.Finite val) (candidate : K) (id : String) :
    shorter arith candidate (Dict.get? id s.distance) = true ↔
      (graph.network lawful).val candidate < (graph.network lawful).level s.labels id := by
  cases known : Dict.get? id s.distance with
  | none =>
    rw [Network.level_none _ known, shorter, lawful.finite_iff]
    rfl
  | some d =>
    rw [Network.level_some _ (s := s.labels) known, shorter, lawful.lt_iff _ _ (finite id d known)]
    rfl

theorem labels_relax {s : Search K} (finite : s.Finite val) (current : String) (d : K) (c : Crossing arith) :
    (relax current d s c).labels =
      (graph.network lawful).relax current d s.labels ⟨c.dst, fun k => arith.add k c.cost⟩ := by
  have same := @shorter_iff _ _ _ _ _ _ graph lawful s finite (arith.add d c.cost) c.dst
  simp only [relax, Network.relax]
  split
  next less =>
    rw [if_pos (same.mp less), labels_insert]
    rfl
  next not => rw [if_neg (fun less => not (same.mpr less))]

theorem shorter_finite {candidate : K} {known : Option K} (finite : ∀ d, known = some d → val d < ⊤)
    (less : shorter arith candidate known = true) : val candidate < ⊤ := by
  cases known with
  | none => exact (lawful.finite_iff _).mp less
  | some d => exact ((lawful.lt_iff _ _ (finite d rfl)).mp less).trans_le le_top

theorem relax_finite {s : Search K} (finite : s.Finite val) (current : String) (d : K) (c : Crossing arith) :
    (relax current d s c).Finite val := by
  simp only [relax]
  split
  next less =>
    intro id known found
    rw [Dict.get?_insert] at found
    split at found
    · obtain rfl := Option.some.inj found
      exact shorter_finite lawful (finite c.dst) less
    · exact finite id known found
  next => exact finite

theorem labels_foldl {s : Search K} (finite : s.Finite val) (current : String) (d : K)
    (crossings : List (Crossing arith)) :
    (crossings.foldl (relax current d) s).labels =
      (crossings.map fun c => (⟨c.dst, fun k => arith.add k c.cost⟩ : Edge String K)).foldl
        ((graph.network lawful).relax current d) s.labels := by
  induction crossings generalizing s with
  | nil => rfl
  | cons c rest ih =>
    rw [List.foldl_cons, ih (relax_finite lawful finite current d c),
      labels_relax lawful finite]
    rfl

theorem settled_iff {s : Search K} (finite : s.Finite val) (entry : K × String) :
    settled arith s entry = true ↔ Current (graph.network lawful) s.labels entry.1 entry.2 := by
  simp only [settled, Option.any_eq_true, Current]
  refine exists_congr fun d => and_congr_right fun known => ?_
  exact lawful.eq_iff _ _ (finite _ _ known)

/-- The body of the loop. -/
def step (graph : CapabilityGraph arith) (s : Search K) (entry : K × String) (rest : List (K × String)) : Search K :=
  let popped := { s with queue := (heappop arith entry rest).2 }
  if settled arith popped (heappop arith entry rest).1 then
    (graph.adj (heappop arith entry rest).1.2).foldl
      (relax (heappop arith entry rest).1.2 (heappop arith entry rest).1.1) popped
  else popped

omit lawful in
theorem search_succ (fuel : Nat) {s : Search K} {entry : K × String} {rest : List (K × String)}
    (queued : s.queue = entry :: rest) : graph.search (fuel + 1) s = graph.search fuel (graph.step s entry rest) := by
  rw [search, queued]
  simp only [step]
  split <;> rfl

theorem step_labels {done : List String} {s : Search K}
    (inv : Inv (graph.network lawful) origin arith.zero done s.labels) {entry : K × String}
    {rest : List (K × String)} (queued : s.queue = entry :: rest) :
    Step (graph.network lawful) s.labels (graph.step s entry rest).labels := by
  have finite : s.Finite val := fun id d known => (inv.bounded id d known).2
  have popped : Pops (graph.network lawful) s.labels (heappop arith entry rest).1.1 (heappop arith entry rest).1.2
      (heappop arith entry rest).2 := by
    have perm := heappop_perm arith entry rest
    refine ⟨(List.Perm.of_eq queued).trans perm.symm, fun q later => ?_⟩
    refine heappop_least lawful entry rest (fun q member => ?_) q (perm.mem_iff.mp (List.mem_cons_of_mem _ later))
    have listed : q ∈ s.queue := by rwa [queued]
    exact (inv.entered q.1 q.2 listed).1
  have current := @settled_iff _ _ _ _ _ _ graph lawful { s with queue := (heappop arith entry rest).2 } finite
    (heappop arith entry rest).1
  simp only [step]
  split
  next expanded =>
    have relaxed := @labels_foldl _ _ _ _ _ _ graph lawful { s with queue := (heappop arith entry rest).2 } finite
      (heappop arith entry rest).1.2 (heappop arith entry rest).1.1 (graph.adj (heappop arith entry rest).1.2)
    rw [relaxed]
    exact .expand popped (current.mp expanded)
  next stale => exact .stale popped fun held => stale (current.mpr held)

/-- The loop ends, by the entries and the crossings it has not used up. -/
theorem search_ends (fuel : Nat) {done : List String} {s : Search K}
    (searched : Searched (graph.network lawful) origin arith.zero done s.labels)
    (bound : ∀ done : List String, done.Nodup → spent (graph.network lawful) done ≤ graph.crossings.length)
    (enough : s.queue.length + graph.crossings.length < fuel + spent (graph.network lawful) done) :
    ∃ final done', graph.search fuel s = some final ∧ final.queue = [] ∧
      Searched (graph.network lawful) origin arith.zero done' final.labels := by
  induction fuel generalizing s done with
  | zero =>
    have := bound done searched.inv.distinct
    omega
  | succ fuel ih =>
    cases queued : s.queue with
    | nil => exact ⟨s, done, by simp [search, queued], queued, searched⟩
    | cons entry rest =>
      obtain ⟨done', searched', used⟩ := searched.step (step_labels lawful searched.inv queued)
      rw [search_succ fuel queued]
      refine ih searched' ?_
      simp only [Search.labels] at used
      omega

omit lawful in
theorem sum_once (src : String) (kept : Bool) (done : List String) :
    (done.map fun id => if src == id && kept then 1 else 0).sum ≤ done.count src := by
  induction done with
  | nil => simp
  | cons id rest ih =>
    have first : (if src == id && kept then 1 else 0) ≤ if id == src then 1 else 0 := by
      rw [BEq.comm]
      cases id == src <;> cases kept <;> simp
    rw [List.map_cons, List.sum_cons, List.count_cons]
    omega

omit lawful in
theorem sum_sources {done : List String} (distinct : done.Nodup) (crossings : List (Crossing arith))
    (keep : Crossing arith → Bool) :
    (done.map fun id => (crossings.filter fun c => c.src == id && keep c).length).sum ≤ crossings.length := by
  induction crossings with
  | nil => simp
  | cons c rest ih =>
    have once : (done.map fun id => if c.src == id && keep c then 1 else 0).sum ≤ 1 :=
      (sum_once c.src (keep c) done).trans (List.nodup_iff_count_le_one.mp distinct c.src)
    have split : (done.map fun id => ((c :: rest).filter fun c => c.src == id && keep c).length) =
        done.map fun id => (if c.src == id && keep c then 1 else 0) +
          (rest.filter fun c => c.src == id && keep c).length := by
      refine List.map_congr_left fun id _ => ?_
      rw [List.filter_cons]
      split <;> simp [Nat.add_comm]
    rw [split, List.sum_map_add, List.length_cons]
    omega

theorem spent_le {done : List String} (distinct : done.Nodup) :
    spent (graph.network lawful) done ≤ graph.crossings.length := by
  have same (id : String) : ((graph.network lawful).edges id).length =
      (graph.crossings.filter fun c => c.src == id &&
        (graph.admissibleIds.contains c.src && graph.admissibleIds.contains c.dst)).length := by
    simp [network, adj, Bool.and_assoc]
  simp only [spent, same]
  exact sum_sources distinct _ _

/-! ## What the search finds -/

omit lawful in
theorem walkBack_of_backtrack {previous : List (String × String)} {id : String} {path : List String}
    (back : Backtrack (fun id => Dict.get? id previous) id path) :
    ∀ fuel, path.length ≤ fuel → walkBack previous fuel id = some path := by
  induction back with
  | stop none =>
    intro fuel enough
    obtain ⟨fuel, rfl⟩ := Nat.exists_eq_add_one.mpr enough
    rw [walkBack, none]
  | step led _ ih =>
    intro fuel enough
    obtain ⟨fuel, rfl⟩ := Nat.exists_eq_add_one.mpr (Nat.zero_lt_of_lt enough)
    rw [walkBack, led]
    simp only [ih fuel (Nat.le_of_succ_le_succ enough), Option.map_some]

omit lawful in
/-- The state the loop is entered with. -/
def begin (arith : CostArith K) (origin : String) : Search K := ⟨[(origin, arith.zero)], [], [(arith.zero, origin)]⟩

omit lawful in
theorem labels_begin (origin : String) : (begin arith origin).labels = ShortestPath.start origin arith.zero := by
  simp only [begin, Search.labels, ShortestPath.start, Labels.mk.injEq, and_true]
  constructor
  · funext id
    simp
  · rfl

variable (graph origin) in
omit lawful in
/-- Distances are least costs of walks, attained by following the predecessors. -/
structure Shortest (lawful : arith.Lawful val) (fuel : Nat) (s : Search K) : Prop where
  complete : ∀ {id path k}, graph.Walk origin (id :: path) k → val k < ⊤ →
    ∃ d, Dict.get? id s.distance = some d ∧ val d ≤ val k
  bounded : ∀ {id d}, Dict.get? id s.distance = some d → val arith.zero ≤ val d ∧ val d < ⊤
  traced : ∀ {id d}, Dict.get? id s.distance = some d → ∃ path, walkBack s.previous fuel id = some (id :: path) ∧
    Tight (graph.network lawful) origin arith.zero (id :: path) d

variable (graph origin) in
theorem search_shortest {fuel : Nat} (enough : graph.crossings.length + 2 ≤ fuel) :
    ∃ s, graph.search fuel (begin arith origin) = some s ∧ graph.Shortest origin lawful fuel s := by
  have initial := Searched.start origin (graph.network lawful) lawful.zero_lt
  rw [← labels_begin] at initial
  obtain ⟨s, done, found, empty, searched⟩ := search_ends lawful fuel initial
    (fun _ distinct => spent_le lawful distinct) (by simp [begin, spent]; omega)
  have solved := searched.solved empty (spent_le lawful searched.inv.distinct)
  refine ⟨s, found, fun {id path k} walk finite => ?_, fun label => solved.finite _ _ label, fun label => ?_⟩
  · have least := solved.least id path k walk.trail
    cases label : s.labels.dist id with
    | none =>
      rw [Network.level_none _ label] at least
      exact absurd finite (not_lt.mpr least)
    | some d =>
      rw [Network.level_some _ label] at least
      exact ⟨d, label, least⟩
  · obtain ⟨path, back, tight, short⟩ := solved.traced _ _ label
    exact ⟨path, walkBack_of_backtrack back fuel (by simp; omega), tight⟩

end

/-! ## Routes -/

def Requested (graph : CapabilityGraph arith) (targets : Option (List String)) (id : String) : Prop :=
  id ∈ graph.admissibleIds ∧ ∀ listed, targets = some listed → id ∈ listed

theorem mem_candidates {interpreter : Interpreter} {targets : Option (List String)} {id : String} :
    id ∈ graph.candidates interpreter targets ↔ graph.Requested targets id := by
  unfold candidates
  rw [(interpreter.iterate_perm _).mem_iff]
  cases targets <;> simp [Requested]

theorem candidates_nodup (interpreter : Interpreter) (targets : Option (List String)) :
    (graph.candidates interpreter targets).Nodup := by
  have distinct : graph.admissibleIds.Nodup := List.nodup_dedup _
  unfold candidates
  rw [(interpreter.iterate_perm _).nodup_iff]
  cases targets with
  | none => exact distinct
  | some listed => exact distinct.filter _

def asListed : Interpreter where
  iterate ids := ids
  iterate_perm _ := .rfl
  repr id := "'" ++ id ++ "'"

/-- A reached node with its distance and its potential. -/
structure Reached (graph : CapabilityGraph arith) (s : Search K) (t : Terminal K) : Prop where
  distance : Dict.get? t.node s.distance = some t.distance
  potential : ∃ node, graph.node t.node = .ok node ∧ graph.potential node = .ok t.potential

theorem Reached.unique {s : Search K} {t t' : Terminal K} (reached : graph.Reached s t)
    (reached' : graph.Reached s t') (same : t.node = t'.node) : t = t' := by
  obtain ⟨node, d, p⟩ := t
  obtain ⟨node', d', p'⟩ := t'
  obtain rfl : node = node' := same
  obtain rfl := Option.some.inj (reached.distance.symm.trans reached'.distance)
  obtain ⟨used, held, potential⟩ := reached.potential
  obtain ⟨used', held', potential'⟩ := reached'.potential
  obtain rfl := Except.ok.inj (held.symm.trans held')
  obtain rfl := Except.ok.inj (potential.symm.trans potential')
  rfl

/-- The reached nodes among the requested ones. -/
structure Listed (graph : CapabilityGraph arith) (s : Search K) (targets : Option (List String))
    (terminals : List (Terminal K)) : Prop where
  sound : ∀ t ∈ terminals, graph.Requested targets t.node ∧ graph.Reached s t
  complete : ∀ {id d}, graph.Requested targets id → Dict.get? id s.distance = some d → ∃ t ∈ terminals, t.node = id
  distinct : (terminals.map fun t => t.node).Nodup

variable {s : Search K} {interpreter : Interpreter} {targets : Option (List String)}

theorem map_fst_reached (s : Search K) (ids : List String) :
    (ids.filterMap fun id => (Dict.get? id s.distance).map (fun d => (id, d))).map Prod.fst =
      ids.filter fun id => (Dict.get? id s.distance).isSome := by
  induction ids with
  | nil => rfl
  | cons id rest ih =>
    cases known : Dict.get? id s.distance with
    | none => simp [known, ih]
    | some d => simp [known, ih]

theorem terminals_nodes {ids : List String} {terminals : List (Terminal K)}
    (made : graph.terminals s ids = .ok terminals) :
    terminals.map (fun t => t.node) = ids.filter fun id => (Dict.get? id s.distance).isSome := by
  rw [← map_fst_reached s]
  refine Fallible.mapM_map (fun {a t} returned => ?_) made
  simp only [Fallible.bind_ok, Fallible.pure_ok] at returned
  obtain ⟨_, _, _, _, rfl⟩ := returned
  rfl

theorem terminals_listed {terminals : List (Terminal K)}
    (made : graph.terminals s (graph.candidates interpreter targets) = .ok terminals) :
    graph.Listed s targets terminals := by
  have pairs := terminals_nodes made
  refine ⟨fun t member => ?_, fun {id d} requested known => ?_, ?_⟩
  · obtain ⟨⟨id, d⟩, listed, returned⟩ := Fallible.mapM_mem made t member
    simp only [Fallible.bind_ok, Fallible.pure_ok] at returned
    obtain ⟨node, held, potential, weighed, rfl⟩ := returned
    obtain ⟨_, candidate, paired⟩ := List.mem_filterMap.mp listed
    obtain ⟨_, known, same⟩ := Option.map_eq_some_iff.mp paired
    obtain ⟨rfl, rfl⟩ := Prod.mk.inj same
    exact ⟨mem_candidates.mp candidate, known, node, held, weighed⟩
  · have listed : id ∈ terminals.map fun t => t.node := by
      rw [pairs]
      exact List.mem_filter.mpr ⟨mem_candidates.mpr requested, by simp [known]⟩
    exact List.mem_map.mp listed
  · rw [pairs]
    exact (candidates_nodup interpreter targets).filter _

variable (s interpreter targets) in
/-- The potentials of the requested nodes that are reached are all there. -/
theorem terminals_total (weighed : ∀ id d, graph.Requested targets id → Dict.get? id s.distance = some d →
    ∃ node p, graph.node id = .ok node ∧ graph.potential node = .ok p) :
    ∃ terminals, graph.terminals s (graph.candidates interpreter targets) = .ok terminals := by
  refine Fallible.mapM_ok fun ⟨id, d⟩ listed => ?_
  obtain ⟨_, candidate, paired⟩ := List.mem_filterMap.mp listed
  obtain ⟨_, known, same⟩ := Option.map_eq_some_iff.mp paired
  obtain ⟨rfl, rfl⟩ := Prod.mk.inj same
  obtain ⟨node, p, held, potential⟩ := weighed _ _ (mem_candidates.mp candidate) known
  simp only [held, Fallible.ok_bind, potential]
  exact ⟨_, rfl⟩

variable (arith) in
theorem leastTerminal_mem (first : Terminal K) (rest : List (Terminal K)) :
    leastTerminal arith first rest ∈ first :: rest := by
  induction rest generalizing first with
  | nil => simp [leastTerminal]
  | cons t rest ih =>
    have held := ih (if arith.lt (t.total arith) (first.total arith) then t else first)
    rw [leastTerminal, List.foldl_cons]
    rcases List.mem_cons.mp held with same | later
    · rw [leastTerminal] at same
      rw [same]
      split <;> simp
    · exact List.mem_cons_of_mem _ (List.mem_cons_of_mem _ later)

/-- What a route to a terminal returns. -/
def resultAt (host : Host) (graph : CapabilityGraph arith) (walked : List String) (t : Terminal K) : RoutingResult K :=
  ⟨walked.reverse, t.total arith, t.distance, t.potential, graph.blocked, sha256Text host
    (JsonText.dumpsAscii JsonText.compact (receiptPayload arith walked.reverse t graph.blocked))⟩

/-- The end of `route`, after its loop. -/
def choose (host : Host) (graph : CapabilityGraph arith) (fuel : Nat) (s : Search K) :
    Except PyError (List (Terminal K)) → Option (Except PyError (RoutingResult K))
  | .error e => some (.error e)
  | .ok [] => some (.error (.valueError "no admissible target is reachable"))
  | .ok (first :: rest) =>
    (walkBack s.previous fuel (leastTerminal arith first rest).node).map fun walked =>
      .ok (graph.resultAt host walked (leastTerminal arith first rest))

theorem route_found {host : Host} {fuel : Nat} (admissible : origin ∈ graph.admissibleIds)
    (found : graph.search fuel (begin arith origin) = some s) :
    graph.route host interpreter fuel origin targets =
      if (graph.candidates interpreter targets).isEmpty then some (.error (.valueError "no admissible targets"))
      else graph.choose host fuel s (graph.terminals s (graph.candidates interpreter targets)) := by
  rw [begin] at found
  have listed : graph.admissibleIds.contains origin = true := by simpa using admissible
  simp only [route, listed, Bool.not_true, Bool.false_eq_true, if_false, found]
  split
  · rfl
  · cases graph.terminals s (graph.candidates interpreter targets) with
    | error e => rfl
    | ok terminals =>
      cases terminals with
      | nil => rfl
      | cons first rest =>
        simp only [choose]
        cases walkBack s.previous fuel (leastTerminal arith first rest).node <;> rfl

section
variable {fuel : Nat} (shortest : graph.Shortest origin lawful fuel s)
include shortest

/-- A requested node is listed exactly when some walk of finite cost leads to it. -/
theorem Listed.reaches {terminals : List (Terminal K)} (listed : graph.Listed s targets terminals) :
    terminals ≠ [] ↔ ∃ id path k, graph.Requested targets id ∧ graph.Walk origin (id :: path) k ∧ val k < ⊤ := by
  constructor
  · intro some
    obtain ⟨t, member⟩ := List.exists_mem_of_ne_nil _ some
    obtain ⟨requested, reached⟩ := listed.sound t member
    obtain ⟨path, -, tight⟩ := shortest.traced reached.distance
    exact ⟨t.node, path, t.distance, requested, walk_of_trail tight.trail, (shortest.bounded reached.distance).2⟩
  · rintro ⟨id, path, k, requested, walk, finite⟩
    obtain ⟨d, known, -⟩ := shortest.complete walk finite
    obtain ⟨t, member, -⟩ := listed.complete requested known
    exact List.ne_nil_of_mem member

theorem route_returns (host : Host) (admissible : origin ∈ graph.admissibleIds)
    (found : graph.search fuel (begin arith origin) = some s) {first : Terminal K} {rest : List (Terminal K)}
    (made : graph.terminals s (graph.candidates interpreter targets) = .ok (first :: rest)) :
    ∃ path, Tight (graph.network lawful) origin arith.zero
        ((leastTerminal arith first rest).node :: path) (leastTerminal arith first rest).distance ∧
      graph.route host interpreter fuel origin targets = some (.ok (graph.resultAt host
        ((leastTerminal arith first rest).node :: path) (leastTerminal arith first rest))) := by
  obtain ⟨requested, reached⟩ := (terminals_listed made).sound _ (leastTerminal_mem arith first rest)
  obtain ⟨path, back, tight⟩ := shortest.traced reached.distance
  have candidate : (graph.candidates interpreter targets).isEmpty = false :=
    List.isEmpty_eq_false_iff_exists_mem.mpr ⟨_, mem_candidates.mpr requested⟩
  exact ⟨path, tight, by simp [route_found admissible found, candidate, made, choose, back]⟩

end

theorem route_nothing (host : Host) {fuel : Nat} (admissible : origin ∈ graph.admissibleIds)
    (found : graph.search fuel (begin arith origin) = some s)
    (made : graph.terminals s (graph.candidates interpreter targets) = .ok []) :
    ∃ e, graph.route host interpreter fuel origin targets = some (.error e) := by
  rw [route_found admissible found, made]
  split
  · exact ⟨_, rfl⟩
  · exact ⟨_, rfl⟩

theorem admissible_of_route {host : Host} {fuel : Nat} {result : RoutingResult K}
    (routed : graph.route host interpreter fuel origin targets = some (.ok result)) :
    origin ∈ graph.admissibleIds := by
  by_contra inadmissible
  simp [route, inadmissible] at routed

theorem route_ok {host : Host} {fuel : Nat} (found : graph.search fuel (begin arith origin) = some s)
    {result : RoutingResult K} (routed : graph.route host interpreter fuel origin targets = some (.ok result)) :
    ∃ first rest walked, graph.terminals s (graph.candidates interpreter targets) = .ok (first :: rest) ∧
      walkBack s.previous fuel (leastTerminal arith first rest).node = some walked ∧
      result = graph.resultAt host walked (leastTerminal arith first rest) := by
  rw [route_found (admissible_of_route routed) found] at routed
  split at routed
  · cases routed
  · cases made : graph.terminals s (graph.candidates interpreter targets) with
    | error e =>
      rw [made] at routed
      cases routed
    | ok terminals =>
      rw [made] at routed
      cases terminals with
      | nil => cases routed
      | cons first rest =>
        obtain ⟨walked, back, returned⟩ := Option.map_eq_some_iff.mp routed
        exact ⟨first, rest, walked, rfl, back, (Except.ok.inj returned).symm⟩

/-! ## Admissible nodes -/

end CapabilityGraph

namespace AdmissibilityGate

variable {gate : AdmissibilityGate K} {nodes : List (CapabilityNode K)}

def Satisfied (gate : AdmissibilityGate K) (node : CapabilityNode K) : Prop :=
  ∀ check ∈ gate.constraints, check node = .ok none

theorem evaluate_admissible {node : CapabilityNode K} {decision : GateDecision}
    (evaluated : gate.evaluate node = .ok decision) :
    decision.admissible = true ↔ gate.Satisfied node := by
  simp only [evaluate, Fallible.bind_ok, Fallible.pure_ok] at evaluated
  obtain ⟨reasons, judged, rfl⟩ := evaluated
  simp only [List.isEmpty_iff, List.filterMap_eq_nil_iff, id_eq]
  constructor
  · intro none check listed
    obtain ⟨reason, member, returned⟩ := Fallible.mapM_image judged check listed
    rw [returned, none reason member]
  · intro satisfied reason member
    obtain ⟨check, listed, returned⟩ := Fallible.mapM_mem judged reason member
    exact Except.ok.inj (returned.symm.trans (satisfied check listed))

/-- What the gate makes of a list of definitions. -/
structure Filtered (gate : AdmissibilityGate K) (nodes admissible : List (CapabilityNode K))
    (blocked : List (String × List String)) : Prop where
  admits : ∀ node, node ∈ admissible ↔ node ∈ nodes ∧ gate.Satisfied node
  blocks : ∀ id, (∃ reasons, Dict.get? id blocked = some reasons) ↔
    ∃ node ∈ nodes, node.nodeId = id ∧ ¬gate.Satisfied node

theorem filter_step {node : CapabilityNode K} {passed : List (CapabilityNode K)} {admissible : List (CapabilityNode K)}
    {blocked blocked' : List (String × List String)} (filtered : gate.Filtered nodes passed blocked)
    (done : (do
      let decision ← gate.evaluate node
      if decision.admissible then return (passed ++ [node], blocked)
      else return (passed, Dict.insert node.nodeId decision.reasons blocked)) =
        (.ok (admissible, blocked') : Except PyError _)) :
    gate.Filtered (nodes ++ [node]) admissible blocked' := by
  simp only [Fallible.bind_ok] at done
  obtain ⟨decision, evaluated, done⟩ := done
  have judged := evaluate_admissible evaluated
  split at done
  next passes =>
    obtain ⟨rfl, rfl⟩ := Prod.mk.inj (Except.ok.inj done)
    have satisfied := judged.mp passes
    refine ⟨fun other => ?_, fun id => ?_⟩
    · simp only [List.mem_append, List.mem_singleton, filtered.admits other, or_and_right]
      exact or_congr_right ⟨fun same => ⟨same, same ▸ satisfied⟩, fun held => held.1⟩
    · rw [filtered.blocks id]
      constructor
      · rintro ⟨other, listed, same, fails⟩
        exact ⟨other, by simp [listed], same, fails⟩
      · rintro ⟨other, listed, same, fails⟩
        rcases List.mem_append.mp listed with before | last
        · exact ⟨other, before, same, fails⟩
        · exact absurd (List.mem_singleton.mp last ▸ satisfied) fails
  next fails =>
    obtain ⟨rfl, rfl⟩ := Prod.mk.inj (Except.ok.inj done)
    have unsatisfied : ¬gate.Satisfied node := fun held => fails (judged.mpr held)
    refine ⟨fun other => ?_, fun id => ?_⟩
    · rw [filtered.admits other, List.mem_append, List.mem_singleton, or_and_right]
      constructor
      · exact .inl
      · rintro (held | ⟨rfl, held⟩)
        · exact held
        · exact absurd held unsatisfied
    · rw [Dict.get?_insert]
      split
      next same =>
        exact ⟨fun _ => ⟨node, by simp, same.symm, unsatisfied⟩, fun _ => ⟨_, rfl⟩⟩
      next other =>
        rw [filtered.blocks id]
        constructor
        · rintro ⟨found, listed, same, fails⟩
          exact ⟨found, by simp [listed], same, fails⟩
        · rintro ⟨found, listed, same, fails⟩
          rcases List.mem_append.mp listed with before | last
          · exact ⟨found, before, same, fails⟩
          · exact absurd (List.mem_singleton.mp last ▸ same).symm other

theorem foldl_filtered (later : List (CapabilityNode K)) {earlier passed admissible : List (CapabilityNode K)}
    {blocked blocked' : List (String × List String)} (filtered : gate.Filtered earlier passed blocked)
    (done : later.foldlM (fun (admissible, blocked) node => do
      let decision ← gate.evaluate node
      if decision.admissible then return (admissible ++ [node], blocked)
      else return (admissible, Dict.insert node.nodeId decision.reasons blocked)) (passed, blocked) =
        .ok (admissible, blocked')) :
    gate.Filtered (earlier ++ later) admissible blocked' := by
  induction later generalizing earlier passed blocked with
  | nil =>
    obtain ⟨rfl, rfl⟩ := Prod.mk.inj (Except.ok.inj done)
    simpa using filtered
  | cons node rest ih =>
    rw [List.foldlM_cons, Fallible.bind_ok] at done
    obtain ⟨⟨passed', blocked''⟩, first, others⟩ := done
    have further := ih (filter_step filtered first) others
    simpa using further

theorem filter_filtered {admissible : List (CapabilityNode K)} {blocked : List (String × List String)}
    (done : gate.filter nodes = .ok (admissible, blocked)) : gate.Filtered nodes admissible blocked := by
  have nothing : gate.Filtered [] [] [] := ⟨by simp, by simp⟩
  exact foldl_filtered nodes nothing done

end AdmissibilityGate

namespace CapabilityGraph

/-- What `__init__` builds. -/
structure Built (nodes : List (CapabilityNode K)) (crossings : List (Crossing arith)) (gate : AdmissibilityGate K)
    (potential : Potential K) (graph : CapabilityGraph arith) : Prop where
  nodes_eq : graph.nodes = Dict.ofPairs (nodes.map fun node => (node.nodeId, node))
  crossings_eq : graph.crossings = crossings
  potential_eq : graph.potential = potential
  filtered : gate.Filtered nodes graph.admissible graph.blocked

variable {nodes : List (CapabilityNode K)} {crossings : List (Crossing arith)} {gate : AdmissibilityGate K}
  {potential : Potential K} {graph : CapabilityGraph arith}

theorem built_of_init (made : init nodes crossings gate potential = .ok graph) :
    graph.Built nodes crossings gate potential := by
  simp only [init, Fallible.bind_ok] at made
  obtain ⟨⟨admissible, blocked⟩, filtered, returned⟩ := made
  obtain rfl := Except.ok.inj returned
  exact ⟨rfl, rfl, rfl, AdmissibilityGate.filter_filtered filtered⟩

namespace Built

variable (built : graph.Built nodes crossings gate potential)
include built

theorem mem_admissibleIds {id : String} :
    id ∈ graph.admissibleIds ↔ ∃ node ∈ nodes, node.nodeId = id ∧ gate.Satisfied node := by
  simp only [admissibleIds, List.mem_dedup, List.mem_map, built.filtered.admits]
  exact ⟨fun ⟨node, ⟨listed, held⟩, same⟩ => ⟨node, listed, same, held⟩,
    fun ⟨node, listed, same, held⟩ => ⟨node, ⟨listed, held⟩, same⟩⟩

/-- The definition the graph uses for an id is one that is listed under it. -/
theorem node_listed {id : String} {node : CapabilityNode K} (found : graph.node id = .ok node) :
    node ∈ nodes ∧ node.nodeId = id := by
  simp only [CapabilityGraph.node, built.nodes_eq] at found
  split at found
  next used held =>
    obtain rfl := Except.ok.inj found
    obtain ⟨listed, member, same⟩ := List.mem_map.mp (Dict.mem_ofPairs (Dict.get?_mem held))
    obtain ⟨rfl, rfl⟩ := Prod.mk.inj same
    exact ⟨member, rfl⟩
  next => cases found

theorem node_exists {node : CapabilityNode K} (listed : node ∈ nodes) :
    ∃ used, graph.node node.nodeId = .ok used := by
  obtain ⟨used, held⟩ := Dict.get?_ofPairs_of_mem
    (List.mem_map_of_mem (f := fun node : CapabilityNode K => (node.nodeId, node)) listed)
  exact ⟨used, by simp only [CapabilityGraph.node, built.nodes_eq, held]⟩

/-- An id that is listed once is used with its own definition. -/
theorem node_eq (distinct : (nodes.map fun node => node.nodeId).Nodup) {node : CapabilityNode K}
    (listed : node ∈ nodes) : graph.node node.nodeId = .ok node := by
  obtain ⟨used, found⟩ := built.node_exists listed
  obtain ⟨member, same⟩ := built.node_listed found
  rw [found, List.inj_on_of_nodup_map distinct member listed same]

end Built
end CapabilityGraph
end MatVerse
