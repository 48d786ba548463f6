import Mathlib.Algebra.GroupWithZero.Nat
import Mathlib.Order.BoundedOrder.Lattice
import Mathlib.Algebra.BigOperators.Group.List.Basic
import Mathlib.Data.List.Perm.Basic
import Mathlib.Logic.Function.Basic
import Mathlib.Tactic.Common

/-! Shortest walks from one vertex by expanding a nearest queue entry again and
again. A shorter label queues a new entry and leaves the old ones, which are
dropped when they come up. Costs are compared through `val`, where `⊤` is out of
reach; an edge may round the costs it adds to. -/
namespace ShortestPath

structure Edge (V K : Type) where
  dst : V
  /-- The cost of a walk that the edge prolongs. -/
  extend : K → K

structure Network (V K L : Type) [LinearOrder L] [OrderTop L] where
  edges : V → List (Edge V K)
  val : K → L
  inflates : ∀ u, ∀ e ∈ edges u, ∀ k, val k ≤ val (e.extend k)
  monotone : ∀ u, ∀ e ∈ edges u, ∀ a b, val a ≤ val b → val (e.extend a) ≤ val (e.extend b)

structure Labels (V K : Type) where
  dist : V → Option K
  pred : V → Option V
  queue : List (K × V)

variable {V K L : Type} [LinearOrder L] [OrderTop L] (net : Network V K L)

/-- The label of a vertex, `⊤` when it has none. -/
def Network.level (s : Labels V K) (v : V) : L := (s.dist v).elim ⊤ net.val

theorem Network.level_some {s : Labels V K} {v : V} {d : K} (label : s.dist v = some d) :
    net.level s v = net.val d := by
  rw [level, label]
  rfl

theorem Network.level_none {s : Labels V K} {v : V} (label : s.dist v = none) : net.level s v = ⊤ := by
  rw [level, label]
  rfl

/-! ## Walks -/

variable (origin : V) (zero : K)

/-- The vertices of a walk from the origin, last one first, and its cost. -/
inductive Trail : List V → K → Prop
  | start : Trail [origin] zero
  | step {u : V} {path : List V} {k : K} {e : Edge V K} : Trail (u :: path) k → e ∈ net.edges u →
      Trail (e.dst :: u :: path) (e.extend k)

/-- A walk that takes a cheapest edge between any two of its vertices. -/
inductive Tight : List V → K → Prop
  | start : Tight [origin] zero
  | step {u : V} {path : List V} {k : K} {e : Edge V K} : Tight (u :: path) k → e ∈ net.edges u →
      (∀ other ∈ net.edges u, other.dst = e.dst → net.val (e.extend k) ≤ net.val (other.extend k)) →
      Tight (e.dst :: u :: path) (e.extend k)

/-- The vertices met from `v` by following predecessors until there is none. -/
inductive Backtrack (pred : V → Option V) : V → List V → Prop
  | stop {v : V} : pred v = none → Backtrack pred v [v]
  | step {v u : V} {path : List V} : pred v = some u → Backtrack pred u path → Backtrack pred v (v :: path)

variable {net origin zero}

theorem Tight.trail {path : List V} {k : K} (tight : Tight net origin zero path k) :
    Trail net origin zero path k := by
  induction tight with
  | start => exact .start
  | step _ leaves _ ih => exact .step ih leaves

theorem Trail.getLast {path : List V} {k : K} (trail : Trail net origin zero path k) :
    path.getLast? = some origin := by
  induction trail with
  | start => rfl
  | step _ _ ih => rwa [List.getLast?_cons_cons]

/-! ## The queue -/

variable (net) in
/-- An entry that is least, and the rest of the queue. -/
structure Pops (s : Labels V K) (k : K) (u : V) (rest : List (K × V)) : Prop where
  taken : s.queue.Perm ((k, u) :: rest)
  least : ∀ q ∈ rest, net.val k ≤ net.val q.1

variable (net) in
/-- The entry still carries the label of its vertex. -/
def Current (s : Labels V K) (k : K) (u : V) : Prop := ∃ d, s.dist u = some d ∧ net.val k = net.val d

/-! ## The invariant -/

/-- Each vertex but the origin was reached from one expanded before it. -/
def Grounded (pred : V → Option V) (origin : V) : List V → Prop
  | [] => True
  | v :: before => (v = origin ∨ ∃ u ∈ before, pred v = some u) ∧ Grounded pred origin before

theorem Grounded.congr {pred pred' : V → Option V} {done : List V} (grounded : Grounded pred origin done)
    (same : ∀ v ∈ done, pred' v = pred v) : Grounded pred' origin done := by
  induction done with
  | nil => trivial
  | cons v before ih =>
    obtain ⟨led, rest⟩ := grounded
    refine ⟨?_, ih rest (fun w member => same w (List.mem_cons_of_mem _ member))⟩
    rwa [same v (by simp)]

variable (net origin zero) in
/-- `done` lists the expanded vertices, last one first. -/
structure Inv (done : List V) (s : Labels V K) : Prop where
  rooted : s.dist origin = some zero
  unled : s.pred origin = none
  bounded : ∀ v d, s.dist v = some d → net.val zero ≤ net.val d ∧ net.val d < ⊤
  led : ∀ v d, s.dist v = some d → v ≠ origin → ∃ u ∈ done, s.pred v = some u ∧
    ∃ k, s.dist u = some k ∧ ∃ e ∈ net.edges u, e.dst = v ∧ e.extend k = d
  opened : ∀ v d, s.dist v = some d → v ∈ done ∨ (d, v) ∈ s.queue
  entered : ∀ k v, (k, v) ∈ s.queue → net.val k < ⊤ ∧ ∃ d, s.dist v = some d ∧ (k = d ∨ net.val d < net.val k)
  closed : ∀ v ∈ done, ∃ d, s.dist v = some d ∧
    ∀ q ∈ s.queue, net.val d ≤ net.val q.1 ∧ (q.2 = v → net.val d < net.val q.1)
  apart : s.queue.Nodup
  distinct : done.Nodup
  grounded : Grounded s.pred origin done

/-- An entry that comes up with the label of its vertex is expanded for the first time. -/
theorem Inv.fresh {done : List V} {s : Labels V K} (inv : Inv net origin zero done s) {k : K} {u : V}
    {rest : List (K × V)} (popped : Pops net s k u rest) (current : Current net s k u) :
    s.dist u = some k ∧ u ∉ done := by
  obtain ⟨d, label, same⟩ := current
  have queued : (k, u) ∈ s.queue := popped.taken.mem_iff.mpr (by simp)
  obtain ⟨-, d', label', own⟩ := inv.entered k u queued
  obtain rfl := Option.some.inj (label.symm.trans label')
  obtain rfl : k = d := own.resolve_right (fun later => absurd same later.ne')
  refine ⟨label, fun expanded => ?_⟩
  obtain ⟨d', label'', behind⟩ := inv.closed u expanded
  obtain rfl := Option.some.inj (label.symm.trans label'')
  exact lt_irrefl _ ((behind _ queued).2 rfl)

theorem Inv.drop {done : List V} {s : Labels V K} (inv : Inv net origin zero done s) {k : K} {u : V}
    {rest : List (K × V)} (popped : Pops net s k u rest) (outdated : ¬Current net s k u) :
    Inv net origin zero done { s with queue := rest } := by
  have kept : ∀ q ∈ rest, q ∈ s.queue := fun q member =>
    popped.taken.mem_iff.mpr (List.mem_cons_of_mem _ member)
  refine ⟨inv.rooted, inv.unled, inv.bounded, inv.led, fun v d label => ?_,
    fun k' v member => inv.entered k' v (kept _ member), fun v expanded => ?_,
    (List.nodup_cons.mp (popped.taken.nodup_iff.mp inv.apart)).2, inv.distinct, inv.grounded⟩
  · refine (inv.opened v d label).imp_right fun queued => ?_
    refine (List.mem_cons.mp (popped.taken.mem_iff.mp queued)).resolve_left fun same => outdated ?_
    obtain ⟨rfl, rfl⟩ := Prod.mk.inj same
    exact ⟨d, label, rfl⟩
  · obtain ⟨d, label, behind⟩ := inv.closed v expanded
    exact ⟨d, label, fun q member => behind q (kept q member)⟩

/-- Taking a current entry off the queue, before its edges are relaxed. -/
theorem Inv.settle {done : List V} {s : Labels V K} (inv : Inv net origin zero done s) {k : K} {u : V}
    {rest : List (K × V)} (popped : Pops net s k u rest) (current : Current net s k u) :
    Inv net origin zero (u :: done) { s with queue := rest } := by
  obtain ⟨label, unexpanded⟩ := inv.fresh popped current
  have kept : ∀ q ∈ rest, q ∈ s.queue := fun q member =>
    popped.taken.mem_iff.mpr (List.mem_cons_of_mem _ member)
  obtain ⟨unique, apart⟩ := List.nodup_cons.mp (popped.taken.nodup_iff.mp inv.apart)
  refine ⟨inv.rooted, inv.unled, inv.bounded, fun v d labelled other => ?_, fun v d labelled => ?_,
    fun k' v member => inv.entered k' v (kept _ member), fun v expanded => ?_, apart,
    List.nodup_cons.mpr ⟨unexpanded, inv.distinct⟩, ?_, inv.grounded⟩
  · obtain ⟨w, expanded, further⟩ := inv.led v d labelled other
    exact ⟨w, List.mem_cons_of_mem _ expanded, further⟩
  · rcases inv.opened v d labelled with expanded | queued
    · exact .inl (List.mem_cons_of_mem _ expanded)
    · rcases List.mem_cons.mp (popped.taken.mem_iff.mp queued) with same | later
      · exact .inl (by simp [(Prod.mk.inj same).2])
      · exact .inr later
  · rcases List.mem_cons.mp expanded with rfl | before
    · refine ⟨k, label, fun q member => ⟨popped.least q member, fun same => ?_⟩⟩
      obtain ⟨key, w⟩ := q
      obtain rfl : w = v := same
      obtain ⟨-, d, labelled, own⟩ := inv.entered key w (kept _ member)
      obtain rfl := Option.some.inj (label.symm.trans labelled)
      exact own.resolve_left fun equal => unique (equal ▸ member)
    · obtain ⟨d, labelled, behind⟩ := inv.closed v before
      exact ⟨d, labelled, fun q member => behind q (kept q member)⟩
  · rcases eq_or_ne u origin with root | other
    · exact .inl root
    · obtain ⟨w, expanded, led, -⟩ := inv.led u k label other
      exact .inr ⟨w, expanded, led⟩

/-! ## What an emptied queue leaves -/

variable (net) in
def Relaxed (done : List V) (s : Labels V K) : Prop :=
  ∀ u ∈ done, ∀ k, s.dist u = some k → ∀ e ∈ net.edges u, net.level s e.dst ≤ net.val (e.extend k)

variable (net) in
def spent (done : List V) : Nat := (done.map fun u => (net.edges u).length).sum

variable (net origin zero) in
structure Searched (done : List V) (s : Labels V K) : Prop where
  inv : Inv net origin zero done s
  relaxed : Relaxed net done s
  counted : done.length + s.queue.length ≤ spent net done + 1

variable (net origin zero) in
/-- Labels are least costs, and predecessors lead back along walks of these costs. -/
structure Solved (s : Labels V K) (size : Nat) : Prop where
  least : ∀ v path k, Trail net origin zero (v :: path) k → net.level s v ≤ net.val k
  finite : ∀ v d, s.dist v = some d → net.val zero ≤ net.val d ∧ net.val d < ⊤
  traced : ∀ v d, s.dist v = some d → ∃ path, Backtrack s.pred v (v :: path) ∧
    Tight net origin zero (v :: path) d ∧ path.length < size

theorem Searched.least {done : List V} {s : Labels V K} (searched : Searched net origin zero done s)
    (empty : s.queue = []) {path : List V} {k : K} (trail : Trail net origin zero path k) :
    ∀ v rest, path = v :: rest → net.level s v ≤ net.val k := by
  induction trail with
  | start =>
    rintro v rest same
    obtain ⟨rfl, -⟩ := List.cons.inj same
    exact (net.level_some searched.inv.rooted).le
  | @step u path k e trail leaves ih =>
    rintro v rest same
    obtain ⟨rfl, -⟩ := List.cons.inj same
    have reached := ih u path rfl
    cases label : s.dist u with
    | none =>
      rw [net.level_none label] at reached
      exact le_top.trans (reached.trans (net.inflates u e leaves k))
    | some d =>
      rw [net.level_some label] at reached
      have expanded : u ∈ done := (searched.inv.opened u d label).resolve_right (by simp [empty])
      exact (searched.relaxed u expanded d label e leaves).trans (net.monotone u e leaves d k reached)

/-- By induction on the vertices in the order they were expanded. -/
theorem Searched.traced {done : List V} {s : Labels V K} (searched : Searched net origin zero done s)
    {order : List V} (grounded : Grounded s.pred origin order) (listed : ∀ v ∈ order, v ∈ done) :
    ∀ v ∈ order, ∀ d, s.dist v = some d → ∃ path, Backtrack s.pred v (v :: path) ∧
      Tight net origin zero (v :: path) d ∧ path.length < order.length := by
  induction order with
  | nil => simp
  | cons last before ih =>
    have earlier := ih grounded.2 (fun v member => listed v (List.mem_cons_of_mem _ member))
    intro v member d label
    rcases List.mem_cons.mp member with rfl | older
    · rcases eq_or_ne v origin with rfl | other
      · obtain rfl := Option.some.inj (searched.inv.rooted.symm.trans label)
        exact ⟨[], .stop searched.inv.unled, .start, by simp⟩
      · obtain ⟨u, expanded, led⟩ := grounded.1.resolve_left other
        obtain ⟨u', closed, led', k, label', e, leaves, rfl, rfl⟩ := searched.inv.led v d label other
        obtain rfl := Option.some.inj (led.symm.trans led')
        obtain ⟨path, back, tight, short⟩ := earlier u expanded k label'
        refine ⟨u :: path, .step led back, .step tight leaves fun other parallel same => ?_, by simpa using short⟩
        have bound := searched.relaxed u closed k label' other parallel
        rwa [same, net.level_some label] at bound
    · obtain ⟨path, back, tight, short⟩ := earlier v older d label
      exact ⟨path, back, tight, Nat.lt_succ_of_lt short⟩

theorem Searched.solved {done : List V} {s : Labels V K} (searched : Searched net origin zero done s)
    (empty : s.queue = []) {total : Nat} (bound : spent net done ≤ total) :
    Solved net origin zero s (total + 1) where
  least v path k trail := searched.least empty trail v path rfl
  finite := searched.inv.bounded
  traced v d label := by
    have expanded : v ∈ done := (searched.inv.opened v d label).resolve_right (by simp [empty])
    obtain ⟨path, back, tight, short⟩ :=
      searched.traced searched.inv.grounded (fun _ member => member) v expanded d label
    have := searched.counted
    exact ⟨path, back, tight, by omega⟩

/-! ## Relaxing edges -/

/-- What holds while the edges of `u` are relaxed with its label `k`. -/
structure Expanding (net : Network V K L) (done : List V) (u : V) (k : K) (s : Labels V K) : Prop where
  member : u ∈ done
  label : s.dist u = some k
  frontier : ∀ v ∈ done, net.level s v ≤ net.val k

/-- No label of an expanded vertex can still be improved. -/
theorem Expanding.relax_unexpanded {done : List V} {u : V} {k : K} {s : Labels V K}
    (expanding : Expanding net done u k s) {e : Edge V K} (leaves : e ∈ net.edges u)
    (shorter : net.val (e.extend k) < net.level s e.dst) : e.dst ∉ done := fun expanded =>
  absurd ((expanding.frontier _ expanded).trans (net.inflates u e leaves k)) (not_le.mpr shorter)

variable [DecidableEq V]

variable (net) in
def Network.relax (u : V) (k : K) (s : Labels V K) (e : Edge V K) : Labels V K :=
  if net.val (e.extend k) < net.level s e.dst then
    ⟨Function.update s.dist e.dst (some (e.extend k)), Function.update s.pred e.dst (some u),
      (e.extend k, e.dst) :: s.queue⟩
  else s

variable (net) in
inductive Step (s : Labels V K) : Labels V K → Prop
  | stale {k : K} {u : V} {rest : List (K × V)} :
      Pops net s k u rest → ¬Current net s k u → Step s { s with queue := rest }
  | expand {k : K} {u : V} {rest : List (K × V)} : Pops net s k u rest → Current net s k u →
      Step s ((net.edges u).foldl (net.relax u k) { s with queue := rest })

theorem level_relax_le (u : V) (k : K) (s : Labels V K) (e : Edge V K) (v : V) :
    net.level (net.relax u k s e) v ≤ net.level s v := by
  unfold Network.relax
  split
  next shorter =>
    rcases eq_or_ne v e.dst with rfl | other
    · simpa [Network.level] using shorter.le
    · simp [Network.level, Function.update_of_ne other]
  next => exact le_rfl

theorem level_relax_dst (u : V) (k : K) (s : Labels V K) (e : Edge V K) :
    net.level (net.relax u k s e) e.dst ≤ net.val (e.extend k) := by
  unfold Network.relax
  split
  next => simp [Network.level]
  next far => exact not_lt.mp far

theorem level_foldl_le (u : V) (k : K) (edges : List (Edge V K)) (s : Labels V K) (v : V) :
    net.level (edges.foldl (net.relax u k) s) v ≤ net.level s v := by
  induction edges generalizing s with
  | nil => exact le_rfl
  | cons e rest ih => exact (ih _).trans (level_relax_le u k s e v)

theorem level_foldl_dst (u : V) (k : K) (edges : List (Edge V K)) (s : Labels V K) :
    ∀ e ∈ edges, net.level (edges.foldl (net.relax u k) s) e.dst ≤ net.val (e.extend k) := by
  induction edges generalizing s with
  | nil => simp
  | cons first rest ih =>
    intro e member
    rcases List.mem_cons.mp member with rfl | later
    · exact (level_foldl_le u k rest _ _).trans (level_relax_dst u k s e)
    · exact ih _ e later

variable (net) in
theorem queue_relax_length (u : V) (k : K) (s : Labels V K) (e : Edge V K) :
    (net.relax u k s e).queue.length ≤ s.queue.length + 1 := by
  unfold Network.relax
  split <;> simp

variable (net) in
theorem queue_foldl_length (u : V) (k : K) (edges : List (Edge V K)) (s : Labels V K) :
    (edges.foldl (net.relax u k) s).queue.length ≤ s.queue.length + edges.length := by
  induction edges generalizing s with
  | nil => simp
  | cons e rest ih =>
    have first := queue_relax_length net u k s e
    have later := ih (net.relax u k s e)
    simp only [List.foldl_cons, List.length_cons]
    omega

theorem Expanding.relax {done : List V} {u : V} {k : K} {s : Labels V K} (expanding : Expanding net done u k s)
    {e : Edge V K} (leaves : e ∈ net.edges u) : Expanding net done u k (net.relax u k s e) := by
  refine ⟨expanding.member, ?_, fun v expanded =>
    (level_relax_le u k s e v).trans (expanding.frontier v expanded)⟩
  unfold Network.relax
  split
  next shorter =>
    have other : u ≠ e.dst := fun same => expanding.relax_unexpanded leaves shorter (same ▸ expanding.member)
    exact (Function.update_of_ne other _ _).trans expanding.label
  next => exact expanding.label

theorem Inv.relax {done : List V} {u : V} {k : K} {s : Labels V K} (inv : Inv net origin zero done s)
    (expanding : Expanding net done u k s) {e : Edge V K} (leaves : e ∈ net.edges u) :
    Inv net origin zero done (net.relax u k s e) := by
  unfold Network.relax
  split
  case isFalse => exact inv
  case isTrue shorter =>
    have unexpanded := expanding.relax_unexpanded leaves shorter
    have away {v : V} (expanded : v ∈ done) : v ≠ e.dst := fun same => unexpanded (same ▸ expanded)
    have above : net.val zero ≤ net.val (e.extend k) :=
      (inv.bounded u k expanding.label).1.trans (net.inflates u e leaves k)
    have root : origin ≠ e.dst := by
      rintro same
      rw [← same, net.level_some inv.rooted] at shorter
      exact absurd above (not_le.mpr shorter)
    -- every entry of the vertex lies above the new label
    have higher (key : K) (queued : (key, e.dst) ∈ s.queue) : net.val (e.extend k) < net.val key := by
      obtain ⟨-, d, label, own⟩ := inv.entered key e.dst queued
      rw [net.level_some label] at shorter
      rcases own with rfl | later
      · exact shorter
      · exact shorter.trans later
    refine ⟨?_, ?_, fun v d label => ?_, fun v d label other => ?_, fun v d label => ?_,
      fun key v queued => ?_, fun v expanded => ?_, ?_, inv.distinct, ?_⟩
    · exact (Function.update_of_ne root _ _).trans inv.rooted
    · exact (Function.update_of_ne root _ _).trans inv.unled
    · rcases eq_or_ne v e.dst with rfl | apart
      · obtain rfl : e.extend k = d := by simpa using label
        exact ⟨above, shorter.trans_le le_top⟩
      · exact inv.bounded v d (by simpa [Function.update_of_ne apart] using label)
    · rcases eq_or_ne v e.dst with rfl | apart
      · obtain rfl : e.extend k = d := by simpa using label
        exact ⟨u, expanding.member, Function.update_self .., k,
          (Function.update_of_ne (away expanding.member) _ _).trans expanding.label, e, leaves, rfl, rfl⟩
      · obtain ⟨w, expanded, led, key, label', further⟩ :=
          inv.led v d (by simpa [Function.update_of_ne apart] using label) other
        exact ⟨w, expanded, (Function.update_of_ne apart _ _).trans led, key,
          (Function.update_of_ne (away expanded) _ _).trans label', further⟩
    · rcases eq_or_ne v e.dst with rfl | apart
      · obtain rfl : e.extend k = d := by simpa using label
        exact .inr (by simp)
      · exact (inv.opened v d (by simpa [Function.update_of_ne apart] using label)).imp_right
          (List.mem_cons_of_mem _)
    · rcases List.mem_cons.mp queued with same | before
      · obtain ⟨rfl, rfl⟩ := Prod.mk.inj same
        exact ⟨shorter.trans_le le_top, e.extend k, Function.update_self .., .inl rfl⟩
      · obtain ⟨finite, d, label, own⟩ := inv.entered key v before
        refine ⟨finite, ?_⟩
        rcases eq_or_ne v e.dst with rfl | apart
        · exact ⟨e.extend k, Function.update_self .., .inr (higher key before)⟩
        · exact ⟨d, (Function.update_of_ne apart _ _).trans label, own⟩
    · obtain ⟨d, label, behind⟩ := inv.closed v expanded
      refine ⟨d, (Function.update_of_ne (away expanded) _ _).trans label, fun q queued => ?_⟩
      rcases List.mem_cons.mp queued with rfl | before
      · refine ⟨?_, fun same => absurd same.symm (away expanded)⟩
        calc net.val d = net.level s v := (net.level_some label).symm
          _ ≤ net.val k := expanding.frontier v expanded
          _ ≤ net.val (e.extend k) := net.inflates u e leaves k
      · exact behind q before
    · exact List.nodup_cons.mpr ⟨fun queued => lt_irrefl _ (higher _ queued), inv.apart⟩
    · exact inv.grounded.congr fun v expanded => Function.update_of_ne (away expanded) _ _

theorem Inv.foldl {done : List V} {u : V} {k : K} (edges : List (Edge V K)) {s : Labels V K}
    (inv : Inv net origin zero done s) (expanding : Expanding net done u k s)
    (leave : ∀ e ∈ edges, e ∈ net.edges u) :
    Inv net origin zero done (edges.foldl (net.relax u k) s) ∧
      Expanding net done u k (edges.foldl (net.relax u k) s) := by
  induction edges generalizing s with
  | nil => exact ⟨inv, expanding⟩
  | cons e rest ih =>
    have leaves := leave e (by simp)
    exact ih (inv.relax expanding leaves) (expanding.relax leaves)
      (fun e' member => leave e' (List.mem_cons_of_mem _ member))

/-! ## The edges of expanded vertices -/

/-- The labels of expanded vertices stay as they are. -/
theorem Expanding.dist_relax {done : List V} {u : V} {k : K} {s : Labels V K} (expanding : Expanding net done u k s)
    {e : Edge V K} (leaves : e ∈ net.edges u) {v : V} (expanded : v ∈ done) :
    (net.relax u k s e).dist v = s.dist v := by
  unfold Network.relax
  split
  next shorter =>
    have other : v ≠ e.dst := fun same => expanding.relax_unexpanded leaves shorter (same ▸ expanded)
    exact Function.update_of_ne other _ _
  next => rfl

theorem Expanding.dist_foldl {done : List V} {u : V} {k : K} (edges : List (Edge V K)) {s : Labels V K}
    (expanding : Expanding net done u k s) (leave : ∀ e ∈ edges, e ∈ net.edges u) {v : V} (expanded : v ∈ done) :
    (edges.foldl (net.relax u k) s).dist v = s.dist v := by
  induction edges generalizing s with
  | nil => rfl
  | cons e rest ih =>
    have leaves := leave e (by simp)
    rw [List.foldl_cons, ih (expanding.relax leaves) (fun e' member => leave e' (List.mem_cons_of_mem _ member)),
      expanding.dist_relax leaves expanded]

theorem Relaxed.expand {done : List V} {u : V} {k : K} {s : Labels V K} (relaxed : Relaxed net done s)
    (expanding : Expanding net (u :: done) u k s) :
    Relaxed net (u :: done) ((net.edges u).foldl (net.relax u k) s) := by
  intro v expanded d label e leaves
  rw [expanding.dist_foldl _ (fun _ member => member) expanded] at label
  rcases List.mem_cons.mp expanded with rfl | before
  · obtain rfl := Option.some.inj (expanding.label.symm.trans label)
    exact level_foldl_dst v k _ s e leaves
  · exact (level_foldl_le u k _ s e.dst).trans (relaxed v before d label e leaves)

/-! ## One step, and a run -/

variable (origin zero) in
def start : Labels V K := ⟨fun v => if v = origin then some zero else none, fun _ => none, [(zero, origin)]⟩

variable (origin) in
theorem Searched.start (net : Network V K L) {zero : K} (finite : net.val zero < ⊤) :
    Searched net origin zero [] (start origin zero) where
  inv := by
    have only {v : V} {d : K} (label : (ShortestPath.start origin zero).dist v = some d) : v = origin ∧ d = zero := by
      simp only [ShortestPath.start] at label
      split at label
      next same => exact ⟨same, (Option.some.inj label).symm⟩
      next => cases label
    refine ⟨if_pos rfl, rfl, fun v d label => ?_, fun v d label other => absurd (only label).1 other,
      fun v d label => ?_, fun k v queued => ?_, fun v member => by simp at member, by simp [ShortestPath.start],
      List.nodup_nil, trivial⟩
    · obtain ⟨-, rfl⟩ := only label
      exact ⟨le_rfl, finite⟩
    · obtain ⟨rfl, rfl⟩ := only label
      exact .inr (by simp [ShortestPath.start])
    · obtain ⟨rfl, rfl⟩ := Prod.mk.inj (List.mem_singleton.mp queued)
      exact ⟨finite, k, if_pos rfl, .inl rfl⟩
  relaxed := fun v member => by simp at member
  counted := by simp [ShortestPath.start, spent]

/-- Each step uses up an entry, or the edges of a vertex that was not expanded before. -/
theorem Searched.step {done : List V} {s s' : Labels V K} (searched : Searched net origin zero done s)
    (step : Step net s s') : ∃ done', Searched net origin zero done' s' ∧
      s'.queue.length + spent net done + 1 ≤ s.queue.length + spent net done' := by
  obtain ⟨inv, relaxed, counted⟩ := searched
  cases step with
  | @stale k u rest popped outdated =>
    have size := popped.taken.length_eq
    rw [List.length_cons] at size
    exact ⟨done, ⟨inv.drop popped outdated, relaxed, by simp only; omega⟩, by simp only; omega⟩
  | @expand k u rest popped current =>
    have size := popped.taken.length_eq
    rw [List.length_cons] at size
    have settled := inv.settle popped current
    have expanding : Expanding net (u :: done) u k { s with queue := rest } := by
      refine ⟨by simp, (inv.fresh popped current).1, fun v expanded => ?_⟩
      rcases List.mem_cons.mp expanded with rfl | before
      · exact (net.level_some (inv.fresh popped current).1).le
      · obtain ⟨d, label, behind⟩ := inv.closed v before
        rw [net.level_some (s := { s with queue := rest }) label]
        exact (behind (k, u) (popped.taken.mem_iff.mpr (by simp))).1
    have longer := queue_foldl_length net u k (net.edges u) { s with queue := rest }
    have more : spent net (u :: done) = (net.edges u).length + spent net done := by simp [spent]
    have kept : Relaxed net done { s with queue := rest } := relaxed
    refine ⟨u :: done, ⟨(settled.foldl _ expanding (fun _ member => member)).1, kept.expand expanding, ?_⟩, ?_⟩
    · simp only [List.length_cons] at longer ⊢
      omega
    · simp only at longer
      omega

end ShortestPath
