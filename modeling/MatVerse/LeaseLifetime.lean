import MatVerse.Lib.Chronicle
import MatVerse.Lib.Fallible
import MatVerse.SecretPlane

/-! How long a lease lives: every use of a secret, in any order of calls, failures and
restarts, answers to a lease that was issued, still stands and has uses left. -/
namespace MatVerse.SecretPlane

open Fallible

/-! ## What a trace may contain -/

/-- The terms a secret was registered on. -/
def registrationOf (secretId : String) : Event → Option (SecretDescriptor × SecretPolicy)
  | .registered d p _ => if d.secretId = secretId then some (d, p) else none
  | _ => none

/-- Whether an event puts a secret in force or ends it. -/
def forceOf (secretId : String) : Event → Option Bool
  | .registered d _ _ => if d.secretId = secretId then some true else none
  | .revoked s => if s = secretId then some false else none
  | .destroyed s => if s = secretId then some false else none
  | _ => none

/-- The version of a secret and the locator that is bound to it. -/
def bindingOf (secretId : String) : Event → Option (Int × String)
  | .registered d _ locator => if d.secretId = secretId then some (d.version, locator) else none
  | .rebound s version locator => if s = secretId then some (version, locator) else none
  | _ => none

/-- Whether an event issues a lease, with all its fields, or ends the leases of its secret. -/
def standingOf (lease : CapabilityLease) : Event → Option Bool
  | .issued l => if l = lease then some true else none
  | .rebound s _ _ => if s = lease.secretId then some false else none
  | .revoked s => if s = lease.secretId then some false else none
  | .destroyed s => if s = lease.secretId then some false else none
  | _ => none

/-- A lease keeps to its policy. -/
structure Within (policy : SecretPolicy) (lease : CapabilityLease) : Prop where
  actor : "*" ∈ policy.allowedActors ∨ lease.actor ∈ policy.allowedActors
  capability : "*" ∈ policy.allowedCapabilities ∨ lease.capability ∈ policy.allowedCapabilities
  scope : "*" ∈ policy.allowedScopes ∨ lease.scope ∈ policy.allowedScopes
  ttl : lease.issuedAt + 1 ≤ lease.expiresAt ∧ lease.expiresAt ≤ lease.issuedAt + policy.maxTtlSeconds
  uses : 1 ≤ lease.maxUses ∧ lease.maxUses ≤ policy.maxUses

/-- A use of a lease that the events before it allow. -/
structure LawfulUse (before : List Event) (lease : CapabilityLease) (now : Int)
    (vault : String → Except SecretError Bytes) (material : Bytes) : Prop where
  standing : latest (standingOf lease) before = some true
  inForce : latest (forceOf lease.secretId) before = some true
  unexpired : now < lease.expiresAt
  secretUnexpired : ∃ d p, latest (registrationOf lease.secretId) before = some (d, p) ∧
    ∀ e, d.expiresAt = some e → now < e
  held : ∃ locator, latest (bindingOf lease.secretId) before = some (lease.secretVersion, locator) ∧
    vault locator = .ok material

def Rightful (before : List Event) : Event → Prop
  | .issued lease => ∃ d p, latest (registrationOf lease.secretId) before = some (d, p) ∧ Within p lease
  | .invoked lease now vault material => LawfulUse before lease now vault material
  | _ => True

/-- Every event is rightful after those before it. -/
abbrev Lawful : List Event → Prop := Chronicle Rightful

def isInvocation (leaseId : String) : Event → Bool
  | .invoked l _ _ _ => l.leaseId == leaseId
  | _ => false

/-- How often a consumer was called with a lease of an id. -/
def invocations (leaseId : String) (trace : List Event) : Nat := trace.countP (isInvocation leaseId)

@[simp] theorem invocations_snoc (leaseId : String) (trace : List Event) (e : Event) :
    invocations leaseId (trace ++ [e]) = invocations leaseId trace + if isInvocation leaseId e then 1 else 0 := by
  simp [invocations, List.countP_append, List.countP_singleton]

theorem issued_of_standing {lease : CapabilityLease} {trace : List Event}
    (standing : latest (standingOf lease) trace = some true) : .issued lease ∈ trace := by
  obtain ⟨e, listed, read⟩ := exists_of_latest standing
  cases e with
  | issued l =>
    obtain rfl : l = lease := by
      by_contra other
      simp [standingOf, other] at read
    exact listed
  | registered d p locator => simp [standingOf] at read
  | invoked l now vault material => simp [standingOf] at read
  | rebound s version locator => simp [standingOf] at read
  | revoked s => simp [standingOf] at read
  | destroyed s => simp [standingOf] at read

theorem issued_of_used {trace : List Event} (lawful : Lawful trace) {lease : CapabilityLease} {now : Int}
    {vault : String → Except SecretError Bytes} {material : Bytes}
    (used : .invoked lease now vault material ∈ trace) : .issued lease ∈ trace := by
  induction lawful with
  | nil => simp at used
  | snoc _ rightful ih =>
    rcases List.mem_append.mp used with earlier | last
    · exact List.mem_append_left _ (ih earlier)
    · obtain rfl := List.mem_singleton.mp last
      exact List.mem_append_left _ (issued_of_standing rightful.standing)

/-! ## The stores -/

namespace LeaseStateStore

def new (durable : Bool) : LeaseStateStore :=
  if durable then .sqlite (Connection.connect []) else .memory []

def state : LeaseStateStore → String → Option LeaseState
  | .memory s, leaseId => Dict.get? leaseId s
  | .sqlite conn, leaseId => leaseState conn.view leaseId

/-- What the store shows is durable. -/
def Settled : LeaseStateStore → Prop
  | .memory _ => True
  | .sqlite conn => conn.Settled

variable {s next : LeaseStateStore} {lease : CapabilityLease}

theorem register_ok (done : s.register lease = (.ok (), next)) :
    s.state lease.leaseId = none ∧ next.Settled ∧
      ∀ leaseId, next.state leaseId =
        if lease.leaseId = leaseId then some (.fresh lease.secretId) else s.state leaseId := by
  cases s with
  | memory m =>
    simp only [register, InMemoryLeaseStateStore.register] at done
    split at done
    · simp at done
    next absent =>
      obtain ⟨_, rfl⟩ := Prod.mk.inj done
      refine ⟨absent, trivial, fun leaseId => ?_⟩
      simp only [state, Dict.get?_insert]
      by_cases same : lease.leaseId = leaseId
      · simp [same]
      · simp [same, Ne.symm same]
  | sqlite conn =>
    simp only [register, SQLiteLeaseStateStore.register, insertLease, Connection.view_implicit] at done
    cases found : selectLease conn.view lease.leaseId with
    | some row => simp [found] at done
    | none =>
      rw [found] at done
      obtain ⟨_, rfl⟩ := Prod.mk.inj done
      refine ⟨by simp [state, leaseState, found], Connection.settled_of_idle rfl, fun leaseId => ?_⟩
      exact leaseState_insert found leaseId

theorem register_error {e : SecretError} (done : s.register lease = (.error e, next)) (settled : s.Settled) :
    next.Settled ∧ ∀ leaseId, next.state leaseId = s.state leaseId := by
  cases s with
  | memory m =>
    simp only [register, InMemoryLeaseStateStore.register] at done
    split at done
    · obtain ⟨_, rfl⟩ := Prod.mk.inj done
      exact ⟨trivial, fun _ => rfl⟩
    · simp at done
  | sqlite conn =>
    simp only [register, SQLiteLeaseStateStore.register] at done
    split at done
    · obtain ⟨_, rfl⟩ := Prod.mk.inj done
      exact ⟨settled, fun _ => rfl⟩
    · simp at done

theorem consume_true (done : s.consume lease = (.ok true, next)) (settled : s.Settled) :
    next.Settled ∧ ∃ st, s.state lease.leaseId = some st ∧ ¬st.Spent lease ∧
      ∀ leaseId, next.state leaseId = if lease.leaseId = leaseId then some st.used else s.state leaseId := by
  cases s with
  | memory m =>
    simp only [consume, InMemoryLeaseStateStore.consume] at done
    split at done
    · simp at done
    next st found =>
      split at done
      · simp at done
      next left =>
        obtain ⟨_, rfl⟩ := Prod.mk.inj done
        refine ⟨trivial, st, found, left, fun leaseId => ?_⟩
        simp only [state, Dict.get?_insert]
        by_cases same : lease.leaseId = leaseId
        · simp [same]
        · simp [same, Ne.symm same]
  | sqlite conn =>
    cases idle : conn.working with
    | some tables =>
      simp [consume, SQLiteLeaseStateStore.consume, Connection.start, idle] at done
    | none =>
      have view : conn.view = conn.durable := settled
      simp only [consume, SQLiteLeaseStateStore.consume, Connection.start, idle, Connection.view_mk_some,
        ← view] at done
      cases found : selectLease conn.view lease.leaseId with
      | none => simp [found] at done
      | some row =>
        rw [found] at done
        by_cases spent : row.state.Spent lease
        · simp [spent] at done
        · simp only [spent, if_false] at done
          obtain ⟨_, rfl⟩ := Prod.mk.inj done
          refine ⟨Connection.settled_of_idle rfl, row.state, by simp [state, leaseState, found], spent,
            fun leaseId => ?_⟩
          have here : leaseState conn.view lease.leaseId = some row.state := by simp [leaseState, found]
          simp only [state, Connection.commit, Connection.view_mk_none, Connection.view_write]
          rw [leaseState_use]
          by_cases same : lease.leaseId = leaseId
          · subst same
            simp [here]
          · simp [same, Ne.symm same]

theorem consume_refused {r : Except SecretError Bool} (done : s.consume lease = (r, next)) (refused : r ≠ .ok true)
    (settled : s.Settled) : next.Settled ∧ ∀ leaseId, next.state leaseId = s.state leaseId := by
  cases s with
  | memory m =>
    simp only [consume, InMemoryLeaseStateStore.consume] at done
    split at done
    · obtain ⟨_, rfl⟩ := Prod.mk.inj done
      exact ⟨trivial, fun _ => rfl⟩
    · split at done
      · obtain ⟨_, rfl⟩ := Prod.mk.inj done
        exact ⟨trivial, fun _ => rfl⟩
      · exact absurd (Prod.mk.inj done).1.symm refused
  | sqlite conn =>
    cases idle : conn.working with
    | some tables =>
      simp only [consume, SQLiteLeaseStateStore.consume, Connection.start, idle] at done
      obtain ⟨_, rfl⟩ := Prod.mk.inj done
      exact ⟨settled, fun _ => rfl⟩
    | none =>
      have view : conn.view = conn.durable := settled
      have same (leaseId : String) : leaseState conn.durable leaseId = leaseState conn.view leaseId := by rw [view]
      simp only [consume, SQLiteLeaseStateStore.consume, Connection.start, idle] at done
      split at done
      · obtain ⟨_, rfl⟩ := Prod.mk.inj done
        exact ⟨Connection.settled_of_idle rfl, same⟩
      · split at done
        · obtain ⟨_, rfl⟩ := Prod.mk.inj done
          exact ⟨Connection.settled_of_idle rfl, same⟩
        · exact absurd (Prod.mk.inj done).1.symm refused

theorem settled_revokeSecret (s : LeaseStateStore) (secretId : String) : (s.revokeSecret secretId).Settled := by
  cases s with
  | memory m => trivial
  | sqlite conn => exact Connection.settled_of_idle rfl

theorem state_revokeSecret (s : LeaseStateStore) (secretId leaseId : String) :
    (s.revokeSecret secretId).state leaseId = (s.state leaseId).map (·.revokedWith secretId) := by
  cases s with
  | memory m => exact Dict.get?_map _ _ _
  | sqlite conn => exact leaseState_revoke _ _ _

theorem settled_reopened (settled : s.Settled) (reconnect : Bool) :
    (s.reopened reconnect).Settled ∧ ∀ leaseId, (s.reopened reconnect).state leaseId = s.state leaseId := by
  cases s with
  | memory m => exact ⟨trivial, fun _ => rfl⟩
  | sqlite conn =>
    have view : conn.view = conn.durable := settled
    cases reconnect with
    | false => exact ⟨settled, fun _ => rfl⟩
    | true => exact ⟨Connection.settled_of_idle rfl, fun leaseId => by simp [reopened, state, Connection.reopen, view]⟩

end LeaseStateStore

/-! ## The uses of a lease -/

/-- What the store has for an issued lease. -/
structure Entered (trace : List Event) (lease : CapabilityLease) (st : LeaseState) : Prop where
  secret : st.secretId = lease.secretId
  counted : invocations lease.leaseId trace ≤ st.uses
  bounded : (st.uses : Int) ≤ lease.maxUses
  ended : latest (standingOf lease) trace = some true ∨ st.revoked = true

/-- The store accounts for the leases that were issued. -/
structure Accounted (trace : List Event) (store : LeaseStateStore) : Prop where
  settled : store.Settled
  entered : ∀ l, .issued l ∈ trace → ∃ st, store.state l.leaseId = some st ∧ Entered trace l st
  unique : ∀ l, .issued l ∈ trace → ∀ k, .issued k ∈ trace → l.leaseId = k.leaseId → l = k

namespace Accounted

variable {trace : List Event} {store next : LeaseStateStore}

theorem same (accounted : Accounted trace store) (settled : next.Settled)
    (state : ∀ leaseId, next.state leaseId = store.state leaseId) : Accounted trace next :=
  ⟨settled, fun l issued => by rw [state]; exact accounted.entered l issued, accounted.unique⟩

theorem issued_snoc {e : Event} (other : ∀ l, e ≠ .issued l) {l : CapabilityLease} :
    .issued l ∈ trace ++ [e] ↔ .issued l ∈ trace := by
  simp [Ne.symm (other l)]

/-- An event that neither issues, uses nor ends a lease. -/
theorem unrelated (accounted : Accounted trace store) {e : Event} (other : ∀ l, e ≠ .issued l)
    (uncounted : ∀ leaseId, isInvocation leaseId e = false) (silent : ∀ l, standingOf l e = none) :
    Accounted (trace ++ [e]) store := by
  refine ⟨accounted.settled, fun l issued => ?_, fun l issued k issued' => ?_⟩
  · obtain ⟨st, found, entered⟩ := accounted.entered l ((issued_snoc other).mp issued)
    exact ⟨st, found, entered.secret, by simpa [uncounted] using entered.counted, entered.bounded,
      by simpa [silent] using entered.ended⟩
  · exact accounted.unique l ((issued_snoc other).mp issued) k ((issued_snoc other).mp issued')

theorem issue (accounted : Accounted trace store) (lawful : Lawful trace) {lease : CapabilityLease}
    (done : store.register lease = (.ok (), next)) (usable : 0 ≤ lease.maxUses) :
    Accounted (trace ++ [.issued lease]) next := by
  obtain ⟨absent, settled, state⟩ := LeaseStateStore.register_ok done
  have apart : ∀ l, .issued l ∈ trace → lease.leaseId ≠ l.leaseId := by
    intro l issued same
    obtain ⟨st, found, _⟩ := accounted.entered l issued
    rw [← same, absent] at found
    cases found
  refine ⟨settled, fun l issued => ?_, fun l issued k issued' same => ?_⟩
  · rcases List.mem_append.mp issued with earlier | last
    · obtain ⟨st, found, entered⟩ := accounted.entered l earlier
      refine ⟨st, by rw [state, if_neg (apart l earlier), found], entered.secret,
        by simpa [isInvocation] using entered.counted, entered.bounded, ?_⟩
      have other : lease ≠ l := fun same => apart l earlier (by rw [same])
      simpa [standingOf, other] using entered.ended
    · obtain rfl : l = lease := by simpa using last
      refine ⟨.fresh l.secretId, by rw [state, if_pos rfl], rfl, ?_, by simpa [LeaseState.fresh] using usable,
        .inl (by simp [standingOf])⟩
      have none_used : invocations l.leaseId trace = 0 := by
        refine List.countP_eq_zero.mpr fun e member => ?_
        cases e with
        | invoked k now vault material =>
          simpa [isInvocation] using (apart k (issued_of_used lawful member)).symm
        | _ => simp [isInvocation]
      simp [isInvocation, none_used]
  · rcases List.mem_append.mp issued with earlier | last
    · rcases List.mem_append.mp issued' with earlier' | last'
      · exact accounted.unique l earlier k earlier' same
      · obtain rfl : k = lease := by simpa using last'
        exact absurd same.symm (apart l earlier)
    · obtain rfl : l = lease := by simpa using last
      rcases List.mem_append.mp issued' with earlier' | last'
      · exact absurd same (apart k earlier')
      · exact (by simpa using last' : k = l).symm

theorem consume (accounted : Accounted trace store) {lease : CapabilityLease} (issued : .issued lease ∈ trace)
    (done : store.consume lease = (.ok true, next)) : latest (standingOf lease) trace = some true ∧ next.Settled ∧
      ∀ l, .issued l ∈ trace → ∃ st, next.state l.leaseId = some st ∧ Entered trace l st ∧
        (l.leaseId = lease.leaseId → invocations l.leaseId trace < st.uses) := by
  obtain ⟨settled, st, found, left, state⟩ := LeaseStateStore.consume_true done accounted.settled
  obtain ⟨_, same, entered⟩ := accounted.entered lease issued
  obtain rfl := Option.some.inj (found.symm.trans same)
  simp only [LeaseState.Spent, not_or, not_le, Bool.not_eq_true] at left
  obtain ⟨current, below⟩ := left
  refine ⟨entered.ended.resolve_right (by simp [current]), settled, fun l listed => ?_⟩
  by_cases named : l.leaseId = lease.leaseId
  · obtain rfl := accounted.unique l listed lease issued named
    refine ⟨st.used, by rw [state, if_pos rfl], ⟨entered.secret, ?_, ?_, ?_⟩, fun _ => ?_⟩
    · exact entered.counted.trans (Nat.le_succ _)
    · simp only [LeaseState.used]
      push_cast
      omega
    · exact entered.ended.imp_right fun revoked => revoked
    · exact Nat.lt_succ_of_le entered.counted
  · obtain ⟨other, held, rest⟩ := accounted.entered l listed
    exact ⟨other, by rw [state, if_neg (Ne.symm named), held], rest, fun same => absurd same named⟩

theorem use (accounted : Accounted trace store) {lease : CapabilityLease} (issued : .issued lease ∈ trace)
    (done : store.consume lease = (.ok true, next)) : Accounted trace next := by
  obtain ⟨_, settled, entered⟩ := accounted.consume issued done
  refine ⟨settled, fun l listed => ?_, accounted.unique⟩
  obtain ⟨st, found, rest, _⟩ := entered l listed
  exact ⟨st, found, rest⟩

theorem invoke (accounted : Accounted trace store) {lease : CapabilityLease} (issued : .issued lease ∈ trace)
    (done : store.consume lease = (.ok true, next)) {now : Int} {vault : String → Except SecretError Bytes}
    {material : Bytes} : Accounted (trace ++ [.invoked lease now vault material]) next := by
  obtain ⟨_, settled, entered⟩ := accounted.consume issued done
  have other : ∀ l, Event.invoked lease now vault material ≠ .issued l := fun _ => nofun
  refine ⟨settled, fun l listed => ?_, fun l listed k listed' => ?_⟩
  · obtain ⟨st, found, rest, room⟩ := entered l ((issued_snoc other).mp listed)
    refine ⟨st, found, rest.secret, ?_, rest.bounded, by simpa [standingOf] using rest.ended⟩
    by_cases named : l.leaseId = lease.leaseId
    · simpa [isInvocation, named, Nat.succ_le_iff] using room named
    · simpa [isInvocation, Ne.symm named] using rest.counted
  · exact accounted.unique l ((issued_snoc other).mp listed) k ((issued_snoc other).mp listed')

theorem close (accounted : Accounted trace store) {secretId : String} {e : Event} (other : ∀ l, e ≠ .issued l)
    (uncounted : ∀ leaseId, isInvocation leaseId e = false)
    (ends : ∀ l, standingOf l e = if secretId = l.secretId then some false else none) :
    Accounted (trace ++ [e]) (store.revokeSecret secretId) := by
  refine ⟨store.settled_revokeSecret secretId, fun l issued => ?_, fun l issued k issued' => ?_⟩
  · obtain ⟨st, found, entered⟩ := accounted.entered l ((issued_snoc other).mp issued)
    refine ⟨st.revokedWith secretId, by rw [store.state_revokeSecret, found, Option.map_some], ?_⟩
    by_cases own : secretId = l.secretId
    · have here : st.secretId = secretId := entered.secret.trans own.symm
      refine ⟨?_, ?_, ?_, .inr ?_⟩
      · simpa [LeaseState.revokedWith, here] using own
      · simpa [LeaseState.revokedWith, here, uncounted] using entered.counted
      · simpa [LeaseState.revokedWith, here] using entered.bounded
      · simp [LeaseState.revokedWith, here]
    · have elsewhere : st.secretId ≠ secretId := fun same => own (same.symm.trans entered.secret)
      have kept : st.revokedWith secretId = st := by simp [LeaseState.revokedWith, elsewhere]
      rw [kept]
      exact ⟨entered.secret, by simpa [uncounted] using entered.counted, entered.bounded,
        by simpa [ends, own] using entered.ended⟩
  · exact accounted.unique l ((issued_snoc other).mp issued) k ((issued_snoc other).mp issued')

end Accounted

/-! ## The secrets of a plane -/

/-- A plane's entries for a secret are what the last events about it made them. -/
structure Described (w : World) (secretId : String) (d : SecretDescriptor) : Prop where
  registered : ∃ d₀ p, latest (registrationOf secretId) w.trace = some (d₀, p) ∧ d.expiresAt = d₀.expiresAt ∧
    Dict.get? secretId w.policies = some p
  inForce : d.state = .active → latest (forceOf secretId) w.trace = some true
  bound : ∀ locator, Dict.get? secretId w.bindings = some locator →
    latest (bindingOf secretId) w.trace = some (d.version, locator)

/-- The plane answers to the events. -/
structure Descriptive (w : World) : Prop where
  described : ∀ secretId d, Dict.get? secretId w.descriptors = some d → Described w secretId d
  sorted : Dict.Sorted w.bindings

namespace Descriptive

variable {w next : World}

/-- The events about secrets decide; the clock, the store and the audit do not. -/
theorem same (descriptive : Descriptive w) (descriptors : next.descriptors = w.descriptors)
    (policies : next.policies = w.policies) (bindings : next.bindings = w.bindings) (trace : next.trace = w.trace) :
    Descriptive next := by
  refine ⟨fun secretId d found => ?_, bindings ▸ descriptive.sorted⟩
  obtain ⟨registered, inForce, bound⟩ := descriptive.described secretId d (descriptors ▸ found)
  exact ⟨by rwa [trace, policies], by rwa [trace], by rwa [trace, bindings]⟩

theorem lease (descriptive : Descriptive w) {e : Event} (descriptors : next.descriptors = w.descriptors)
    (policies : next.policies = w.policies) (bindings : next.bindings = w.bindings)
    (trace : next.trace = w.trace ++ [e]) (registration : ∀ s, registrationOf s e = none)
    (force : ∀ s, forceOf s e = none) (binding : ∀ s, bindingOf s e = none) : Descriptive next := by
  refine ⟨fun secretId d found => ?_, bindings ▸ descriptive.sorted⟩
  obtain ⟨registered, inForce, bound⟩ := descriptive.described secretId d (descriptors ▸ found)
  exact ⟨by simpa [trace, registration, policies] using registered, by simpa [trace, force] using inForce,
    by simpa [trace, binding, bindings] using bound⟩

theorem register (descriptive : Descriptive w) {d : SecretDescriptor} {p : SecretPolicy} {locator : String}
    (descriptors : next.descriptors = Dict.insert d.secretId d w.descriptors)
    (policies : next.policies = Dict.insert d.secretId p w.policies)
    (bindings : next.bindings = Dict.insert d.secretId locator w.bindings)
    (trace : next.trace = w.trace ++ [.registered d p locator]) : Descriptive next := by
  refine ⟨fun secretId d' found => ?_, bindings ▸ Dict.sorted_insert _ _ descriptive.sorted⟩
  rw [descriptors, Dict.get?_insert] at found
  by_cases own : secretId = d.secretId
  · subst own
    obtain rfl : d = d' := by simpa using found
    exact ⟨⟨d, p, by simp [trace, registrationOf], rfl, by simp [policies]⟩, fun _ => by simp [trace, forceOf],
      fun l held => by simpa [trace, bindingOf, bindings] using held⟩
  · rw [if_neg own] at found
    obtain ⟨registered, inForce, bound⟩ := descriptive.described secretId d' found
    exact ⟨by simpa [trace, registrationOf, Ne.symm own, policies, Dict.get?_insert, own] using registered,
      by simpa [trace, forceOf, Ne.symm own] using inForce,
      by simpa [trace, bindingOf, Ne.symm own, bindings, Dict.get?_insert, own] using bound⟩

theorem rebind (descriptive : Descriptive w) {secretId locator : String} {d updated : SecretDescriptor}
    (found : Dict.get? secretId w.descriptors = some d)
    (descriptors : next.descriptors = Dict.insert secretId updated w.descriptors)
    (policies : next.policies = w.policies) (bindings : next.bindings = Dict.insert secretId locator w.bindings)
    (trace : next.trace = w.trace ++ [.rebound secretId updated.version locator]) (active : d.state = .active)
    (expiry : updated.expiresAt = d.expiresAt) : Descriptive next := by
  refine ⟨fun other d' listed => ?_, bindings ▸ Dict.sorted_insert _ _ descriptive.sorted⟩
  rw [descriptors, Dict.get?_insert] at listed
  by_cases own : other = secretId
  · subst own
    obtain rfl : updated = d' := by simpa using listed
    obtain ⟨⟨d₀, p, registered, same, policy⟩, inForce, bound⟩ := descriptive.described other d found
    exact ⟨⟨d₀, p, by simpa [trace, registrationOf] using registered, expiry.trans same, by rw [policies, policy]⟩,
      fun _ => by simpa [trace, forceOf] using inForce active,
      fun l held => by simpa [trace, bindingOf, bindings] using held⟩
  · rw [if_neg own] at listed
    obtain ⟨registered, inForce, bound⟩ := descriptive.described other d' listed
    exact ⟨by simpa [trace, registrationOf, policies] using registered, by simpa [trace, forceOf] using inForce,
      by simpa [trace, bindingOf, Ne.symm own, bindings, Dict.get?_insert, own] using bound⟩

/-- A secret that is revoked or destroyed is out of force and without a binding. -/
theorem close (descriptive : Descriptive w) {secretId : String} {d updated : SecretDescriptor} {e : Event}
    (found : Dict.get? secretId w.descriptors = some d)
    (descriptors : next.descriptors = Dict.insert secretId updated w.descriptors)
    (policies : next.policies = w.policies) (bindings : next.bindings = Dict.erase secretId w.bindings)
    (trace : next.trace = w.trace ++ [e]) (inactive : updated.state ≠ .active)
    (expiry : updated.expiresAt = d.expiresAt) (registration : ∀ s, registrationOf s e = none)
    (force : ∀ s, s ≠ secretId → forceOf s e = none) (binding : ∀ s, bindingOf s e = none) : Descriptive next := by
  refine ⟨fun other d' listed => ?_, bindings ▸ Dict.sorted_erase _ descriptive.sorted⟩
  rw [descriptors, Dict.get?_insert] at listed
  by_cases own : other = secretId
  · subst own
    obtain rfl : updated = d' := by simpa using listed
    obtain ⟨⟨d₀, p, registered, same, policy⟩, _, _⟩ := descriptive.described other d found
    exact ⟨⟨d₀, p, by simpa [trace, registration] using registered, expiry.trans same, by rw [policies, policy]⟩,
      fun active => absurd active inactive,
      fun l held => by simp [bindings, Dict.get?_erase descriptive.sorted] at held⟩
  · rw [if_neg own] at listed
    obtain ⟨registered, inForce, bound⟩ := descriptive.described other d' listed
    exact ⟨by simpa [trace, registration, policies] using registered,
      by simpa [trace, force other own] using inForce,
      by simpa [trace, binding, bindings, Dict.get?_erase descriptive.sorted, own] using bound⟩

end Descriptive

/-! ## Runs -/

section
variable {host : Host} {key : ByteArray} {w : World}

theorem expired_eq_false {now : Int} {e : Option Int} : expired now e = false ↔ ∀ t, e = some t → now < t := by
  cases e <;> simp [expired]

theorem matched_iff {value : String} {allowlist : List String} :
    matched value allowlist = true ↔ "*" ∈ allowlist ∨ value ∈ allowlist := by
  simp [matched]

theorem refusal_none {policy : SecretPolicy} {actor capability scope : String}
    (passed : refusal policy actor capability scope = none) :
    matched actor policy.allowedActors = true ∧ matched capability policy.allowedCapabilities = true ∧
      matched scope policy.allowedScopes = true := by
  unfold refusal at passed
  split_ifs at passed with actors capabilities scopes
  simp only [Bool.not_eq_true', Bool.not_eq_false] at actors capabilities scopes
  exact ⟨actors, capabilities, scopes⟩

theorem descriptor_ok {secretId : String} {d : SecretDescriptor} :
    w.descriptor secretId = .ok d ↔ Dict.get? secretId w.descriptors = some d := by
  unfold World.descriptor
  split <;> simp_all

theorem policy_ok {secretId : String} {p : SecretPolicy} :
    w.policy secretId = .ok p ↔ Dict.get? secretId w.policies = some p := by
  unfold World.policy
  split <;> simp_all

theorem binding_ok {secretId locator : String} :
    w.binding secretId = .ok locator ↔ Dict.get? secretId w.bindings = some locator := by
  unfold World.binding
  split <;> simp_all

theorem issuable_ok {secretId : String} {d : SecretDescriptor} {p : SecretPolicy}
    (done : w.issuable secretId = .ok (d, p)) :
    Dict.get? secretId w.descriptors = some d ∧ Dict.get? secretId w.policies = some p := by
  simp only [World.issuable, bind_ok, guard_ok, pure_ok, Prod.mk.injEq] at done
  obtain ⟨d', described, p', policed, _, _, rfl, rfl⟩ := done
  exact ⟨descriptor_ok.mp described, policy_ok.mp policed⟩

theorem leaseTerms_ok {policy : SecretPolicy} {ttlSeconds maxUses : Option Int} {nonce : Option String}
    {terms : Int × Int × String} (done : World.leaseTerms policy ttlSeconds maxUses nonce = .ok terms) :
    (1 ≤ terms.1 ∧ terms.1 ≤ policy.maxTtlSeconds) ∧ 1 ≤ terms.2.1 ∧ terms.2.1 ≤ policy.maxUses := by
  cases nonce with
  | none => simp [World.leaseTerms, guard_ok, throw_ok] at done
  | some nonce =>
    simp only [World.leaseTerms, guard_ok, pure_ok, not_or, not_lt] at done
    obtain ⟨ttl, uses, _, rfl⟩ := done
    exact ⟨ttl, uses⟩

theorem verifyLease_ok {lease : CapabilityLease} {d : SecretDescriptor} (done : w.verifyLease host key lease = .ok d) :
    lease.signature = signLeasePayload host key lease.signedPayload ∧
      Dict.get? lease.secretId w.descriptors = some d ∧ d.state = .active ∧ d.version = lease.secretVersion ∧
        w.now < lease.expiresAt ∧ ∀ e, d.expiresAt = some e → w.now < e := by
  unfold World.verifyLease at done
  split at done
  · simp [throw_ok] at done
  · simp [throw_ok] at done
  next equal =>
    simp only [bind_ok, guard_ok, not_not, not_le, Bool.not_eq_true] at done
    obtain ⟨d', described, active, version, unexpired, secret, p, _, rest⟩ := done
    split at rest
    · simp [throw_ok] at rest
    · obtain rfl := pure_ok.mp rest
      exact ⟨(compareDigest_true equal).symm, descriptor_ok.mp described, active, version, unexpired,
        expired_eq_false.mp secret⟩

/-- The signed payload has every field but the signature. -/
theorem signedPayload_injective {l k : CapabilityLease}
    (same : canonicalJson (.dict l.signedPayload) = canonicalJson (.dict k.signedPayload))
    (signature : l.signature = k.signature) : l = k := by
  have norm := canonicalJson_injective same
  have field (name : String) := congrArg (Json.get? name) norm
  have leaseId := field "lease_id"
  have secretId := field "secret_id"
  have version := field "secret_version"
  have actor := field "actor"
  have capability := field "capability"
  have scope := field "scope"
  have issuedAt := field "issued_at"
  have expiresAt := field "expires_at"
  have maxUses := field "max_uses"
  have nonce := field "nonce"
  simp [CapabilityLease.signedPayload, CapabilityLease.base] at leaseId secretId version actor capability
  simp [CapabilityLease.signedPayload, CapabilityLease.base] at scope issuedAt expiresAt maxUses nonce
  cases l
  cases k
  simp_all

/-- The MAC is not forged: a lease presented with a valid signature says what an issued
lease says. -/
def Call.Genuine (host : Host) (key : ByteArray) (w : World) : Call → Prop
  | .executeWithSecret lease _ _ => lease.signature = signLeasePayload host key lease.signedPayload →
    ∃ l, .issued l ∈ w.trace ∧ canonicalJson (.dict l.signedPayload) = canonicalJson (.dict lease.signedPayload)
  | _ => True

def Unforged (host : Host) (key : ByteArray) (w : World) : List Call → Prop
  | [] => True
  | call :: rest => call.Genuine host key w ∧ Unforged host key (w.after host key call) rest

structure Governed (host : Host) (key : ByteArray) (w : World) : Prop where
  lawful : Lawful w.trace
  accounted : Accounted w.trace w.store
  descriptive : Descriptive w
  signed : ∀ l, .issued l ∈ w.trace → l.signature = signLeasePayload host key l.signedPayload

namespace Governed

variable {next : World}

/-- The lease that a genuine call presents was issued with all its fields. -/
theorem presented (governed : Governed host key w) {lease : CapabilityLease}
    {vault : String → Except SecretError Bytes} {consumer : Bytes → Outcome}
    (genuine : (Call.executeWithSecret lease vault consumer).Genuine host key w)
    (valid : lease.signature = signLeasePayload host key lease.signedPayload) : .issued lease ∈ w.trace := by
  obtain ⟨l, issued, same⟩ := genuine valid
  have signature : l.signature = lease.signature := by
    rw [governed.signed l issued, valid, signLeasePayload, signLeasePayload, same]
  exact signedPayload_injective same signature ▸ issued

/-- A call without an event leaves the plane as it is, but for the store. -/
theorem quiet (governed : Governed host key w) (accounted : Accounted next.trace next.store)
    (descriptors : next.descriptors = w.descriptors) (policies : next.policies = w.policies)
    (bindings : next.bindings = w.bindings) (trace : next.trace = w.trace) : Governed host key next :=
  ⟨trace ▸ governed.lawful, accounted, governed.descriptive.same descriptors policies bindings trace,
    trace ▸ governed.signed⟩

theorem snoc {e : Event} (governed : Governed host key w) (trace : next.trace = w.trace ++ [e])
    (accounted : Accounted (w.trace ++ [e]) next.store) (descriptive : Descriptive next)
    (rightful : Rightful w.trace e) (other : ∀ l, e ≠ .issued l) : Governed host key next :=
  ⟨trace ▸ governed.lawful.snoc rightful, trace ▸ accounted, descriptive,
    fun l issued => governed.signed l ((Accounted.issued_snoc other).mp (trace ▸ issued))⟩

theorem registerSecret (governed : Governed host key w) (d : SecretDescriptor) (p : SecretPolicy) (locator : String) :
    Governed host key (w.registerSecret host d p locator).2 := by
  unfold World.registerSecret
  split_ifs
  · exact governed
  · exact governed
  · exact governed
  · refine governed.snoc (e := .registered d p locator) rfl
      (governed.accounted.unrelated (fun _ => nofun) (fun _ => rfl) fun _ => rfl)
      (governed.descriptive.register rfl rfl rfl rfl) trivial fun _ => nofun

theorem issueLease (governed : Governed host key w) (secretId actor capability scope : String)
    (ttlSeconds maxUses : Option Int) (nonce : Option String) :
    Governed host key (w.issueLease host key secretId actor capability scope ttlSeconds maxUses nonce).2 := by
  unfold World.issueLease
  split
  · exact governed
  next d p issuable =>
    split
    · exact governed.quiet governed.accounted rfl rfl rfl rfl
    next passed =>
      split
      · exact governed
      next terms agreed =>
        obtain ⟨described, policed⟩ := issuable_ok issuable
        obtain ⟨ttl, uses⟩ := leaseTerms_ok agreed
        obtain ⟨actors, capabilities, scopes⟩ := refusal_none passed
        obtain ⟨⟨d₀, p₀, registered, _, policy⟩, _, _⟩ := governed.descriptive.described secretId d described
        obtain rfl := Option.some.inj (policed.symm.trans policy)
        dsimp only
        split
        next e store failed =>
          obtain ⟨settled, state⟩ := LeaseStateStore.register_error failed governed.accounted.settled
          exact governed.quiet (governed.accounted.same settled state) rfl rfl rfl rfl
        next store done =>
          refine ⟨governed.lawful.snoc ⟨d₀, p, registered, ?_⟩, ?_, ?_, ?_⟩
          · exact ⟨matched_iff.mp actors, matched_iff.mp capabilities, matched_iff.mp scopes,
              ⟨add_le_add_right ttl.1 _, add_le_add_right ttl.2 _⟩, uses⟩
          · exact governed.accounted.issue governed.lawful done (le_trans (by decide) uses.1)
          · exact governed.descriptive.lease rfl rfl rfl rfl (fun _ => rfl) (fun _ => rfl) fun _ => rfl
          · intro l issued
            rcases List.mem_append.mp issued with earlier | last
            · exact governed.signed l earlier
            · obtain rfl := Event.issued.inj (List.mem_singleton.mp last)
              rfl

/-- What a consumer made of the secret changes the audit alone. -/
theorem concludeUse (governed : Governed host key w) (lease : CapabilityLease) (material : Bytes) (outcome : Outcome) :
    Governed host key (w.concludeUse host lease material outcome).2 := by
  cases outcome with
  | raised e =>
    simp only [World.concludeUse]
    split
    · exact governed
    · exact governed.quiet governed.accounted rfl rfl rfl rfl
  | returned value =>
    simp only [World.concludeUse]
    split
    · exact governed.quiet governed.accounted rfl rfl rfl rfl
    · exact governed.quiet governed.accounted rfl rfl rfl rfl

theorem executeWithSecret (governed : Governed host key w) {lease : CapabilityLease}
    {vault : String → Except SecretError Bytes} {consumer : Bytes → Outcome}
    (genuine : (Call.executeWithSecret lease vault consumer).Genuine host key w) :
    Governed host key (w.executeWithSecret host key lease vault consumer).2 := by
  unfold World.executeWithSecret
  split
  · exact governed
  next d verified =>
    obtain ⟨valid, described, active, version, unexpired, secretUnexpired⟩ := verifyLease_ok verified
    obtain ⟨⟨d₀, p, registered, expiry, _⟩, inForce, bound⟩ := governed.descriptive.described lease.secretId d described
    have issued := governed.presented genuine valid
    split
    next e store failed =>
      obtain ⟨settled, state⟩ := LeaseStateStore.consume_refused failed nofun governed.accounted.settled
      exact governed.quiet (governed.accounted.same settled state) rfl rfl rfl rfl
    next store refused =>
      obtain ⟨settled, state⟩ := LeaseStateStore.consume_refused refused (by simp) governed.accounted.settled
      exact governed.quiet (governed.accounted.same settled state) rfl rfl rfl rfl
    next store done =>
      have counted := governed.accounted.use issued done
      dsimp only
      split
      · exact governed.quiet counted rfl rfl rfl rfl
      next locator binding =>
        split
        · exact governed.quiet counted rfl rfl rfl rfl
        next material held =>
          split
          · exact governed.quiet counted rfl rfl rfl rfl
          · have lawful : LawfulUse w.trace lease w.now vault material :=
              ⟨(governed.accounted.consume issued done).1, inForce active, unexpired,
                ⟨d₀, p, registered, expiry ▸ secretUnexpired⟩,
                ⟨locator, version ▸ bound locator (binding_ok.mp binding), held⟩⟩
            have invoked : Governed host key
                ({ w with store := store }.observed (.invoked lease w.now vault material)) :=
              governed.snoc rfl (governed.accounted.invoke issued done)
                (governed.descriptive.lease rfl rfl rfl rfl (fun _ => rfl) (fun _ => rfl) fun _ => rfl) lawful
                fun _ => nofun
            exact invoked.concludeUse lease material (consumer material)

theorem rebindSecret (governed : Governed host key w) (secretId newLocator : String) (newVersion : Int) :
    Governed host key (w.rebindSecret host secretId newLocator newVersion).2 := by
  unfold World.rebindSecret
  split
  · exact governed
  next d described =>
    split_ifs with inactive newer empty
    · exact governed
    · exact governed
    · exact governed.snoc (e := .rebound secretId newVersion newLocator) rfl
        (governed.accounted.close (fun _ => nofun) (fun _ => rfl) fun _ => rfl)
        (governed.descriptive.rebind (descriptor_ok.mp described) rfl rfl rfl rfl (not_not.mp inactive) rfl) trivial
        fun _ => nofun
    · exact governed

theorem revokeSecret (governed : Governed host key w) (secretId : String) :
    Governed host key (w.revokeSecret host secretId).2 := by
  unfold World.revokeSecret
  split
  · exact governed
  next d described =>
    split_ifs
    · exact governed
    · exact governed.snoc (e := .revoked secretId) rfl
        (governed.accounted.close (fun _ => nofun) (fun _ => rfl) fun _ => rfl)
        (governed.descriptive.close (descriptor_ok.mp described) rfl rfl rfl rfl (by simp) rfl (fun _ => rfl)
          (fun _ other => by simp [forceOf, Ne.symm other]) fun _ => rfl) trivial fun _ => nofun

theorem destroySecret (governed : Governed host key w) (secretId : String) (vault : String → Except SecretError Unit) :
    Governed host key (w.destroySecret host secretId vault).2 := by
  unfold World.destroySecret
  split
  · exact governed
  next d described =>
    split_ifs
    · exact governed
    · split
      · exact governed
      · split
        · exact governed
        · exact governed.snoc (e := .destroyed secretId) rfl
            (governed.accounted.close (fun _ => nofun) (fun _ => rfl) fun _ => rfl)
            (governed.descriptive.close (descriptor_ok.mp described) rfl rfl rfl rfl (by simp) rfl (fun _ => rfl)
              (fun _ other => by simp [forceOf, Ne.symm other]) fun _ => rfl) trivial fun _ => nofun

theorem restart (governed : Governed host key w) (storageClass : StorageClass) (reconnect : Bool) :
    Governed host key (w.restart storageClass reconnect) := by
  obtain ⟨settled, state⟩ := LeaseStateStore.settled_reopened governed.accounted.settled reconnect
  exact ⟨governed.lawful, governed.accounted.same settled state,
    ⟨fun _ _ found => by simp [World.restart] at found, .nil⟩, governed.signed⟩

theorem step (governed : Governed host key w) {call : Call} (genuine : call.Genuine host key w) :
    Governed host key (w.after host key call) := by
  cases call with
  | registerSecret descriptor policy locator => exact governed.registerSecret descriptor policy locator
  | issueLease secretId actor capability scope ttlSeconds maxUses nonce =>
    exact governed.issueLease secretId actor capability scope ttlSeconds maxUses nonce
  | executeWithSecret lease vault consumer => exact governed.executeWithSecret genuine
  | rebindSecret secretId newLocator newVersion => exact governed.rebindSecret secretId newLocator newVersion
  | revokeSecret secretId => exact governed.revokeSecret secretId
  | destroySecret secretId vault => exact governed.destroySecret secretId vault
  | setClock now => exact governed.quiet governed.accounted rfl rfl rfl rfl
  | restart storageClass reconnect => exact governed.restart storageClass reconnect

theorem run (governed : Governed host key w) {calls : List Call} (unforged : Unforged host key w calls) :
    Governed host key (calls.foldl (World.after host key) w) := by
  induction calls generalizing w with
  | nil => exact governed
  | cons call rest ih => exact ih (governed.step unforged.1) unforged.2

theorem start (host : Host) (key : ByteArray) (storageClass : StorageClass) (durable : Bool) (now : Int) :
    Governed host key (World.start storageClass (.new durable) now) where
  lawful := .nil
  accounted := ⟨by cases durable <;> trivial, fun _ issued => by simp [World.start] at issued,
    fun _ issued => by simp [World.start] at issued⟩
  descriptive := ⟨fun _ _ found => by simp [World.start] at found, .nil⟩
  signed := fun _ issued => by simp [World.start] at issued

end Governed

/-- In every run, over either store and with any restarts, every lease was issued within its
policy and every use is lawful, and a lease is used no more often than it says. -/
theorem lease_lifetime (storageClass : StorageClass) (durable : Bool) (now : Int) (calls : List Call)
    (unforged : Unforged host key (World.start storageClass (.new durable) now) calls) :
    Lawful (calls.foldl (World.after host key) (World.start storageClass (.new durable) now)).trace ∧
      ∀ lease, .issued lease ∈ (calls.foldl (World.after host key)
          (World.start storageClass (.new durable) now)).trace →
        (invocations lease.leaseId (calls.foldl (World.after host key)
          (World.start storageClass (.new durable) now)).trace : Int) ≤ lease.maxUses := by
  have governed := (Governed.start host key storageClass durable now).run unforged
  refine ⟨governed.lawful, fun lease issued => ?_⟩
  obtain ⟨st, _, entered⟩ := governed.accounted.entered lease issued
  exact (Int.ofNat_le.mpr entered.counted).trans entered.bounded

end

def sampleDescriptor : SecretDescriptor :=
  ⟨"openai-prod-current", "provider_api_key", "matverse", "governed OpenAI Responses execution", some "openai",
    .testMemory, 1, 900, some 10000, some 5000, .active, by decide, by decide, by decide, by simp, by simp⟩

def samplePolicy : SecretPolicy :=
  ⟨["gpt-5.6-sol", "gpt-6-astra"], ["openai.responses"], ["executor-substitution-v1"], 120, 2, by decide, by decide,
    by decide⟩

def issuedSample : CapabilityLease :=
  ⟨zeroDigest, "openai-prod-current", 1, "gpt-5.6-sol", "openai.responses", "executor-substitution-v1", 1000, 1060, 2,
    "0123456789abcdef", zeroDigest⟩

/-- A lease is issued, used, and revoked with its secret. -/
def sampleCalls : List Call :=
  [.registerSecret sampleDescriptor samplePolicy "slot-v1",
    .issueLease "openai-prod-current" "gpt-5.6-sol" "openai.responses" "executor-substitution-v1" (some 60) none
      (some "0123456789abcdef"),
    .executeWithSecret issuedSample (fun _ => .ok [115]) (fun _ => .returned (.str "ok")),
    .revokeSecret "openai-prod-current"]

def sampleWorld : World :=
  sampleCalls.foldl (World.after zeroHost ByteArray.empty) (World.start .testMemory (.new true) 1000)

theorem lease_lifetime_sample : Lawful sampleWorld.trace ∧ (invocations zeroDigest sampleWorld.trace : Int) ≤ 2 := by
  have lifetime := @lease_lifetime zeroHost ByteArray.empty .testMemory true 1000 sampleCalls
    ⟨trivial, trivial, fun _ => ⟨issuedSample, .tail _ (.head _), rfl⟩, trivial, trivial⟩
  exact ⟨lifetime.1, lifetime.2 issuedSample (.tail _ (.head _))⟩

end MatVerse.SecretPlane
