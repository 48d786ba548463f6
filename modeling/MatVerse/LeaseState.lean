import MatVerse.Core
import MatVerse.Lib.Connection
import MatVerse.Lib.Run

/-! The accounting of secret leases, in memory and in a durable table. -/
namespace MatVerse.SecretPlane

structure CapabilityLease where
  leaseId : String
  secretId : String
  secretVersion : Int
  actor : String
  capability : String
  scope : String
  issuedAt : Int
  expiresAt : Int
  maxUses : Int
  nonce : String
  signature : String
  deriving DecidableEq

inductive SecretError where
  | valueError (message : String)
  | typeError (message : String)
  /-- `SecretAccessDenied`. -/
  | accessDenied (message : String)
  /-- `SecretNotAvailable`. -/
  | notAvailable (message : String)
  /-- `SecretExposureError`. -/
  | exposure (message : String)
  /-- `SecretPlaneError` itself. -/
  | plane (message : String)
  | sql (error : SqlError)
  /-- Any other exception, by the name of its type. -/
  | raised (errorType message : String)
  deriving DecidableEq

structure LeaseState where
  secretId : String
  uses : Nat
  revoked : Bool
  deriving DecidableEq

namespace LeaseState

def fresh (secretId : String) : LeaseState := ⟨secretId, 0, false⟩

def used (s : LeaseState) : LeaseState := { s with uses := s.uses + 1 }

/-- The state after its secret, or another one, was revoked. -/
def revokedWith (secretId : String) (s : LeaseState) : LeaseState :=
  if s.secretId == secretId then { s with revoked := true } else s

def Spent (s : LeaseState) (lease : CapabilityLease) : Prop := s.revoked = true ∨ lease.maxUses ≤ s.uses

instance (s : LeaseState) (lease : CapabilityLease) : Decidable (s.Spent lease) :=
  inferInstanceAs (Decidable (_ ∨ _))

end LeaseState

/-! ## In memory -/

abbrev InMemoryLeaseStateStore := List (String × LeaseState)

namespace InMemoryLeaseStateStore

def register (state : InMemoryLeaseStateStore) (lease : CapabilityLease) :
    Except SecretError Unit × InMemoryLeaseStateStore :=
  match Dict.get? lease.leaseId state with
  | some _ => (.error (.valueError "duplicate lease_id"), state)
  | none => (.ok (), Dict.insert lease.leaseId (.fresh lease.secretId) state)

def consume (state : InMemoryLeaseStateStore) (lease : CapabilityLease) :
    Except SecretError Bool × InMemoryLeaseStateStore :=
  match Dict.get? lease.leaseId state with
  | none => (.ok false, state)
  | some s => if s.Spent lease then (.ok false, state) else (.ok true, Dict.insert lease.leaseId s.used state)

def revokeSecret (state : InMemoryLeaseStateStore) (secretId : String) : InMemoryLeaseStateStore :=
  state.map (fun p => (p.1, p.2.revokedWith secretId))

end InMemoryLeaseStateStore

/-! ## In a table -/

/-- A row of `secret_lease_state`. -/
structure LeaseRow where
  leaseId : String
  state : LeaseState
  deriving DecidableEq

def selectLease (rows : List LeaseRow) (leaseId : String) : Option LeaseRow :=
  rows.find? (fun r => r.leaseId == leaseId)

/-- `INSERT`: the lease id is the primary key. -/
def insertLease (rows : List LeaseRow) (lease : CapabilityLease) : Except SqlError (List LeaseRow) :=
  match selectLease rows lease.leaseId with
  | some _ => .error (.integrity "UNIQUE constraint failed: secret_lease_state.lease_id")
  | none => .ok (rows ++ [⟨lease.leaseId, .fresh lease.secretId⟩])

/-- `UPDATE .. SET uses = uses + 1`. -/
def useLease (rows : List LeaseRow) (leaseId : String) : List LeaseRow :=
  rows.map (fun r => if r.leaseId == leaseId then { r with state := r.state.used } else r)

/-- `UPDATE .. SET revoked = 1`. -/
def revokeLeases (rows : List LeaseRow) (secretId : String) : List LeaseRow :=
  rows.map (fun r => { r with state := r.state.revokedWith secretId })

/-- The driver opens a transaction before every statement that writes. -/
abbrev SQLiteLeaseStateStore := Connection (List LeaseRow)

namespace SQLiteLeaseStateStore

def register (conn : SQLiteLeaseStateStore) (lease : CapabilityLease) :
    Except SecretError Unit × SQLiteLeaseStateStore :=
  let conn := conn.implicit
  match insertLease conn.view lease with
  | .error e => (.error (.sql e), conn)
  | .ok rows => (.ok (), (conn.write rows).commit)

def consume (conn : SQLiteLeaseStateStore) (lease : CapabilityLease) :
    Except SecretError Bool × SQLiteLeaseStateStore :=
  match conn.start with
  | .error e => (.error (.sql e), conn)
  | .ok conn =>
    match selectLease conn.view lease.leaseId with
    | none => (.ok false, conn.rollback)
    | some row =>
      if row.state.Spent lease then (.ok false, conn.rollback)
      else (.ok true, (conn.write (useLease conn.view lease.leaseId)).commit)

def revokeSecret (conn : SQLiteLeaseStateStore) (secretId : String) : SQLiteLeaseStateStore :=
  let conn := conn.implicit
  (conn.write (revokeLeases conn.view secretId)).commit

end SQLiteLeaseStateStore
/-! ## Calls -/

inductive StoreCall where
  | register (lease : CapabilityLease)
  | consume (lease : CapabilityLease)
  | revokeSecret (secretId : String)
  deriving DecidableEq

/-- What a caller learns: that the call raised, or the value it returned. -/
inductive Answer where
  | raised
  | returned (value : Option Bool)
  deriving DecidableEq

def Answer.of {α : Type} (value : α → Option Bool) : Except SecretError α → Answer
  | .error _ => .raised
  | .ok a => .returned (value a)

def InMemoryLeaseStateStore.call (state : InMemoryLeaseStateStore) : StoreCall → Answer × InMemoryLeaseStateStore
  | .register lease => (Answer.of (fun _ => none) (state.register lease).1, (state.register lease).2)
  | .consume lease => (Answer.of some (state.consume lease).1, (state.consume lease).2)
  | .revokeSecret secretId => (.returned none, state.revokeSecret secretId)

def SQLiteLeaseStateStore.call (conn : SQLiteLeaseStateStore) : StoreCall → Answer × SQLiteLeaseStateStore
  | .register lease => (Answer.of (fun _ => none) (conn.register lease).1, (conn.register lease).2)
  | .consume lease => (Answer.of some (conn.consume lease).1, (conn.consume lease).2)
  | .revokeSecret secretId => (.returned none, conn.revokeSecret secretId)

/-- No use is asked for right after a registration of a lease that is registered already. -/
def Undisturbed (registered : List String) : List StoreCall → Prop
  | [] => True
  | .register lease :: rest =>
    (lease.leaseId ∈ registered → ∀ l further, rest ≠ .consume l :: further) ∧
      Undisturbed (lease.leaseId :: registered) rest
  | .consume _ :: rest => Undisturbed registered rest
  | .revokeSecret _ :: rest => Undisturbed registered rest

/-! ## The two stores -/

@[simp] theorem selectLease_insert (rows : List LeaseRow) (row : LeaseRow) (leaseId : String) :
    selectLease (rows ++ [row]) leaseId =
      (selectLease rows leaseId).or (if row.leaseId = leaseId then some row else none) := by
  by_cases same : row.leaseId = leaseId
  · simp [selectLease, List.find?_append, same]
  · simp [selectLease, List.find?_append, same]

theorem selectLease_map {f : LeaseRow → LeaseRow} (kept : ∀ r, (f r).leaseId = r.leaseId)
    (rows : List LeaseRow) (leaseId : String) :
    selectLease (rows.map f) leaseId = (selectLease rows leaseId).map f := by
  simp [selectLease, List.find?_map, Function.comp_def, kept]

theorem selectLease_id {rows : List LeaseRow} {leaseId : String} {row : LeaseRow}
    (found : selectLease rows leaseId = some row) : row.leaseId = leaseId := by
  simpa using List.find?_some found

/-- The state a table has for a lease. -/
def leaseState (rows : List LeaseRow) (leaseId : String) : Option LeaseState :=
  (selectLease rows leaseId).map LeaseRow.state

theorem leaseState_insert {rows : List LeaseRow} {lease : CapabilityLease}
    (absent : selectLease rows lease.leaseId = none) (leaseId : String) :
    leaseState (rows ++ [⟨lease.leaseId, .fresh lease.secretId⟩]) leaseId =
      if lease.leaseId = leaseId then some (.fresh lease.secretId) else leaseState rows leaseId := by
  by_cases same : lease.leaseId = leaseId
  · subst same
    simp [leaseState, absent]
  · simp [leaseState, same]

theorem leaseState_use (rows : List LeaseRow) (used leaseId : String) :
    leaseState (useLease rows used) leaseId =
      (leaseState rows leaseId).map (fun s => if leaseId = used then s.used else s) := by
  unfold leaseState useLease
  rw [selectLease_map (fun r => by split <;> rfl)]
  cases found : selectLease rows leaseId with
  | none => rfl
  | some row =>
    have named := selectLease_id found
    by_cases same : leaseId = used
    · simp [named, same]
    · simp [named, same]

theorem leaseState_revoke (rows : List LeaseRow) (secretId leaseId : String) :
    leaseState (revokeLeases rows secretId) leaseId = (leaseState rows leaseId).map (·.revokedWith secretId) := by
  unfold leaseState revokeLeases
  rw [selectLease_map (f := fun r => { r with state := r.state.revokedWith secretId }) (fun _ => rfl)]
  simp [Option.map_map, Function.comp_def]

/-- The table shows what the dictionary holds. -/
def Alike (state : InMemoryLeaseStateStore) (conn : SQLiteLeaseStateStore) : Prop :=
  ∀ leaseId, Dict.get? leaseId state = leaseState conn.view leaseId

variable {state : InMemoryLeaseStateStore} {conn : SQLiteLeaseStateStore}

/-- A registration is answered alike; the transaction of a repeated one stays open. -/
theorem Alike.register (alike : Alike state conn) (lease : CapabilityLease) :
    (state.call (.register lease)).1 = (conn.call (.register lease)).1 ∧
      Alike (state.call (.register lease)).2 (conn.call (.register lease)).2 ∧
      ((conn.call (.register lease)).2.working.isSome ↔ (Dict.get? lease.leaseId state).isSome) ∧
      ∀ leaseId, (Dict.get? leaseId (state.call (.register lease)).2).isSome ↔
        leaseId = lease.leaseId ∨ (Dict.get? leaseId state).isSome := by
  have here := alike lease.leaseId
  unfold leaseState at here
  cases found : selectLease conn.view lease.leaseId with
  | some row =>
    rw [found] at here
    simp only [InMemoryLeaseStateStore.call, InMemoryLeaseStateStore.register, here, SQLiteLeaseStateStore.call,
      SQLiteLeaseStateStore.register, insertLease, Connection.view_implicit, found, Option.map_some]
    refine ⟨rfl, alike, by simp, fun leaseId => ?_⟩
    constructor
    · exact .inr
    · rintro (rfl | known)
      · simp [here]
      · exact known
  | none =>
    rw [found] at here
    simp only [InMemoryLeaseStateStore.call, InMemoryLeaseStateStore.register, here, SQLiteLeaseStateStore.call,
      SQLiteLeaseStateStore.register, insertLease, Connection.view_implicit, found, Option.map_none]
    refine ⟨trivial, ?_, by simp [Connection.commit], fun leaseId => ?_⟩
    · intro leaseId
      simp only [Connection.commit, Connection.view_mk_none, Connection.view_write]
      rw [leaseState_insert found, Dict.get?_insert]
      by_cases same : leaseId = lease.leaseId
      · simp [same]
      · simp [same, Ne.symm same, alike leaseId]
    · rw [Dict.get?_insert]
      by_cases same : leaseId = lease.leaseId
      · simp [same]
      · simp [same]

theorem Alike.consume (alike : Alike state conn) (idle : conn.working = none) (lease : CapabilityLease) :
    (state.call (.consume lease)).1 = (conn.call (.consume lease)).1 ∧
      Alike (state.call (.consume lease)).2 (conn.call (.consume lease)).2 ∧
      (conn.call (.consume lease)).2.working = none ∧
      ∀ leaseId, (Dict.get? leaseId (state.call (.consume lease)).2).isSome ↔ (Dict.get? leaseId state).isSome := by
  have settled : conn.view = conn.durable := Connection.settled_of_idle idle
  have here := alike lease.leaseId
  unfold leaseState at here
  cases found : selectLease conn.view lease.leaseId with
  | none =>
    rw [found] at here
    rw [settled] at found
    simp only [InMemoryLeaseStateStore.call, InMemoryLeaseStateStore.consume, here, SQLiteLeaseStateStore.call,
      SQLiteLeaseStateStore.consume, Connection.start, idle, Connection.view_mk_some, found, Option.map_none]
    exact ⟨trivial, fun leaseId => (alike leaseId).trans (by rw [settled]; rfl), rfl, fun _ => trivial⟩
  | some row =>
    rw [found] at here
    rw [settled] at found
    simp only [InMemoryLeaseStateStore.call, InMemoryLeaseStateStore.consume, here, SQLiteLeaseStateStore.call,
      SQLiteLeaseStateStore.consume, Connection.start, idle, Connection.view_mk_some, found, Option.map_some]
    by_cases spent : row.state.Spent lease
    · simp only [spent, if_true]
      exact ⟨trivial, fun leaseId => (alike leaseId).trans (by rw [settled]; rfl), rfl, fun _ => trivial⟩
    · simp only [spent, if_false]
      refine ⟨trivial, ?_, rfl, fun leaseId => ?_⟩
      · intro leaseId
        simp only [Connection.commit, Connection.view_mk_none, Connection.write, Connection.view_mk_some]
        rw [leaseState_use, ← settled, ← alike leaseId, Dict.get?_insert]
        by_cases same : leaseId = lease.leaseId
        · simp [same, here]
        · simp [same]
      · rw [Dict.get?_insert]
        by_cases same : leaseId = lease.leaseId
        · simp [same, here]
        · simp [same]

/-- Inside the transaction of a repeated registration a use is refused by the table alone. -/
theorem consume_open (state : InMemoryLeaseStateStore) (pending : conn.working.isSome) (lease : CapabilityLease) :
    (state.call (.consume lease)).1 ≠ (conn.call (.consume lease)).1 := by
  obtain ⟨tables, opened⟩ := Option.isSome_iff_exists.mp pending
  have refused : (conn.call (.consume lease)).1 = .raised := by
    simp [SQLiteLeaseStateStore.call, SQLiteLeaseStateStore.consume, Connection.start, opened, Answer.of]
  rw [refused]
  simp only [InMemoryLeaseStateStore.call, InMemoryLeaseStateStore.consume]
  split
  · simp [Answer.of]
  · split <;> simp [Answer.of]

theorem Alike.revokeSecret (alike : Alike state conn) (secretId : String) :
    Alike (state.call (.revokeSecret secretId)).2 (conn.call (.revokeSecret secretId)).2 ∧
      ∀ leaseId, (Dict.get? leaseId (state.call (.revokeSecret secretId)).2).isSome ↔
        (Dict.get? leaseId state).isSome := by
  constructor
  · intro leaseId
    simp only [InMemoryLeaseStateStore.call, InMemoryLeaseStateStore.revokeSecret, SQLiteLeaseStateStore.call,
      SQLiteLeaseStateStore.revokeSecret, Connection.commit, Connection.view_implicit, Connection.view_mk_none,
      Connection.view_write]
    rw [leaseState_revoke, ← alike leaseId, Dict.get?_map]
  · intro leaseId
    simp only [InMemoryLeaseStateStore.call, InMemoryLeaseStateStore.revokeSecret]
    rw [Dict.get?_map, Option.isSome_map]

/-- From stores alike, with the leases registered so far and perhaps a transaction left open. -/
theorem Alike.outputs_iff (alike : Alike state conn) {registered : List String}
    (known : ∀ leaseId, leaseId ∈ registered ↔ (Dict.get? leaseId state).isSome) (calls : List StoreCall) :
    Machine.outputs InMemoryLeaseStateStore.call state calls =
        Machine.outputs SQLiteLeaseStateStore.call conn calls ↔
      (conn.working.isSome → ∀ lease rest, calls ≠ .consume lease :: rest) ∧ Undisturbed registered calls := by
  induction calls generalizing state conn registered with
  | nil => simp [Machine.outputs, Undisturbed]
  | cons call rest ih =>
    rw [Machine.outputs, Machine.outputs, List.cons.injEq]
    cases call with
    | register lease =>
      obtain ⟨same, further, pending, keys⟩ := alike.register lease
      have named : ∀ leaseId, leaseId ∈ lease.leaseId :: registered ↔
          (Dict.get? leaseId (state.call (.register lease)).2).isSome := by
        intro leaseId
        rw [keys, List.mem_cons, known]
      rw [ih further named, pending, ← known lease.leaseId]
      simp [same, Undisturbed]
    | consume lease =>
      cases idle : conn.working with
      | none =>
        obtain ⟨same, further, closed, keys⟩ := alike.consume idle lease
        rw [ih further (fun leaseId => (known leaseId).trans (keys leaseId).symm)]
        simp [same, closed, Undisturbed]
      | some tables =>
        have pending : conn.working.isSome := by simp [idle]
        have differ := consume_open state pending lease
        simp [differ]
    | revokeSecret secretId =>
      obtain ⟨further, keys⟩ := alike.revokeSecret secretId
      rw [ih further (fun leaseId => (known leaseId).trans (keys leaseId).symm)]
      simp [InMemoryLeaseStateStore.call, SQLiteLeaseStateStore.call, SQLiteLeaseStateStore.revokeSecret,
        Connection.commit, Undisturbed]

/-- From empty stores the answers agree exactly when no use is asked for right after a
repeated registration. -/
theorem stores_agree_iff (calls : List StoreCall) :
    Machine.outputs InMemoryLeaseStateStore.call [] calls =
        Machine.outputs SQLiteLeaseStateStore.call (Connection.connect []) calls ↔ Undisturbed [] calls := by
  have alike : Alike [] (Connection.connect []) := fun _ => rfl
  have known : ∀ leaseId, leaseId ∈ ([] : List String) ↔
      (Dict.get? leaseId ([] : InMemoryLeaseStateStore)).isSome := by
    intro leaseId
    simp
  rw [alike.outputs_iff known calls]
  simp [Connection.connect]

def sampleLease : CapabilityLease :=
  ⟨zeroDigest, "openai-main", 1, "agent:research", "llm.invoke", "repo:matverse", 1000, 1060, 1,
    "0123456789abcdef", zeroDigest⟩

/-- The use of a lease that was registered twice. -/
theorem stores_disagree : Machine.outputs InMemoryLeaseStateStore.call []
      [.register sampleLease, .register sampleLease, .consume sampleLease] ≠
    Machine.outputs SQLiteLeaseStateStore.call (Connection.connect [])
      [.register sampleLease, .register sampleLease, .consume sampleLease] := by
  decide

end MatVerse.SecretPlane
