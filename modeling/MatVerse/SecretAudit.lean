import MatVerse.LeaseLifetime

/-! What the audit of a plane says of the uses that its store counts: a use is audited
once, unless the call that consumed it ends before the vault has handed out a secret, or
by an error of the plane's own kind. -/
namespace MatVerse.SecretPlane

variable {host : Host} {key : ByteArray} {w : World}

/-! ## Counted uses -/

def LeaseStateStore.uses : LeaseStateStore → Nat
  | .memory state => Dict.total LeaseState.uses state
  | .sqlite conn => (conn.view.map (fun r => r.state.uses)).sum

/-- Lease ids are keys, and no transaction holds writes that may be lost. -/
def LeaseStateStore.Keyed : LeaseStateStore → Prop
  | .memory state => Dict.Sorted state
  | .sqlite conn => conn.Settled ∧ (conn.view.map LeaseRow.leaseId).Nodup

def useEvents : List String := ["LEASE_USED", "SECRET_RETURN_BLOCKED", "LEASE_USE_ERROR"]

def World.audited (w : World) : Nat := w.auditEvents.countP (fun e => useEvents.contains e.eventType)

namespace LeaseStateStore

variable {s next : LeaseStateStore} {lease : CapabilityLease}

theorem keyed_new (durable : Bool) : (new durable).Keyed := by
  cases durable with
  | false => exact .nil
  | true => exact ⟨rfl, .nil⟩

theorem selectLease_none {rows : List LeaseRow} {leaseId : String} (absent : selectLease rows leaseId = none) :
    leaseId ∉ rows.map LeaseRow.leaseId := by
  intro member
  obtain ⟨row, listed, named⟩ := List.mem_map.mp member
  have other := List.find?_eq_none.mp absent row listed
  simp [named] at other

theorem leaseIds_useLease (rows : List LeaseRow) (leaseId : String) :
    (useLease rows leaseId).map LeaseRow.leaseId = rows.map LeaseRow.leaseId := by
  simp only [useLease, List.map_map]
  refine List.map_congr_left fun r _ => ?_
  simp only [Function.comp_apply]
  split <;> rfl

theorem uses_useLease {rows : List LeaseRow} (distinct : (rows.map LeaseRow.leaseId).Nodup) {leaseId : String}
    (listed : leaseId ∈ rows.map LeaseRow.leaseId) :
    ((useLease rows leaseId).map (fun r => r.state.uses)).sum = (rows.map (fun r => r.state.uses)).sum + 1 := by
  induction rows with
  | nil => cases listed
  | cons row rest ih =>
    obtain ⟨apart, distinctRest⟩ := List.nodup_cons.mp distinct
    by_cases here : row.leaseId = leaseId
    · subst here
      have others : ∀ r ∈ rest, (if r.leaseId == row.leaseId then { r with state := r.state.used } else r) = r := by
        intro r member
        have other : r.leaseId ≠ row.leaseId := fun same => apart (List.mem_map.mpr ⟨r, member, same⟩)
        simp [other]
      have kept : useLease rest row.leaseId = rest := by
        rw [useLease, List.map_congr_left others, List.map_id']
      simp only [useLease, List.map_cons, List.sum_cons, beq_self_eq_true, if_true, LeaseState.used] at kept ⊢
      rw [kept]
      omega
    · have later := ih distinctRest ((List.mem_cons.mp listed).resolve_left (Ne.symm here))
      have kept : (row.leaseId == leaseId) = false := beq_eq_false_iff_ne.mpr here
      simp only [useLease] at later
      simp only [useLease, List.map_cons, List.sum_cons, kept, Bool.false_eq_true, if_false, later]
      omega

theorem uses_revokeLeases (rows : List LeaseRow) (secretId : String) :
    ((revokeLeases rows secretId).map (fun r => r.state.uses)).sum = (rows.map (fun r => r.state.uses)).sum := by
  simp only [revokeLeases, List.map_map]
  refine congrArg List.sum (List.map_congr_left fun r _ => ?_)
  simp only [Function.comp_apply, LeaseState.revokedWith]
  split <;> rfl

theorem register_uses (keyed : s.Keyed) : (s.register lease).2.Keyed ∧ (s.register lease).2.uses = s.uses := by
  cases s with
  | memory state =>
    simp only [register, InMemoryLeaseStateStore.register]
    split
    · exact ⟨keyed, rfl⟩
    next absent => exact ⟨Dict.sorted_insert _ _ keyed, Dict.total_insert_new _ absent _⟩
  | sqlite conn =>
    obtain ⟨settled, distinct⟩ := keyed
    simp only [register, SQLiteLeaseStateStore.register, insertLease, Connection.view_implicit]
    cases absent : selectLease conn.view lease.leaseId with
    | some row => exact ⟨⟨settled, distinct⟩, rfl⟩
    | none =>
      refine ⟨⟨Connection.settled_of_idle rfl, ?_⟩, by simp [uses, Connection.commit, LeaseState.fresh]⟩
      simp only [Connection.implicit_write, Connection.commit, Connection.view_mk_some, Connection.view_mk_none,
        List.map_append, List.map_cons, List.map_nil]
      exact List.nodup_append.mpr ⟨distinct, by simp, by
        rintro a listed b single rfl
        exact selectLease_none absent (List.mem_singleton.mp single ▸ listed)⟩

/-- What an answer says of the use that was asked for. -/
def counted : Except SecretError Bool → Nat
  | .ok true => 1
  | .ok false | .error _ => 0

theorem consume_uses (keyed : s.Keyed) :
    (s.consume lease).2.Keyed ∧ (s.consume lease).2.uses = s.uses + counted (s.consume lease).1 := by
  cases s with
  | memory state =>
    simp only [consume, InMemoryLeaseStateStore.consume]
    split
    · exact ⟨keyed, rfl⟩
    next st found =>
      split
      · exact ⟨keyed, rfl⟩
      · have more := Dict.total_insert_known LeaseState.uses keyed found st.used
        refine ⟨Dict.sorted_insert _ _ keyed, ?_⟩
        simp only [LeaseState.used] at more
        simp only [uses, counted, LeaseState.used]
        omega
  | sqlite conn =>
    obtain ⟨settled, distinct⟩ := keyed
    have same : conn.view = conn.durable := settled
    simp only [consume, SQLiteLeaseStateStore.consume, Connection.start]
    cases idle : conn.working with
    | some tables => exact ⟨⟨settled, distinct⟩, rfl⟩
    | none =>
      simp only [Connection.view_mk_some, ← same]
      cases found : selectLease conn.view lease.leaseId with
      | none => exact ⟨⟨rfl, distinct⟩, rfl⟩
      | some row =>
        have listed : lease.leaseId ∈ conn.view.map LeaseRow.leaseId :=
          List.mem_map.mpr ⟨row, List.mem_of_find?_eq_some found, selectLease_id found⟩
        by_cases spent : row.state.Spent lease
        · simp only [spent, if_true]
          exact ⟨⟨rfl, distinct⟩, rfl⟩
        · simp only [spent, if_false]
          refine ⟨⟨Connection.settled_of_idle rfl, ?_⟩, uses_useLease distinct listed⟩
          simpa only [Connection.commit, Connection.write, Connection.view_mk_none, Connection.view_mk_some,
            leaseIds_useLease] using distinct

theorem revokeSecret_uses (keyed : s.Keyed) (secretId : String) :
    (s.revokeSecret secretId).Keyed ∧ (s.revokeSecret secretId).uses = s.uses := by
  cases s with
  | memory state =>
    refine ⟨Dict.sorted_map keyed, ?_⟩
    simp only [revokeSecret, InMemoryLeaseStateStore.revokeSecret, uses, Dict.total, List.map_map]
    refine congrArg List.sum (List.map_congr_left fun p _ => ?_)
    simp only [Function.comp_apply, LeaseState.revokedWith]
    split <;> rfl
  | sqlite conn =>
    refine ⟨⟨Connection.settled_of_idle rfl, ?_⟩, uses_revokeLeases conn.view secretId⟩
    have kept : (revokeLeases conn.view secretId).map LeaseRow.leaseId = conn.view.map LeaseRow.leaseId := by
      simp [revokeLeases, Function.comp_def]
    exact kept ▸ keyed.2

end LeaseStateStore

/-! ## Attended uses -/

/-- The secret of a lease is bound, the vault hands out material, and the consumer raises no
error of the plane's own kind. -/
def Attended (w : World) (lease : CapabilityLease) (vault : String → Except SecretError Bytes)
    (consumer : Bytes → Outcome) : Prop :=
  ∃ locator material, w.binding lease.secretId = .ok locator ∧ vault locator = .ok material ∧ material ≠ [] ∧
    ∀ e, consumer material = .raised e → e.isPlaneError = false

/-- A call with a lease consumes a use of it. -/
def Consumes (host : Host) (key : ByteArray) (w : World) (lease : CapabilityLease) : Prop :=
  (∃ d, w.verifyLease host key lease = .ok d) ∧ (w.store.consume lease).1 = .ok true

/-- If a call consumes a use, it attends to it. -/
def Call.Attends (host : Host) (key : ByteArray) (w : World) : Call → Prop
  | .executeWithSecret lease vault consumer => Consumes host key w lease → Attended w lease vault consumer
  | _ => True

/-- Every call of a run attends to the use it consumes. -/
def Attentive (host : Host) (key : ByteArray) (w : World) : List Call → Prop
  | [] => True
  | call :: rest => call.Attends host key w ∧ Attentive host key (w.after host key call) rest

/-- A call on the same plane. -/
def Call.isRestart : Call → Bool
  | .restart _ _ => true
  | _ => false

@[simp] theorem audited_audit (w : World) (eventType : String) (payload : Mapping) :
    (w.audit host eventType payload).audited = w.audited + if useEvents.contains eventType then 1 else 0 := by
  simp only [World.audited, World.audit, List.countP_append, List.countP_singleton]

@[simp] theorem audited_observed (w : World) (e : Event) : (w.observed e).audited = w.audited := rfl

@[simp] theorem store_audit (w : World) (eventType : String) (payload : Mapping) :
    (w.audit host eventType payload).store = w.store := rfl

/-- An error of the plane's own kind passes unaudited; any other end of a use is audited. -/
theorem concludeUse_audited (w : World) (lease : CapabilityLease) (material : Bytes) (outcome : Outcome) :
    (w.concludeUse host lease material outcome).2.store = w.store ∧
      ((∀ e, outcome = .raised e → e.isPlaneError = false) ∧
          (w.concludeUse host lease material outcome).2.audited = w.audited + 1 ∨
        ¬(∀ e, outcome = .raised e → e.isPlaneError = false) ∧
          (w.concludeUse host lease material outcome).2.audited = w.audited) := by
  cases outcome with
  | raised e =>
    simp only [World.concludeUse]
    cases own : e.isPlaneError with
    | false =>
      refine ⟨rfl, .inl ⟨fun other raised => ?_, by simp [useEvents]⟩⟩
      exact Outcome.raised.inj raised ▸ own
    | true => exact ⟨rfl, .inr ⟨fun none => by simp [own] at none, rfl⟩⟩
  | returned value =>
    simp only [World.concludeUse]
    split
    · exact ⟨rfl, .inl ⟨fun _ raised => (by cases raised), by simp [useEvents]⟩⟩
    · exact ⟨rfl, .inl ⟨fun _ raised => (by cases raised), by simp [useEvents]⟩⟩

/-- A plane counts at least the uses it audits, and no others exactly when it attends to
them. -/
structure Levels (w next : World) (attends : Prop) : Prop where
  keyed : next.store.Keyed
  least : w.store.uses + next.audited ≤ next.store.uses + w.audited
  level : next.store.uses + w.audited = w.store.uses + next.audited ↔ attends

theorem Levels.quiet {next : World} {attends : Prop} (keyed : next.store.Keyed) (uses : next.store.uses = w.store.uses)
    (audited : next.audited = w.audited) (trivially : attends) : Levels w next attends :=
  ⟨keyed, by rw [uses, audited], by simp [uses, audited, trivially]⟩

theorem Levels.trans {middle final : World} {attends later : Prop} (first : Levels w middle attends)
    (second : Levels middle final later) : Levels w final (attends ∧ later) := by
  refine ⟨second.keyed, ?_, ?_⟩
  · have := first.least
    have := second.least
    omega
  · rw [← first.level, ← second.level]
    have := first.least
    have := second.least
    omega

/-- A call that consumes a use audits it exactly when it attends to it. -/
theorem executeWithSecret_audited (w : World) (lease : CapabilityLease) (vault : String → Except SecretError Bytes)
    (consumer : Bytes → Outcome) (consumes : Consumes host key w lease) :
    (w.executeWithSecret host key lease vault consumer).2.store = (w.store.consume lease).2 ∧
      (Attended w lease vault consumer ∧
          (w.executeWithSecret host key lease vault consumer).2.audited = w.audited + 1 ∨
        ¬Attended w lease vault consumer ∧
          (w.executeWithSecret host key lease vault consumer).2.audited = w.audited) := by
  obtain ⟨⟨d, verified⟩, taken⟩ := consumes
  have store : w.store.consume lease = (.ok true, (w.store.consume lease).2) := Prod.ext taken rfl
  unfold World.executeWithSecret
  rw [verified, store]
  dsimp only
  have bound : (({ w with store := (w.store.consume lease).2 } : World).binding lease.secretId) =
      w.binding lease.secretId := rfl
  rw [bound]
  cases binding : w.binding lease.secretId with
  | error e =>
    refine ⟨rfl, .inr ⟨?_, rfl⟩⟩
    rintro ⟨locator, _, found, _⟩
    simp [binding] at found
  | ok locator =>
    dsimp only
    cases read : vault locator with
    | error e =>
      refine ⟨rfl, .inr ⟨?_, rfl⟩⟩
      rintro ⟨other, material, found, held, _⟩
      obtain rfl := Except.ok.inj (binding.symm.trans found)
      simp [read] at held
    | ok material =>
      have attended : Attended w lease vault consumer ↔
          material ≠ [] ∧ ∀ e, consumer material = .raised e → e.isPlaneError = false := by
        constructor
        · rintro ⟨other, handed, found, held, rest⟩
          obtain rfl := Except.ok.inj (binding.symm.trans found)
          obtain rfl := Except.ok.inj (read.symm.trans held)
          exact rest
        · rintro ⟨nonempty, audited⟩
          exact ⟨locator, material, binding, read, nonempty, audited⟩
      rw [attended]
      dsimp only
      split
      next empty => exact ⟨rfl, .inr ⟨fun both => both.1 (List.isEmpty_iff.mp empty), rfl⟩⟩
      next nonempty =>
        have held : material ≠ [] := fun empty => nonempty (List.isEmpty_iff.mpr empty)
        obtain ⟨kept, ends⟩ := @concludeUse_audited host
          (({ w with store := (w.store.consume lease).2 } : World).observed (.invoked lease w.now vault material))
          lease material (consumer material)
        refine ⟨kept, ends.imp (fun ended => ⟨⟨held, ended.1⟩, ended.2⟩) fun ended => ⟨?_, ended.2⟩⟩
        exact fun both => ended.1 both.2

theorem executeWithSecret_idle (w : World) (lease : CapabilityLease) (vault : String → Except SecretError Bytes)
    (consumer : Bytes → Outcome) (idle : ¬Consumes host key w lease) :
    ((w.executeWithSecret host key lease vault consumer).2.store = w.store ∨
      (w.executeWithSecret host key lease vault consumer).2.store = (w.store.consume lease).2 ∧
        (w.store.consume lease).1 ≠ .ok true) ∧
      (w.executeWithSecret host key lease vault consumer).2.audited = w.audited := by
  unfold World.executeWithSecret
  cases verified : w.verifyLease host key lease with
  | error e => exact ⟨.inl rfl, rfl⟩
  | ok d =>
    have refused : (w.store.consume lease).1 ≠ .ok true := fun taken => idle ⟨⟨d, verified⟩, taken⟩
    cases consumed : w.store.consume lease with
    | mk answer store =>
      rw [consumed] at refused
      cases answer with
      | error e => exact ⟨.inr ⟨rfl, refused⟩, rfl⟩
      | ok taken =>
        cases taken with
        | true => exact absurd rfl refused
        | false => exact ⟨.inr ⟨rfl, refused⟩, by simp [useEvents]; rfl⟩

theorem counted_refused {answer : Except SecretError Bool} (refused : answer ≠ .ok true) :
    LeaseStateStore.counted answer = 0 := by
  rcases answer with e | taken
  · rfl
  · cases taken with
    | true => exact absurd rfl refused
    | false => rfl

theorem executeWithSecret_levels (keyed : w.store.Keyed) (lease : CapabilityLease)
    (vault : String → Except SecretError Bytes) (consumer : Bytes → Outcome) :
    Levels w (w.executeWithSecret host key lease vault consumer).2
      ((Call.executeWithSecret lease vault consumer).Attends host key w) := by
  obtain ⟨kept, counts⟩ := @LeaseStateStore.consume_uses w.store lease keyed
  by_cases consumes : Consumes host key w lease
  · obtain ⟨store, ends⟩ := executeWithSecret_audited w lease vault consumer consumes
    rw [consumes.2] at counts
    simp only [LeaseStateStore.counted] at counts
    rcases ends with ⟨attended, audited⟩ | ⟨missed, audited⟩
    · refine ⟨by rwa [store], by rw [store, counts, audited]; omega, ?_⟩
      rw [store, counts, audited]
      exact ⟨fun _ _ => attended, fun _ => by omega⟩
    · refine ⟨by rwa [store], by rw [store, counts, audited]; omega, ?_⟩
      rw [store, counts, audited]
      exact ⟨fun level => by omega, fun attends => absurd (attends consumes) missed⟩
  · obtain ⟨store, audited⟩ := executeWithSecret_idle w lease vault consumer consumes
    have attends : (Call.executeWithSecret lease vault consumer).Attends host key w :=
      fun taken => absurd taken consumes
    rcases store with same | ⟨tried, refused⟩
    · exact .quiet (by rwa [same]) (by rw [same]) audited attends
    · exact .quiet (by rwa [tried]) (by rw [tried, counts, counted_refused refused]; rfl) audited attends

theorem after_levels (keyed : w.store.Keyed) {call : Call} (same : call.isRestart = false) :
    Levels w (w.after host key call) (call.Attends host key w) := by
  cases call with
  | executeWithSecret lease vault consumer => exact executeWithSecret_levels keyed lease vault consumer
  | registerSecret descriptor policy locator =>
    simp only [World.after, World.registerSecret]
    split_ifs
    · exact .quiet keyed rfl rfl trivial
    · exact .quiet keyed rfl rfl trivial
    · exact .quiet keyed rfl rfl trivial
    · exact .quiet keyed rfl (by simp [useEvents]; rfl) trivial
  | issueLease secretId actor capability scope ttlSeconds maxUses nonce =>
    simp only [World.after, World.issueLease]
    split
    · exact .quiet keyed rfl rfl trivial
    · split
      · exact .quiet keyed rfl (by simp [useEvents]) trivial
      · split
        · exact .quiet keyed rfl rfl trivial
        next terms _ =>
          split
          next e store failed =>
            obtain ⟨kept, uses⟩ := @LeaseStateStore.register_uses w.store (w.drawUp host key _ _ _ _ _ terms) keyed
            rw [failed] at kept uses
            exact .quiet kept uses rfl trivial
          next store done =>
            obtain ⟨kept, uses⟩ := @LeaseStateStore.register_uses w.store (w.drawUp host key _ _ _ _ _ terms) keyed
            rw [done] at kept uses
            exact .quiet kept uses (by simp [useEvents]; rfl) trivial
  | rebindSecret secretId newLocator newVersion =>
    obtain ⟨kept, uses⟩ := LeaseStateStore.revokeSecret_uses keyed secretId
    simp only [World.after, World.rebindSecret]
    split
    · exact .quiet keyed rfl rfl trivial
    · split_ifs
      · exact .quiet keyed rfl rfl trivial
      · exact .quiet keyed rfl rfl trivial
      · exact .quiet kept uses (by simp [useEvents]; rfl) trivial
      · exact .quiet keyed rfl rfl trivial
  | revokeSecret secretId =>
    obtain ⟨kept, uses⟩ := LeaseStateStore.revokeSecret_uses keyed secretId
    simp only [World.after, World.revokeSecret]
    split
    · exact .quiet keyed rfl rfl trivial
    · split_ifs
      · exact .quiet keyed rfl rfl trivial
      · exact .quiet kept uses (by simp [useEvents]; rfl) trivial
  | destroySecret secretId vault =>
    obtain ⟨kept, uses⟩ := LeaseStateStore.revokeSecret_uses keyed secretId
    simp only [World.after, World.destroySecret]
    split
    · exact .quiet keyed rfl rfl trivial
    · split_ifs
      · exact .quiet keyed rfl rfl trivial
      · split
        · exact .quiet keyed rfl rfl trivial
        · split
          · exact .quiet keyed rfl rfl trivial
          · exact .quiet kept uses (by simp [useEvents]; rfl) trivial
  | setClock now => exact .quiet keyed rfl rfl trivial
  | restart storageClass reconnect => cases same

theorem run_levels (keyed : w.store.Keyed) {calls : List Call} (same : ∀ call ∈ calls, call.isRestart = false) :
    Levels w (calls.foldl (World.after host key) w) (Attentive host key w calls) := by
  induction calls generalizing w with
  | nil => exact .quiet keyed rfl rfl trivial
  | cons call rest ih =>
    have first := @after_levels host key w keyed call (same call (by simp))
    exact first.trans (ih first.keyed fun c member => same c (List.mem_cons_of_mem _ member))

/-- The uses that a plane has counted in a run are as many as those it has audited exactly
when every call attended to the use it consumed. -/
theorem uses_audited_iff (host : Host) (key : ByteArray) (storageClass : StorageClass) (store : LeaseStateStore)
    (now : Int) (calls : List Call) (keyed : store.Keyed) (same : ∀ call ∈ calls, call.isRestart = false) :
    let final := calls.foldl (World.after host key) (World.start storageClass store now)
    final.store.uses = store.uses + final.audited ↔
      Attentive host key (World.start storageClass store now) calls := by
  intro final
  have levels : Levels (World.start storageClass store now) final _ := run_levels keyed same
  have start : (World.start storageClass store now).audited = 0 := rfl
  rw [← levels.level, start]
  exact Iff.rfl

theorem uses_audited_sample : sampleWorld.store.uses = (LeaseStateStore.new true).uses + sampleWorld.audited := by
  refine (uses_audited_iff zeroHost ByteArray.empty .testMemory (.new true) 1000 sampleCalls
    (LeaseStateStore.keyed_new true) (by decide)).mpr ⟨trivial, trivial, fun _ => ?_, trivial, trivial⟩
  exact ⟨"slot-v1", [115], rfl, rfl, by simp, nofun⟩

/-- The vault fails after the use was counted. -/
theorem use_unaudited :
    let calls := sampleCalls.take 2 ++ [.executeWithSecret issuedSample
      (fun _ => .error (.notAvailable "vault binding is unavailable")) (fun _ => .returned (.str "ok"))]
    let final := calls.foldl (World.after zeroHost ByteArray.empty) (World.start .testMemory (.new false) 1000)
    final.store.uses = 1 ∧ final.audited = 0 :=
  ⟨rfl, rfl⟩

end MatVerse.SecretPlane
