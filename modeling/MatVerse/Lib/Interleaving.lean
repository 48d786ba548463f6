import Mathlib.Data.List.Perm.Basic

/-! Programs that share a state, one access of it at a time: a scheduler picks the program
that makes the next access. Where a program appends to a log at most once, the log is
split among the programs. -/
namespace Interleaving

/-- What is left of a program: its answer, or an access and what follows it. -/
inductive Program (σ ε ρ : Type) where
  | answer (result : ρ)
  | access (left : ε → σ → σ) (next : ε → σ → Program σ ε ρ)

namespace Program

variable {σ ε ρ α : Type}

def call (run : ε → σ → α × σ) (next : α → Program σ ε ρ) : Program σ ε ρ :=
  .access (fun env s => (run env s).2) (fun env s => next (run env s).1)

def read (look : σ → α) (next : α → Program σ ε ρ) : Program σ ε ρ := call (fun _ s => (look s, s)) next

/-- What a program answers and leaves when nothing comes in between. -/
def alone (env : ε) : Program σ ε ρ → σ → ρ × σ
  | .answer result, s => (result, s)
  | .access left next, s => (next env s).alone env (left env s)

/-- No access changes the state. -/
def Silent : Program σ ε ρ → Prop
  | .answer _ => True
  | .access left next => ∀ env s, left env s = s ∧ (next env s).Silent

/-- At most one access changes the state, as `may` says. -/
def Once (may : σ → σ → Prop) : Program σ ε ρ → Prop
  | .answer _ => True
  | .access left next => ∀ env s,
      (left env s = s ∧ (next env s).Once may) ∨ (may s (left env s) ∧ (next env s).Silent)

@[simp] theorem alone_call (env : ε) (run : ε → σ → α × σ) (next : α → Program σ ε ρ) (s : σ) :
    (call run next).alone env s = (next (run env s).1).alone env (run env s).2 := rfl

@[simp] theorem alone_read (env : ε) (look : σ → α) (next : α → Program σ ε ρ) (s : σ) :
    (read look next).alone env s = (next (look s)).alone env s := rfl

variable {may : σ → σ → Prop}

theorem Silent.once {program : Program σ ε ρ} (silent : program.Silent) : program.Once may := by
  induction program with
  | answer => trivial
  | access left next ih =>
    intro env s
    obtain ⟨same, rest⟩ := silent env s
    exact .inl ⟨same, ih env s rest⟩

theorem silent_read {look : σ → α} {next : α → Program σ ε ρ} (rest : ∀ a, (next a).Silent) :
    (read look next).Silent := fun _ _ => ⟨rfl, rest _⟩

theorem once_read {look : σ → α} {next : α → Program σ ε ρ} (rest : ∀ a, (next a).Once may) :
    (read look next).Once may := fun _ _ => .inl ⟨rfl, rest _⟩

/-- Where what follows a call changes nothing, only the call may. -/
theorem once_call {run : ε → σ → α × σ} {next : α → Program σ ε ρ}
    (one : ∀ env s, (run env s).2 = s ∨ may s (run env s).2) (rest : ∀ a, (next a).Silent) :
    (call run next).Once may :=
  fun env s => (one env s).imp (fun same => ⟨same, (rest _).once⟩) (fun wrote => ⟨wrote, rest _⟩)

end Program

/-- A program that runs for an owner, and what it has appended to the log. -/
structure Job (τ σ ε ρ κ : Type) where
  owner : τ
  left : Program σ ε ρ
  wrote : List κ

structure Pool (τ σ ε ρ κ : Type) where
  shared : σ
  jobs : List (Job τ σ ε ρ κ)

variable {τ σ ε ρ κ : Type}

namespace Pool

def join (pool : Pool τ σ ε ρ κ) (shared : σ) (owner : τ) (program : Program σ ε ρ) : Pool τ σ ε ρ κ :=
  ⟨shared, pool.jobs ++ [⟨owner, program, []⟩]⟩

section
variable (log : σ → List κ)

/-- The next access of the job in a place. -/
def advance (pool : Pool τ σ ε ρ κ) (i : Nat) (env : ε) : Pool τ σ ε ρ κ :=
  match pool.jobs[i]? with
  | none => pool
  | some job =>
    match job.left with
    | .answer _ => pool
    | .access left next =>
      let shared := left env pool.shared
      ⟨shared, pool.jobs.set i ⟨job.owner, next env pool.shared,
        job.wrote ++ (log shared).drop (log pool.shared).length⟩⟩

end

end Pool

section
variable (log : σ → List κ) (may : τ → σ → σ → Prop) (own : τ → κ → Prop)

/-- A change appends one entry that the owner of the change may append. -/
def Appends : Prop := ∀ t s s', may t s s' → ∃ entry, log s' = log s ++ [entry] ∧ own t entry

/-- A job has appended nothing, or one entry and appends no more. -/
inductive Job.Sound (job : Job τ σ ε ρ κ) : Prop where
  | fresh : job.wrote = [] → job.left.Once (may job.owner) → Sound job
  | spent (entry : κ) : job.wrote = [entry] → own job.owner entry → job.left.Silent → Sound job

/-- Every entry of the log is of one job. -/
structure Pool.Sound (pool : Pool τ σ ε ρ κ) : Prop where
  split : (log pool.shared).Perm (pool.jobs.flatMap Job.wrote)
  jobs : ∀ job ∈ pool.jobs, job.Sound may own

end

variable {log : σ → List κ} {may : τ → σ → σ → Prop} {own : τ → κ → Prop} {pool : Pool τ σ ε ρ κ}

theorem perm_set {α β : Type} {xs : List α} {i : Nat} {old new : α} {f : α → List β} {more : List β}
    (found : xs[i]? = some old) (grown : f new = f old ++ more) :
    (xs.flatMap f ++ more).Perm ((xs.set i new).flatMap f) := by
  induction xs generalizing i with
  | nil => simp at found
  | cons x xs ih =>
    cases i with
    | zero =>
      obtain rfl : x = old := by simpa using found
      simp only [List.set_cons_zero, List.flatMap_cons, grown, List.append_assoc]
      exact List.perm_append_comm.append_left _
    | succ i =>
      simp only [List.set_cons_succ, List.flatMap_cons, List.append_assoc]
      exact (ih (by simpa using found)).append_left _

namespace Job

theorem Sound.length {job : Job τ σ ε ρ κ} (sound : job.Sound may own) : job.wrote.length ≤ 1 := by
  cases sound with
  | fresh none _ => simp [none]
  | spent entry one _ _ => simp [one]

theorem Sound.owned {job : Job τ σ ε ρ κ} (sound : job.Sound may own) : ∀ entry ∈ job.wrote, own job.owner entry := by
  cases sound with
  | fresh none _ => simp [none]
  | spent entry one owned _ => simpa [one] using owned

end Job

namespace Pool

/-- What an access does: nothing, or a step of one job. -/
theorem advance_cases (pool : Pool τ σ ε ρ κ) (i : Nat) (env : ε) :
    pool.advance log i env = pool ∨
      ∃ job left next, pool.jobs[i]? = some job ∧ job.left = .access left next ∧
        pool.advance log i env = ⟨left env pool.shared, pool.jobs.set i ⟨job.owner, next env pool.shared,
          job.wrote ++ (log (left env pool.shared)).drop (log pool.shared).length⟩⟩ := by
  unfold advance
  split
  · exact .inl rfl
  next job found =>
    split
    · exact .inl rfl
    next left next program => exact .inr ⟨job, left, next, found, program, rfl⟩

@[simp] theorem advance_owners (pool : Pool τ σ ε ρ κ) (i : Nat) (env : ε) :
    (pool.advance log i env).jobs.map Job.owner = pool.jobs.map Job.owner := by
  rcases @advance_cases _ _ _ _ _ log pool i env with same | ⟨job, left, next, found, _, moved⟩
  · rw [same]
  · obtain ⟨bound, rfl⟩ := List.getElem?_eq_some_iff.mp found
    rw [moved, List.map_set]
    exact (congrArg _ (List.getElem_map Job.owner).symm).trans (List.set_getElem_self (by simpa using bound))

theorem Sound.join {shared : σ} {owner : τ} {program : Program σ ε ρ} (sound : pool.Sound log may own)
    (same : log shared = log pool.shared) (once : program.Once (may owner)) :
    (pool.join shared owner program).Sound log may own := by
  refine ⟨?_, fun job member => ?_⟩
  · simpa [Pool.join, same] using sound.split
  · rcases List.mem_append.mp member with earlier | last
    · exact sound.jobs job earlier
    · obtain rfl := List.mem_singleton.mp last
      exact .fresh rfl once

/-- An access leaves the shared state, or changes it for the owner of its job. -/
theorem Sound.advance (appends : Appends log may own) (sound : pool.Sound log may own) (i : Nat) (env : ε) :
    (pool.advance log i env).Sound log may own ∧ ((pool.advance log i env).shared = pool.shared ∨
      ∃ job ∈ pool.jobs, may job.owner pool.shared (pool.advance log i env).shared) := by
  rcases @advance_cases _ _ _ _ _ log pool i env with same | ⟨job, left, next, found, program, moved⟩
  · rw [same]
    exact ⟨sound, .inl rfl⟩
  · have member := List.mem_of_getElem? found
    rw [moved]
    -- the job that moved is sound, and its log grew as the shared one did
    have step : ∃ more, log (left env pool.shared) = log pool.shared ++ more ∧
        (Job.mk job.owner (next env pool.shared) (job.wrote ++ more)).Sound may own ∧
        (left env pool.shared = pool.shared ∨ may job.owner pool.shared (left env pool.shared)) := by
      cases sound.jobs job member with
      | fresh none once =>
        rw [program] at once
        rcases once env pool.shared with ⟨same, rest⟩ | ⟨wrote, rest⟩
        · exact ⟨[], by simp [same], .fresh (by simp [none]) rest, .inl same⟩
        · obtain ⟨entry, grown, owned⟩ := appends _ _ _ wrote
          exact ⟨[entry], grown, .spent entry (by simp [none]) owned rest, .inr wrote⟩
      | spent entry one owned silent =>
        rw [program] at silent
        obtain ⟨same, rest⟩ := silent env pool.shared
        exact ⟨[], by simp [same], .spent entry (by simp [one]) owned rest, .inl same⟩
    obtain ⟨more, grown, moved, changed⟩ := step
    rw [grown, List.drop_left]
    refine ⟨⟨?_, fun other listed => ?_⟩, changed.imp_right fun wrote => ⟨job, member, wrote⟩⟩
    · rw [grown]
      exact (sound.split.append_right more).trans (perm_set found rfl)
    · rcases List.mem_or_eq_of_mem_set listed with earlier | rfl
      · exact sound.jobs other earlier
      · exact moved

end Pool

end Interleaving
