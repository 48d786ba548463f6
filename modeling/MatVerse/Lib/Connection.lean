import Mathlib.Tactic.Common

/-! A connection to a transactional database: what it has committed, and what the
statements of an open transaction have made of it. Whoever holds the connection opens
and closes the transactions, so that one may stay open after a statement has failed. -/

inductive SqlError where
  | integrity (message : String)
  | operational (message : String)
  | overflow (message : String)
  deriving DecidableEq

structure Connection (σ : Type) where
  durable : σ
  working : Option σ
  deriving DecidableEq

namespace Connection

variable {σ : Type}

/-- What its next statement sees. -/
def view (c : Connection σ) : σ := c.working.getD c.durable

def connect (tables : σ) : Connection σ := ⟨tables, none⟩

/-- A new connection to the database of an old one. -/
def reopen (c : Connection σ) : Connection σ := ⟨c.durable, none⟩

/-- `BEGIN`. -/
def start (c : Connection σ) : Except SqlError (Connection σ) :=
  match c.working with
  | none => .ok ⟨c.durable, some c.durable⟩
  | some _ => .error (.operational "cannot start a transaction within a transaction")

/-- The transaction that a driver opens before a statement that writes. -/
def implicit (c : Connection σ) : Connection σ := ⟨c.durable, some c.view⟩

/-- A statement that writes: at once outside a transaction. -/
def write (c : Connection σ) (tables : σ) : Connection σ :=
  match c.working with
  | none => ⟨tables, none⟩
  | some _ => ⟨c.durable, some tables⟩

def commit (c : Connection σ) : Connection σ := ⟨c.view, none⟩

def rollback (c : Connection σ) : Connection σ := ⟨c.durable, none⟩

/-- Nothing is lost when the transaction in progress is. -/
def Settled (c : Connection σ) : Prop := c.view = c.durable

@[simp] theorem view_mk_none (s : σ) : (⟨s, none⟩ : Connection σ).view = s := rfl
@[simp] theorem view_mk_some (s t : σ) : (⟨s, some t⟩ : Connection σ).view = t := rfl
@[simp] theorem view_connect (s : σ) : (connect s).view = s := rfl
@[simp] theorem view_implicit (c : Connection σ) : c.implicit.view = c.view := rfl
@[simp] theorem durable_implicit (c : Connection σ) : c.implicit.durable = c.durable := rfl
@[simp] theorem working_implicit (c : Connection σ) : c.implicit.working = some c.view := rfl
@[simp] theorem implicit_write (c : Connection σ) (s : σ) : c.implicit.write s = ⟨c.durable, some s⟩ := rfl

@[simp] theorem view_write (c : Connection σ) (s : σ) : (c.write s).view = s := by
  unfold write
  split <;> rfl

theorem settled_of_idle {c : Connection σ} (idle : c.working = none) : c.Settled := by
  simp [Settled, view, idle]

end Connection
