import CyphalService.Lib.Interleaving
import CyphalService.Pnp.System

open effect machine
open cyphal_service.pnp.db cyphal_service.pnp.allocator cyphal_service.pnp.system

namespace cyphal_service.pnp.shared

/-- What the owner of one connection to the database does next: construct an
allocator on it, or call the one it has. -/
inductive Task where
  | new (local_node_id max_node_id : UInt16)
  | call (call : Call)
  deriving DecidableEq

def Task.program : Task → Option PnpAllocator → Sql (Return × Option PnpAllocator)
  | .new local_node_id max_node_id, _ => do
    return (.unit, some (← PnpAllocator.new local_node_id max_node_id))
  | .call _, none => return (.unit, none)
  | .call c, some self => do
    let (output, self) ← c.run self
    return (output, some self)

def Task.requester : Task → Option Requester
  | .new _ _ => none
  | .call c => c.requester

/-- How the next statement goes: the timestamp SQLite gives to a row it inserts,
and the error if it fails, in which case it has no effect. -/
structure Attempt where
  current_timestamp : String
  failure : Option SqlError
  deriving DecidableEq

def Attempt.exec (attempt : Attempt) : Handler Statement Statement.Reply Table := fun s t =>
  match attempt.failure with
  | some e => (.error e, t)
  | none => db.exec attempt.current_timestamp s t

/-- Any number of allocators, each with its own memory and connection, and the
database file they have open. -/
abbrev Allocators (ι : Type) : Type :=
  Pool ι Statement Statement.Reply Task Return (Option PnpAllocator) Table

/-- The file is there and no allocator is yet. -/
def opened {ι : Type} (t : Table) : Allocators ι := Pool.idle t none

section Step

variable {ι χ : Type}

/-- A move of some allocator: each statement runs atomically, and anything can
come between two of them. -/
def step [DecidableEq ι] (handler : χ → Handler Statement Statement.Reply Table) (pool : Allocators ι)
    (move : Move ι Task χ) : Option (ι × Task × Return) × Allocators ι :=
  pool.step Task.program handler move

/-- A call that nothing interleaves with and in which no statement fails is a
step of a single allocator. -/
theorem alone_eq_step [DecidableEq ι] (pool : Allocators ι) (i : ι) (self : PnpAllocator) (call : Call)
    (ts : String) (hidle : pool.party i = ⟨some self, none⟩) :
    ∃ k, step exec (final (step exec) pool (.start i (.call call) :: List.replicate k (.perform i ts))) (.finish i) =
      (some (i, .call call, (system.step ⟨self, pool.shared⟩ ⟨call, ts⟩).1),
        { pool.set i ⟨some (system.step ⟨self, pool.shared⟩ ⟨call, ts⟩).2.self, none⟩ with
          shared := (system.step ⟨self, pool.shared⟩ ⟨call, ts⟩).2.table }) := by
  have hstart : (step exec pool (.start i (.call call))).2 =
      pool.set i ⟨some self, some (.call call, (Task.call call).program (some self))⟩ := by
    simp only [step, Pool.step, hidle]
  obtain ⟨k, hk⟩ := Pool.exists_solo Task.program exec i ts ((Task.call call).program (some self))
    (pool.set i ⟨some self, some (.call call, (Task.call call).program (some self))⟩)
    (Function.update_self i _ pool.party)
  refine ⟨k, ?_⟩
  rw [final, hstart]
  change step exec (final (Pool.step Task.program exec) _ _) _ = _
  rw [hk]
  simp [step, Pool.step, Pool.set, Task.program, system.step]

abbrev Step (ι χ : Type) : Type :=
  machine.Step (Allocators ι) (Move ι Task χ) (Option (ι × Task × Return))

abbrev History (ι χ : Type) : Type := List (Step ι χ)

/-- Some allocator answers the requester with the node ID. -/
def Gives (st : Step ι χ) (q : Requester) (node_id : UInt16) : Prop :=
  ∃ result ∈ st.output, result.2.1.requester = some q ∧ result.2.2.node_id = some node_id

instance (st : Step ι χ) (q : Requester) (node_id : UInt16) : Decidable (Gives st q node_id) :=
  Option.decidableExistsMem (p := fun result : ι × Task × Return =>
    result.2.1.requester = some q ∧ result.2.2.node_id = some node_id) st.output

/-- Some allocator has answered the requester with the node ID. -/
def Given (history : History ι χ) (q : Requester) (node_id : UInt16) : Prop :=
  Occurred (Gives · q node_id) history

instance (history : History ι χ) (q : Requester) (node_id : UInt16) : Decidable (Given history q node_id) :=
  inferInstanceAs (Decidable (Occurred (Gives · q node_id) history))

end Step

end cyphal_service.pnp.shared
