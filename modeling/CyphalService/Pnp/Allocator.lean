import Mathlib.Data.List.AList
import CyphalService.Pnp.Db

open effect
open cyphal_service.pnp.db

namespace cyphal_service.pnp.allocator

/-- A reading of the monotonic clock, in nanoseconds. -/
abbrev Instant := Nat

abbrev Duration := Nat

/-- `t.elapsed()` when the clock reads `now`; it saturates at zero. -/
def elapsed (t now : Instant) : Duration := now - t

def Duration.from_secs (secs : Nat) : Duration := secs * 1000000000

def GET_INFO_RETRY_COOLDOWN : Duration := Duration.from_secs 60

structure NodeId where
  value : UInt16
  deriving DecidableEq, Repr

/-- `NodeIDAllocationData.1.0`; the list holds at most one ID. -/
structure AllocationDataV1 where
  unique_id_hash : UInt64
  allocated_node_id : List NodeId
  deriving DecidableEq, Repr

/-- `NodeIDAllocationData.2.0`. -/
structure AllocationDataV2 where
  node_id : NodeId
  unique_id : UniqueId
  deriving DecidableEq, Repr

/-- The in-memory part of the allocator. Its database connection is the state
on which the `Sql` programs below run. -/
structure PnpAllocator where
  local_node_id : UInt16
  max_node_id : UInt16
  get_info_queue : List UInt16
  recently_queried : AList fun _ : UInt16 => Instant

namespace PnpAllocator

/-- A failed reservation of the local node is only logged. -/
def new (local_node_id max_node_id : UInt16) : Sql PnpAllocator := do
  let _ ← AllocationDb.record_static_node local_node_id
  return {
    local_node_id
    max_node_id
    get_info_queue := []
    recently_queried := ∅ }

def on_allocation_v2 (self : PnpAllocator) (msg : AllocationDataV2) (source : Option UInt16) :
    Sql (Option AllocationDataV2) := do
  if source.isSome then
    return none
  let uid := msg.unique_id
  match ← AllocationDb.find_by_unique_id uid with
  | some existing => return some { node_id := ⟨existing⟩, unique_id := uid }
  | none =>
    match ← AllocationDb.next_free_id [self.local_node_id] self.max_node_id with
    | none => return none
    | some new_id =>
      match ← AllocationDb.insert_v2 new_id uid with
      | .error _ => return none
      | .ok () => return some { node_id := ⟨new_id⟩, unique_id := uid }

def on_allocation_v1 (self : PnpAllocator) (msg : AllocationDataV1) (source : Option UInt16) :
    Sql (Option AllocationDataV1) := do
  if source.isSome then
    return none
  if !msg.allocated_node_id.isEmpty then
    return none
  let hash := msg.unique_id_hash
  match ← AllocationDb.find_by_hash hash with
  | some existing => return some { unique_id_hash := hash, allocated_node_id := [⟨existing⟩] }
  | none =>
    match ← AllocationDb.next_free_id [self.local_node_id] self.max_node_id with
    | none => return none
    | some new_id =>
      match ← AllocationDb.insert_v1 new_id hash with
      | .error _ => return none
      | .ok () => return some { unique_id_hash := hash, allocated_node_id := [⟨new_id⟩] }

/-- The clock is read twice, once for the cooldown test and once for the new
cooldown entry. -/
def on_heartbeat (self : PnpAllocator) (node_id : UInt16) (tested_at queued_at : Instant) :
    Sql PnpAllocator := do
  let _ ← AllocationDb.record_static_node node_id
  let needs_query := (← AllocationDb.find_by_node_id node_id).any (·.needs_get_info)
  if needs_query then
    let cooldown_elapsed := (self.recently_queried.lookup node_id).all fun t =>
      elapsed t tested_at ≥ GET_INFO_RETRY_COOLDOWN
    if cooldown_elapsed then
      return { self with
        get_info_queue := self.get_info_queue ++ [node_id]
        recently_queried := self.recently_queried.insert node_id queued_at }
  return self

def pop_get_info_request (self : PnpAllocator) : Option UInt16 × PnpAllocator :=
  match self.get_info_queue with
  | [] => (none, self)
  | node_id :: rest => (some node_id, { self with get_info_queue := rest })

def on_get_info_result (self : PnpAllocator) (node_id : UInt16) (uid : Option UniqueId) :
    Sql PnpAllocator := do
  match uid with
  | some uid =>
    let _ ← AllocationDb.update_unique_id node_id uid
    return self
  | none => return { self with recently_queried := self.recently_queried.erase node_id }

def list_allocations : Sql (List AllocationEntry) :=
  AllocationDb.list_all

end PnpAllocator

end cyphal_service.pnp.allocator
