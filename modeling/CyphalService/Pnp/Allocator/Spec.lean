import CyphalService.Pnp.Allocator
import CyphalService.Pnp.Db.Spec

open effect
open cyphal_service.pnp.db

namespace cyphal_service.pnp.allocator

theorem GET_INFO_RETRY_COOLDOWN_pos : 0 < GET_INFO_RETRY_COOLDOWN := by decide

/-- Because the cooldown is positive, the saturating difference decides it as the
exact one would. -/
theorem cooldown_le_elapsed {t now : Instant} :
    GET_INFO_RETRY_COOLDOWN ≤ elapsed t now ↔ t + GET_INFO_RETRY_COOLDOWN ≤ now := by
  constructor
  · intro h
    have hpos : 0 < now - t := Nat.lt_of_lt_of_le GET_INFO_RETRY_COOLDOWN_pos h
    exact (Nat.le_sub_iff_add_le' (Nat.le_of_lt (Nat.lt_of_sub_pos hpos))).1 h
  · intro h
    exact Nat.le_sub_of_add_le' h

/-- Who an anonymous allocation request speaks for. -/
inductive Requester where
  | v1 (hash : UInt64)
  | v2 (uid : UniqueId)
  deriving DecidableEq

namespace Requester

/-- The row from which a known requester is answered. -/
def lookup : Requester → Table → Option AllocationEntry
  | .v1 hash, t => t.byHash hash.toInt64
  | .v2 uid, t => t.byHex (bytes_to_hex uid.toList)

/-- The row written for a requester that matches none. -/
def newRow : Requester → UInt16 → String → AllocationEntry
  | .v1 hash, node_id, ts => ⟨node_id, bytes_to_hex (padded hash), some hash.toInt64, ts⟩
  | .v2 uid, node_id, ts => ⟨node_id, bytes_to_hex uid.toList, none, ts⟩

@[simp] theorem newRow_node_id (q : Requester) (node_id : UInt16) (ts : String) :
    (q.newRow node_id ts).node_id = node_id := by
  cases q <;> rfl

theorem lookup_mem {q : Requester} {t : Table} {row : AllocationEntry} (h : q.lookup t = some row) :
    row ∈ t.rows := by
  cases q with
  | v1 hash => exact (Table.byHash_mem h).1
  | v2 uid => exact (Table.byHex_mem h).1

end Requester

/-- The outcomes of one anonymous request when every statement succeeds. -/
inductive Assigned (self : PnpAllocator) (t : Table) (q : Requester) (ts : String) :
    Option UInt16 → Table → Prop where
  | reused {row : AllocationEntry} (hrow : q.lookup t = some row) :
      Assigned self t q ts (some row.node_id) t
  | exhausted (hnone : q.lookup t = none)
      (hfull : t.firstFree [self.local_node_id] self.max_node_id = none) :
      Assigned self t q ts none t
  | fresh {node_id : UInt16} (hnone : q.lookup t = none)
      (hfree : t.firstFree [self.local_node_id] self.max_node_id = some node_id)
      (hnew : (q.newRow node_id ts).node_id ∉ t.ids) :
      Assigned self t q ts (some node_id) (t.push (q.newRow node_id ts) hnew)

theorem Assigned.extends {self : PnpAllocator} {t t' : Table} {q : Requester} {ts : String}
    {answer : Option UInt16} (h : Assigned self t q ts answer t') : t.Extends t' := by
  cases h with
  | reused hrow => exact .refl t
  | exhausted hnone hfull => exact .refl t
  | fresh hnone hfree hnew => exact .push hnew

/-- A known requester is answered with the node ID of its row. -/
theorem Assigned.answer_of_lookup {self : PnpAllocator} {t t' : Table} {q : Requester} {ts : String}
    {answer : Option UInt16} (h : Assigned self t q ts answer t') {row : AllocationEntry}
    (hrow : q.lookup t = some row) : answer = some row.node_id ∧ t' = t := by
  cases h with
  | reused hrow' =>
    rw [hrow, Option.some.injEq] at hrow'
    exact ⟨by rw [hrow'], rfl⟩
  | exhausted hnone hfull => simp [hrow] at hnone
  | fresh hnone hfree hnew => simp [hrow] at hnone

/-- Once answered, a requester is known under the answered node ID. -/
theorem Assigned.lookup_after {self : PnpAllocator} {t t' : Table} {q : Requester} {ts : String}
    {node_id : UInt16} (h : Assigned self t q ts (some node_id) t') :
    ∃ row, q.lookup t' = some row ∧ row.node_id = node_id := by
  cases h with
  | reused hrow => exact ⟨_, hrow, rfl⟩
  | fresh hnone hfree hnew =>
    refine ⟨q.newRow node_id ts, ?_, Requester.newRow_node_id q node_id ts⟩
    cases q with
    | v1 hash =>
      simp only [Requester.lookup] at hnone ⊢
      simp [Table.byHash_push, hnone, Requester.newRow]
    | v2 uid =>
      simp only [Requester.lookup] at hnone ⊢
      simp [Table.byHex_push, hnone, Requester.newRow]

namespace PnpAllocator

variable (self : PnpAllocator) (ts : String) (t : Table)

theorem run_new (local_node_id max_node_id : UInt16) :
    (new local_node_id max_node_id).run (exec ts) t =
      ({ local_node_id, max_node_id, get_info_queue := [], recently_queried := ∅ },
        t.record local_node_id ts) := by
  simp [new]

theorem run_on_allocation_v2_of_source (msg : AllocationDataV2) (source : Option UInt16)
    (hsource : source.isSome) : (self.on_allocation_v2 msg source).run (exec ts) t = (none, t) := by
  simp [on_allocation_v2, hsource]

/-- The existing row answers first; otherwise the first free ID is stored and
answered, and the `INSERT` cannot fail because that ID was just seen free. -/
theorem run_on_allocation_v2 (msg : AllocationDataV2) :
    ∃ answer t', Assigned self t (.v2 msg.unique_id) ts answer t' ∧
      (self.on_allocation_v2 msg none).run (exec ts) t =
        (answer.map fun node_id => ⟨⟨node_id⟩, msg.unique_id⟩, t') := by
  cases hrow : (Requester.v2 msg.unique_id).lookup t with
  | some row =>
    refine ⟨_, _, .reused hrow, ?_⟩
    simp only [Requester.lookup] at hrow
    simp [on_allocation_v2, hrow]
  | none =>
    cases hfree : t.firstFree [self.local_node_id] self.max_node_id with
    | none =>
      refine ⟨_, _, .exhausted hrow hfree, ?_⟩
      simp only [Requester.lookup] at hrow
      simp [on_allocation_v2, hrow, hfree]
    | some node_id =>
      have hnew := (Table.firstFree_some hfree).2.2
      refine ⟨_, _, .fresh hrow hfree (by simpa using hnew), ?_⟩
      simp only [Requester.lookup] at hrow
      simp [on_allocation_v2, hrow, hfree, AllocationDb.run_insert_v2 ts t msg.unique_id hnew,
        Requester.newRow]

theorem run_on_allocation_v1_of_source (msg : AllocationDataV1) (source : Option UInt16)
    (hsource : source.isSome) : (self.on_allocation_v1 msg source).run (exec ts) t = (none, t) := by
  simp [on_allocation_v1, hsource]

theorem run_on_allocation_v1_of_allocated (msg : AllocationDataV1) (source : Option UInt16)
    (hallocated : msg.allocated_node_id ≠ []) :
    (self.on_allocation_v1 msg source).run (exec ts) t = (none, t) := by
  cases source <;> simp [on_allocation_v1, hallocated]

theorem run_on_allocation_v1 (msg : AllocationDataV1) (hempty : msg.allocated_node_id = []) :
    ∃ answer t', Assigned self t (.v1 msg.unique_id_hash) ts answer t' ∧
      (self.on_allocation_v1 msg none).run (exec ts) t =
        (answer.map fun node_id => ⟨msg.unique_id_hash, [⟨node_id⟩]⟩, t') := by
  cases hrow : (Requester.v1 msg.unique_id_hash).lookup t with
  | some row =>
    refine ⟨_, _, .reused hrow, ?_⟩
    simp only [Requester.lookup] at hrow
    simp [on_allocation_v1, hempty, hrow]
  | none =>
    cases hfree : t.firstFree [self.local_node_id] self.max_node_id with
    | none =>
      refine ⟨_, _, .exhausted hrow hfree, ?_⟩
      simp only [Requester.lookup] at hrow
      simp [on_allocation_v1, hempty, hrow, hfree]
    | some node_id =>
      have hnew := (Table.firstFree_some hfree).2.2
      refine ⟨_, _, .fresh hrow hfree (by simpa using hnew), ?_⟩
      simp only [Requester.lookup] at hrow
      simp [on_allocation_v1, hempty, hrow, hfree, AllocationDb.run_insert_v1 ts t msg.unique_id_hash hnew,
        Requester.newRow]

/-- A heartbeat puts the node on the GetInfo queue: its recorded row is still a
placeholder and no cooldown holds it back. -/
def Queues (t : Table) (node_id : UInt16) (tested_at : Instant) : Prop :=
  (∃ row, t.byNode node_id = some row ∧ row.needs_get_info) ∧
    ∀ queried_at, self.recently_queried.lookup node_id = some queried_at →
      GET_INFO_RETRY_COOLDOWN ≤ elapsed queried_at tested_at

def enqueue (node_id : UInt16) (queued_at : Instant) : PnpAllocator :=
  { self with
    get_info_queue := self.get_info_queue ++ [node_id]
    recently_queried := self.recently_queried.insert node_id queued_at }

theorem run_on_heartbeat_of_queues {node_id : UInt16} {tested_at : Instant} (queued_at : Instant)
    (h : self.Queues (t.record node_id ts) node_id tested_at) :
    (self.on_heartbeat node_id tested_at queued_at).run (exec ts) t =
      (self.enqueue node_id queued_at, t.record node_id ts) := by
  obtain ⟨⟨row, hrow, hneeds⟩, hcooldown⟩ := h
  cases hqueried : self.recently_queried.lookup node_id with
  | none => simp [on_heartbeat, hrow, hneeds, hqueried, enqueue]
  | some queried_at =>
    have helapsed := hcooldown queried_at hqueried
    simp [on_heartbeat, hrow, hneeds, hqueried, helapsed, enqueue]

theorem run_on_heartbeat_of_not_queues {node_id : UInt16} {tested_at : Instant} (queued_at : Instant)
    (h : ¬ self.Queues (t.record node_id ts) node_id tested_at) :
    (self.on_heartbeat node_id tested_at queued_at).run (exec ts) t = (self, t.record node_id ts) := by
  cases hrow : (t.record node_id ts).byNode node_id with
  | none => simp [on_heartbeat, hrow]
  | some row =>
    cases hneeds : row.needs_get_info with
    | false => simp [on_heartbeat, hrow, hneeds]
    | true =>
      cases hqueried : self.recently_queried.lookup node_id with
      | none =>
        refine absurd ⟨⟨row, hrow, hneeds⟩, ?_⟩ h
        intro queried_at hsome
        simp [hqueried] at hsome
      | some queried_at =>
        have helapsed : ¬ GET_INFO_RETRY_COOLDOWN ≤ elapsed queried_at tested_at := by
          intro hle
          refine h ⟨⟨row, hrow, hneeds⟩, ?_⟩
          intro other hother
          rw [hqueried, Option.some.injEq] at hother
          exact hother ▸ hle
        simp [on_heartbeat, hrow, hqueried, helapsed]

@[simp] theorem run_on_get_info_result_some (node_id : UInt16) (uid : UniqueId) :
    (self.on_get_info_result node_id (some uid)).run (exec ts) t =
      (self, t.setHex node_id (bytes_to_hex uid.toList)) := by
  simp [on_get_info_result]

@[simp] theorem run_on_get_info_result_none (node_id : UInt16) :
    (self.on_get_info_result node_id none).run (exec ts) t =
      ({ self with recently_queried := self.recently_queried.erase node_id }, t) := by
  simp [on_get_info_result]

end PnpAllocator

end cyphal_service.pnp.allocator
