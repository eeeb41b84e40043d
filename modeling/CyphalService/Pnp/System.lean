import CyphalService.Lib.Trace
import CyphalService.Pnp.Allocator.Spec

open effect machine
open cyphal_service.pnp.db cyphal_service.pnp.allocator

namespace cyphal_service.pnp.system

/-- A call of one `PnpAllocator` operation, with the clock readings it takes. -/
inductive Call where
  | on_allocation_v1 (msg : AllocationDataV1) (source : Option UInt16)
  | on_allocation_v2 (msg : AllocationDataV2) (source : Option UInt16)
  | on_heartbeat (node_id : UInt16) (tested_at queued_at : Instant)
  | pop_get_info_request
  | on_get_info_result (node_id : UInt16) (uid : Option UniqueId)
  deriving DecidableEq

/-- What a call returns. -/
inductive Return where
  | allocation_v1 (response : Option AllocationDataV1)
  | allocation_v2 (response : Option AllocationDataV2)
  | popped (node_id : Option UInt16)
  | unit
  deriving DecidableEq

/-- A call together with the timestamp SQLite gives to a row it inserts. -/
structure Input where
  call : Call
  current_timestamp : String

/-- An allocator and the database it is connected to. -/
structure State where
  self : PnpAllocator
  table : Table

def Call.run (self : PnpAllocator) : Call → Sql (Return × PnpAllocator)
  | .on_allocation_v1 msg source => do
    return (.allocation_v1 (← self.on_allocation_v1 msg source), self)
  | .on_allocation_v2 msg source => do
    return (.allocation_v2 (← self.on_allocation_v2 msg source), self)
  | .on_heartbeat node_id tested_at queued_at => do
    return (.unit, ← self.on_heartbeat node_id tested_at queued_at)
  | .pop_get_info_request => return (.popped self.pop_get_info_request.1, self.pop_get_info_request.2)
  | .on_get_info_result node_id uid => do
    return (.unit, ← self.on_get_info_result node_id uid)

/-- One call on a live allocator while every SQL statement succeeds. -/
def step (s : State) (input : Input) : Return × State :=
  let result := (input.call.run s.self).run (exec input.current_timestamp) s.table
  (result.1.1, ⟨result.1.2, result.2⟩)

/-- `PnpAllocator::new` on a database file with the given content. -/
def connect (local_node_id max_node_id : UInt16) (ts : String) (t : Table) : State :=
  let result := (PnpAllocator.new local_node_id max_node_id).run (exec ts) t
  ⟨result.1, result.2⟩

def Call.isAllocation : Call → Bool
  | .on_allocation_v1 _ _ => true
  | .on_allocation_v2 _ _ => true
  | _ => false

/-- The requester of an anonymous allocation request. -/
def Call.requester : Call → Option Requester
  | .on_allocation_v1 msg none => if msg.allocated_node_id = [] then some (.v1 msg.unique_id_hash) else none
  | .on_allocation_v2 msg none => some (.v2 msg.unique_id)
  | _ => none

/-- The node ID that a response carries. -/
def Return.node_id : Return → Option UInt16
  | .allocation_v1 (some response) => response.allocated_node_id.head?.map (·.value)
  | .allocation_v2 (some response) => some response.node_id.value
  | _ => none

theorem Call.isAllocation_of_requester {call : Call} {q : Requester} (hq : call.requester = some q) :
    call.isAllocation := by
  cases call with
  | on_allocation_v1 msg source => rfl
  | on_allocation_v2 msg source => rfl
  | on_heartbeat node_id tested_at queued_at => cases hq
  | pop_get_info_request => cases hq
  | on_get_info_result node_id uid => cases hq

/-- Everything one call can do: the allocator's database and memory after it,
and the node ID it answers. -/
inductive Transition (s : State) : Input → Return → State → Prop where
  | request {call : Call} {ts : String} {q : Requester} {output : Return} {t : Table}
      (hq : call.requester = some q) (h : Assigned s.self s.table q ts output.node_id t) :
      Transition s ⟨call, ts⟩ output ⟨s.self, t⟩
  | ignored {call : Call} {ts : String} {output : Return} (hcall : call.isAllocation)
      (hq : call.requester = none) (hanswer : output.node_id = none) : Transition s ⟨call, ts⟩ output s
  | queued {node_id : UInt16} {tested_at queued_at : Instant} {ts : String}
      (h : s.self.Queues (s.table.record node_id ts) node_id tested_at) :
      Transition s ⟨.on_heartbeat node_id tested_at queued_at, ts⟩ .unit
        ⟨s.self.enqueue node_id queued_at, s.table.record node_id ts⟩
  | noted {node_id : UInt16} {tested_at queued_at : Instant} {ts : String}
      (h : ¬ s.self.Queues (s.table.record node_id ts) node_id tested_at) :
      Transition s ⟨.on_heartbeat node_id tested_at queued_at, ts⟩ .unit
        ⟨s.self, s.table.record node_id ts⟩
  | popped {ts : String} :
      Transition s ⟨.pop_get_info_request, ts⟩ (.popped s.self.pop_get_info_request.1)
        ⟨s.self.pop_get_info_request.2, s.table⟩
  | resolved {node_id : UInt16} {uid : UniqueId} {ts : String} :
      Transition s ⟨.on_get_info_result node_id (some uid), ts⟩ .unit
        ⟨s.self, s.table.setHex node_id (bytes_to_hex uid.toList)⟩
  | failed {node_id : UInt16} {ts : String} :
      Transition s ⟨.on_get_info_result node_id none, ts⟩ .unit
        ⟨{ s.self with recently_queried := s.self.recently_queried.erase node_id }, s.table⟩

theorem step_transition {s post : State} {input : Input} {output : Return}
    (h : step s input = (output, post)) : Transition s input output post := by
  obtain ⟨self, table⟩ := s
  obtain ⟨call, ts⟩ := input
  simp only [step, Prod.mk.injEq] at h
  obtain ⟨rfl, rfl⟩ := h
  cases call with
  | on_allocation_v1 msg source =>
    by_cases hallocated : msg.allocated_node_id = []
    · cases source with
      | none =>
        obtain ⟨answer, t', hassigned, hrun⟩ := self.run_on_allocation_v1 ts table msg hallocated
        simp only [Call.run, Program.run_bind, Program.run_pure, hrun]
        refine .request (q := .v1 msg.unique_id_hash) (by simp [Call.requester, hallocated]) ?_
        cases answer <;> simpa [Return.node_id] using hassigned
      | some source =>
        have hrun := self.run_on_allocation_v1_of_source ts table msg (some source) rfl
        simp only [Call.run, Program.run_bind, Program.run_pure, hrun]
        exact .ignored rfl (by simp [Call.requester]) rfl
    · have hrun := self.run_on_allocation_v1_of_allocated ts table msg source hallocated
      simp only [Call.run, Program.run_bind, Program.run_pure, hrun]
      exact .ignored rfl (by cases source <;> simp [Call.requester, hallocated]) rfl
  | on_allocation_v2 msg source =>
    cases source with
    | none =>
      obtain ⟨answer, t', hassigned, hrun⟩ := self.run_on_allocation_v2 ts table msg
      simp only [Call.run, Program.run_bind, Program.run_pure, hrun]
      refine .request (q := .v2 msg.unique_id) rfl ?_
      cases answer <;> simpa [Return.node_id] using hassigned
    | some source =>
      have hrun := self.run_on_allocation_v2_of_source ts table msg (some source) rfl
      simp only [Call.run, Program.run_bind, Program.run_pure, hrun]
      exact .ignored rfl rfl rfl
  | on_heartbeat node_id tested_at queued_at =>
    by_cases hqueues : self.Queues (table.record node_id ts) node_id tested_at
    · simp only [Call.run, Program.run_bind, Program.run_pure,
        self.run_on_heartbeat_of_queues ts table queued_at hqueues]
      exact .queued hqueues
    · simp only [Call.run, Program.run_bind, Program.run_pure,
        self.run_on_heartbeat_of_not_queues ts table queued_at hqueues]
      exact .noted hqueues
  | pop_get_info_request => exact .popped
  | on_get_info_result node_id uid =>
    cases uid with
    | none =>
      simp only [Call.run, Program.run_bind, Program.run_pure, PnpAllocator.run_on_get_info_result_none]
      exact .failed
    | some uid =>
      simp only [Call.run, Program.run_bind, Program.run_pure, PnpAllocator.run_on_get_info_result_some]
      exact .resolved

theorem step_on_heartbeat (s : State) (node_id : UInt16) (tested_at queued_at : Instant) (ts : String) :
    (step s ⟨.on_heartbeat node_id tested_at queued_at, ts⟩).1 = .unit := by
  simp [step, Call.run]

theorem step_on_get_info_result (s : State) (node_id : UInt16) (uid : Option UniqueId) (ts : String) :
    (step s ⟨.on_get_info_result node_id uid, ts⟩).1 = .unit := by
  simp [step, Call.run]

theorem step_pop_get_info_request (s : State) (ts : String) :
    step s ⟨.pop_get_info_request, ts⟩ =
      (.popped s.self.pop_get_info_request.1, ⟨s.self.pop_get_info_request.2, s.table⟩) := rfl

theorem assigned_of_step {s post : State} {input : Input} {output : Return} {q : Requester}
    (h : step s input = (output, post)) (hq : input.call.requester = some q) :
    Assigned s.self s.table q input.current_timestamp output.node_id post.table := by
  cases step_transition h with
  | request hq' hassigned =>
    have heq : some _ = some q := hq'.symm.trans hq
    rw [Option.some.injEq] at heq
    exact heq ▸ hassigned
  | ignored hcall hq' hanswer => exact absurd (hq'.symm.trans hq) (by simp)
  | queued hqueues => cases hq
  | noted hqueues => cases hq
  | popped => cases hq
  | resolved => cases hq
  | failed => cases hq

/-- What the operation for a requester returns when it gives a node ID. -/
def response : Requester → UInt16 → Return
  | .v1 hash, node_id => .allocation_v1 (some ⟨hash, [⟨node_id⟩]⟩)
  | .v2 uid, node_id => .allocation_v2 (some ⟨⟨node_id⟩, uid⟩)

/-- What the operation for a requester returns when it gives none. -/
def refusal : Requester → Return
  | .v1 _ => .allocation_v1 none
  | .v2 _ => .allocation_v2 none

theorem output_of_step {s post : State} {input : Input} {output : Return} {q : Requester}
    (h : step s input = (output, post)) (hq : input.call.requester = some q) :
    output = (output.node_id.map (response q)).getD (refusal q) := by
  obtain ⟨rfl, -⟩ := Prod.mk.inj h
  obtain ⟨call, ts⟩ := input
  match call, hq with
  | .on_allocation_v1 msg none, hq =>
    by_cases hallocated : msg.allocated_node_id = []
    · simp only [Call.requester, if_pos hallocated, Option.some.injEq] at hq
      subst hq
      obtain ⟨answer, t', -, hrun⟩ := s.self.run_on_allocation_v1 ts s.table msg hallocated
      simp only [Call.run, Program.run_bind, Program.run_pure, hrun]
      cases answer <;> rfl
    · simp only [Call.requester, if_neg hallocated] at hq
      cases hq
  | .on_allocation_v2 msg none, hq =>
    cases hq
    obtain ⟨answer, t', -, hrun⟩ := s.self.run_on_allocation_v2 ts s.table msg
    simp only [Call.run, Program.run_bind, Program.run_pure, hrun]
    cases answer <;> rfl

theorem response_of_step {s post : State} {input : Input} {output : Return} {q : Requester} {node_id : UInt16}
    (h : step s input = (output, post)) (hq : input.call.requester = some q)
    (hanswer : output.node_id = some node_id) : output = response q node_id := by
  have houtput := output_of_step h hq
  rwa [hanswer] at houtput

theorem refusal_of_step {s post : State} {input : Input} {output : Return} {q : Requester}
    (h : step s input = (output, post)) (hq : input.call.requester = some q)
    (hanswer : output.node_id = none) : output = refusal q := by
  have houtput := output_of_step h hq
  rwa [hanswer] at houtput

theorem connect_eq (local_node_id max_node_id : UInt16) (ts : String) (t : Table) :
    connect local_node_id max_node_id ts t =
      ⟨{ local_node_id, max_node_id, get_info_queue := [], recently_queried := ∅ },
        t.record local_node_id ts⟩ := by
  simp only [connect, PnpAllocator.run_new]

/-- A step of an allocator run, with the states on both sides. -/
abbrev History := List (machine.Step State Input Return)

/-- The step answered the requester with the node ID. -/
def Answers (st : machine.Step State Input Return) (q : Requester) (node_id : UInt16) : Prop :=
  st.input.call.requester = some q ∧ st.output.node_id = some node_id

instance (st : machine.Step State Input Return) (q : Requester) (node_id : UInt16) :
    Decidable (Answers st q node_id) :=
  inferInstanceAs (Decidable (_ ∧ _))

/-- An answer from a row that existed before is a re-use of that row. -/
theorem lookup_of_answers {s post : State} {input : Input} {output : Return}
    (h : step s input = (output, post)) {q : Requester} {node_id : UInt16}
    (hanswers : Answers ⟨s, input, output, post⟩ q node_id) {row : AllocationEntry}
    (hrow : s.table.byNode node_id = some row) : q.lookup s.table = some row := by
  have hassigned := assigned_of_step h hanswers.1
  have hanswer : output.node_id = some node_id := hanswers.2
  rw [hanswer] at hassigned
  generalize ht : post.table = t at hassigned
  cases hassigned with
  | reused hfound =>
    have hsame := Table.byNode_eq_some_iff.2 ⟨Requester.lookup_mem hfound, rfl⟩
    rw [hrow, Option.some.injEq] at hsame
    rw [hsame]
    exact hfound
  | fresh hnone hfree hnew =>
    rw [Requester.newRow_node_id] at hnew
    exact absurd (Table.mem_ids_iff.2 ⟨row, hrow⟩) hnew

/-- A step of an allocator only extends the table. -/
theorem step_extends {s post : State} {input : Input} {output : Return}
    (h : step s input = (output, post)) : s.table.Extends post.table := by
  obtain ⟨-, rfl⟩ := Prod.mk.inj h
  exact run_extends input.current_timestamp (input.call.run s.self) s.table

/-- The IDs an allocator was constructed with never change. -/
theorem config_of_step {s post : State} {input : Input} {output : Return}
    (h : step s input = (output, post)) :
    post.self.local_node_id = s.self.local_node_id ∧ post.self.max_node_id = s.self.max_node_id := by
  cases step_transition h with
  | request hq hassigned => exact ⟨rfl, rfl⟩
  | ignored hcall hq hanswer => exact ⟨rfl, rfl⟩
  | queued hqueues => exact ⟨rfl, rfl⟩
  | noted hqueues => exact ⟨rfl, rfl⟩
  | popped =>
    unfold PnpAllocator.pop_get_info_request
    split <;> exact ⟨rfl, rfl⟩
  | resolved => exact ⟨rfl, rfl⟩
  | failed => exact ⟨rfl, rfl⟩

/-- Some earlier step answered the requester with the node ID. -/
def Answered (history : History) (q : Requester) (node_id : UInt16) : Prop :=
  Occurred (Answers · q node_id) history

instance (history : History) (q : Requester) (node_id : UInt16) : Decidable (Answered history q node_id) :=
  inferInstanceAs (Decidable (Occurred (Answers · q node_id) history))

/-- An earlier `on_get_info_result(node_id, Some(uid))`. -/
def Reported (history : History) (node_id : UInt16) (uid : UniqueId) : Prop :=
  Occurred (fun st => st.input.call = .on_get_info_result node_id (some uid)) history

/-- The node whose GetInfo result a call reports. -/
def Call.reports : Call → Option UInt16
  | .on_get_info_result node_id _ => some node_id
  | _ => none

/-- The unique ID of an anonymous v2 request. -/
def Call.asks : Call → Option UniqueId
  | .on_allocation_v2 msg none => some msg.unique_id
  | _ => none

/-- The node and the unique ID of a successful GetInfo result. -/
def Call.resolves : Call → Option (UInt16 × UniqueId)
  | .on_get_info_result node_id (some uid) => some (node_id, uid)
  | _ => none

theorem Call.asks_of_requester {call : Call} {uid : UniqueId} (h : call.requester = some (.v2 uid)) :
    uid ∈ call.asks := by
  match call, h with
  | .on_allocation_v2 msg none, h =>
    simp only [Call.requester, Option.some.injEq, Requester.v2.injEq] at h
    simp [Call.asks, h]
  | .on_allocation_v1 msg none, h =>
    simp only [Call.requester] at h
    split at h <;> simp at h

/-- The node that a call returns from the GetInfo queue. -/
def Return.popped_id : Return → Option UInt16
  | .popped node_id => node_id
  | _ => none

/-- A pop hands a node ID to the worker and a report takes it back. -/
def outstandingStep (pending : List UInt16) (st : machine.Step State Input Return) : List UInt16 :=
  match st.input.call, st.output with
  | .pop_get_info_request, .popped (some node_id) => pending ++ [node_id]
  | .on_get_info_result node_id _, _ => pending.erase node_id
  | _, _ => pending

/-- The node IDs that were popped and not yet reported, oldest first. -/
def outstanding (history : History) : List UInt16 :=
  history.foldl outstandingStep []

@[simp] theorem outstanding_snoc (history : History) (st : machine.Step State Input Return) :
    outstanding (history ++ [st]) = outstandingStep (outstanding history) st := by
  simp [outstanding]

/-- The workers report a GetInfo result only for a node ID they popped and have
not reported yet. -/
def Solicited (history : History) (st : machine.Step State Input Return) : Prop :=
  ∀ node_id ∈ st.input.call.reports, node_id ∈ outstanding history

instance (history : History) (st : machine.Step State Input Return) : Decidable (Solicited history st) :=
  Option.decidableForallMem (p := (· ∈ outstanding history)) st.input.call.reports

end cyphal_service.pnp.system
