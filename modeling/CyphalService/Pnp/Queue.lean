import CyphalService.Pnp.System

open effect machine
open cyphal_service.pnp.db cyphal_service.pnp.allocator

namespace cyphal_service.pnp.system

/-- The clock readings of a call, in order. -/
def Call.readings : Call → List Instant
  | .on_heartbeat _ tested_at queued_at => [tested_at, queued_at]
  | _ => []

/-- The clock never goes back over a sequence of calls. -/
def ClockAdvances (inputs : List Input) : Prop :=
  (inputs.flatMap (·.call.readings)).Pairwise (· ≤ ·)

instance (inputs : List Input) : Decidable (ClockAdvances inputs) :=
  inferInstanceAs (Decidable (List.Pairwise _ _))

/-- Every GetInfo request the allocator has not heard the end of: queued, or
popped and not reported. -/
def waiting (history : History) (s : State) : List UInt16 :=
  s.self.get_info_queue ++ outstanding history

/-- The queue has no more entries than the table has rows, and no node waits
twice. -/
def OneRequestPerNode (before : History) (st : machine.Step State Input Return) : Prop :=
  (waiting (before ++ [st]) st.post).Nodup ∧
    st.post.self.get_info_queue.length ≤ st.post.table.rows.length

instance (before : History) (st : machine.Step State Input Return) : Decidable (OneRequestPerNode before st) :=
  inferInstanceAs (Decidable (_ ∧ _))

def lastQueuedStep (node_id : UInt16) (last : Option Instant) (st : machine.Step State Input Return) :
    Option Instant :=
  match st.input.call with
  | .on_heartbeat heard _ queued_at =>
    if heard = node_id ∧ st.post.self.get_info_queue = st.pre.self.get_info_queue ++ [node_id] then
      some queued_at
    else last
  | _ => last

/-- When the node was last put on the queue. -/
def lastQueued (history : History) (node_id : UInt16) : Option Instant :=
  history.foldl (lastQueuedStep node_id) none

/-- A heartbeat of an unresolved node whose last request still waits a whole
cooldown after it was queued. -/
def LateHeartbeat (before : History) (st : machine.Step State Input Return) : Prop :=
  ∃ node_id tested_at queued_at, st.input.call = .on_heartbeat node_id tested_at queued_at ∧
    node_id ∈ waiting before st.pre ∧
    (∃ row, (st.pre.table.record node_id st.input.current_timestamp).byNode node_id = some row ∧
      row.needs_get_info) ∧
    ∃ queried_at, lastQueued before node_id = some queried_at ∧
      queried_at + GET_INFO_RETRY_COOLDOWN ≤ tested_at

/-- While no node waits twice, the cooldown map knows when each waiting node was
queued. -/
structure QueueInv (history : History) (s : State) : Prop where
  nodup : (waiting history s).Nodup
  queried : ∀ node_id ∈ waiting history s, ∃ queried_at,
    s.self.recently_queried.lookup node_id = some queried_at ∧ lastQueued history node_id = some queried_at
  known : s.self.get_info_queue ⊆ s.table.ids

private theorem lastQueued_snoc (history : History) (st : machine.Step State Input Return) (node_id : UInt16) :
    lastQueued (history ++ [st]) node_id = lastQueuedStep node_id (lastQueued history node_id) st := by
  simp [lastQueued]

theorem QueueInv.length_le {history : History} {s : State} (hinv : QueueInv history s) :
    s.self.get_info_queue.length ≤ s.table.rows.length := by
  have hnodup : s.self.get_info_queue.Nodup := (List.nodup_append.1 hinv.nodup).1
  have hle := (hnodup.subperm hinv.known).length_le
  simpa [Table.ids] using hle

/-- A step that queues nothing keeps the bookkeeping if no request that still
waits loses its cooldown entry. -/
private theorem QueueInv.kept {before : History} {s post : State} {input : Input} {output : Return}
    (hinv : QueueInv before s) (hextends : s.table.Extends post.table)
    (hwaiting : (waiting (before ++ [⟨s, input, output, post⟩]) post).Subperm (waiting before s))
    (hqueue : post.self.get_info_queue ⊆ s.self.get_info_queue)
    (hlookup : ∀ node_id ∈ waiting (before ++ [⟨s, input, output, post⟩]) post,
      post.self.recently_queried.lookup node_id = s.self.recently_queried.lookup node_id)
    (hlast : ∀ node_id, lastQueuedStep node_id (lastQueued before node_id) ⟨s, input, output, post⟩ =
      lastQueued before node_id) :
    QueueInv (before ++ [⟨s, input, output, post⟩]) post := by
  constructor
  · obtain ⟨rest, hperm, hsub⟩ := hwaiting
    exact hperm.nodup_iff.1 (hinv.nodup.sublist hsub)
  · intro node_id hmem
    rw [hlookup node_id hmem, lastQueued_snoc, hlast]
    exact hinv.queried node_id (hwaiting.subset hmem)
  · exact List.Subset.trans hqueue (List.Subset.trans hinv.known hextends.ids_subset)

private theorem QueueInv.unchanged {before : History} {s post : State} {input : Input} {output : Return}
    (hinv : QueueInv before s) (hextends : s.table.Extends post.table) (hself : post.self = s.self)
    (hpending : outstandingStep (outstanding before) ⟨s, input, output, post⟩ = outstanding before)
    (hlast : ∀ node_id, lastQueuedStep node_id (lastQueued before node_id) ⟨s, input, output, post⟩ =
      lastQueued before node_id) :
    QueueInv (before ++ [⟨s, input, output, post⟩]) post := by
  have hwaiting : waiting (before ++ [⟨s, input, output, post⟩]) post = waiting before s := by
    simp only [waiting, outstanding_snoc, hpending, hself]
  refine hinv.kept hextends ?_ ?_ ?_ hlast
  · rw [hwaiting]
  · rw [hself]
    exact List.Subset.refl _
  · intro node_id _
    rw [hself]

private theorem QueueInv.of_allocation {before : History} {s post : State} {call : Call} {ts : String}
    {output : Return} (hinv : QueueInv before s) (hextends : s.table.Extends post.table)
    (hcall : call.isAllocation) (hself : post.self = s.self) :
    QueueInv (before ++ [⟨s, ⟨call, ts⟩, output, post⟩]) post := by
  cases call with
  | on_allocation_v1 msg source => exact hinv.unchanged hextends hself rfl fun _ => rfl
  | on_allocation_v2 msg source => exact hinv.unchanged hextends hself rfl fun _ => rfl
  | on_heartbeat node_id tested_at queued_at => cases hcall
  | pop_get_info_request => cases hcall
  | on_get_info_result node_id uid => cases hcall

private theorem queueInv_queued {before : History} {s : State} {node_id : UInt16} {tested_at queued_at : Instant}
    {ts : String} (hinv : QueueInv before s) (hqueues : s.self.Queues (s.table.record node_id ts) node_id tested_at)
    (hlate : ¬ LateHeartbeat before ⟨s, ⟨.on_heartbeat node_id tested_at queued_at, ts⟩, .unit,
      ⟨s.self.enqueue node_id queued_at, s.table.record node_id ts⟩⟩) :
    QueueInv (before ++ [⟨s, ⟨.on_heartbeat node_id tested_at queued_at, ts⟩, .unit,
      ⟨s.self.enqueue node_id queued_at, s.table.record node_id ts⟩⟩])
      ⟨s.self.enqueue node_id queued_at, s.table.record node_id ts⟩ := by
  have hnew : node_id ∉ waiting before s := by
    intro hmem
    obtain ⟨queried_at, hlookup, hlast⟩ := hinv.queried node_id hmem
    have helapsed := cooldown_le_elapsed.1 (hqueues.2 queried_at hlookup)
    exact hlate ⟨node_id, tested_at, queued_at, rfl, hmem, hqueues.1, queried_at, hlast, helapsed⟩
  have hwaiting : waiting (before ++ [⟨s, ⟨.on_heartbeat node_id tested_at queued_at, ts⟩, .unit,
      ⟨s.self.enqueue node_id queued_at, s.table.record node_id ts⟩⟩])
      ⟨s.self.enqueue node_id queued_at, s.table.record node_id ts⟩ =
        s.self.get_info_queue ++ node_id :: outstanding before := by
    simp [waiting, outstandingStep, PnpAllocator.enqueue]
  constructor
  · rw [hwaiting]
    exact (List.perm_middle.nodup_iff).2 (List.nodup_cons.2 ⟨hnew, hinv.nodup⟩)
  · intro other hmem
    rw [lastQueued_snoc]
    by_cases hid : other = node_id
    · subst hid
      exact ⟨queued_at, by simp [PnpAllocator.enqueue], by simp [lastQueuedStep, PnpAllocator.enqueue]⟩
    · have hold : other ∈ waiting before s := by
        rw [hwaiting] at hmem
        simpa [waiting, hid] using hmem
      obtain ⟨queried_at, hlookup, hlast⟩ := hinv.queried other hold
      refine ⟨queried_at, ?_, by simpa [lastQueuedStep, Ne.symm hid] using hlast⟩
      simpa [PnpAllocator.enqueue, AList.lookup_insert_ne hid] using hlookup
  · have hextends : s.table.Extends (s.table.record node_id ts) := record_extends s.table node_id ts
    intro other hmem
    simp only [PnpAllocator.enqueue, List.mem_append, List.mem_singleton] at hmem
    obtain hold | rfl := hmem
    · exact hextends.ids_subset (hinv.known hold)
    · obtain ⟨⟨row, hrow, -⟩, -⟩ := hqueues
      exact Table.mem_ids_iff.2 ⟨row, hrow⟩

/-- Without late heartbeats the bookkeeping survives every solicited step. -/
theorem QueueInv.step {before : History} {s post : State} {input : Input} {output : Return}
    (h : system.step s input = (output, post)) (hinv : QueueInv before s)
    (hsolicited : Solicited before ⟨s, input, output, post⟩)
    (hlate : ¬ LateHeartbeat before ⟨s, input, output, post⟩) :
    QueueInv (before ++ [⟨s, input, output, post⟩]) post := by
  have hextends := step_extends h
  cases step_transition h with
  | request hq hassigned => exact hinv.of_allocation hextends (Call.isAllocation_of_requester hq) rfl
  | ignored hcall hq hanswer => exact hinv.of_allocation hextends hcall rfl
  | queued hqueues => exact queueInv_queued hinv hqueues hlate
  | noted hqueues =>
    refine hinv.unchanged hextends rfl rfl fun _ => ?_
    simp [lastQueuedStep]
  | popped =>
    obtain ⟨⟨local_node_id, max_node_id, queue, queried⟩, table⟩ := s
    cases queue with
    | nil => exact hinv.unchanged hextends rfl rfl fun _ => rfl
    | cons node_id rest =>
      refine hinv.kept hextends ?_ (List.subset_cons_self ..) (fun _ _ => rfl) fun _ => rfl
      have hmove := List.perm_append_singleton node_id (rest ++ outstanding before)
      simpa [waiting, outstandingStep, PnpAllocator.pop_get_info_request] using hmove.subperm
  | @resolved node_id uid ts =>
    refine hinv.kept hextends ?_ (List.Subset.refl _) (fun _ _ => rfl) fun _ => rfl
    have hsub := (List.erase_sublist (a := node_id) (l := outstanding before)).append_left s.self.get_info_queue
    simpa [waiting, outstandingStep] using hsub.subperm
  | @failed node_id ts =>
    have hsub := (List.erase_sublist (a := node_id) (l := outstanding before)).append_left s.self.get_info_queue
    refine hinv.kept hextends ?_ (List.Subset.refl _) ?_ fun _ => rfl
    · simpa [waiting, outstandingStep] using hsub.subperm
    · intro other hmem
      have hmem' : other ∈ s.self.get_info_queue ++ (outstanding before).erase node_id := by
        simpa [waiting, outstandingStep] using hmem
      obtain ⟨-, hpending, hdisjoint⟩ := List.nodup_append.1 hinv.nodup
      have hne : other ≠ node_id := by
        rintro rfl
        obtain hqueue | herased := List.mem_append.1 hmem'
        · exact hdisjoint other hqueue other (hsolicited other rfl) rfl
        · exact hpending.not_mem_erase herased
      exact AList.lookup_erase_ne hne

/-- A late heartbeat queues its node a second time. -/
private theorem not_nodup_of_late {before : History} {s post : State} {input : Input} {output : Return}
    (h : step s input = (output, post)) (hinv : QueueInv before s)
    (hlate : LateHeartbeat before ⟨s, input, output, post⟩) :
    ¬ (waiting (before ++ [⟨s, input, output, post⟩]) post).Nodup := by
  obtain ⟨node_id, tested_at, queued_at, hcall, hmem, hneeds, queried_at, hlast, hcooldown⟩ := hlate
  obtain ⟨call, ts⟩ := input
  simp only at hcall hneeds
  subst hcall
  have hqueues : s.self.Queues (s.table.record node_id ts) node_id tested_at := by
    refine ⟨hneeds, ?_⟩
    intro other hother
    obtain ⟨queried, hlookup, hlast'⟩ := hinv.queried node_id hmem
    rw [hlast, Option.some.injEq] at hlast'
    rw [hlookup, ← hlast', Option.some.injEq] at hother
    rw [← hother]
    exact cooldown_le_elapsed.2 hcooldown
  cases step_transition h with
  | queued _ =>
    intro hnodup
    have hwaiting : (s.self.get_info_queue ++ node_id :: outstanding before).Nodup := by
      simpa [waiting, outstandingStep, PnpAllocator.enqueue] using hnodup
    exact (List.nodup_cons.1 (List.perm_middle.nodup_iff.1 hwaiting)).1 hmem
  | noted hnot => exact absurd hqueues hnot
  | request hq hassigned => cases hq
  | ignored hallocation hq hanswer => cases hallocation

/-- No node ID is queued or in flight twice, and the queue is no longer than the
table, in exactly those runs in which no unresolved node is heard 60 s or more
after it was last queued while that request still waits. -/
theorem one_request_per_node_iff (local_node_id max_node_id : UInt16) (ts : String) (t : Table)
    (inputs : List Input)
    (hsolicited : Everywhere Solicited (trace step (connect local_node_id max_node_id ts t) inputs)) :
    Everywhere OneRequestPerNode (trace step (connect local_node_id max_node_id ts t) inputs) ↔
      Everywhere (fun before st => ¬ LateHeartbeat before st)
        (trace step (connect local_node_id max_node_id ts t) inputs) := by
  refine everywhere_iff_of_admissible QueueInv ?_ ?_ inputs hsolicited
  · rw [connect_eq]
    constructor
    · exact List.nodup_nil
    · intro node_id hmem
      cases hmem
    · exact List.nil_subset _
  · intro before pre input output post h hinv hstep
    refine ⟨⟨fun hone hlate => ?_, fun hlate => ?_⟩, hinv.step h hstep⟩
    · exact not_nodup_of_late h hinv hlate hone.1
    · have hafter := hinv.step h hstep hlate
      exact ⟨hafter.nodup, hafter.length_le⟩

theorem one_request_per_node_drained :
    Everywhere OneRequestPerNode (trace step (connect 100 127 "" Table.empty)
        [⟨.on_heartbeat 5 0 0, ""⟩, ⟨.pop_get_info_request, ""⟩, ⟨.on_get_info_result 5 none, ""⟩,
          ⟨.on_heartbeat 5 70000000000 70000000000, ""⟩]) ↔
      Everywhere (fun before st => ¬ LateHeartbeat before st)
        (trace step (connect 100 127 "" Table.empty)
          [⟨.on_heartbeat 5 0 0, ""⟩, ⟨.pop_get_info_request, ""⟩, ⟨.on_get_info_result 5 none, ""⟩,
            ⟨.on_heartbeat 5 70000000000 70000000000, ""⟩]) :=
  one_request_per_node_iff 100 127 "" Table.empty _ (by decide)

/-- A node that is heard again after the cooldown while the queue was not
drained stands in it twice. -/
theorem one_request_per_node_fails :
    ¬ ∀ (local_node_id max_node_id : UInt16) (ts : String) (t : Table) (inputs : List Input),
      ClockAdvances inputs →
      Everywhere Solicited (trace step (connect local_node_id max_node_id ts t) inputs) →
      Everywhere OneRequestPerNode (trace step (connect local_node_id max_node_id ts t) inputs) := by
  intro hall
  have hrun := hall 100 127 "" Table.empty
    [⟨.on_heartbeat 5 0 0, ""⟩, ⟨.on_heartbeat 5 60000000000 60000000000, ""⟩] (by decide) (by decide)
  exact absurd hrun (by decide)

end cyphal_service.pnp.system
