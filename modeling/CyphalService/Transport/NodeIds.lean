import CyphalService.Transport.Managed
import CyphalService.Transport.Reception

open effect machine
open cyphal_service.pnp
open cyphal_service.pnp.db cyphal_service.pnp.allocator

namespace cyphal_service.pnp.system

/-- Every node ID in the table and on the GetInfo queue is at most the maximum
the allocator was constructed with. -/
structure ValidIds (max_node_id : UInt16) (s : State) : Prop where
  config : s.self.max_node_id = max_node_id
  table : ∀ node_id ∈ s.table.ids, node_id ≤ max_node_id
  queue : ∀ node_id ∈ s.self.get_info_queue, node_id ≤ max_node_id

private theorem ids_record_le {t : Table} {node_id max_node_id : UInt16} {ts : String}
    (htable : ∀ other ∈ t.ids, other ≤ max_node_id) (hid : node_id ≤ max_node_id) :
    ∀ other ∈ (t.record node_id ts).ids, other ≤ max_node_id := by
  intro other hmem
  by_cases hknown : node_id ∈ t.ids
  · rw [Table.record_of_mem hknown] at hmem
    exact htable other hmem
  · rw [Table.record_of_not_mem hknown, Table.ids_push, List.mem_append, List.mem_singleton] at hmem
    obtain hold | rfl := hmem
    · exact htable other hold
    · exact hid

theorem ValidIds.connect {local_node_id max_node_id : UInt16} {ts : String} {t : Table}
    (htable : ∀ node_id ∈ t.ids, node_id ≤ max_node_id) (hlocal : local_node_id ≤ max_node_id) :
    ValidIds max_node_id (connect local_node_id max_node_id ts t) := by
  rw [connect_eq]
  constructor
  · rfl
  · exact ids_record_le htable hlocal
  · intro node_id hmem
    cases hmem

/-- A call keeps the node IDs valid unless it is a heartbeat of an invalid one. -/
theorem ValidIds.step {max_node_id : UInt16} {s post : State} {input : Input} {output : Return}
    (h : system.step s input = (output, post)) (hvalid : ValidIds max_node_id s)
    (hheard : ∀ node_id tested_at queued_at, input.call = .on_heartbeat node_id tested_at queued_at →
      node_id ≤ max_node_id) : ValidIds max_node_id post := by
  obtain ⟨hconfig, htable, hqueue⟩ := hvalid
  cases step_transition h with
  | request hq hassigned =>
    generalize output.node_id = answer at hassigned
    cases hassigned with
    | reused hrow => exact ⟨hconfig, htable, hqueue⟩
    | exhausted hnone hfull => exact ⟨hconfig, htable, hqueue⟩
    | fresh hnone hfree hnew =>
      refine ⟨hconfig, fun other hmem => ?_, hqueue⟩
      rw [Table.ids_push, Requester.newRow_node_id, List.mem_append, List.mem_singleton] at hmem
      obtain hold | rfl := hmem
      · exact htable other hold
      · rw [← hconfig]
        exact (Table.firstFree_some hfree).1.2
  | ignored hcall hq hanswer => exact ⟨hconfig, htable, hqueue⟩
  | @queued node_id tested_at queued_at ts hqueues =>
    have hid := hheard node_id tested_at queued_at rfl
    refine ⟨hconfig, ids_record_le htable hid, fun other hmem => ?_⟩
    obtain hold | hnew := List.mem_append.1 hmem
    · exact hqueue other hold
    · rw [List.mem_singleton.1 hnew]
      exact hid
  | @noted node_id tested_at queued_at ts hqueues =>
    exact ⟨hconfig, ids_record_le htable (hheard node_id tested_at queued_at rfl), hqueue⟩
  | popped =>
    unfold PnpAllocator.pop_get_info_request
    split
    case h_1 hempty => exact ⟨hconfig, htable, hqueue⟩
    case h_2 node_id rest hfront =>
      refine ⟨hconfig, htable, fun other hmem => hqueue other ?_⟩
      rw [hfront]
      exact List.mem_cons_of_mem _ hmem
  | resolved =>
    refine ⟨hconfig, ?_, hqueue⟩
    rwa [Table.ids_setHex]
  | failed => exact ⟨hconfig, htable, hqueue⟩

end cyphal_service.pnp.system

namespace cyphal_service.transport

/-- Every node ID that the worker stores is valid: in the allocation table, in
the node list, among the recent heartbeat sources and on the GetInfo queue. -/
structure ValidNodeIds (max_node_id : UInt16) (worker : Worker) : Prop where
  table : ∀ pnp ∈ worker.pnp_allocator, ∀ node_id ∈ pnp.table.ids, node_id ≤ max_node_id
  observed : ∀ node_id ∈ worker.state.observed_nodes, node_id ≤ max_node_id
  sources : ∀ node_id ∈ worker.state.recent_heartbeat_sources, node_id ≤ max_node_id
  queue : ∀ pnp ∈ worker.pnp_allocator, ∀ node_id ∈ pnp.self.get_info_queue, node_id ≤ max_node_id

/-- The library delivers a message from nobody or from a node ID of the
transport. -/
def Event.FromValidNode (setup : Setup) (event : Event) : Prop :=
  ∀ transfer now, event = .message transfer now →
    ∀ source ∈ transfer.source, source ≤ setup.kind.max_node_id

/-- A heartbeat that can be decoded and carries no node ID. -/
def AnonymousHeartbeat (setup : Setup) (st : machine.Step Worker Event (List Effect)) : Prop :=
  ∃ transfer now, st.input = .message transfer now ∧ transfer.source = none ∧ setup.heartbeat transfer ≠ none

/-- The valid node IDs of the received traffic. -/
def Reception.Valid (max_node_id : UInt16) (self : Reception) : Prop :=
  (∀ node_id ∈ self.observed_nodes, node_id ≤ max_node_id) ∧
    ∀ node_id ∈ self.recent_heartbeat_sources, node_id ≤ max_node_id

theorem WorkerState.trim_subset (sources : List UInt16) : trim sources ⊆ sources := by
  induction sources with
  | nil => exact List.Subset.refl _
  | cons source rest ih =>
    rw [trim]
    split
    · exact List.subset_cons_of_subset source ih
    · exact List.Subset.refl _

private theorem registered_valid {state : WorkerState} {node_id max_node_id : UInt16}
    (hvalid : ∀ other ∈ state.observed_nodes, other ≤ max_node_id) (hid : node_id ≤ max_node_id) :
    ∀ other ∈ (state.register_local_node node_id).observed_nodes, other ≤ max_node_id := by
  unfold WorkerState.register_local_node
  split
  · exact hvalid
  · intro other hmem
    obtain rfl | hold := (AList.mem_insert _).1 hmem
    · exact hid
    · exact hvalid other hold

private theorem ticked_valid {state : WorkerState} {node_id max_node_id : UInt16}
    (hvalid : ∀ other ∈ state.observed_nodes, other ≤ max_node_id) (hid : node_id ≤ max_node_id) :
    ∀ other ∈ (state.tick_local_node node_id).observed_nodes, other ≤ max_node_id := by
  have hregistered := registered_valid hvalid hid
  unfold WorkerState.tick_local_node
  cases hnode : (state.register_local_node node_id).observed_nodes.lookup node_id with
  | none => simpa only [hnode] using hregistered
  | some node =>
    simp only [hnode]
    intro other hmem
    obtain rfl | hold := (AList.mem_insert _).1 hmem
    · exact hid
    · exact hregistered other hold

/-- The worker has an allocator for its transport, and all it stores is valid. -/
structure NodeIdsInv (max_node_id : UInt16) (worker : Worker) : Prop where
  allocator : ∃ pnp, worker.pnp_allocator = some pnp ∧ system.ValidIds max_node_id pnp
  reception : worker.reception.Valid max_node_id

theorem NodeIdsInv.valid {max_node_id : UInt16} {self : Worker} (hinv : NodeIdsInv max_node_id self) :
    ValidNodeIds max_node_id self := by
  obtain ⟨pnp, hpnp, hvalid⟩ := hinv.allocator
  constructor
  · intro other hother
    obtain rfl := Option.some.inj (hpnp.symm.trans hother)
    exact hvalid.table
  · exact hinv.reception.1
  · exact hinv.reception.2
  · intro other hother
    obtain rfl := Option.some.inj (hpnp.symm.trans hother)
    exact hvalid.queue

theorem NodeIdsInv.init {setup : Setup} {table : Table} (ts : String) (now : Instant)
    (hlocal : setup.local_node_id ≤ setup.kind.max_node_id)
    (htable : ∀ node_id ∈ table.ids, node_id ≤ setup.kind.max_node_id) :
    NodeIdsInv setup.kind.max_node_id (Worker.start setup (some (table, ts)) now) := by
  constructor
  · exact ⟨_, Worker.start_pnp_allocator setup table ts now, .connect htable hlocal⟩
  · constructor
    · refine registered_valid (fun other hmem => ?_) hlocal
      exact absurd hmem (AList.notMem_empty other)
    · intro other hmem
      rw [Worker.reception, Worker.start, WorkerState.register_local_node_reception] at hmem
      cases hmem

/-- The allocator is told only valid node IDs, unless a heartbeat is anonymous. -/
private theorem allocator_step {setup : Setup} {pre post : Worker} {event : Event} {effects : List Effect}
    (h : step setup pre event = (effects, post)) (hvalid : event.FromValidNode setup)
    (hanonymous : ¬ AnonymousHeartbeat setup ⟨pre, event, effects, post⟩)
    (hpre : ∃ pnp, pre.pnp_allocator = some pnp ∧ system.ValidIds setup.kind.max_node_id pnp) :
    ∃ pnp, post.pnp_allocator = some pnp ∧ system.ValidIds setup.kind.max_node_id pnp := by
  obtain ⟨pnp, hpnp, hids⟩ := hpre
  obtain ⟨pnp', hpnp', hmanaged⟩ := managed_of_step h hpnp
  refine ⟨pnp', hpnp', ?_⟩
  generalize calls effects = called at hmanaged
  generalize post.state.pnp_pending_get_info = pending at hmanaged
  cases hmanaged with
  | idle => exact hids
  | @called transfer now c output post' hcall hstep =>
    refine hids.step hstep fun node_id tested_at queued_at hheard => ?_
    rcases Setup.message_call_cases hcall with
      ⟨hb, hsubject, hdecoded, hc⟩ | ⟨msg, -, -, hc⟩ | ⟨msg, -, -, hc⟩
    · rw [hc] at hheard
      cases hheard
      cases hsource : transfer.source with
      | none =>
        refine absurd ⟨transfer, now, rfl, hsource, ?_⟩ hanonymous
        simp [Setup.heartbeat, hsubject, hdecoded]
      | some source => exact hvalid transfer now rfl source hsource
    · rw [hc] at hheard
      cases hheard
    · rw [hc] at hheard
      cases hheard
  | unpopped hpending hpop => exact hids.step hpop fun _ _ _ hheard => by cases hheard
  | sent hpending hpop => exact hids.step hpop fun _ _ _ hheard => by cases hheard
  | unsent hpending hpop hreport =>
    have hpopped := hids.step hpop fun _ _ _ hheard => by cases hheard
    exact hpopped.step hreport fun _ _ _ hheard => by cases hheard
  | expired hpending hreport => exact hids.step hreport fun _ _ _ hheard => by cases hheard
  | resolved hpending hservice hsource huid hreport =>
    exact hids.step hreport fun _ _ _ hheard => by cases hheard

private theorem reception_step {setup : Setup} {pre post : Worker} {event : Event} {effects : List Effect}
    (h : step setup pre event = (effects, post)) (hlocal : setup.local_node_id ≤ setup.kind.max_node_id)
    (hvalid : event.FromValidNode setup) (hanonymous : ¬ AnonymousHeartbeat setup ⟨pre, event, effects, post⟩)
    (hpre : pre.reception.Valid setup.kind.max_node_id) : post.reception.Valid setup.kind.max_node_id := by
  have hreceives := receives_of_step h
  generalize post.reception = received at hreceives
  cases hreceives with
  | idle hmessage hresponse => exact hpre
  | ticked => exact ⟨ticked_valid hpre.1 hlocal, hpre.2⟩
  | @heartbeat transfer now hb hmessage =>
    have hid : transfer.source.getD 0xFFFF ≤ setup.kind.max_node_id := by
      cases hsource : transfer.source with
      | none => exact absurd ⟨transfer, now, rfl, hsource, by simp [hmessage]⟩ hanonymous
      | some source => exact hvalid transfer now rfl source hsource
    constructor
    · intro other hmem
      obtain rfl | hold := (AList.mem_insert _).1 hmem
      · exact hid
      · exact hpre.1 other hold
    · intro other hmem
      obtain hold | hnew := List.mem_append.1 (WorkerState.trim_subset _ hmem)
      · exact hpre.2 other hold
      · rw [List.mem_singleton.1 hnew]
        exact hid
  | response hresponse hmatched => exact hpre

/-- An anonymous heartbeat makes node 65535 an observed node. -/
private theorem observed_of_anonymous {setup : Setup} {pre post : Worker} {event : Event} {effects : List Effect}
    (h : step setup pre event = (effects, post))
    (hanonymous : AnonymousHeartbeat setup ⟨pre, event, effects, post⟩) :
    0xFFFF ∈ post.state.observed_nodes := by
  obtain ⟨transfer, now, rfl, hsource, hdecoded⟩ := hanonymous
  have hreceives := receives_of_step h
  have hobserved : post.state.observed_nodes = post.reception.observed_nodes := rfl
  rw [hobserved]
  generalize post.reception = received at hreceives
  cases hreceives with
  | idle hmessage hresponse => exact absurd (hmessage transfer now rfl) hdecoded
  | heartbeat hmessage =>
    rw [hsource]
    exact (AList.mem_insert _).2 (.inl rfl)

theorem max_node_id_lt {ids : NodeIds} {kind : Transport}
    (hkind : kind ∈ [can_gsusb ids, can_socketcan ids, udp ids, serial ids]) : kind.max_node_id < 0xFFFF := by
  simp only [List.mem_cons, List.not_mem_nil, or_false] at hkind
  have hcan : (127 : UInt16) < 0xFFFF := by decide
  have haddressed : (65534 : UInt16) < 0xFFFF := by decide
  obtain rfl | rfl | rfl | rfl := hkind
  · exact hcan
  · exact hcan
  · exact haddressed
  · exact haddressed

/-- Only valid node IDs are in a worker's state when it starts, and only valid
ones enter it in exactly those runs in which no heartbeat without a source is
received. -/
theorem valid_node_ids_iff (ids : NodeIds) (setup : Setup)
    (hkind : setup.kind ∈ [can_gsusb ids, can_socketcan ids, udp ids, serial ids])
    (hlocal : setup.local_node_id ≤ setup.kind.max_node_id) (table : Table) (ts : String) (now : Instant)
    (htable : ∀ node_id ∈ table.ids, node_id ≤ setup.kind.max_node_id) (events : List Event)
    (hevents : ∀ event ∈ events, event.FromValidNode setup) :
    ValidNodeIds setup.kind.max_node_id (Worker.start setup (some (table, ts)) now) ∧
      (Everywhere (fun _ st => ValidNodeIds setup.kind.max_node_id st.post)
          (trace (step setup) (Worker.start setup (some (table, ts)) now) events) ↔
        Everywhere (fun _ st => ¬ AnonymousHeartbeat setup st)
          (trace (step setup) (Worker.start setup (some (table, ts)) now) events)) := by
  have hinit := NodeIdsInv.init ts now hlocal htable
  refine ⟨hinit.valid, ?_⟩
  refine everywhere_iff_of_admissible (fun _ self => NodeIdsInv setup.kind.max_node_id self) hinit ?_ events
    (everywhere_input hevents)
  intro before pre event effects post h hinv hvalid
  have hafter : ¬ AnonymousHeartbeat setup ⟨pre, event, effects, post⟩ →
      NodeIdsInv setup.kind.max_node_id post := fun hanonymous =>
    ⟨allocator_step h hvalid hanonymous hinv.allocator, reception_step h hlocal hvalid hanonymous hinv.reception⟩
  refine ⟨⟨fun hids hanonymous => ?_, fun hanonymous => (hafter hanonymous).valid⟩, hafter⟩
  have hle := hids.observed 0xFFFF (observed_of_anonymous h hanonymous)
  exact UInt16.not_le.2 (max_node_id_lt hkind) hle

theorem valid_node_ids_heard :
    ValidNodeIds 65534 (Worker.start beating_udp (some (Table.empty, "")) 0) ∧
      (Everywhere (fun _ st => ValidNodeIds 65534 st.post)
          (trace (step beating_udp) (Worker.start beating_udp (some (Table.empty, "")) 0)
            [.message ⟨HEARTBEAT_SUBJECT, some 5, []⟩ ⟨0, 0, 0, ""⟩]) ↔
        Everywhere (fun _ st => ¬ AnonymousHeartbeat beating_udp st)
          (trace (step beating_udp) (Worker.start beating_udp (some (Table.empty, "")) 0)
            [.message ⟨HEARTBEAT_SUBJECT, some 5, []⟩ ⟨0, 0, 0, ""⟩])) := by
  refine valid_node_ids_iff ⟨fun _ => true, fun _ => true, fun _ => true⟩ beating_udp ?_ ?_ Table.empty "" 0 ?_ _ ?_
  · simp [beating_udp]
  · decide
  · intro node_id hmem
    cases hmem
  · intro event hmem transfer now heq source hsource
    rw [List.mem_singleton.1 hmem] at heq
    cases heq
    cases hsource
    decide

/-- A heartbeat without a source on UDP puts node ID 65535 into the table. -/
theorem valid_node_ids_fails :
    ¬ ∀ (ids : NodeIds) (setup : Setup) (now : Instant) (events : List Event),
      setup.kind ∈ [can_gsusb ids, can_socketcan ids, udp ids, serial ids] →
      setup.local_node_id ≤ setup.kind.max_node_id → (∀ event ∈ events, event.FromValidNode setup) →
      Everywhere (fun _ st => ValidNodeIds setup.kind.max_node_id st.post)
        (trace (step setup) (Worker.start setup (some (Table.empty, "")) now) events) := by
  intro hall
  have hrun := hall ⟨fun _ => true, fun _ => true, fun _ => true⟩ beating_udp 0
    [.message ⟨HEARTBEAT_SUBJECT, none, []⟩ ⟨0, 0, 0, ""⟩] (by simp [beating_udp]) (by decide) ?_
  · have hlast := everywhere_iff.1 hrun [] _ [] rfl
    exact absurd (hlast.table _ rfl 0xFFFF (by decide)) (by decide)
  · intro event hmem transfer now heq source hsource
    rw [List.mem_singleton.1 hmem] at heq
    cases heq
    cases hsource

end cyphal_service.transport
