import CyphalService.Transport.Calls

open effect machine
open cyphal_service.pnp
open cyphal_service.pnp.db cyphal_service.pnp.allocator

namespace cyphal_service.transport

/-- `TransportHandle::list_nodes`, from whether the command could be sent and what
came over the reply channel before the timeout. -/
def TransportHandle.list_nodes (local_node_id : Option UInt16) (sent : Bool) (received : Option (List NodeEntry)) :
    List NodeEntry :=
  if sent then
    let nodes := received.getD []
    match local_node_id with
    | some local_node_id =>
      if nodes.any (·.node_id = local_node_id) then nodes else nodes ++ [⟨local_node_id, 0, 0, 0⟩]
    | none => nodes
  else []

/-- `TransportHandle::diagnostics`. -/
def TransportHandle.diagnostics (local_node_id : Option UInt16) (sent : Bool)
    (received : Option TransportDiagnostics) : Except String TransportDiagnostics :=
  if sent then
    match received with
    | some diagnostics =>
      .ok (if diagnostics.local_node_id.isNone then { diagnostics with local_node_id } else diagnostics)
    | none => .error "timed out waiting for diagnostics"
  else .error "transport worker has stopped"

/-- What a step tells the node list. -/
def node_event (setup : Setup) (st : ServiceStep) : Option NodeEvent :=
  match st.input with
  | .work event => event.node_event setup st.pre.worker
  | _ => none

/-- What the steps of a run tell the node list, in order. -/
def node_events (setup : Setup) (run : List ServiceStep) : List NodeEvent :=
  run.filterMap (node_event setup)

namespace NodeEvent

/-- When an event was heard. -/
def heard_at : NodeEvent → Option Instant
  | .heartbeat _ _ now => some now
  | .tick => none

/-- An event looks at no more of the worker state than what was heard. -/
theorem apply_hearing {local_node_id : UInt16} {state other : WorkerState} (event : NodeEvent)
    (h : state.hearing = other.hearing) :
    (event.apply local_node_id state).hearing = (event.apply local_node_id other).hearing := by
  obtain ⟨hnodes, hrecent, hcount, hat⟩ := Hearing.mk.inj h
  cases event with
  | heartbeat node_id hb now =>
    simp only [apply, WorkerState.on_heartbeat, WorkerState.hearing, hnodes, hrecent, hcount]
  | tick =>
    have hregistered : (state.register_local_node local_node_id).hearing =
        (other.register_local_node local_node_id).hearing := by
      simp only [WorkerState.register_local_node, hnodes]
      split
      · exact h
      · simp only [WorkerState.hearing, hrecent, hcount, hat]
    obtain ⟨hnodes, hrecent, hcount, hat⟩ := Hearing.mk.inj hregistered
    simp only [apply, WorkerState.tick_local_node, hnodes]
    cases (other.register_local_node local_node_id).observed_nodes.lookup local_node_id with
    | none => exact hregistered
    | some node => simp only [WorkerState.hearing, hrecent, hcount, hat]

end NodeEvent

theorem WorkerState.register_local_node_hearing (state : WorkerState) (node_id : UInt16) :
    (state.register_local_node node_id).hearing =
      { state.hearing with observed_nodes := (state.register_local_node node_id).observed_nodes } := by
  unfold WorkerState.register_local_node
  split
  · rfl
  · rfl

theorem WorkerState.tick_local_node_hearing (state : WorkerState) (node_id : UInt16) :
    (state.tick_local_node node_id).hearing =
      { state.hearing with observed_nodes := (state.tick_local_node node_id).observed_nodes } := by
  have hregister := state.register_local_node_hearing node_id
  unfold WorkerState.tick_local_node
  cases hnode : (state.register_local_node node_id).observed_nodes.lookup node_id with
  | none =>
    simp only [hnode]
    exact hregister
  | some node =>
    obtain ⟨-, hrecent, hcount, hat⟩ := Hearing.mk.inj hregister
    simp only [hnode, WorkerState.hearing, Hearing.mk.injEq, true_and]
    exact ⟨hrecent, hcount, hat⟩

theorem observe_snoc (local_node_id : UInt16) (events : List NodeEvent) (event : NodeEvent) :
    observe local_node_id (events ++ [event]) = event.apply local_node_id (observe local_node_id events) := by
  rw [observe, List.foldl_append]
  rfl

/-- The count of the heartbeats, as far as it goes, and the time of the latest. -/
theorem observe_counts (local_node_id : UInt16) (events : List NodeEvent) :
    (observe local_node_id events).heartbeat_messages_received.toNat =
        min (heartbeat_sources events).length (UInt64.size - 1) ∧
      (observe local_node_id events).last_heartbeat_at = latest (·.heard_at) events := by
  induction events using List.reverseRecOn with
  | nil =>
    obtain ⟨-, -, hcount, hat⟩ := Hearing.mk.inj
      (WorkerState.default.register_local_node_hearing local_node_id)
    exact ⟨congrArg UInt64.toNat hcount, hat⟩
  | append_singleton events event ih =>
    obtain ⟨hcount, hat⟩ := ih
    rw [observe_snoc, latest_snoc, heartbeat_sources, List.filterMap_append, List.length_append]
    cases event with
    | heartbeat node_id hb now =>
      refine ⟨?_, rfl⟩
      have hone : (1 : UInt64).toNat = 1 := rfl
      have hsource : ([NodeEvent.heartbeat node_id hb now].filterMap (·.source)).length = 1 := rfl
      rw [heartbeat_sources] at hcount
      simp only [NodeEvent.apply, WorkerState.on_heartbeat, u64.toNat_saturating_add, hcount, hone, hsource]
      omega
    | tick =>
      obtain ⟨-, -, hcount', hat'⟩ := Hearing.mk.inj
        ((observe local_node_id events).tick_local_node_hearing local_node_id)
      exact ⟨(congrArg UInt64.toNat hcount').trans hcount, hat'.trans hat⟩

/-- What a diagnostics snapshot made at `read` says about heartbeats: the nodes heard
with the local one, the latest sources, the count as far as it goes and the time
since the latest. -/
structure Reports (local_node_id : UInt16) (events : List NodeEvent) (read : Instant)
    (diagnostics : TransportDiagnostics) : Prop where
  observed : diagnostics.observed_node_count = (local_node_id :: heartbeat_sources events).dedup.length
  recent : diagnostics.recent_heartbeat_sources = (heartbeat_sources events).rtake 8
  heartbeats : diagnostics.heartbeat_messages_received.toNat =
    min (heartbeat_sources events).length (UInt64.size - 1)
  age : diagnostics.last_heartbeat_age = (latest (·.heard_at) events).map (elapsed · read)
  own : diagnostics.local_node_id = some local_node_id

section Step

variable {setup : Setup} {before : List ServiceStep} {pre post : Service} {action : Action} {effects : List Effect}

theorem heard_of_command (cmd : TransportCommand) (sent : SendOutcome) (now : Readings) (self : Worker) :
    ((Worker.handle_command setup cmd sent now).run self).state.state.hearing = self.state.hearing := by
  obtain ⟨request, reply, rfl⟩ := cmd.exists_request
  cases hlisting : self.listing setup now request with
  | some message => rw [Worker.run_handle_command_of_listing hlisting]
  | none =>
    cases request with
    | get_info node_id => exact (Worker.unhearing_get_info setup node_id reply sent now self).1
    | list_nodes => cases hlisting
    | diagnostics => cases hlisting
    | list_allocations => cases hlisting

/-- A step hears what it tells the node list and nothing else. -/
theorem Service.step_hearing (h : Service.step setup pre action = (effects, post)) :
    post.worker.state.hearing = ((node_event setup ⟨pre, action, effects, post⟩).elim pre.worker.state
      (NodeEvent.apply setup.local_node_id pre.worker.state)).hearing := by
  cases action with
  | send request =>
    rw [Service.step] at h
    split at h
    · obtain ⟨-, rfl⟩ := Prod.mk.inj h
      rfl
    · obtain ⟨-, rfl⟩ := Prod.mk.inj h
      rfl
  | try_recv sent now =>
    rw [Service.step] at h
    split at h
    · obtain ⟨-, rfl⟩ := Prod.mk.inj h
      rfl
    · obtain ⟨-, rfl⟩ := Prod.mk.inj h
      exact heard_of_command _ sent now pre.worker
  | work event =>
    rw [Service.step] at h
    split at h
    · next hcommand =>
      obtain ⟨-, rfl⟩ := Prod.mk.inj h
      cases event with
      | command cmd sent now => rfl
      | _ => cases hcommand
    · next hcommand =>
      obtain ⟨-, rfl⟩ := Prod.mk.inj h
      exact heard_of_perform setup pre.worker (Bool.eq_false_iff.2 hcommand)

/-- The worker has heard what the node events of the run say. -/
def Heard (setup : Setup) (before : List ServiceStep) (service : Service) : Prop :=
  service.worker.state.hearing = (observe setup.local_node_id (node_events setup before)).hearing

theorem Heard.step (h : Service.step setup pre action = (effects, post)) (hheard : Heard setup before pre) :
    Heard setup (before ++ [⟨pre, action, effects, post⟩]) post := by
  have hstep := Service.step_hearing h
  unfold Heard
  rw [node_events, List.filterMap_append, List.filterMap_cons, List.filterMap_nil]
  cases htold : node_event setup ⟨pre, action, effects, post⟩ with
  | none =>
    rw [htold] at hstep
    rw [List.append_nil]
    exact hstep.trans hheard
  | some event =>
    rw [htold] at hstep
    rw [observe_snoc]
    exact hstep.trans (event.apply_hearing hheard)

/-- The worker state says what the node events of the run say. -/
theorem Heard.summarizes (hheard : Heard setup before pre) :
    Summarizes setup.local_node_id (node_events setup before) pre.worker.state := by
  obtain ⟨hnodes, hrecent, -, -⟩ := Hearing.mk.inj hheard
  obtain ⟨hown, hremote, hrecent'⟩ := node_list_inv setup.local_node_id (node_events setup before)
  apply NodeListInv.summarizes
  exact ⟨hnodes ▸ hown, hnodes ▸ hremote, hrecent.trans hrecent'⟩

theorem Summarizes.observed {local_node_id : UInt16} {events : List NodeEvent} {state : WorkerState}
    (h : Summarizes local_node_id events state) :
    state.observed_nodes.entries.length = (local_node_id :: heartbeat_sources events).dedup.length := by
  have hperm : (state.node_list.map (·.node_id)).Perm (local_node_id :: heartbeat_sources events).dedup := by
    apply (List.perm_ext_iff_of_nodup h.distinct (List.nodup_dedup _)).2
    intro node_id
    rw [h.listed, List.mem_dedup, List.mem_cons]
  have hlength := hperm.length_eq
  rwa [List.length_map, WorkerState.node_list, List.length_map] at hlength

/-- The diagnostics that the worker sends report the heartbeats. -/
theorem Heard.reports (hheard : Heard setup before pre) {now : Readings} {diagnostics : TransportDiagnostics}
    (h : pre.worker.listing setup now .diagnostics = some (.diagnostics diagnostics)) :
    Reports setup.local_node_id (node_events setup before) now.second diagnostics := by
  obtain rfl := Reply.diagnostics.inj (Option.some.inj h)
  have hsummary := hheard.summarizes
  obtain ⟨-, hrecent, hcount, hat⟩ := Hearing.mk.inj hheard
  obtain ⟨hcounted, hlatest⟩ := observe_counts setup.local_node_id (node_events setup before)
  constructor
  · exact hsummary.observed
  · exact hsummary.recent.trans (rtake_min_length 8 _)
  · exact (congrArg UInt64.toNat hcount).trans hcounted
  · exact congrArg (Option.map _) (hat.trans hlatest)
  · rfl

end Step

theorem Heard.init (setup : Setup) (pnp : Option (Table × String)) (now : Instant) :
    Heard setup [] (Service.start setup pnp now) := rfl

section Run

variable (setup : Setup) (pnp : Option (Table × String)) (now : Instant) (actions : List Action)

end Run

end cyphal_service.transport
