import CyphalService.Lib.Agreement
import CyphalService.Transport.Spec

open effect effect.Logged machine
open cyphal_service.pnp
open cyphal_service.pnp.db cyphal_service.pnp.allocator

namespace cyphal_service.transport

/-- What the worker knows from received traffic. -/
structure Reception where
  observed_nodes : AList fun _ : UInt16 => NodeEntry
  recent_heartbeat_sources : List UInt16
  total_messages_received : UInt64
  heartbeat_messages_received : UInt64
  get_info_responses_received : UInt64

def WorkerState.reception (self : WorkerState) : Reception where
  observed_nodes := self.observed_nodes
  recent_heartbeat_sources := self.recent_heartbeat_sources
  total_messages_received := self.total_messages_received
  heartbeat_messages_received := self.heartbeat_messages_received
  get_info_responses_received := self.get_info_responses_received

/-- A PNP response on the bus. -/
def Effect.isPublish : Effect → Bool
  | .publish_v1 _ => true
  | .publish_v2 _ => true
  | _ => false

namespace Worker

/-- The part of the worker that decides about node IDs: the allocator with its
database, queue and cooldowns, and the GetInfo it has in flight. -/
def allocation (self : Worker) : Option system.State × Option PnpGetInfoPending :=
  (self.pnp_allocator, self.state.pnp_pending_get_info)

def reception (self : Worker) : Reception := self.state.reception

/-- All that commands, their timeouts and receive errors leave alone. -/
def watched (self : Worker) : (Option system.State × Option PnpGetInfoPending) × Reception :=
  (self.allocation, self.reception)

section Watched

/-- The computation leaves all that is watched alone. -/
abbrev Quiet {α : Type} (p : Work α) : Prop := Silent watched (·.isPublish) p

theorem quiet_update {f : WorkerState → WorkerState}
    (h : ∀ state, (f state).pnp_pending_get_info = state.pnp_pending_get_info ∧
      (f state).reception = state.reception) : Quiet (update f) :=
  Silent.modify fun self => by simp [watched, allocation, reception, h]

theorem quiet_send_reply (channel : ReplyChannel) (message : Reply) : Quiet (send_reply channel message) :=
  Silent.emit rfl

theorem quiet_handle_command (setup : Setup) (cmd : TransportCommand) (sent : SendOutcome) (now : Readings) :
    Quiet (handle_command setup cmd sent now) := by
  cases cmd with
  | ListNodes reply => exact Silent.get.bind fun _ => quiet_send_reply _ _
  | Diagnostics reply => exact Silent.get.bind fun _ => quiet_send_reply _ _
  | GetInfo node_id reply =>
    simp only [handle_command]
    split
    · exact quiet_send_reply _ _
    · split
      · refine (Silent.emit rfl).bind fun _ => ?_
        cases sent with
        | ok sent => exact (quiet_update fun _ => ⟨rfl, rfl⟩).bind fun _ => quiet_update fun _ => ⟨rfl, rfl⟩
        | error e => exact (quiet_update fun _ => ⟨rfl, rfl⟩).bind fun _ => quiet_send_reply _ _
      · exact (quiet_update fun _ => ⟨rfl, rfl⟩).bind fun _ => quiet_send_reply _ _
  | ListAllocations reply =>
    refine Silent.get.bind fun self => ?_
    split
    · exact quiet_send_reply _ _
    · exact quiet_send_reply _ _

theorem quiet_check_get_info_timeout (now : Instant) : Quiet (check_get_info_timeout now) := by
  intro self
  by_cases hexpired : ∃ p, self.state.pending_get_info = some p ∧ p.deadline < now
  · obtain ⟨p, hpending, hlate⟩ := hexpired
    rw [run_check_get_info_of_expired hpending hlate]
    exact ⟨rfl, rfl⟩
  · rw [run_check_get_info_of_waiting fun p hpending hlate => hexpired ⟨p, hpending, hlate⟩]
    exact ⟨rfl, rfl⟩

theorem quiet_on_receive_error (setup : Setup) (e : ReceiveError) : Quiet (on_receive_error setup e) := by
  unfold on_receive_error
  split
  · exact Silent.pure ()
  · exact quiet_update fun _ => ⟨rfl, rfl⟩

end Watched

section Stateless

/-- The computation leaves the worker state alone. -/
abbrev Stateless {α : Type} (p : Work α) : Prop := Silent Worker.state (fun _ => false) p

theorem Stateless.viewed {α υ : Type} {p : Work α} (h : Stateless p) (view : WorkerState → υ) :
    Silent (fun self : Worker => view self.state) (fun _ => false) p :=
  h.part view fun _ hnever => hnever

theorem stateless_call (pnp : system.State) (c : system.Call) (now : Readings) : Stateless (call pnp c now) := by
  refine Silent.bind (Silent.modify ?_) fun _ => (Silent.emit rfl).bind fun _ => Silent.pure _
  exact fun self => rfl

theorem stateless_on_get_info_result (node_id : UInt16) (uid : Option UniqueId) (now : Readings) :
    Stateless (on_get_info_result node_id uid now) := by
  refine Silent.get.bind fun self => ?_
  split
  · exact (stateless_call _ _ now).bind fun _ => Silent.pure ()
  · exact Silent.pure ()

/-- Answering an allocation message changes the worker state in nothing but the
count of the allocations served. -/
theorem silent_answer_allocation {υ : Type} {view : WorkerState → υ} (pnp : system.State) (request : system.Call)
    (now : Readings) (h : ∀ state : WorkerState, view state.on_pnp_allocated = view state) :
    Silent (fun self : Worker => view self.state) (fun _ => false) (answer_allocation pnp request now) := by
  refine ((stateless_call pnp request now).viewed view).bind fun output => ?_
  have hserved : Silent (fun self : Worker => view self.state) (fun _ => false)
      (update (·.on_pnp_allocated)) := Silent.modify fun self => h self.state
  split
  · exact (Silent.emit rfl).bind fun _ => hserved
  · exact (Silent.emit rfl).bind fun _ => hserved
  · exact Silent.pure ()

end Stateless

section Reception

/-- The computation records nothing as received. -/
abbrev Unreceiving {α : Type} (p : Work α) : Prop := Silent reception (fun _ => false) p

theorem Unreceiving.of_quiet {α : Type} {p : Work α} (h : Quiet p) : Unreceiving p :=
  h.part Prod.snd fun _ hnever => absurd hnever Bool.false_ne_true

theorem unreceiving_update {f : WorkerState → WorkerState} (h : ∀ state, (f state).reception = state.reception) :
    Unreceiving (update f) :=
  Silent.modify fun self => h self.state

theorem unreceiving_on_get_info_result (node_id : UInt16) (uid : Option UniqueId) (now : Readings) :
    Unreceiving (on_get_info_result node_id uid now) :=
  (stateless_on_get_info_result node_id uid now).viewed WorkerState.reception

theorem unreceiving_send_pnp_get_info (setup : Setup) (node_id : UInt16) (sent : SendOutcome) (now : Readings) :
    Unreceiving (send_pnp_get_info setup node_id sent now) := by
  unfold send_pnp_get_info
  split
  · refine (Silent.emit rfl).bind fun _ => ?_
    cases sent with
    | ok sent => exact (unreceiving_update fun _ => rfl).bind fun _ => unreceiving_update fun _ => rfl
    | error e => exact unreceiving_on_get_info_result node_id none now
  · exact unreceiving_on_get_info_result node_id none now

theorem unreceiving_dispatch_pnp_get_info (setup : Setup) (sent : SendOutcome) (now : Readings) :
    Unreceiving (dispatch_pnp_get_info setup sent now) := by
  refine Silent.get.bind fun self => ?_
  split
  · refine ((stateless_call _ _ now).viewed WorkerState.reception).bind fun output => ?_
    split
    · exact unreceiving_send_pnp_get_info setup _ sent now
    · exact Silent.pure ()
  · exact Silent.pure ()

theorem unreceiving_check_pnp_get_info_timeout (now : Readings) :
    Unreceiving (check_pnp_get_info_timeout now) := by
  intro self
  by_cases hexpired : ∃ p, self.state.pnp_pending_get_info = some p ∧ p.deadline < now.first
  · obtain ⟨p, hpending, hlate⟩ := hexpired
    rw [run_check_pnp_get_info_of_expired hpending hlate]
    exact unreceiving_on_get_info_result p.node_id none now _
  · rw [run_check_pnp_get_info_of_waiting fun p hpending hlate => hexpired ⟨p, hpending, hlate⟩]
    exact ⟨rfl, rfl⟩

theorem unreceiving_answer_allocation (pnp : system.State) (request : system.Call) (now : Readings) :
    Unreceiving (answer_allocation pnp request now) :=
  silent_answer_allocation pnp request now fun _ => rfl

end Reception

end Worker

/-- A UDP worker that reads every payload as the same heartbeat. -/
def beating_udp : Setup where
  kind := udp ⟨fun _ => true, fun _ => true, fun _ => true⟩
  codec := ⟨fun _ => some ⟨0, 0, 0⟩, fun _ => none, fun _ => none, fun _ => none⟩
  local_node_id := 1
  get_info_token := true

end cyphal_service.transport
