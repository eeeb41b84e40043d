import CyphalService.Transport.Reception
import CyphalService.Transport.NodeList
import CyphalService.Transport.Handle

open effect effect.Logged machine
open cyphal_service.pnp
open cyphal_service.pnp.db cyphal_service.pnp.allocator

namespace cyphal_service.transport

/-- A message that is no GetInfo result. -/
def Effect.isListing : Effect → Bool
  | .reply _ (.get_info _) => false
  | .reply _ _ => true
  | _ => false

/-- A listing, or a PNP response on the bus. -/
def Effect.isShown (effect : Effect) : Bool := effect.isListing || effect.isPublish

/-- What the worker knows from heartbeats. -/
structure Hearing where
  observed_nodes : AList fun _ : UInt16 => NodeEntry
  recent_heartbeat_sources : List UInt16
  heartbeat_messages_received : UInt64
  last_heartbeat_at : Option Instant

def WorkerState.hearing (self : WorkerState) : Hearing where
  observed_nodes := self.observed_nodes
  recent_heartbeat_sources := self.recent_heartbeat_sources
  heartbeat_messages_received := self.heartbeat_messages_received
  last_heartbeat_at := self.last_heartbeat_at

theorem WorkerState.check_get_info_timeout_hearing (self : WorkerState) (now : Instant) :
    (self.check_get_info_timeout now).2.hearing = self.hearing := by
  unfold WorkerState.check_get_info_timeout
  split
  · split
    · rfl
    · rfl
  · rfl

theorem WorkerState.check_pnp_get_info_timeout_hearing (self : WorkerState) (now : Instant) :
    (self.check_pnp_get_info_timeout now).2.hearing = self.hearing := by
  unfold WorkerState.check_pnp_get_info_timeout
  split
  · split
    · rfl
    · rfl
  · rfl

theorem WorkerState.on_get_info_response_hearing (self : WorkerState) (result : Except String GetInfoResult) :
    (self.on_get_info_response result).2.hearing = self.hearing := by
  unfold WorkerState.on_get_info_response
  dsimp only
  split
  · rfl
  · rfl

namespace Worker

/-- The computation hears no heartbeat, sends no listing and publishes nothing. -/
abbrev Unhearing {α : Type} (p : Work α) : Prop :=
  Silent (fun self : Worker => self.state.hearing) (·.isShown) p

theorem unhearing_update {f : WorkerState → WorkerState} (h : ∀ state, (f state).hearing = state.hearing) :
    Unhearing (update f) :=
  Silent.modify fun self => h self.state

theorem unhearing_call (pnp : system.State) (c : system.Call) (now : Readings) : Unhearing (call pnp c now) := by
  refine Silent.bind (Silent.modify ?_) fun _ => (Silent.emit rfl).bind fun _ => Silent.pure _
  exact fun self => rfl

theorem unhearing_on_get_info_result (node_id : UInt16) (uid : Option UniqueId) (now : Readings) :
    Unhearing (on_get_info_result node_id uid now) := by
  refine Silent.get.bind fun self => ?_
  split
  · exact (unhearing_call _ _ now).bind fun _ => Silent.pure ()
  · exact Silent.pure ()

theorem unhearing_replying {method : WorkerState → Option GetInfoReply × WorkerState}
    (h : ∀ state, (method state).2.hearing = state.hearing) : Unhearing (replying method) := by
  refine Silent.get_bind fun self => ?_
  dsimp only
  rw [run_bind]
  cases hreply : (method self.state).1 with
  | none => exact ⟨h self.state, rfl⟩
  | some reply => exact ⟨h self.state, rfl⟩

theorem unhearing_get_info (setup : Setup) (node_id : UInt16) (reply : ReplyChannel) (sent : SendOutcome)
    (now : Readings) : Unhearing (handle_command setup (.GetInfo node_id reply) sent now) := by
  simp only [handle_command]
  split
  · exact Silent.emit rfl
  · split
    · refine (Silent.emit rfl).bind fun _ => ?_
      cases sent with
      | ok sent => exact (unhearing_update fun _ => rfl).bind fun _ => unhearing_update fun _ => rfl
      | error e => exact (unhearing_update fun _ => rfl).bind fun _ => Silent.emit rfl
    · exact (unhearing_update fun _ => rfl).bind fun _ => Silent.emit rfl

theorem unhearing_dispatch_pnp_get_info (setup : Setup) (sent : SendOutcome) (now : Readings) :
    Unhearing (dispatch_pnp_get_info setup sent now) := by
  refine Silent.get.bind fun self => ?_
  split
  · refine (unhearing_call _ _ now).bind fun output => ?_
    split
    · unfold send_pnp_get_info
      split
      · refine (Silent.emit rfl).bind fun _ => ?_
        cases sent with
        | ok sent => exact (unhearing_update fun _ => rfl).bind fun _ => unhearing_update fun _ => rfl
        | error e => exact unhearing_on_get_info_result _ none now
      · exact unhearing_on_get_info_result _ none now
    · exact Silent.pure ()
  · exact Silent.pure ()

theorem unhearing_check_pnp_get_info_timeout (now : Readings) : Unhearing (check_pnp_get_info_timeout now) := by
  refine Silent.get_bind fun self => ?_
  have hkept := self.state.check_pnp_get_info_timeout_hearing now.first
  dsimp only
  rw [run_bind]
  cases htimed_out : (self.state.check_pnp_get_info_timeout now.first).1 with
  | none => exact ⟨hkept, rfl⟩
  | some node_id =>
    obtain ⟨hreported, hlog⟩ := unhearing_on_get_info_result node_id none now
      { self with state := (self.state.check_pnp_get_info_timeout now.first).2 }
    exact ⟨hreported.trans hkept, hlog⟩

/-- A message that is no heartbeat may still be answered on the bus. -/
theorem unheard_handle_message {setup : Setup} {transfer : MessageTransfer} (now : Readings)
    (hmessage : setup.heartbeat transfer = none) :
    Silent (fun self : Worker => self.state.hearing) (fun _ => false) (handle_message setup transfer now) := by
  refine Silent.get.bind fun self => ?_
  by_cases hheartbeat : transfer.subject = HEARTBEAT_SUBJECT
  · rw [Setup.heartbeat, if_pos hheartbeat] at hmessage
    simp only [if_pos hheartbeat, hmessage]
    exact Silent.pure false
  · simp only [if_neg hheartbeat]
    cases self.pnp_allocator with
    | none => exact Silent.pure false
    | some pnp =>
      have hanswered : ∀ request, Silent (fun self : Worker => self.state.hearing) (fun _ => false)
          (answer_allocation pnp request now) :=
        fun request => silent_answer_allocation pnp request now fun _ => rfl
      dsimp only
      split
      · split
        · exact Silent.pure true
        · exact (hanswered _).bind fun _ => Silent.pure true
      · split
        · split
          · exact Silent.pure true
          · exact (hanswered _).bind fun _ => Silent.pure true
        · exact Silent.pure false

/-- A message of any kind is answered with no listing. -/
theorem unlisted_handle_message (setup : Setup) (transfer : MessageTransfer) (now : Readings) (self : Worker) :
    ((handle_message setup transfer now).run self).log.filter (·.isListing) = [] := by
  cases hpnp : self.pnp_allocator with
  | none =>
    obtain ⟨handled, state, hrun, -⟩ := run_handle_message_of_no_pnp setup transfer now hpnp
    rw [hrun]
    rfl
  | some pnp =>
    cases hcall : setup.message_call transfer now with
    | none =>
      obtain ⟨handled, hrun⟩ := run_handle_message_of_no_call self hcall
      rw [hrun]
      rfl
    | some c =>
      obtain ⟨state, hrun, -⟩ := run_handle_message_of_call hpnp hcall
      rw [hrun, List.filter_cons_of_neg Bool.false_ne_true]
      unfold published
      split
      · rfl
      · rfl
      · rfl

theorem unhearing_handle_response (setup : Setup) (transfer : ServiceTransfer) (now : Readings) :
    Unhearing (handle_response setup transfer now) := by
  have hcli : ∀ matched source parsed, Unhearing (answer_cli matched source parsed) := by
    intro matched source parsed
    unfold answer_cli
    split
    · exact unhearing_replying fun state => state.on_get_info_response_hearing _
    · exact Silent.pure ()
  have hpnp : ∀ matched source parsed, Unhearing (answer_pnp matched source parsed now) := by
    intro matched source parsed
    unfold answer_pnp
    split
    · refine Silent.bind (unhearing_update ?_) fun _ => unhearing_on_get_info_result _ _ now
      exact fun _ => rfl
    · exact Silent.pure ()
  have hcounted := unhearing_update (f := (·.on_message_received now.first)) fun _ => rfl
  unfold handle_response
  split
  · exact Silent.pure false
  · refine Silent.get.bind fun self => ?_
    dsimp only
    split
    · exact Silent.pure false
    · exact (hcli _ _ _).bind fun _ => (hpnp _ _ _).bind fun _ => hcounted.bind fun _ => Silent.pure true

theorem unhearing_on_receive_error (setup : Setup) (e : ReceiveError) : Unhearing (on_receive_error setup e) := by
  unfold on_receive_error
  split
  · exact Silent.pure ()
  · exact unhearing_update fun _ => rfl

end Worker

/-- What an event tells the node list. -/
def Event.node_event (setup : Setup) (self : Worker) : Event → Option NodeEvent
  | .message transfer now =>
    (setup.heartbeat transfer).map fun hb => .heartbeat (transfer.source.getD 0xFFFF) hb now.third
  | .per_second tested_at _ => if elapsed self.last_second tested_at ≥ Duration.from_secs 1 then some .tick else none
  | _ => none

/-- The worker hears what an event tells the node list and nothing else. -/
theorem heard_of_perform (setup : Setup) (self : Worker) {event : Event} (hcommand : event.isCommand = false) :
    ((event.perform setup).run self).state.state.hearing = ((event.node_event setup self).elim self.state
      (NodeEvent.apply setup.local_node_id self.state)).hearing := by
  cases event with
  | command cmd sent now => cases hcommand
  | check_get_info_timeout now =>
    exact (Worker.unhearing_replying (fun state => state.check_get_info_timeout_hearing now) self).1
  | dispatch_pnp_get_info sent now => exact (Worker.unhearing_dispatch_pnp_get_info setup sent now self).1
  | check_pnp_get_info_timeout now => exact (Worker.unhearing_check_pnp_get_info_timeout now self).1
  | message transfer now =>
    cases hmessage : setup.heartbeat transfer with
    | none =>
      rw [Event.node_event, hmessage]
      exact (Worker.unheard_handle_message now hmessage self).1
    | some hb =>
      rw [Event.node_event, hmessage]
      exact congrArg WorkerState.hearing (Worker.reception_of_heartbeat now self hmessage)
  | response transfer now => exact (Worker.unhearing_handle_response setup transfer now self).1
  | receive_error e => exact (Worker.unhearing_on_receive_error setup e self).1
  | per_second tested_at ticked_at =>
    rw [Event.node_event]
    by_cases hsecond : elapsed self.last_second tested_at ≥ Duration.from_secs 1
    · simp [Event.perform, Worker.per_second, hsecond, NodeEvent.apply]
    · simp [Event.perform, Worker.per_second, hsecond]

/-- But for commands and messages, no event is answered with a listing or on the
bus. -/
theorem unshown_of_perform (setup : Setup) (self : Worker) {event : Event} (hcommand : event.isCommand = false)
    (hmessage : ∀ transfer now, event ≠ .message transfer now) :
    ((event.perform setup).run self).log.filter (·.isShown) = [] := by
  cases event with
  | command cmd sent now => cases hcommand
  | check_get_info_timeout now =>
    exact (Worker.unhearing_replying (fun state => state.check_get_info_timeout_hearing now) self).2
  | dispatch_pnp_get_info sent now => exact (Worker.unhearing_dispatch_pnp_get_info setup sent now self).2
  | check_pnp_get_info_timeout now => exact (Worker.unhearing_check_pnp_get_info_timeout now self).2
  | message transfer now => exact absurd rfl (hmessage transfer now)
  | response transfer now =>
    exact ((Worker.unhearing_handle_response setup transfer now).bind (fun _ => Silent.pure ()) self).2
  | receive_error e => exact (Worker.unhearing_on_receive_error setup e self).2
  | per_second tested_at ticked_at =>
    by_cases hsecond : elapsed self.last_second tested_at ≥ Duration.from_secs 1
    · simp [Event.perform, Worker.per_second, hsecond]
    · simp [Event.perform, Worker.per_second, hsecond]

theorem unlisted_of_unshown {effects : List Effect} (h : effects.filter (·.isShown) = []) :
    effects.filter (·.isListing) = [] := by
  rw [List.filter_eq_nil_iff] at h ⊢
  exact fun effect hmem hlisting => h effect hmem (by rw [Effect.isShown, hlisting, Bool.true_or])

/-- But for commands, no event is answered with a listing. -/
theorem unlisted_of_perform (setup : Setup) (self : Worker) {event : Event} (hcommand : event.isCommand = false) :
    ((event.perform setup).run self).log.filter (·.isListing) = [] := by
  by_cases hmessage : ∀ transfer now, event ≠ .message transfer now
  · exact unlisted_of_unshown (unshown_of_perform setup self hcommand hmessage)
  · push Not at hmessage
    obtain ⟨transfer, now, rfl⟩ := hmessage
    simp only [Event.perform, run_bind, run_pure, List.append_nil]
    exact Worker.unlisted_handle_message setup transfer now self

end cyphal_service.transport
