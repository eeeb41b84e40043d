import CyphalService.Transport.Frame

open effect effect.Logged machine
open cyphal_service.pnp
open cyphal_service.pnp.db cyphal_service.pnp.allocator

namespace cyphal_service.transport

/-- The heartbeat that a message carries. -/
def Setup.heartbeat (setup : Setup) (transfer : MessageTransfer) : Option Heartbeat :=
  if transfer.subject = HEARTBEAT_SUBJECT then setup.codec.heartbeat transfer.payload else none

/-- Whether a response answers the GetInfo of a command, and that of the
allocator. -/
def WorkerState.matched (self : WorkerState) (transfer : ServiceTransfer) : Bool × Bool :=
  if transfer.service = GET_INFO_SERVICE then
    (self.pending_get_info.any (·.node_id = transfer.source),
      self.pnp_pending_get_info.any (·.node_id = transfer.source))
  else (false, false)

/-- A counter after something that counts or does not. -/
def counted (counts : Bool) (n : UInt64) : UInt64 :=
  if counts then u64.saturating_add n 1 else n

theorem toNat_counted (counts : Bool) (n : UInt64) :
    (counted counts n).toNat = min (n.toNat + counts.toNat) (UInt64.size - 1) := by
  have hn := n.toNat_lt
  cases counts with
  | false =>
    simp only [counted, Bool.false_eq_true, if_false, Bool.toNat_false, UInt64.size]
    omega
  | true => exact u64.toNat_saturating_add n 1

/-- What an event adds to what the worker knows from received traffic. -/
inductive Receives (setup : Setup) (self : WorkerState) : Event → Reception → Prop where
  | idle {event : Event}
      (hmessage : ∀ transfer now, event = .message transfer now → setup.heartbeat transfer = none)
      (hresponse : ∀ transfer now, event = .response transfer now → self.matched transfer = (false, false)) :
      Receives setup self event self.reception
  | ticked {tested_at ticked_at : Instant} :
      Receives setup self (.per_second tested_at ticked_at)
        { self.reception with observed_nodes := (self.tick_local_node setup.local_node_id).observed_nodes }
  | heartbeat {transfer : MessageTransfer} {now : Readings} {hb : Heartbeat}
      (hmessage : setup.heartbeat transfer = some hb) :
      Receives setup self (.message transfer now)
        (self.on_heartbeat (transfer.source.getD 0xFFFF) hb.uptime hb.health hb.mode now.third).reception
  | response {transfer : ServiceTransfer} {now : Readings} {cli pnp : Bool}
      (hresponse : self.matched transfer = (cli, pnp)) (hmatched : cli || pnp) :
      Receives setup self (.response transfer now)
        { self.reception with
          total_messages_received := u64.saturating_add self.total_messages_received 1
          get_info_responses_received := counted pnp (counted cli self.get_info_responses_received) }

theorem WorkerState.register_local_node_reception (state : WorkerState) (node_id : UInt16) :
    (state.register_local_node node_id).reception =
      { state.reception with observed_nodes := (state.register_local_node node_id).observed_nodes } := by
  unfold WorkerState.register_local_node
  split <;> rfl

theorem WorkerState.tick_local_node_reception (state : WorkerState) (node_id : UInt16) :
    (state.tick_local_node node_id).reception =
      { state.reception with observed_nodes := (state.tick_local_node node_id).observed_nodes } := by
  have hregister := state.register_local_node_reception node_id
  unfold WorkerState.tick_local_node
  simp only [WorkerState.reception, Reception.mk.injEq, true_and] at hregister ⊢
  cases hnode : (state.register_local_node node_id).observed_nodes.lookup node_id with
  | none => exact hregister
  | some node => exact hregister

namespace Worker

theorem unreceiving_handle_message {setup : Setup} {transfer : MessageTransfer} (now : Readings)
    (hmessage : setup.heartbeat transfer = none) : Unreceiving (handle_message setup transfer now) := by
  refine Silent.get.bind fun self => ?_
  by_cases hheartbeat : transfer.subject = HEARTBEAT_SUBJECT
  · rw [Setup.heartbeat, if_pos hheartbeat] at hmessage
    simp only [if_pos hheartbeat, hmessage]
    exact Silent.pure false
  · simp only [if_neg hheartbeat]
    cases self.pnp_allocator with
    | none => exact Silent.pure false
    | some pnp =>
      dsimp only
      have hanswered := fun request =>
        (unreceiving_answer_allocation pnp request now).bind fun _ => Silent.pure true
      by_cases hv2 : transfer.subject = PNP_V2_SUBJECT
      · simp only [if_pos hv2]
        cases setup.codec.allocation_v2 transfer.payload with
        | none => exact Silent.pure true
        | some msg => exact hanswered _
      · simp only [if_neg hv2]
        by_cases hv1 : transfer.subject = PNP_V1_SUBJECT
        · simp only [if_pos hv1]
          cases setup.codec.allocation_v1 transfer.payload with
          | none => exact Silent.pure true
          | some msg => exact hanswered _
        · simp only [if_neg hv1]
          exact Silent.pure false

theorem reception_of_heartbeat {setup : Setup} {transfer : MessageTransfer} {hb : Heartbeat} (now : Readings)
    (self : Worker) (hmessage : setup.heartbeat transfer = some hb) :
    ((handle_message setup transfer now).run self).state.state =
      self.state.on_heartbeat (transfer.source.getD 0xFFFF) hb.uptime hb.health hb.mode now.third := by
  by_cases hheartbeat : transfer.subject = HEARTBEAT_SUBJECT
  · rw [Setup.heartbeat, if_pos hheartbeat] at hmessage
    cases hpnp : self.pnp_allocator <;> simp [handle_message, hheartbeat, hmessage, hpnp]
  · rw [Setup.heartbeat, if_neg hheartbeat] at hmessage
    cases hmessage

theorem reception_of_answer_cli (cli : Bool) (source : UInt16) (parsed : Option GetInfoResponse) (self : Worker) :
    ((answer_cli cli source parsed).run self).state.reception =
      { self.reception with
        get_info_responses_received := counted cli self.reception.get_info_responses_received } := by
  cases cli with
  | false => rfl
  | true =>
    cases hpending : self.state.pending_get_info <;>
      simp [answer_cli, replying, WorkerState.on_get_info_response, hpending, reception, WorkerState.reception,
        counted]

theorem reception_of_answer_pnp (pnp : Bool) (source : UInt16) (parsed : Option GetInfoResponse) (now : Readings)
    (self : Worker) :
    ((answer_pnp pnp source parsed now).run self).state.reception =
      { self.reception with
        get_info_responses_received := counted pnp self.reception.get_info_responses_received } := by
  cases pnp with
  | false => rfl
  | true =>
    unfold answer_pnp
    rw [if_pos rfl, run_bind]
    exact (unreceiving_on_get_info_result source _ now _).1

end Worker

private theorem receives_of_quiet {setup : Setup} {self post : Worker} {event : Event}
    (hkept : post.reception = self.reception)
    (hmessage : ∀ transfer now, event = .message transfer now → setup.heartbeat transfer = none)
    (hresponse : ∀ transfer now, event = .response transfer now → self.state.matched transfer = (false, false)) :
    Receives setup self.state event post.reception := by
  rw [hkept]
  exact .idle hmessage hresponse

private theorem receives_of_response (setup : Setup) (transfer : ServiceTransfer) (now : Readings) (self : Worker) :
    Receives setup self.state (.response transfer now)
      ((Worker.handle_response setup transfer now).run self).state.reception := by
  by_cases hservice : transfer.service = GET_INFO_SERVICE
  · generalize hcli : self.state.pending_get_info.any (·.node_id = transfer.source) = cli
    generalize hpnp : self.state.pnp_pending_get_info.any (·.node_id = transfer.source) = pnp
    have hmatched : self.state.matched transfer = (cli, pnp) := by
      rw [WorkerState.matched, if_pos hservice, hcli, hpnp]
    by_cases hhandled : (cli || pnp) = true
    · rw [Worker.run_handle_response hservice hcli hpnp hhandled]
      generalize setup.codec.get_info_response transfer.payload = parsed
      have hreceived := Worker.reception_of_answer_pnp pnp transfer.source parsed now
        ((Worker.answer_cli cli transfer.source parsed).run self).state
      rw [Worker.reception_of_answer_cli] at hreceived
      have hcounted : ∀ worker : Worker, Worker.reception
          { worker with state := worker.state.on_message_received now.first } = { worker.reception with
            total_messages_received := u64.saturating_add worker.reception.total_messages_received 1 } :=
        fun _ => rfl
      simp only [run_bind, run_pure, Worker.run_update, hcounted, hreceived]
      exact .response hmatched hhandled
    · obtain ⟨rfl, rfl⟩ : cli = false ∧ pnp = false := by simpa using hhandled
      rw [Worker.run_handle_response_of_ignored fun _ => ⟨hcli, hpnp⟩]
      refine receives_of_quiet rfl (fun _ _ h => by cases h) fun other _ heq => ?_
      cases heq
      exact hmatched
  · rw [Worker.run_handle_response_of_ignored (fun h => absurd h hservice)]
    refine receives_of_quiet rfl (fun _ _ h => by cases h) fun other _ heq => ?_
    cases heq
    rw [WorkerState.matched, if_neg hservice]

private theorem receives_of_message (setup : Setup) (transfer : MessageTransfer) (now : Readings) (self : Worker) :
    Receives setup self.state (.message transfer now)
      ((Worker.handle_message setup transfer now).run self).state.reception := by
  cases hmessage : setup.heartbeat transfer with
  | none =>
    refine receives_of_quiet (Worker.unreceiving_handle_message now hmessage self).1 ?_ (fun _ _ h => by cases h)
    intro other _ heq
    cases heq
    exact hmessage
  | some hb =>
    rw [Worker.reception, Worker.reception_of_heartbeat now self hmessage]
    exact .heartbeat hmessage

private theorem receives_of_per_second (setup : Setup) (tested_at ticked_at : Instant) (self : Worker) :
    Receives setup self.state (.per_second tested_at ticked_at)
      ((Worker.per_second setup tested_at ticked_at).run self).state.reception := by
  by_cases hsecond : elapsed self.last_second tested_at ≥ Duration.from_secs 1
  · have hrun : (Worker.per_second setup tested_at ticked_at).run self = ⟨(), [], { self with
        state := self.state.tick_local_node setup.local_node_id, last_second := ticked_at }⟩ := by
      simp [Worker.per_second, hsecond]
    rw [hrun, Worker.reception, WorkerState.tick_local_node_reception]
    exact .ticked
  · have hkept : (Worker.per_second setup tested_at ticked_at).run self = ⟨(), [], self⟩ := by
      simp [Worker.per_second, hsecond]
    rw [hkept]
    exact receives_of_quiet rfl (fun _ _ h => by cases h) (fun _ _ h => by cases h)

/-- A step records what it receives, and nothing else. -/
theorem receives_of_step {setup : Setup} {self post : Worker} {event : Event} {effects : List Effect}
    (h : step setup self event = (effects, post)) : Receives setup self.state event post.reception := by
  obtain ⟨-, rfl⟩ := Prod.mk.inj h
  cases event with
  | command cmd sent now =>
    refine receives_of_quiet ?_ (fun _ _ h => by cases h) (fun _ _ h => by cases h)
    exact (Worker.Unreceiving.of_quiet (Worker.quiet_handle_command setup cmd sent now) self).1
  | check_get_info_timeout now =>
    refine receives_of_quiet ?_ (fun _ _ h => by cases h) (fun _ _ h => by cases h)
    exact (Worker.Unreceiving.of_quiet (Worker.quiet_check_get_info_timeout now) self).1
  | dispatch_pnp_get_info sent now =>
    refine receives_of_quiet ?_ (fun _ _ h => by cases h) (fun _ _ h => by cases h)
    exact (Worker.unreceiving_dispatch_pnp_get_info setup sent now self).1
  | check_pnp_get_info_timeout now =>
    refine receives_of_quiet ?_ (fun _ _ h => by cases h) (fun _ _ h => by cases h)
    exact (Worker.unreceiving_check_pnp_get_info_timeout now self).1
  | message transfer now => exact receives_of_message setup transfer now self
  | response transfer now => exact receives_of_response setup transfer now self
  | receive_error e =>
    refine receives_of_quiet ?_ (fun _ _ h => by cases h) (fun _ _ h => by cases h)
    exact (Worker.Unreceiving.of_quiet (Worker.quiet_on_receive_error setup e) self).1
  | per_second tested_at ticked_at => exact receives_of_per_second setup tested_at ticked_at self

end cyphal_service.transport
