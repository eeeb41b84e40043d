import CyphalService.Transport.Spec

open effect machine
open cyphal_service.pnp
open cyphal_service.pnp.db cyphal_service.pnp.allocator

namespace cyphal_service.transport

/-- The node and the reply channel of a GetInfo command. -/
def Event.get_info : Event → Option (UInt16 × ReplyChannel)
  | .command (.GetInfo node_id reply) _ _ => some (node_id, reply)
  | _ => none

/-- The event is a GetInfo command whose request is sent. -/
def Event.Accepted (setup : Setup) : Event → Prop
  | .command (.GetInfo node_id _) sent _ =>
    (setup.kind.command_target node_id).toBool ∧ setup.get_info_token ∧ sent.toBool
  | _ => False

instance (setup : Setup) : ∀ event : Event, Decidable (event.Accepted setup)
  | .command (.GetInfo ..) .. => inferInstanceAs (Decidable (_ ∧ _ ∧ _))
  | .command (.ListNodes _) .. | .command (.Diagnostics _) .. | .command (.ListAllocations _) .. => .isFalse id
  | .check_get_info_timeout _ | .dispatch_pnp_get_info .. | .check_pnp_get_info_timeout _ => .isFalse id
  | .message .. | .response .. | .receive_error _ | .per_second .. => .isFalse id

/-- What an event does to the GetInfo command that waits: from the pending request
before it, the results sent to callers and the pending request after it. -/
inductive Served (setup : Setup) (pending : Option PendingGetInfo) :
    Event → List GetInfoReply → Option PendingGetInfo → Prop where
  | accepted {node_id : UInt16} {reply : ReplyChannel} {sent : SendOutcome} {now : Readings}
      (h : (Event.command (.GetInfo node_id reply) sent now).Accepted setup) :
      Served setup pending (.command (.GetInfo node_id reply) sent now) []
        (some ⟨node_id, reply, now.first + Duration.from_secs 3⟩)
  | refused {node_id : UInt16} {reply : ReplyChannel} {sent : SendOutcome} {now : Readings} (message : String)
      (h : ¬ (Event.command (.GetInfo node_id reply) sent now).Accepted setup) :
      Served setup pending (.command (.GetInfo node_id reply) sent now) [⟨reply, .error message⟩] pending
  | answered {p : PendingGetInfo} {transfer : ServiceTransfer} {now : Readings} (hpending : pending = some p)
      (hservice : transfer.service = GET_INFO_SERVICE) (hsource : p.node_id = transfer.source) :
      Served setup pending (.response transfer now)
        [⟨p.reply, Worker.get_info_result transfer.source (setup.codec.get_info_response transfer.payload)⟩] none
  | expired {p : PendingGetInfo} {now : Instant} (hpending : pending = some p) (hlate : p.deadline < now) :
      Served setup pending (.check_get_info_timeout now)
        [⟨p.reply, .error "GetInfo request timed out"⟩] none
  | idle {event : Event} (h : event.get_info = none) : Served setup pending event [] pending

namespace Worker

theorem on_get_info_result_frame (node_id : UInt16) (uid : Option UniqueId) (now : Readings) (self : Worker) :
    results ((on_get_info_result node_id uid now).run self).log = [] ∧
      ((on_get_info_result node_id uid now).run self).state.state = self.state := by
  cases h : self.pnp_allocator <;> simp [on_get_info_result, h, Effect.result]

end Worker

private theorem served_of_command {setup : Setup} (cmd : TransportCommand) (sent : SendOutcome) (now : Readings)
    (self : Worker) :
    Served setup self.state.pending_get_info (.command cmd sent now)
      (results ((Worker.handle_command setup cmd sent now).run self).log)
      ((Worker.handle_command setup cmd sent now).run self).state.state.pending_get_info := by
  cases cmd with
  | ListNodes reply => exact .idle rfl
  | Diagnostics reply => exact .idle rfl
  | ListAllocations reply =>
    obtain ⟨entries, hrun⟩ := Worker.run_list_allocations setup reply sent now self
    rw [hrun]
    exact .idle rfl
  | GetInfo node_id reply =>
    by_cases haccepted : (Event.command (.GetInfo node_id reply) sent now).Accepted setup
    · obtain ⟨target, hrun⟩ := Worker.run_get_info_of_accepted reply now self haccepted
      rw [hrun]
      exact .accepted haccepted
    · obtain ⟨message, effects, state, hrun, hresults, -, hsame⟩ :=
        Worker.run_get_info_of_refused reply now self haccepted
      rw [hrun, hresults, hsame.1]
      exact .refused message haccepted

private theorem served_of_timeout {setup : Setup} (now : Instant) (self : Worker) :
    Served setup self.state.pending_get_info (.check_get_info_timeout now)
      (results ((Worker.check_get_info_timeout now).run self).log)
      ((Worker.check_get_info_timeout now).run self).state.state.pending_get_info := by
  by_cases hexpired : ∃ p, self.state.pending_get_info = some p ∧ p.deadline < now
  · obtain ⟨p, hpending, hlate⟩ := hexpired
    rw [Worker.run_check_get_info_of_expired hpending hlate]
    exact .expired hpending hlate
  · rw [Worker.run_check_get_info_of_waiting fun p hpending hlate => hexpired ⟨p, hpending, hlate⟩]
    exact .idle rfl

private theorem served_of_response {setup : Setup} (transfer : ServiceTransfer) (now : Readings) (self : Worker) :
    Served setup self.state.pending_get_info (.response transfer now)
      (results ((Worker.handle_response setup transfer now).run self).log)
      ((Worker.handle_response setup transfer now).run self).state.state.pending_get_info := by
  by_cases hservice : transfer.service = GET_INFO_SERVICE
  · cases hcli : self.state.pending_get_info.any (·.node_id = transfer.source) with
    | true =>
      obtain ⟨p, hpending, hsource⟩ := Worker.any_of_matches.1 hcli
      obtain ⟨hresults, hnone⟩ := Worker.run_answer_cli hpending transfer.source
        (setup.codec.get_info_response transfer.payload)
      rw [Worker.run_handle_response hservice hcli rfl rfl]
      simp [hresults, Worker.answer_pnp_frame, WorkerState.on_message_received, hnone]
      exact .answered hpending hservice hsource
    | false =>
      cases hpnp : self.state.pnp_pending_get_info.any (·.node_id = transfer.source) with
      | true =>
        rw [Worker.run_handle_response hservice hcli hpnp rfl]
        simp [Worker.answer_cli, Worker.answer_pnp_frame, WorkerState.on_message_received]
        exact .idle rfl
      | false =>
        rw [Worker.run_handle_response_of_ignored]
        · exact .idle rfl
        · exact fun _ => ⟨hcli, hpnp⟩
  · rw [Worker.run_handle_response_of_ignored (fun h => absurd h hservice)]
    exact .idle rfl

private theorem served_of_message {setup : Setup} (transfer : MessageTransfer) (now : Readings) (self : Worker) :
    Served setup self.state.pending_get_info (.message transfer now)
      (results ((Worker.handle_message setup transfer now).run self).log)
      ((Worker.handle_message setup transfer now).run self).state.state.pending_get_info := by
  cases hpnp : self.pnp_allocator with
  | none =>
    obtain ⟨handled, state, hrun, hsame⟩ :=
      Worker.run_handle_message_of_no_pnp setup transfer now hpnp
    rw [hrun, hsame.1]
    exact .idle rfl
  | some pnp =>
    cases hcall : setup.message_call transfer now with
    | none =>
      obtain ⟨handled, hrun⟩ := Worker.run_handle_message_of_no_call self hcall
      rw [hrun]
      exact .idle rfl
    | some c =>
      obtain ⟨state, hrun, hsame⟩ := Worker.run_handle_message_of_call hpnp hcall
      rw [hrun, hsame.1, results_cons, results_published]
      exact .idle rfl

private theorem send_pnp_get_info_frame {setup : Setup} (node_id : UInt16) (sent : SendOutcome) (now : Readings)
    (self : Worker) :
    results ((Worker.send_pnp_get_info setup node_id sent now).run self).log = [] ∧
      ((Worker.send_pnp_get_info setup node_id sent now).run self).state.state.pending_get_info =
        self.state.pending_get_info := by
  obtain ⟨hreported, hstate⟩ := Worker.on_get_info_result_frame node_id none now self
  rcases Worker.run_send_pnp_get_info setup node_id sent now self with
    ⟨target, hrun⟩ | ⟨tried, htried, -, hrun⟩
  · rw [hrun]
    exact ⟨rfl, rfl⟩
  · rw [hrun, results_append, htried, hreported, hstate]
    exact ⟨rfl, rfl⟩

private theorem dispatch_frame (setup : Setup) (sent : SendOutcome) (now : Readings) (self : Worker) :
    results ((Worker.dispatch_pnp_get_info setup sent now).run self).log = [] ∧
      ((Worker.dispatch_pnp_get_info setup sent now).run self).state.state.pending_get_info =
        self.state.pending_get_info := by
  cases hpending : self.state.pnp_pending_get_info with
  | some p => simp [Worker.run_dispatch_of_pending hpending]
  | none =>
    cases hpnp : self.pnp_allocator with
    | none => simp [Worker.run_dispatch_of_no_pnp hpnp]
    | some pnp =>
      have hpop := system.step_pop_get_info_request pnp now.current_timestamp
      cases hpopped : pnp.self.pop_get_info_request.1 with
      | none =>
        rw [hpopped] at hpop
        simp [Worker.run_dispatch_of_unpopped hpending hpnp hpop, Effect.result]
      | some node_id =>
        rw [hpopped] at hpop
        simp [Worker.run_dispatch_of_popped hpending hpnp hpop, Effect.result, send_pnp_get_info_frame]

private theorem check_pnp_frame (now : Readings) (self : Worker) :
    results ((Worker.check_pnp_get_info_timeout now).run self).log = [] ∧
      ((Worker.check_pnp_get_info_timeout now).run self).state.state.pending_get_info =
        self.state.pending_get_info := by
  by_cases hexpired : ∃ p, self.state.pnp_pending_get_info = some p ∧ p.deadline < now.first
  · obtain ⟨p, hpending, hlate⟩ := hexpired
    simp [Worker.run_check_pnp_get_info_of_expired hpending hlate, Worker.on_get_info_result_frame]
  · rw [Worker.run_check_pnp_get_info_of_waiting fun p hpending hlate => hexpired ⟨p, hpending, hlate⟩]
    exact ⟨rfl, rfl⟩

/-- A step of the worker serves the callers of GetInfo in one of the ways above. -/
theorem served_of_step {setup : Setup} {self post : Worker} {event : Event} {effects : List Effect}
    (h : step setup self event = (effects, post)) :
    Served setup self.state.pending_get_info event (results effects) post.state.pending_get_info := by
  obtain ⟨rfl, rfl⟩ := Prod.mk.inj h
  cases event with
  | command cmd sent now => exact served_of_command cmd sent now self
  | check_get_info_timeout now => exact served_of_timeout now self
  | dispatch_pnp_get_info sent now =>
    obtain ⟨hresults, hpending⟩ := dispatch_frame setup sent now self
    simp only [Event.perform, hresults, hpending]
    exact .idle rfl
  | check_pnp_get_info_timeout now =>
    obtain ⟨hresults, hpending⟩ := check_pnp_frame now self
    simp only [Event.perform, hresults, hpending]
    exact .idle rfl
  | message transfer now =>
    simp only [Event.perform, Logged.run_bind, Logged.run_pure, List.append_nil]
    exact served_of_message transfer now self
  | response transfer now =>
    simp only [Event.perform, Logged.run_bind, Logged.run_pure, List.append_nil]
    exact served_of_response transfer now self
  | receive_error e =>
    obtain ⟨state, hrun, hsame⟩ := Worker.run_on_receive_error setup e self
    simp only [Event.perform, hrun, hsame.1]
    exact .idle rfl
  | per_second tested_at ticked_at =>
    obtain ⟨state, last_second, hrun, hsame⟩ := Worker.run_per_second setup tested_at ticked_at self
    simp only [Event.perform, hrun, hsame.1]
    exact .idle rfl

theorem node_id_of_get_info_result {source_node_id : UInt16} {parsed : Option GetInfoResponse}
    {result : GetInfoResult} (h : Worker.get_info_result source_node_id parsed = .ok result) :
    result.node_id = source_node_id ∧ ∃ resp, parsed = some resp := by
  cases parsed with
  | none => cases h
  | some resp =>
    cases h
    exact ⟨rfl, resp, rfl⟩

/-- The only result without an error is the decoded response of the node that the
pending request names. -/
theorem Served.of_ok {setup : Setup} {pending pending' : Option PendingGetInfo} {event : Event}
    {sent : List GetInfoReply} (h : Served setup pending event sent pending') {channel : ReplyChannel}
    {result : GetInfoResult} (hsent : ⟨channel, .ok result⟩ ∈ sent) :
    ∃ p transfer now resp, pending = some p ∧ p.reply = channel ∧ p.node_id = result.node_id ∧
      event = .response transfer now ∧ transfer.service = GET_INFO_SERVICE ∧ transfer.source = result.node_id ∧
      setup.codec.get_info_response transfer.payload = some resp ∧
      Worker.get_info_result result.node_id (some resp) = .ok result := by
  cases h with
  | accepted haccepted => cases hsent
  | refused message hrefused => simp at hsent
  | @answered p transfer now hpending hservice hsource =>
    rw [List.mem_singleton, GetInfoReply.mk.injEq] at hsent
    obtain ⟨rfl, hresult⟩ := hsent
    obtain ⟨hnode, resp, hdecoded⟩ := node_id_of_get_info_result hresult.symm
    rw [hdecoded, ← hnode] at hresult
    exact ⟨p, transfer, now, resp, hpending, rfl, hsource.trans hnode.symm, rfl, hservice, hnode.symm, hdecoded,
      hresult.symm⟩
  | expired hpending hlate => simp at hsent
  | idle hevent => cases hsent

end cyphal_service.transport
