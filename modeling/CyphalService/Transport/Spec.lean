import CyphalService.Transport.Worker

open effect machine
open cyphal_service.pnp
open cyphal_service.pnp.db cyphal_service.pnp.allocator

namespace cyphal_service.transport

/-- The GetInfo result that an effect sends. -/
def Effect.result : Effect → Option GetInfoReply
  | .reply channel (.get_info result) => some ⟨channel, result⟩
  | _ => none

/-- The allocator call of an effect, with its return. -/
def Effect.called : Effect → Option (system.Input × system.Return)
  | .call input output => some (input, output)
  | _ => none

/-- The GetInfo results sent by a list of effects. -/
def results (effects : List Effect) : List GetInfoReply := effects.filterMap (·.result)

/-- The allocator calls made by a list of effects. -/
def calls (effects : List Effect) : List (system.Input × system.Return) := effects.filterMap (·.called)

@[simp] theorem results_nil : results [] = [] := rfl

@[simp] theorem results_append (first second : List Effect) :
    results (first ++ second) = results first ++ results second :=
  List.filterMap_append

@[simp] theorem results_cons (effect : Effect) (effects : List Effect) :
    results (effect :: effects) = effect.result.toList ++ results effects := by
  cases h : effect.result <;> simp [results, h]

@[simp] theorem calls_nil : calls [] = [] := rfl

@[simp] theorem calls_append (first second : List Effect) :
    calls (first ++ second) = calls first ++ calls second :=
  List.filterMap_append

@[simp] theorem calls_cons (effect : Effect) (effects : List Effect) :
    calls (effect :: effects) = effect.called.toList ++ calls effects := by
  cases h : effect.called <;> simp [calls, h]

namespace Worker

theorem start_pnp_allocator (setup : Setup) (table : Table) (ts : String) (now : Instant) :
    (start setup (some (table, ts)) now).pnp_allocator =
      some (system.connect setup.local_node_id setup.kind.max_node_id ts table) := rfl

@[simp] theorem run_update (f : WorkerState → WorkerState) (self : Worker) :
    (update f).run self = ⟨(), [], { self with state := f self.state }⟩ := rfl

@[simp] theorem run_send_reply (channel : ReplyChannel) (message : Reply) (self : Worker) :
    (send_reply channel message).run self = ⟨(), [.reply channel message], self⟩ := rfl

@[simp] theorem run_call (pnp : system.State) (c : system.Call) (now : Readings) (self : Worker) :
    (call pnp c now).run self =
      ⟨(system.step pnp ⟨c, now.current_timestamp⟩).1,
        [.call ⟨c, now.current_timestamp⟩ (system.step pnp ⟨c, now.current_timestamp⟩).1],
        { self with pnp_allocator := some (system.step pnp ⟨c, now.current_timestamp⟩).2 }⟩ := rfl

theorem run_on_get_info_result (self : Worker) {pnp post : system.State} {node_id : UInt16}
    {uid : Option UniqueId} {now : Readings} (hpnp : self.pnp_allocator = some pnp)
    (hreport : system.step pnp ⟨.on_get_info_result node_id uid, now.current_timestamp⟩ = (.unit, post)) :
    (on_get_info_result node_id uid now).run self =
      ⟨(), [.call ⟨.on_get_info_result node_id uid, now.current_timestamp⟩ .unit],
        { self with pnp_allocator := some post }⟩ := by
  simp [on_get_info_result, hpnp, hreport]

end Worker

/-- The allocator call that a message stands for. -/
def Setup.message_call (setup : Setup) (transfer : MessageTransfer) (now : Readings) : Option system.Call :=
  if transfer.subject = HEARTBEAT_SUBJECT then
    (setup.codec.heartbeat transfer.payload).map fun _ =>
      .on_heartbeat (transfer.source.getD 0xFFFF) now.first now.second
  else if transfer.subject = PNP_V2_SUBJECT then
    (setup.codec.allocation_v2 transfer.payload).map (.on_allocation_v2 · transfer.source)
  else if transfer.subject = PNP_V1_SUBJECT then
    (setup.codec.allocation_v1 transfer.payload).map (.on_allocation_v1 · transfer.source)
  else none

/-- The three kinds of message that reach the allocator. -/
theorem Setup.message_call_cases {setup : Setup} {transfer : MessageTransfer} {now : Readings} {c : system.Call}
    (hcall : setup.message_call transfer now = some c) :
    (∃ hb, transfer.subject = HEARTBEAT_SUBJECT ∧ setup.codec.heartbeat transfer.payload = some hb ∧
      c = .on_heartbeat (transfer.source.getD 0xFFFF) now.first now.second) ∨
    (∃ msg, transfer.subject = PNP_V2_SUBJECT ∧ setup.codec.allocation_v2 transfer.payload = some msg ∧
      c = .on_allocation_v2 msg transfer.source) ∨
    (∃ msg, transfer.subject = PNP_V1_SUBJECT ∧ setup.codec.allocation_v1 transfer.payload = some msg ∧
      c = .on_allocation_v1 msg transfer.source) := by
  unfold Setup.message_call at hcall
  split at hcall
  case isTrue hheartbeat =>
    obtain ⟨hb, hdecoded, rfl⟩ := Option.map_eq_some_iff.1 hcall
    exact .inl ⟨hb, hheartbeat, hdecoded, rfl⟩
  case isFalse =>
    split at hcall
    case isTrue hv2 =>
      obtain ⟨msg, hdecoded, rfl⟩ := Option.map_eq_some_iff.1 hcall
      exact .inr (.inl ⟨msg, hv2, hdecoded, rfl⟩)
    case isFalse =>
      split at hcall
      case isTrue hv1 =>
        obtain ⟨msg, hdecoded, rfl⟩ := Option.map_eq_some_iff.1 hcall
        exact .inr (.inr ⟨msg, hv1, hdecoded, rfl⟩)
      case isFalse => cases hcall

/-- What the worker publishes for the return of an allocator call. -/
def published : system.Return → List Effect
  | .allocation_v1 (some response) => [.publish_v1 response]
  | .allocation_v2 (some response) => [.publish_v2 response]
  | _ => []

@[simp] theorem results_published (output : system.Return) : results (published output) = [] := by
  unfold published
  split <;> rfl

@[simp] theorem calls_published (output : system.Return) : calls (published output) = [] := by
  unfold published
  split <;> rfl

/-- Two worker states that wait for the same GetInfo responses. -/
def WorkerState.SamePending (a b : WorkerState) : Prop :=
  a.pending_get_info = b.pending_get_info ∧ a.pnp_pending_get_info = b.pnp_pending_get_info

theorem WorkerState.register_local_node_pending (state : WorkerState) (node_id : UInt16) :
    (state.register_local_node node_id).SamePending state := by
  unfold WorkerState.register_local_node
  split <;> exact ⟨rfl, rfl⟩

theorem WorkerState.tick_local_node_pending (state : WorkerState) (node_id : UInt16) :
    (state.tick_local_node node_id).SamePending state := by
  have hregister := state.register_local_node_pending node_id
  unfold WorkerState.tick_local_node
  cases hnode : (state.register_local_node node_id).observed_nodes.lookup node_id with
  | none =>
    simp only [hnode]
    exact hregister
  | some node =>
    simp only [hnode]
    exact hregister

theorem Worker.start_pending_get_info (setup : Setup) (pnp : Option (Table × String)) (now : Instant) :
    (Worker.start setup pnp now).state.pending_get_info = none :=
  (WorkerState.default.register_local_node_pending setup.local_node_id).1

namespace Worker

theorem run_answer_allocation (pnp : system.State) (request : system.Call) (now : Readings) (self : Worker) :
    ∃ state : WorkerState, (answer_allocation pnp request now).run self =
        ⟨(), .call ⟨request, now.current_timestamp⟩ (system.step pnp ⟨request, now.current_timestamp⟩).1 ::
            published (system.step pnp ⟨request, now.current_timestamp⟩).1,
          ⟨state, some (system.step pnp ⟨request, now.current_timestamp⟩).2, self.last_second⟩⟩ ∧
      state.SamePending self.state := by
  generalize houtput : (system.step pnp ⟨request, now.current_timestamp⟩).1 = output
  match output with
  | .allocation_v1 (some response) =>
    refine ⟨self.state.on_pnp_allocated, ?_, rfl, rfl⟩
    simp [answer_allocation, houtput, published]
  | .allocation_v2 (some response) =>
    refine ⟨self.state.on_pnp_allocated, ?_, rfl, rfl⟩
    simp [answer_allocation, houtput, published]
  | .allocation_v1 none => exact ⟨self.state, by simp [answer_allocation, houtput, published], rfl, rfl⟩
  | .allocation_v2 none => exact ⟨self.state, by simp [answer_allocation, houtput, published], rfl, rfl⟩
  | .popped node_id => exact ⟨self.state, by simp [answer_allocation, houtput, published], rfl, rfl⟩
  | .unit => exact ⟨self.state, by simp [answer_allocation, houtput, published], rfl, rfl⟩

/-- A message that stands for an allocator call makes this one call and leaves
the pending requests alone. -/
theorem run_handle_message_of_call {setup : Setup} {transfer : MessageTransfer} {now : Readings} {self : Worker}
    {pnp : system.State} {c : system.Call} (hpnp : self.pnp_allocator = some pnp)
    (hcall : setup.message_call transfer now = some c) :
    ∃ state : WorkerState, (handle_message setup transfer now).run self =
        ⟨true, .call ⟨c, now.current_timestamp⟩ (system.step pnp ⟨c, now.current_timestamp⟩).1 ::
            published (system.step pnp ⟨c, now.current_timestamp⟩).1,
          ⟨state, some (system.step pnp ⟨c, now.current_timestamp⟩).2, self.last_second⟩⟩ ∧
      state.SamePending self.state := by
  rcases Setup.message_call_cases hcall with
    ⟨hb, hheartbeat, hdecoded, rfl⟩ | ⟨msg, hv2, hdecoded, rfl⟩ | ⟨msg, hv1, hdecoded, rfl⟩
  · refine ⟨self.state.on_heartbeat (transfer.source.getD 0xFFFF) hb.uptime hb.health hb.mode now.third,
      ?_, rfl, rfl⟩
    simp [handle_message, hheartbeat, hdecoded, hpnp, system.step_on_heartbeat, published]
  · have hheartbeat : transfer.subject ≠ HEARTBEAT_SUBJECT := by
      rw [hv2]
      decide
    obtain ⟨state, hrun, hsame⟩ := run_answer_allocation pnp (.on_allocation_v2 msg transfer.source) now self
    refine ⟨state, ?_, hsame⟩
    simp only [handle_message, if_neg hheartbeat, if_pos hv2, hdecoded, hpnp, Logged.run_bind, Logged.run_get,
      Logged.run_pure, hrun, List.nil_append, List.append_nil]
  · have hheartbeat : transfer.subject ≠ HEARTBEAT_SUBJECT := by
      rw [hv1]
      decide
    have hv2 : transfer.subject ≠ PNP_V2_SUBJECT := by
      rw [hv1]
      decide
    obtain ⟨state, hrun, hsame⟩ := run_answer_allocation pnp (.on_allocation_v1 msg transfer.source) now self
    refine ⟨state, ?_, hsame⟩
    simp only [handle_message, if_neg hheartbeat, if_neg hv2, if_pos hv1, hdecoded, hpnp, Logged.run_bind,
      Logged.run_get, Logged.run_pure, hrun, List.nil_append, List.append_nil]

/-- A malformed message, or one on a subject the worker does not serve, changes
nothing. -/
theorem run_handle_message_of_no_call {setup : Setup} {transfer : MessageTransfer} {now : Readings} (self : Worker)
    (hcall : setup.message_call transfer now = none) :
    ∃ handled, (handle_message setup transfer now).run self = ⟨handled, [], self⟩ := by
  by_cases hheartbeat : transfer.subject = HEARTBEAT_SUBJECT
  · simp only [Setup.message_call, if_pos hheartbeat, Option.map_eq_none_iff] at hcall
    exact ⟨false, by simp [handle_message, hheartbeat, hcall]⟩
  · cases hpnp : self.pnp_allocator with
    | none => exact ⟨false, by simp [handle_message, hheartbeat, hpnp]⟩
    | some pnp =>
      by_cases hv2 : transfer.subject = PNP_V2_SUBJECT
      · simp only [Setup.message_call, if_neg hheartbeat, if_pos hv2, Option.map_eq_none_iff] at hcall
        exact ⟨true, by simp only [handle_message, if_neg hheartbeat, if_pos hv2, hcall, hpnp,
          Logged.run_bind, Logged.run_get, Logged.run_pure, List.nil_append]⟩
      · by_cases hv1 : transfer.subject = PNP_V1_SUBJECT
        · simp only [Setup.message_call, if_neg hheartbeat, if_neg hv2, if_pos hv1,
            Option.map_eq_none_iff] at hcall
          exact ⟨true, by simp only [handle_message, if_neg hheartbeat, if_neg hv2, if_pos hv1, hcall, hpnp,
            Logged.run_bind, Logged.run_get, Logged.run_pure, List.nil_append]⟩
        · exact ⟨false, by simp only [handle_message, if_neg hheartbeat, if_neg hv2, if_neg hv1, hpnp,
            Logged.run_bind, Logged.run_get, Logged.run_pure, List.nil_append]⟩

/-- Without an allocator a message reaches no more than the worker state. -/
theorem run_handle_message_of_no_pnp (setup : Setup) (transfer : MessageTransfer) (now : Readings) {self : Worker}
    (hpnp : self.pnp_allocator = none) :
    ∃ handled state, (handle_message setup transfer now).run self =
        ⟨handled, [], { self with state }⟩ ∧ state.SamePending self.state := by
  by_cases hheartbeat : transfer.subject = HEARTBEAT_SUBJECT
  · cases hdecoded : setup.codec.heartbeat transfer.payload with
    | none => exact ⟨false, self.state, by simp [handle_message, hheartbeat, hdecoded], rfl, rfl⟩
    | some hb =>
      refine ⟨true, self.state.on_heartbeat (transfer.source.getD 0xFFFF) hb.uptime hb.health hb.mode now.third,
        ?_, rfl, rfl⟩
      simp [handle_message, hheartbeat, hdecoded, hpnp]
  · have hrun : (handle_message setup transfer now).run self = ⟨false, [], self⟩ := by
      simp [handle_message, hheartbeat, hpnp]
    exact ⟨false, self.state, hrun, rfl, rfl⟩

theorem any_of_matches {α : Type} {pending : Option α} {node_id : α → UInt16} {source : UInt16} :
    pending.any (fun p => node_id p = source) = true ↔ ∃ p, pending = some p ∧ node_id p = source := by
  cases pending <;> simp

theorem run_handle_response_of_ignored {setup : Setup} {transfer : ServiceTransfer} {now : Readings} {self : Worker}
    (h : transfer.service = GET_INFO_SERVICE →
      self.state.pending_get_info.any (·.node_id = transfer.source) = false ∧
        self.state.pnp_pending_get_info.any (·.node_id = transfer.source) = false) :
    (handle_response setup transfer now).run self = ⟨false, [], self⟩ := by
  by_cases hservice : transfer.service = GET_INFO_SERVICE
  · obtain ⟨hcli, hpnp⟩ := h hservice
    simp [handle_response, hservice, hcli, hpnp]
  · simp [handle_response, hservice]

/-- The caller's side of a response: the pending request gets its result. -/
theorem run_answer_cli {self : Worker} {p : PendingGetInfo} (hpending : self.state.pending_get_info = some p)
    (source : UInt16) (parsed : Option GetInfoResponse) :
    results ((answer_cli true source parsed).run self).log = [⟨p.reply, get_info_result source parsed⟩] ∧
      ((answer_cli true source parsed).run self).state.state.pending_get_info = none := by
  simp [answer_cli, replying, WorkerState.on_get_info_response, hpending, Effect.result]

theorem answer_cli_frame (matched : Bool) (source : UInt16) (parsed : Option GetInfoResponse) (self : Worker) :
    calls ((answer_cli matched source parsed).run self).log = [] ∧
      ((answer_cli matched source parsed).run self).state.pnp_allocator = self.pnp_allocator ∧
      ((answer_cli matched source parsed).run self).state.state.pnp_pending_get_info =
        self.state.pnp_pending_get_info := by
  cases matched with
  | false => simp [answer_cli]
  | true =>
    cases hpending : self.state.pending_get_info <;>
      simp [answer_cli, replying, WorkerState.on_get_info_response, hpending, Effect.called]

/-- The allocator's side of a response: the result is reported. -/
theorem run_answer_pnp {self : Worker} {pnp post : system.State} (hpnp : self.pnp_allocator = some pnp)
    {source : UInt16} {parsed : Option GetInfoResponse} {now : Readings}
    (hreport : system.step pnp
      ⟨.on_get_info_result source (parsed.map (·.unique_id)), now.current_timestamp⟩ = (.unit, post)) :
    calls ((answer_pnp true source parsed now).run self).log =
        [(⟨.on_get_info_result source (parsed.map (·.unique_id)), now.current_timestamp⟩, .unit)] ∧
      ((answer_pnp true source parsed now).run self).state.pnp_allocator = some post ∧
      ((answer_pnp true source parsed now).run self).state.state.pnp_pending_get_info = none := by
  simp [answer_pnp, on_get_info_result, hpnp, hreport, Effect.called]

theorem answer_pnp_frame (matched : Bool) (source : UInt16) (parsed : Option GetInfoResponse) (now : Readings)
    (self : Worker) :
    results ((answer_pnp matched source parsed now).run self).log = [] ∧
      ((answer_pnp matched source parsed now).run self).state.state.pending_get_info =
        self.state.pending_get_info := by
  cases matched with
  | false => simp [answer_pnp]
  | true =>
    cases hpnp : self.pnp_allocator <;> simp [answer_pnp, on_get_info_result, hpnp, Effect.result]

theorem run_list_allocations (setup : Setup) (reply : ReplyChannel) (sent : SendOutcome) (now : Readings)
    (self : Worker) :
    ∃ entries, (handle_command setup (.ListAllocations reply) sent now).run self =
      ⟨(), [.reply reply (.allocations entries)], self⟩ := by
  cases hpnp : self.pnp_allocator with
  | none => exact ⟨[], by simp [handle_command, hpnp]⟩
  | some pnp =>
    exact ⟨(PnpAllocator.list_allocations.run (exec now.current_timestamp) pnp.table).1,
      by simp [handle_command, hpnp]⟩

theorem run_get_info_of_accepted {setup : Setup} {node_id : UInt16} {sent : SendOutcome} (reply : ReplyChannel)
    (now : Readings) (self : Worker)
    (h : (setup.kind.command_target node_id).toBool ∧ setup.get_info_token ∧ sent.toBool) :
    ∃ target, (handle_command setup (.GetInfo node_id reply) sent now).run self =
      ⟨(), [.send_request target], { self with state := { self.state.on_get_info_request_sent with
        pending_get_info := some ⟨node_id, reply, now.first + Duration.from_secs 3⟩ } }⟩ := by
  obtain ⟨htarget, htoken, hsent⟩ := h
  cases hto : setup.kind.command_target node_id with
  | error message =>
    rw [hto] at htarget
    cases htarget
  | ok target =>
    cases sent with
    | error e => cases hsent
    | ok sent => exact ⟨target, by simp [handle_command, hto, htoken]⟩

/-- A GetInfo command whose request is not sent is answered with an error at
once. -/
theorem run_get_info_of_refused {setup : Setup} {node_id : UInt16} {sent : SendOutcome} (reply : ReplyChannel)
    (now : Readings) (self : Worker)
    (h : ¬ ((setup.kind.command_target node_id).toBool ∧ setup.get_info_token ∧ sent.toBool)) :
    ∃ message effects state, (handle_command setup (.GetInfo node_id reply) sent now).run self =
        ⟨(), effects, { self with state }⟩ ∧
      results effects = [⟨reply, .error message⟩] ∧ calls effects = [] ∧ state.SamePending self.state := by
  cases htarget : setup.kind.command_target node_id with
  | error message =>
    refine ⟨message, [.reply reply (.get_info (.error message))], self.state, ?_, rfl, rfl, rfl, rfl⟩
    simp [handle_command, htarget]
  | ok target =>
    cases htoken : setup.get_info_token with
    | false =>
      refine ⟨_, [.reply reply (.get_info (.error "GetInfo requester not available"))],
        self.state.record_error "GetInfo requester not available", ?_, rfl, rfl, rfl, rfl⟩
      simp [handle_command, htarget, htoken]
    | true =>
      cases sent with
      | ok sent => exact absurd ⟨by rw [htarget]; rfl, htoken, rfl⟩ h
      | error e =>
        refine ⟨_, [.send_request target,
            .reply reply (.get_info (.error s!"Failed to send GetInfo request: {e}"))],
          self.state.record_error s!"GetInfo request send failed: {e}", ?_, rfl, rfl, rfl, rfl⟩
        simp [handle_command, htarget, htoken]

theorem run_check_get_info_of_expired {self : Worker} {p : PendingGetInfo} {now : Instant}
    (hpending : self.state.pending_get_info = some p) (hlate : p.deadline < now) :
    (check_get_info_timeout now).run self =
      ⟨(), [.reply p.reply (.get_info (.error "GetInfo request timed out"))],
        { self with state := { self.state with pending_get_info := none } }⟩ := by
  simp [check_get_info_timeout, replying, WorkerState.check_get_info_timeout, hpending, hlate]

theorem run_check_get_info_of_waiting {self : Worker} {now : Instant}
    (h : ∀ p, self.state.pending_get_info = some p → ¬ p.deadline < now) :
    (check_get_info_timeout now).run self = ⟨(), [], self⟩ := by
  cases hpending : self.state.pending_get_info with
  | none => simp [check_get_info_timeout, replying, WorkerState.check_get_info_timeout, hpending]
  | some p =>
    simp [check_get_info_timeout, replying, WorkerState.check_get_info_timeout, hpending, h p hpending]

/-- A PNP GetInfo that expired is reported as failed. -/
theorem run_check_pnp_get_info_of_expired {self : Worker} {p : PnpGetInfoPending} {now : Readings}
    (hpending : self.state.pnp_pending_get_info = some p) (hlate : p.deadline < now.first) :
    (check_pnp_get_info_timeout now).run self =
      (on_get_info_result p.node_id none now).run
        { self with state := { self.state with pnp_pending_get_info := none } } := by
  simp [check_pnp_get_info_timeout, WorkerState.check_pnp_get_info_timeout, hpending, hlate]

theorem run_check_pnp_get_info_of_waiting {self : Worker} {now : Readings}
    (h : ∀ p, self.state.pnp_pending_get_info = some p → ¬ p.deadline < now.first) :
    (check_pnp_get_info_timeout now).run self = ⟨(), [], self⟩ := by
  cases hpending : self.state.pnp_pending_get_info with
  | none => simp [check_pnp_get_info_timeout, WorkerState.check_pnp_get_info_timeout, hpending]
  | some p => simp [check_pnp_get_info_timeout, WorkerState.check_pnp_get_info_timeout, hpending, h p hpending]

theorem run_on_receive_error (setup : Setup) (e : ReceiveError) (self : Worker) :
    ∃ state : WorkerState, (on_receive_error setup e).run self = ⟨(), [], { self with state }⟩ ∧
      state.SamePending self.state := by
  by_cases hignored : e.kind ∈ setup.kind.ignored
  · exact ⟨self.state, by simp [on_receive_error, hignored], rfl, rfl⟩
  · exact ⟨self.state.record_error s!"Receive error: {e.debug}", by simp [on_receive_error, hignored], rfl, rfl⟩

theorem run_per_second (setup : Setup) (tested_at ticked_at : Instant) (self : Worker) :
    ∃ (state : WorkerState) (last_second : Instant), (per_second setup tested_at ticked_at).run self =
        ⟨(), [], ⟨state, self.pnp_allocator, last_second⟩⟩ ∧ state.SamePending self.state := by
  by_cases hsecond : elapsed self.last_second tested_at ≥ Duration.from_secs 1
  · refine ⟨self.state.tick_local_node setup.local_node_id, ticked_at, ?_,
      self.state.tick_local_node_pending setup.local_node_id⟩
    simp [per_second, hsecond]
  · exact ⟨self.state, self.last_second, by simp [per_second, hsecond], rfl, rfl⟩

/-- The GetInfo of a popped node ID is sent, or reported as failed on the spot. -/
theorem run_send_pnp_get_info (setup : Setup) (node_id : UInt16) (sent : SendOutcome) (now : Readings)
    (self : Worker) :
    (∃ target, (send_pnp_get_info setup node_id sent now).run self =
      ⟨(), [.send_request target], { self with state := { self.state.on_get_info_request_sent with
        pnp_pending_get_info := some ⟨node_id, now.first + Duration.from_secs 5⟩ } }⟩) ∨
    ∃ tried, results tried = [] ∧ calls tried = [] ∧ (send_pnp_get_info setup node_id sent now).run self =
      ⟨(), tried ++ ((on_get_info_result node_id none now).run self).log,
        ((on_get_info_result node_id none now).run self).state⟩ := by
  cases htoken : setup.get_info_token with
  | false =>
    right
    exact ⟨[], rfl, rfl, by simp [send_pnp_get_info, htoken]⟩
  | true =>
    cases htarget : setup.kind.dispatch_target node_id with
    | none =>
      right
      exact ⟨[], rfl, rfl, by simp [send_pnp_get_info, htoken, htarget]⟩
    | some target =>
      cases sent with
      | ok sent =>
        left
        exact ⟨target, by simp [send_pnp_get_info, htoken, htarget]⟩
      | error e =>
        right
        exact ⟨[.send_request target], rfl, rfl, by simp [send_pnp_get_info, htoken, htarget]⟩

theorem run_dispatch_of_pending {setup : Setup} {sent : SendOutcome} {now : Readings} {self : Worker}
    {p : PnpGetInfoPending} (hpending : self.state.pnp_pending_get_info = some p) :
    (dispatch_pnp_get_info setup sent now).run self = ⟨(), [], self⟩ := by
  simp [dispatch_pnp_get_info, hpending]

theorem run_dispatch_of_no_pnp {setup : Setup} {sent : SendOutcome} {now : Readings} {self : Worker}
    (hpnp : self.pnp_allocator = none) : (dispatch_pnp_get_info setup sent now).run self = ⟨(), [], self⟩ := by
  cases hpending : self.state.pnp_pending_get_info <;> simp [dispatch_pnp_get_info, hpending, hpnp]

theorem run_dispatch_of_unpopped {setup : Setup} {sent : SendOutcome} {now : Readings} {self : Worker}
    {pnp post : system.State} (hpending : self.state.pnp_pending_get_info = none)
    (hpnp : self.pnp_allocator = some pnp)
    (hpop : system.step pnp ⟨.pop_get_info_request, now.current_timestamp⟩ = (.popped none, post)) :
    (dispatch_pnp_get_info setup sent now).run self =
      ⟨(), [.call ⟨.pop_get_info_request, now.current_timestamp⟩ (.popped none)],
        { self with pnp_allocator := some post }⟩ := by
  simp [dispatch_pnp_get_info, hpending, hpnp, hpop]

/-- A popped node ID goes on to `send_pnp_get_info`. -/
theorem run_dispatch_of_popped {setup : Setup} {sent : SendOutcome} {now : Readings} {self : Worker}
    {pnp popped : system.State} {node_id : UInt16} (hpending : self.state.pnp_pending_get_info = none)
    (hpnp : self.pnp_allocator = some pnp)
    (hpop : system.step pnp ⟨.pop_get_info_request, now.current_timestamp⟩ = (.popped (some node_id), popped)) :
    (dispatch_pnp_get_info setup sent now).run self =
      let rest := (send_pnp_get_info setup node_id sent now).run { self with pnp_allocator := some popped }
      ⟨(), .call ⟨.pop_get_info_request, now.current_timestamp⟩ (.popped (some node_id)) :: rest.log,
        rest.state⟩ := by
  simp [dispatch_pnp_get_info, hpending, hpnp, hpop]

/-- A handled response answers the caller, then reports to the allocator. -/
theorem run_handle_response {setup : Setup} {transfer : ServiceTransfer} {now : Readings} {self : Worker}
    (hservice : transfer.service = GET_INFO_SERVICE) {cli pnp : Bool}
    (hcli : self.state.pending_get_info.any (·.node_id = transfer.source) = cli)
    (hpnp : self.state.pnp_pending_get_info.any (·.node_id = transfer.source) = pnp) (h : cli || pnp) :
    (handle_response setup transfer now).run self =
      (do
        answer_cli cli transfer.source (setup.codec.get_info_response transfer.payload)
        answer_pnp pnp transfer.source (setup.codec.get_info_response transfer.payload) now
        update (·.on_message_received now.first)
        return true : Work Bool).run self := by
  have hmatches : ¬ (cli = false ∧ pnp = false) := by
    rintro ⟨rfl, rfl⟩
    cases h
  simp [handle_response, hservice, hcli, hpnp, hmatches]

end Worker

end cyphal_service.transport
