import CyphalService.Transport.Spec

open effect machine
open cyphal_service.pnp
open cyphal_service.pnp.db cyphal_service.pnp.allocator

namespace cyphal_service.transport

/-- What an event does with the allocator and its GetInfo in flight: from the
allocator before it, the calls with their returns, to the allocator and the
pending request after it. -/
inductive Managed (setup : Setup) (pnp : system.State) (pending : Option PnpGetInfoPending) :
    Event → List (system.Input × system.Return) → system.State → Option PnpGetInfoPending → Prop where
  | idle {event : Event} : Managed setup pnp pending event [] pnp pending
  | called {transfer : MessageTransfer} {now : Readings} {c : system.Call} {output : system.Return}
      {post : system.State} (hcall : setup.message_call transfer now = some c)
      (hstep : system.step pnp ⟨c, now.current_timestamp⟩ = (output, post)) :
      Managed setup pnp pending (.message transfer now) [(⟨c, now.current_timestamp⟩, output)] post pending
  | unpopped {sent : SendOutcome} {now : Readings} {post : system.State} (hpending : pending = none)
      (hpop : system.step pnp ⟨.pop_get_info_request, now.current_timestamp⟩ = (.popped none, post)) :
      Managed setup pnp pending (.dispatch_pnp_get_info sent now)
        [(⟨.pop_get_info_request, now.current_timestamp⟩, .popped none)] post none
  | sent {sent : SendOutcome} {now : Readings} {node_id : UInt16} {post : system.State}
      (hpending : pending = none)
      (hpop : system.step pnp ⟨.pop_get_info_request, now.current_timestamp⟩ = (.popped (some node_id), post)) :
      Managed setup pnp pending (.dispatch_pnp_get_info sent now)
        [(⟨.pop_get_info_request, now.current_timestamp⟩, .popped (some node_id))] post
        (some ⟨node_id, now.first + Duration.from_secs 5⟩)
  | unsent {sent : SendOutcome} {now : Readings} {node_id : UInt16} {popped post : system.State}
      (hpending : pending = none)
      (hpop : system.step pnp ⟨.pop_get_info_request, now.current_timestamp⟩ = (.popped (some node_id), popped))
      (hreport : system.step popped ⟨.on_get_info_result node_id none, now.current_timestamp⟩ = (.unit, post)) :
      Managed setup pnp pending (.dispatch_pnp_get_info sent now)
        [(⟨.pop_get_info_request, now.current_timestamp⟩, .popped (some node_id)),
          (⟨.on_get_info_result node_id none, now.current_timestamp⟩, .unit)] post none
  | expired {now : Readings} {p : PnpGetInfoPending} {post : system.State} (hpending : pending = some p)
      (hreport : system.step pnp ⟨.on_get_info_result p.node_id none, now.current_timestamp⟩ = (.unit, post)) :
      Managed setup pnp pending (.check_pnp_get_info_timeout now)
        [(⟨.on_get_info_result p.node_id none, now.current_timestamp⟩, .unit)] post none
  | resolved {transfer : ServiceTransfer} {now : Readings} {p : PnpGetInfoPending} {uid : Option UniqueId}
      {post : system.State} (hpending : pending = some p) (hservice : transfer.service = GET_INFO_SERVICE)
      (hsource : p.node_id = transfer.source)
      (huid : uid = (setup.codec.get_info_response transfer.payload).map (·.unique_id))
      (hreport : system.step pnp ⟨.on_get_info_result transfer.source uid, now.current_timestamp⟩ = (.unit, post)) :
      Managed setup pnp pending (.response transfer now)
        [(⟨.on_get_info_result transfer.source uid, now.current_timestamp⟩, .unit)] post none

/-- The worker's part of the allocator: what `Managed` relates. -/
private abbrev Manages (setup : Setup) (self : Worker) (pnp : system.State) (event : Event)
    (effects : List Effect) (post : Worker) : Prop :=
  ∃ pnp', post.pnp_allocator = some pnp' ∧
    Managed setup pnp self.state.pnp_pending_get_info event (calls effects) pnp'
      post.state.pnp_pending_get_info

private theorem manages_of_frame {setup : Setup} {self post : Worker} {pnp : system.State} {event : Event}
    {effects : List Effect} (hpnp : self.pnp_allocator = some pnp) (hcalls : calls effects = [])
    (hallocator : post.pnp_allocator = self.pnp_allocator)
    (hpending : post.state.pnp_pending_get_info = self.state.pnp_pending_get_info) :
    Manages setup self pnp event effects post := by
  refine ⟨pnp, hallocator.trans hpnp, ?_⟩
  rw [hcalls, hpending]
  exact .idle

private theorem manages_of_quiet {setup : Setup} {self : Worker} {pnp : system.State} {event : Event}
    {state : WorkerState} {last_second : Instant} (hpnp : self.pnp_allocator = some pnp)
    (hsame : state.SamePending self.state) :
    Manages setup self pnp event [] ⟨state, self.pnp_allocator, last_second⟩ :=
  manages_of_frame hpnp rfl rfl hsame.2

private theorem manages_of_command {setup : Setup} {self : Worker} {pnp : system.State}
    (hpnp : self.pnp_allocator = some pnp) (cmd : TransportCommand) (sent : SendOutcome) (now : Readings) :
    Manages setup self pnp (.command cmd sent now)
      ((Worker.handle_command setup cmd sent now).run self).log
      ((Worker.handle_command setup cmd sent now).run self).state := by
  cases cmd with
  | ListNodes reply => exact manages_of_frame hpnp rfl rfl rfl
  | Diagnostics reply => exact manages_of_frame hpnp rfl rfl rfl
  | ListAllocations reply =>
    obtain ⟨entries, hrun⟩ := Worker.run_list_allocations setup reply sent now self
    rw [hrun]
    exact manages_of_frame hpnp rfl rfl rfl
  | GetInfo node_id reply =>
    by_cases haccepted : (setup.kind.command_target node_id).toBool ∧ setup.get_info_token ∧ sent.toBool
    · obtain ⟨target, hrun⟩ := Worker.run_get_info_of_accepted reply now self haccepted
      rw [hrun]
      exact manages_of_frame hpnp rfl rfl rfl
    · obtain ⟨message, effects, state, hrun, -, hcalls, hsame⟩ :=
        Worker.run_get_info_of_refused reply now self haccepted
      rw [hrun]
      exact manages_of_frame hpnp hcalls rfl hsame.2

private theorem manages_of_get_info_timeout {setup : Setup} {self : Worker} {pnp : system.State}
    (hpnp : self.pnp_allocator = some pnp) (now : Instant) :
    Manages setup self pnp (.check_get_info_timeout now)
      ((Worker.check_get_info_timeout now).run self).log
      ((Worker.check_get_info_timeout now).run self).state := by
  by_cases hexpired : ∃ p, self.state.pending_get_info = some p ∧ p.deadline < now
  · obtain ⟨p, hpending, hlate⟩ := hexpired
    rw [Worker.run_check_get_info_of_expired hpending hlate]
    exact manages_of_frame hpnp rfl rfl rfl
  · rw [Worker.run_check_get_info_of_waiting fun p hpending hlate => hexpired ⟨p, hpending, hlate⟩]
    exact manages_of_frame hpnp rfl rfl rfl

private theorem reports (pnp : system.State) (node_id : UInt16) (uid : Option UniqueId) (ts : String) :
    ∃ post, system.step pnp ⟨.on_get_info_result node_id uid, ts⟩ = (.unit, post) :=
  ⟨_, Prod.ext (system.step_on_get_info_result pnp node_id uid ts) rfl⟩

private theorem manages_of_response {setup : Setup} {self : Worker} {pnp : system.State}
    (hpnp : self.pnp_allocator = some pnp) (transfer : ServiceTransfer) (now : Readings) :
    Manages setup self pnp (.response transfer now)
      ((Worker.handle_response setup transfer now).run self).log
      ((Worker.handle_response setup transfer now).run self).state := by
  by_cases hservice : transfer.service = GET_INFO_SERVICE
  · cases hmatches : self.state.pnp_pending_get_info.any (·.node_id = transfer.source) with
    | true =>
      obtain ⟨p, hpending, hsource⟩ := Worker.any_of_matches.1 hmatches
      generalize hcli : self.state.pending_get_info.any (·.node_id = transfer.source) = cli
      obtain ⟨hcalls, hallocator, hpending'⟩ := Worker.answer_cli_frame cli transfer.source
        (setup.codec.get_info_response transfer.payload) self
      obtain ⟨post, hreport⟩ := reports pnp transfer.source
        ((setup.codec.get_info_response transfer.payload).map (·.unique_id)) now.current_timestamp
      obtain ⟨hcalled, hpost, hnone⟩ := Worker.run_answer_pnp (hallocator.trans hpnp) hreport
      rw [Worker.run_handle_response hservice hcli hmatches (Bool.or_true cli)]
      refine ⟨post, hpost, ?_⟩
      simp only [Logged.run_bind, Logged.run_pure, Worker.run_update, List.append_nil, calls_append, hcalls,
        hcalled, List.nil_append, WorkerState.on_message_received, hnone]
      exact .resolved hpending hservice hsource rfl hreport
    | false =>
      cases hcli : self.state.pending_get_info.any (·.node_id = transfer.source) with
      | true =>
        obtain ⟨hcalls, hallocator, hpending⟩ := Worker.answer_cli_frame true transfer.source
          (setup.codec.get_info_response transfer.payload) self
        rw [Worker.run_handle_response hservice hcli hmatches rfl]
        apply manages_of_frame hpnp
        · simp [hcalls, Worker.answer_pnp]
        · simpa [Worker.answer_pnp] using hallocator
        · simpa [Worker.answer_pnp, WorkerState.on_message_received] using hpending
      | false =>
        rw [Worker.run_handle_response_of_ignored (fun _ => ⟨hcli, hmatches⟩)]
        exact manages_of_frame hpnp rfl rfl rfl
  · rw [Worker.run_handle_response_of_ignored (fun h => absurd h hservice)]
    exact manages_of_frame hpnp rfl rfl rfl

private theorem manages_of_message {setup : Setup} {self : Worker} {pnp : system.State}
    (hpnp : self.pnp_allocator = some pnp) (transfer : MessageTransfer) (now : Readings) :
    Manages setup self pnp (.message transfer now)
      ((Worker.handle_message setup transfer now).run self).log
      ((Worker.handle_message setup transfer now).run self).state := by
  cases hcall : setup.message_call transfer now with
  | none =>
    obtain ⟨handled, hrun⟩ := Worker.run_handle_message_of_no_call self hcall
    rw [hrun]
    exact manages_of_frame hpnp rfl rfl rfl
  | some c =>
    obtain ⟨state, hrun, hsame⟩ := Worker.run_handle_message_of_call hpnp hcall
    rw [hrun]
    refine ⟨_, rfl, ?_⟩
    rw [hsame.2, calls_cons, calls_published]
    exact .called hcall rfl

private theorem manages_of_dispatch {setup : Setup} {self : Worker} {pnp : system.State}
    (hpnp : self.pnp_allocator = some pnp) (sent : SendOutcome) (now : Readings) :
    Manages setup self pnp (.dispatch_pnp_get_info sent now)
      ((Worker.dispatch_pnp_get_info setup sent now).run self).log
      ((Worker.dispatch_pnp_get_info setup sent now).run self).state := by
  cases hpending : self.state.pnp_pending_get_info with
  | some p =>
    rw [Worker.run_dispatch_of_pending hpending]
    exact manages_of_frame hpnp rfl rfl rfl
  | none =>
    have hpop := system.step_pop_get_info_request pnp now.current_timestamp
    generalize pnp.self.pop_get_info_request.1 = answer at hpop
    generalize (⟨pnp.self.pop_get_info_request.2, pnp.table⟩ : system.State) = popped at hpop
    cases answer with
    | none =>
      rw [Worker.run_dispatch_of_unpopped hpending hpnp hpop]
      refine ⟨popped, rfl, ?_⟩
      rw [hpending]
      exact .unpopped rfl hpop
    | some node_id =>
      have hrest := Worker.run_send_pnp_get_info setup node_id sent now { self with pnp_allocator := some popped }
      rw [Worker.run_dispatch_of_popped hpending hpnp hpop]
      obtain ⟨target, hrun⟩ | ⟨tried, -, htried, hrun⟩ := hrest
      · rw [hrun]
        refine ⟨popped, rfl, ?_⟩
        rw [hpending]
        exact .sent rfl hpop
      · obtain ⟨post, hreport⟩ := reports popped node_id none now.current_timestamp
        have hreported := Worker.run_on_get_info_result { self with pnp_allocator := some popped } rfl hreport
        rw [hrun, hreported]
        refine ⟨post, rfl, ?_⟩
        simp only [calls_cons, calls_append, htried, hpending]
        exact .unsent rfl hpop hreport

private theorem manages_of_timeout {setup : Setup} {self : Worker} {pnp : system.State}
    (hpnp : self.pnp_allocator = some pnp) (now : Readings) :
    Manages setup self pnp (.check_pnp_get_info_timeout now)
      ((Worker.check_pnp_get_info_timeout now).run self).log
      ((Worker.check_pnp_get_info_timeout now).run self).state := by
  by_cases hexpired : ∃ p, self.state.pnp_pending_get_info = some p ∧ p.deadline < now.first
  · obtain ⟨p, hpending, hlate⟩ := hexpired
    obtain ⟨post, hreport⟩ := reports pnp p.node_id none now.current_timestamp
    have hreported := Worker.run_on_get_info_result
      { self with state := { self.state with pnp_pending_get_info := none } } hpnp hreport
    rw [Worker.run_check_pnp_get_info_of_expired hpending hlate, hreported]
    exact ⟨post, rfl, .expired hpending hreport⟩
  · rw [Worker.run_check_pnp_get_info_of_waiting fun p hpending hlate => hexpired ⟨p, hpending, hlate⟩]
    exact manages_of_frame hpnp rfl rfl rfl

/-- A step of a worker with an allocator manages it in one of the ways above. -/
theorem managed_of_step {setup : Setup} {self post : Worker} {event : Event} {effects : List Effect}
    {pnp : system.State} (h : step setup self event = (effects, post)) (hpnp : self.pnp_allocator = some pnp) :
    ∃ pnp', post.pnp_allocator = some pnp' ∧
      Managed setup pnp self.state.pnp_pending_get_info event (calls effects) pnp'
        post.state.pnp_pending_get_info := by
  obtain ⟨rfl, rfl⟩ := Prod.mk.inj h
  cases event with
  | command cmd sent now => exact manages_of_command hpnp cmd sent now
  | check_get_info_timeout now => exact manages_of_get_info_timeout hpnp now
  | dispatch_pnp_get_info sent now => exact manages_of_dispatch hpnp sent now
  | check_pnp_get_info_timeout now => exact manages_of_timeout hpnp now
  | message transfer now =>
    simp only [Event.perform, Logged.run_bind, Logged.run_pure, List.append_nil]
    exact manages_of_message hpnp transfer now
  | response transfer now =>
    simp only [Event.perform, Logged.run_bind, Logged.run_pure, List.append_nil]
    exact manages_of_response hpnp transfer now
  | receive_error e =>
    obtain ⟨state, hrun, hsame⟩ := Worker.run_on_receive_error setup e self
    rw [Event.perform, hrun]
    exact manages_of_quiet hpnp hsame
  | per_second tested_at ticked_at =>
    obtain ⟨state, last_second, hrun, hsame⟩ := Worker.run_per_second setup tested_at ticked_at self
    rw [Event.perform, hrun]
    exact manages_of_quiet hpnp hsame

end cyphal_service.transport
