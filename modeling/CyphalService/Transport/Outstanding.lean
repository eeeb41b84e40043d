import CyphalService.Transport.Reception

open effect effect.Logged machine
open cyphal_service.pnp
open cyphal_service.pnp.db cyphal_service.pnp.allocator

namespace cyphal_service.transport

/-- The GetInfo traffic of a worker: what it waits for and what it has counted. -/
structure Exchange where
  pending_get_info : Option PendingGetInfo
  pnp_pending_get_info : Option PnpGetInfoPending
  get_info_requests_sent : UInt64
  get_info_responses_received : UInt64

def WorkerState.exchange (self : WorkerState) : Exchange where
  pending_get_info := self.pending_get_info
  pnp_pending_get_info := self.pnp_pending_get_info
  get_info_requests_sent := self.get_info_requests_sent
  get_info_responses_received := self.get_info_responses_received

def Worker.exchange (self : Worker) : Exchange := self.state.exchange

/-- What a computation of the worker can do to its GetInfo traffic: nothing, send
a request and wait for it, stop waiting, or take a response for each request it
answers. -/
inductive Exchanges (pre : Exchange) : Exchange → Prop where
  | kept : Exchanges pre pre
  | asked (p : PendingGetInfo) :
      Exchanges pre { pre with
        pending_get_info := some p
        get_info_requests_sent := u64.saturating_add pre.get_info_requests_sent 1 }
  | pnp_asked (p : PnpGetInfoPending) :
      Exchanges pre { pre with
        pnp_pending_get_info := some p
        get_info_requests_sent := u64.saturating_add pre.get_info_requests_sent 1 }
  | expired : Exchanges pre { pre with pending_get_info := none }
  | pnp_expired : Exchanges pre { pre with pnp_pending_get_info := none }
  | answered {cli pnp : Bool} (hcli : cli → pre.pending_get_info.isSome)
      (hpnp : pnp → pre.pnp_pending_get_info.isSome) :
      Exchanges pre { pre with
        pending_get_info := if cli then none else pre.pending_get_info
        pnp_pending_get_info := if pnp then none else pre.pnp_pending_get_info
        get_info_responses_received := counted pnp (counted cli pre.get_info_responses_received) }

/-- How many GetInfo requests wait for their response. -/
def Exchange.outstanding (self : Exchange) : Nat :=
  self.pending_get_info.isSome.toNat + self.pnp_pending_get_info.isSome.toNat

/-- Each response was asked for, and so is each that is still to come, until the
count of the requests stops at its maximum. -/
def Exchange.Balanced (self : Exchange) : Prop :=
  self.get_info_requests_sent.toNat = UInt64.size - 1 ∨
    self.get_info_responses_received.toNat + self.outstanding ≤ self.get_info_requests_sent.toNat

/-- A request that a response answers waits no more. -/
private theorem outstanding_of_taken {α : Type} {taken : Bool} {pending : Option α}
    (h : taken → pending.isSome) :
    (if taken then none else pending).isSome.toNat + taken.toNat = pending.isSome.toNat := by
  cases taken with
  | false => rfl
  | true => simp [h rfl]

theorem Exchange.Balanced.responses_le {self : Exchange} (h : self.Balanced) :
    self.get_info_responses_received ≤ self.get_info_requests_sent := by
  have hbound := self.get_info_responses_received.toNat_lt
  rw [UInt64.le_iff_toNat_le]
  obtain hsaturated | hbalanced := h
  · simp only [UInt64.size] at hsaturated
    omega
  · omega

/-- A request raises both sides by one at least as much as it adds to what is
outstanding. -/
private theorem Exchange.Balanced.ask {pre post : Exchange} (h : pre.Balanced)
    (hsent : post.get_info_requests_sent = u64.saturating_add pre.get_info_requests_sent 1)
    (hreceived : post.get_info_responses_received = pre.get_info_responses_received)
    (houtstanding : post.outstanding ≤ pre.outstanding + 1) : post.Balanced := by
  have hcount : post.get_info_requests_sent.toNat =
      min (pre.get_info_requests_sent.toNat + 1) (UInt64.size - 1) := by
    rw [hsent]
    exact u64.toNat_saturating_add _ 1
  unfold Exchange.Balanced at h ⊢
  rw [hcount, hreceived]
  omega

private theorem Exchange.Balanced.settle {pre post : Exchange} (h : pre.Balanced)
    (hsent : post.get_info_requests_sent = pre.get_info_requests_sent)
    (hbooked : post.get_info_responses_received.toNat + post.outstanding ≤
      pre.get_info_responses_received.toNat + pre.outstanding) : post.Balanced := by
  unfold Exchange.Balanced at h ⊢
  rw [hsent]
  omega

theorem Exchanges.balanced {pre post : Exchange} (h : Exchanges pre post) (hpre : pre.Balanced) :
    post.Balanced := by
  cases h with
  | kept => exact hpre
  | asked p =>
    refine hpre.ask rfl rfl ?_
    simp only [Exchange.outstanding, Option.isSome_some, Bool.toNat_true]
    omega
  | pnp_asked p =>
    refine hpre.ask rfl rfl ?_
    simp only [Exchange.outstanding, Option.isSome_some, Bool.toNat_true]
    omega
  | expired =>
    refine hpre.settle rfl ?_
    simp only [Exchange.outstanding, Option.isSome_none, Bool.toNat_false]
    omega
  | pnp_expired =>
    refine hpre.settle rfl ?_
    simp only [Exchange.outstanding, Option.isSome_none, Bool.toNat_false]
    omega
  | @answered cli pnp hcli hpnp =>
    refine hpre.settle rfl ?_
    have hcli_taken := outstanding_of_taken hcli
    have hpnp_taken := outstanding_of_taken hpnp
    simp only [Exchange.outstanding, toNat_counted]
    omega

theorem WorkerState.register_local_node_exchange (state : WorkerState) (node_id : UInt16) :
    (state.register_local_node node_id).exchange = state.exchange := by
  unfold WorkerState.register_local_node
  split <;> rfl

theorem WorkerState.tick_local_node_exchange (state : WorkerState) (node_id : UInt16) :
    (state.tick_local_node node_id).exchange = state.exchange := by
  have hregister := state.register_local_node_exchange node_id
  unfold WorkerState.tick_local_node
  dsimp only
  split
  · exact hregister
  · exact hregister

namespace Worker

/-- The computation leaves the GetInfo traffic alone. -/
abbrev Unasking {α : Type} (p : Work α) : Prop := Silent exchange (fun _ => false) p

theorem unasking_update {f : WorkerState → WorkerState} (h : ∀ state, (f state).exchange = state.exchange) :
    Unasking (update f) :=
  Silent.modify fun self => h self.state

theorem unasking_on_get_info_result (node_id : UInt16) (uid : Option UniqueId) (now : Readings) :
    Unasking (on_get_info_result node_id uid now) :=
  (stateless_on_get_info_result node_id uid now).viewed WorkerState.exchange

theorem unasking_handle_message (setup : Setup) (transfer : MessageTransfer) (now : Readings) :
    Unasking (handle_message setup transfer now) := by
  refine Silent.get.bind fun self => ?_
  by_cases hheartbeat : transfer.subject = HEARTBEAT_SUBJECT
  · simp only [if_pos hheartbeat]
    cases setup.codec.heartbeat transfer.payload with
    | none => exact Silent.pure false
    | some hb =>
      have hrecorded := (unasking_update (f := (·.on_heartbeat (transfer.source.getD 0xFFFF) hb.uptime hb.health
        hb.mode now.third)) fun _ => rfl).bind fun _ => Silent.pure true
      cases self.pnp_allocator with
      | none => exact hrecorded
      | some pnp =>
        exact ((stateless_call pnp _ now).viewed WorkerState.exchange).bind fun _ => hrecorded
  · simp only [if_neg hheartbeat]
    cases self.pnp_allocator with
    | none => exact Silent.pure false
    | some pnp =>
      have hanswered := fun request =>
        (@silent_answer_allocation _ WorkerState.exchange pnp request now fun _ => rfl).bind
          fun _ => Silent.pure true
      dsimp only
      split
      · cases setup.codec.allocation_v2 transfer.payload with
        | none => exact Silent.pure true
        | some msg => exact hanswered _
      · split
        · cases setup.codec.allocation_v1 transfer.payload with
          | none => exact Silent.pure true
          | some msg => exact hanswered _
        · exact Silent.pure false

theorem exchange_of_answer_cli (cli : Bool) (source : UInt16) (parsed : Option GetInfoResponse) (self : Worker) :
    ((answer_cli cli source parsed).run self).state.exchange =
      { self.exchange with
        pending_get_info := if cli then none else self.exchange.pending_get_info
        get_info_responses_received := counted cli self.exchange.get_info_responses_received } := by
  cases cli with
  | false => rfl
  | true =>
    cases hpending : self.state.pending_get_info <;>
      simp [answer_cli, replying, WorkerState.on_get_info_response, hpending, exchange, WorkerState.exchange,
        counted]

theorem exchange_of_answer_pnp (pnp : Bool) (source : UInt16) (parsed : Option GetInfoResponse) (now : Readings)
    (self : Worker) :
    ((answer_pnp pnp source parsed now).run self).state.exchange =
      { self.exchange with
        pnp_pending_get_info := if pnp then none else self.exchange.pnp_pending_get_info
        get_info_responses_received := counted pnp self.exchange.get_info_responses_received } := by
  cases pnp with
  | false => rfl
  | true =>
    unfold answer_pnp
    rw [if_pos rfl, run_bind]
    exact (unasking_on_get_info_result source _ now _).1

end Worker

private theorem exchanges_of_quiet {self post : Worker} (h : post.exchange = self.exchange) :
    Exchanges self.exchange post.exchange := by
  rw [h]
  exact .kept

private theorem exchanges_of_command (setup : Setup) (cmd : TransportCommand) (sent : SendOutcome) (now : Readings)
    (self : Worker) :
    Exchanges self.exchange ((Worker.handle_command setup cmd sent now).run self).state.exchange := by
  cases cmd with
  | ListNodes reply => exact .kept
  | Diagnostics reply => exact .kept
  | ListAllocations reply =>
    obtain ⟨entries, hrun⟩ := Worker.run_list_allocations setup reply sent now self
    rw [hrun]
    exact .kept
  | GetInfo node_id reply =>
    cases htarget : setup.kind.command_target node_id with
    | error message =>
      refine exchanges_of_quiet ?_
      simp [Worker.handle_command, htarget]
    | ok target =>
      cases htoken : setup.get_info_token with
      | false =>
        refine exchanges_of_quiet ?_
        simp [Worker.handle_command, htarget, htoken]
        rfl
      | true =>
        cases sent with
        | error e =>
          refine exchanges_of_quiet ?_
          simp [Worker.handle_command, htarget, htoken]
          rfl
        | ok sent =>
          simp only [Worker.handle_command, htarget, htoken]
          exact .asked _

private theorem exchanges_of_dispatch (setup : Setup) (sent : SendOutcome) (now : Readings) (self : Worker) :
    Exchanges self.exchange ((Worker.dispatch_pnp_get_info setup sent now).run self).state.exchange := by
  cases hpending : self.state.pnp_pending_get_info with
  | some p =>
    rw [Worker.run_dispatch_of_pending hpending]
    exact .kept
  | none =>
    cases hpnp : self.pnp_allocator with
    | none =>
      rw [Worker.run_dispatch_of_no_pnp hpnp]
      exact .kept
    | some pnp =>
      have hpop := system.step_pop_get_info_request pnp now.current_timestamp
      cases hpopped : pnp.self.pop_get_info_request.1 with
      | none =>
        rw [hpopped] at hpop
        rw [Worker.run_dispatch_of_unpopped hpending hpnp hpop]
        exact .kept
      | some node_id =>
        rw [hpopped] at hpop
        rw [Worker.run_dispatch_of_popped hpending hpnp hpop]
        generalize hpost : ({ self with pnp_allocator := _ } : Worker) = popped
        have hsame : popped.exchange = self.exchange := by
          rw [← hpost]
          rfl
        rw [← hsame]
        rcases Worker.run_send_pnp_get_info setup node_id sent now popped with
          ⟨target, hrun⟩ | ⟨tried, -, -, hrun⟩
        · rw [hrun]
          exact .pnp_asked _
        · rw [hrun]
          exact exchanges_of_quiet (Worker.unasking_on_get_info_result node_id none now popped).1

private theorem exchanges_of_response (setup : Setup) (transfer : ServiceTransfer) (now : Readings) (self : Worker) :
    Exchanges self.exchange ((Worker.handle_response setup transfer now).run self).state.exchange := by
  by_cases hservice : transfer.service = GET_INFO_SERVICE
  · generalize hcli : self.state.pending_get_info.any (·.node_id = transfer.source) = cli
    generalize hpnp : self.state.pnp_pending_get_info.any (·.node_id = transfer.source) = pnp
    by_cases hhandled : (cli || pnp) = true
    · rw [Worker.run_handle_response hservice hcli hpnp hhandled]
      generalize setup.codec.get_info_response transfer.payload = parsed
      have hanswered := Worker.exchange_of_answer_pnp pnp transfer.source parsed now
        ((Worker.answer_cli cli transfer.source parsed).run self).state
      rw [Worker.exchange_of_answer_cli] at hanswered
      have hkept : ∀ worker : Worker, Worker.exchange
          { worker with state := worker.state.on_message_received now.first } = worker.exchange := fun _ => rfl
      simp only [run_bind, run_pure, Worker.run_update, hkept, hanswered]
      refine .answered (fun hmatched => ?_) fun hmatched => ?_
      · obtain ⟨p, hpending, -⟩ := Worker.any_of_matches.1 (hcli.trans hmatched)
        exact Option.isSome_iff_exists.2 ⟨p, hpending⟩
      · obtain ⟨p, hpending, -⟩ := Worker.any_of_matches.1 (hpnp.trans hmatched)
        exact Option.isSome_iff_exists.2 ⟨p, hpending⟩
    · obtain ⟨rfl, rfl⟩ : cli = false ∧ pnp = false := by simpa using hhandled
      rw [Worker.run_handle_response_of_ignored fun _ => ⟨hcli, hpnp⟩]
      exact .kept
  · rw [Worker.run_handle_response_of_ignored (fun h => absurd h hservice)]
    exact .kept

/-- A step of the worker changes its GetInfo traffic in one of the ways above. -/
theorem exchanges_of_step {setup : Setup} {self post : Worker} {event : Event} {effects : List Effect}
    (h : step setup self event = (effects, post)) : Exchanges self.exchange post.exchange := by
  obtain ⟨-, rfl⟩ := Prod.mk.inj h
  cases event with
  | command cmd sent now => exact exchanges_of_command setup cmd sent now self
  | check_get_info_timeout now =>
    by_cases hexpired : ∃ p, self.state.pending_get_info = some p ∧ p.deadline < now
    · obtain ⟨p, hpending, hlate⟩ := hexpired
      rw [Event.perform, Worker.run_check_get_info_of_expired hpending hlate]
      exact .expired
    · rw [Event.perform,
        Worker.run_check_get_info_of_waiting fun p hpending hlate => hexpired ⟨p, hpending, hlate⟩]
      exact .kept
  | dispatch_pnp_get_info sent now => exact exchanges_of_dispatch setup sent now self
  | check_pnp_get_info_timeout now =>
    by_cases hexpired : ∃ p, self.state.pnp_pending_get_info = some p ∧ p.deadline < now.first
    · obtain ⟨p, hpending, hlate⟩ := hexpired
      rw [Event.perform, Worker.run_check_pnp_get_info_of_expired hpending hlate,
        (Worker.unasking_on_get_info_result p.node_id none now _).1]
      exact .pnp_expired
    · rw [Event.perform,
        Worker.run_check_pnp_get_info_of_waiting fun p hpending hlate => hexpired ⟨p, hpending, hlate⟩]
      exact .kept
  | message transfer now => exact exchanges_of_quiet (Worker.unasking_handle_message setup transfer now self).1
  | response transfer now => exact exchanges_of_response setup transfer now self
  | receive_error e =>
    refine exchanges_of_quiet ?_
    rw [Event.perform, Worker.on_receive_error]
    split
    · rfl
    · rfl
  | per_second tested_at ticked_at =>
    refine exchanges_of_quiet ?_
    by_cases hsecond : elapsed self.last_second tested_at ≥ Duration.from_secs 1
    · have hrun : (Worker.per_second setup tested_at ticked_at).run self = ⟨(), [], { self with
          state := self.state.tick_local_node setup.local_node_id, last_second := ticked_at }⟩ := by
        simp [Worker.per_second, hsecond]
      rw [Event.perform, hrun]
      exact self.state.tick_local_node_exchange setup.local_node_id
    · have hkept : (Worker.per_second setup tested_at ticked_at).run self = ⟨(), [], self⟩ := by
        simp [Worker.per_second, hsecond]
      rw [Event.perform, hkept]

theorem balanced_start (setup : Setup) (pnp : Option (Table × String)) (now : Instant) :
    (Worker.start setup pnp now).exchange.Balanced := by
  rw [Worker.exchange, Worker.start, WorkerState.register_local_node_exchange]
  exact .inr (Nat.le_refl 0)

/-- In every reachable state of a worker, the responses counted are no more than
the requests counted. -/
theorem responses_never_outnumber_requests (setup : Setup) (pnp : Option (Table × String)) (now : Instant)
    (events : List Event) :
    let worker := final (step setup) (Worker.start setup pnp now) events
    worker.state.get_info_responses_received ≤ worker.state.get_info_requests_sent := by
  refine @Exchange.Balanced.responses_le (final (step setup) (Worker.start setup pnp now) events).exchange ?_
  refine invariant_of_step (fun _ (self : Worker) => self.exchange.Balanced) (balanced_start setup pnp now) ?_ events
  intro before pre event effects post h hpre
  exact (exchanges_of_step h).balanced hpre

end cyphal_service.transport
