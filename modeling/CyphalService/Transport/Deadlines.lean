import CyphalService.Transport.Dispatch
import CyphalService.Transport.Frame
import CyphalService.Transport.Handle

open effect machine
open cyphal_service.pnp
open cyphal_service.pnp.db cyphal_service.pnp.allocator

namespace cyphal_service.transport

/-- The step took the GetInfo command that waits, and its deadline is three seconds
after the reading then. -/
def Asked (p : PendingGetInfo) (st : machine.Step Worker Event (List Effect)) : Prop :=
  ∃ sent now, st.input = .command (.GetInfo p.node_id p.reply) sent now ∧
    p.deadline = now.first + Duration.from_secs 3

/-- The step popped the node whose GetInfo is in flight, and its deadline is five
seconds after the reading then. -/
def PnpAsked (p : PnpGetInfoPending) (st : machine.Step Worker Event (List Effect)) : Prop :=
  ∃ sent now, st.input = .dispatch_pnp_get_info sent now ∧
    some p.node_id ∈ (calls st.output).map (·.2.popped_id) ∧ p.deadline = now.first + Duration.from_secs 5

/-- The worker has an allocator, or no PNP GetInfo either. -/
def Worker.Allocates (self : Worker) : Prop :=
  (∃ pnp, self.pnp_allocator = some pnp) ∨ self.allocation = (none, none)

/-- What waits for a response was asked for. -/
structure AskedInv (before : History) (worker : Worker) : Prop where
  allocates : worker.Allocates
  cli : ∀ p, worker.state.pending_get_info = some p → Occurred (Asked p) before
  pnp : ∀ p, worker.state.pnp_pending_get_info = some p → Occurred (PnpAsked p) before

/-- At the end of an iteration, what waits for a response was asked for at most three
seconds, or five for the allocator, before the check of that iteration. -/
structure Timely (run : History) (iteration : Iteration) (worker : Worker) : Prop where
  cli : ∀ p, worker.state.pending_get_info = some p →
    Occurred (Asked p) run ∧ iteration.get_info_read ≤ p.deadline
  pnp : ∀ p, worker.state.pnp_pending_get_info = some p →
    Occurred (PnpAsked p) run ∧ iteration.pnp_get_info_read.first ≤ p.deadline

section Step

variable {setup : Setup} {self post : Worker} {event : Event} {effects : List Effect}

/-- A GetInfo command that waits after an event waited before it or was taken by it. -/
theorem asked_of_step (h : step setup self event = (effects, post)) {p : PendingGetInfo}
    (hpending : post.state.pending_get_info = some p) :
    self.state.pending_get_info = some p ∨ Asked p ⟨self, event, effects, post⟩ := by
  have hserved := served_of_step h
  rw [hpending] at hserved
  generalize results effects = sent at hserved
  generalize hwaited : self.state.pending_get_info = waited at hserved ⊢
  cases hserved with
  | accepted haccepted => exact .inr ⟨_, _, rfl, rfl⟩
  | refused message hrefused => exact .inl rfl
  | idle hevent => exact .inl rfl

/-- Without an allocator there is no PNP GetInfo. -/
theorem unallocated_of_step (h : step setup self event = (effects, post)) (hself : self.allocation = (none, none)) :
    post.allocation = (none, none) := by
  obtain ⟨hpnp, hpending⟩ := Prod.mk.inj hself
  obtain ⟨-, rfl⟩ := Prod.mk.inj h
  have hnone : ∀ source : UInt16, self.state.pnp_pending_get_info.any (·.node_id = source) = false := by
    intro source
    rw [hpending]
    rfl
  cases event with
  | command cmd sent now =>
    exact (congrArg Prod.fst (Worker.quiet_handle_command setup cmd sent now self).1).trans hself
  | check_get_info_timeout now =>
    exact (congrArg Prod.fst (Worker.quiet_check_get_info_timeout now self).1).trans hself
  | dispatch_pnp_get_info sent now =>
    rw [Event.perform, Worker.run_dispatch_of_no_pnp hpnp]
    exact hself
  | check_pnp_get_info_timeout now =>
    rw [Event.perform, Worker.run_check_pnp_get_info_of_waiting]
    · exact hself
    · intro p hwaits
      rw [hpending] at hwaits
      cases hwaits
  | message transfer now =>
    obtain ⟨handled, state, hrun, hsame⟩ := Worker.run_handle_message_of_no_pnp setup transfer now hpnp
    simp only [Event.perform, Logged.run_bind, Logged.run_pure, hrun]
    exact Prod.ext hpnp (hsame.2.trans hpending)
  | response transfer now =>
    simp only [Event.perform, Logged.run_bind, Logged.run_pure]
    cases hcli : self.state.pending_get_info.any (·.node_id = transfer.source) with
    | false =>
      rw [Worker.run_handle_response_of_ignored fun _ => ⟨hcli, hnone _⟩]
      exact hself
    | true =>
      by_cases hservice : transfer.service = GET_INFO_SERVICE
      · obtain ⟨-, hallocator, hkept⟩ := Worker.answer_cli_frame true transfer.source
          (setup.codec.get_info_response transfer.payload) self
        rw [Worker.run_handle_response hservice hcli (hnone _) rfl]
        simp only [Worker.answer_pnp, Logged.run_bind, Logged.run_pure, Worker.run_update, Worker.allocation,
          WorkerState.on_message_received]
        exact Prod.ext (hallocator.trans hpnp) (hkept.trans hpending)
      · rw [Worker.run_handle_response_of_ignored fun h => absurd h hservice]
        exact hself
  | receive_error e =>
    exact (congrArg Prod.fst (Worker.quiet_on_receive_error setup e self).1).trans hself
  | per_second tested_at ticked_at =>
    obtain ⟨state, last_second, hrun, hsame⟩ := Worker.run_per_second setup tested_at ticked_at self
    rw [Event.perform, hrun]
    exact Prod.ext hpnp (hsame.2.trans hpending)

theorem allocates_of_step (h : step setup self event = (effects, post)) (hself : self.Allocates) : post.Allocates := by
  obtain ⟨pnp, hpnp⟩ | hnone := hself
  · obtain ⟨pnp', hpnp', -⟩ := managed_of_step h hpnp
    exact .inl ⟨pnp', hpnp'⟩
  · exact .inr (unallocated_of_step h hnone)

/-- A PNP GetInfo in flight after an event was in flight before it or sent by it. -/
theorem pnp_asked_of_step (h : step setup self event = (effects, post)) (hself : self.Allocates)
    {p : PnpGetInfoPending} (hpending : post.state.pnp_pending_get_info = some p) :
    self.state.pnp_pending_get_info = some p ∨ PnpAsked p ⟨self, event, effects, post⟩ := by
  obtain ⟨pnp, hpnp⟩ | hnone := hself
  · obtain ⟨pnp', -, hmanaged⟩ := managed_of_step h hpnp
    rw [hpending] at hmanaged
    generalize hwaited : self.state.pnp_pending_get_info = waited at hmanaged ⊢
    generalize hcalls : calls effects = made at hmanaged
    cases hmanaged with
    | idle => exact .inl rfl
    | called hcall hstep => exact .inl rfl
    | sent hunwaited hpop =>
      refine .inr ⟨_, _, rfl, ?_, rfl⟩
      rw [hcalls]
      exact List.mem_singleton.2 rfl
  · obtain ⟨-, hunsent⟩ := Prod.mk.inj (unallocated_of_step h hnone)
    rw [hpending] at hunsent
    cases hunsent

theorem AskedInv.step {before : History} (h : step setup self event = (effects, post)) (hinv : AskedInv before self) :
    AskedInv (before ++ [⟨self, event, effects, post⟩]) post := by
  refine ⟨allocates_of_step h hinv.allocates, ?_, ?_⟩
  · intro p hpending
    exact occurred_snoc.2 ((asked_of_step h hpending).imp_left (hinv.cli p))
  · intro p hpending
    exact occurred_snoc.2 ((pnp_asked_of_step h hinv.allocates hpending).imp_left (hinv.pnp p))

/-- A GetInfo command that a check leaves waiting is not overdue. -/
theorem le_deadline_of_check {now : Instant} {p : PendingGetInfo}
    (hpending : (step setup self (.check_get_info_timeout now)).2.state.pending_get_info = some p) :
    now ≤ p.deadline := by
  rw [step] at hpending
  by_cases hexpired : ∃ p, self.state.pending_get_info = some p ∧ p.deadline < now
  · obtain ⟨q, hwaited, hlate⟩ := hexpired
    rw [Event.perform, Worker.run_check_get_info_of_expired hwaited hlate] at hpending
    cases hpending
  · rw [Event.perform, Worker.run_check_get_info_of_waiting fun q hq hlate => hexpired ⟨q, hq, hlate⟩] at hpending
    exact Nat.le_of_not_lt fun hlate => hexpired ⟨p, hpending, hlate⟩

theorem le_deadline_of_pnp_check {now : Readings} {p : PnpGetInfoPending}
    (hpending : (step setup self (.check_pnp_get_info_timeout now)).2.state.pnp_pending_get_info = some p) :
    now.first ≤ p.deadline := by
  rw [step] at hpending
  by_cases hexpired : ∃ p, self.state.pnp_pending_get_info = some p ∧ p.deadline < now.first
  · obtain ⟨q, hwaited, hlate⟩ := hexpired
    rw [Event.perform, Worker.run_check_pnp_get_info_of_expired hwaited hlate,
      (Worker.on_get_info_result_frame _ _ _ _).2] at hpending
    cases hpending
  · rw [Event.perform, Worker.run_check_pnp_get_info_of_waiting fun q hq hlate => hexpired ⟨q, hq, hlate⟩] at hpending
    exact Nat.le_of_not_lt fun hlate => hexpired ⟨p, hpending, hlate⟩

theorem AskedInv.init (setup : Setup) (pnp : Option (Table × String)) (start : Instant) :
    AskedInv [] (Worker.start setup pnp start) := by
  have hsame := WorkerState.default.register_local_node_pending setup.local_node_id
  refine ⟨?_, ?_, ?_⟩
  · cases pnp with
    | none => exact .inr (Prod.ext rfl hsame.2)
    | some content => exact .inl ⟨_, rfl⟩
  · intro p hpending
    cases hsame.1.symm.trans hpending
  · intro p hpending
    cases hsame.2.symm.trans hpending

end Step

section Iterate

variable {setup : Setup} {self : Worker} {events : List Event}

theorem allocates_of_run (hself : self.Allocates) (events : List Event) :
    (final (step setup) self events).Allocates := by
  induction events generalizing self with
  | nil => exact hself
  | cons event events ih => exact ih (allocates_of_step rfl hself)

/-- Events without a command leave no command waiting that did not wait before. -/
theorem waited_of_uncommanded (hevents : ∀ event ∈ events, event.isCommand = false) {p : PendingGetInfo}
    (hpending : (final (step setup) self events).state.pending_get_info = some p) :
    self.state.pending_get_info = some p := by
  induction events generalizing self with
  | nil => exact hpending
  | cons event events ih =>
    obtain ⟨hevent, hrest⟩ := List.forall_mem_cons.1 hevents
    obtain hwaited | ⟨sent, now, hcommand, -⟩ := asked_of_step rfl (ih hrest hpending)
    · exact hwaited
    · obtain rfl : event = _ := hcommand
      cases hevent

/-- The event may send a PNP GetInfo. -/
def Event.isDispatch : Event → Bool
  | .dispatch_pnp_get_info _ _ => true
  | _ => false

theorem waited_of_undispatched (hself : self.Allocates) (hevents : ∀ event ∈ events, event.isDispatch = false)
    {p : PnpGetInfoPending} (hpending : (final (step setup) self events).state.pnp_pending_get_info = some p) :
    self.state.pnp_pending_get_info = some p := by
  induction events generalizing self with
  | nil => exact hpending
  | cons event events ih =>
    obtain ⟨hevent, hrest⟩ := List.forall_mem_cons.1 hevents
    obtain hwaited | ⟨sent, now, hdispatch, -⟩ :=
      pnp_asked_of_step rfl hself (ih (allocates_of_step rfl hself) hrest hpending)
    · exact hwaited
    · obtain rfl : event = _ := hdispatch
      cases hevent

/-- The events of an iteration after its checks. -/
def Iteration.polled (self : Iteration) : List Event :=
  self.received.map (fun
    | (.inl transfer, now) => .message transfer now
    | (.inr transfer, now) => .response transfer now) ++
    (self.receive_error.map Event.receive_error).toList ++ [.per_second self.second_read self.ticked_at]

theorem Iteration.polled_cases {iteration : Iteration} {event : Event} (h : event ∈ iteration.polled) :
    event.isCommand = false ∧ event.isDispatch = false := by
  rw [polled, List.mem_append, List.mem_append, List.mem_map, Option.mem_toList,
    Option.map_eq_some_iff, List.mem_singleton] at h
  obtain (⟨⟨transfer, now⟩, -, rfl⟩ | ⟨e, -, rfl⟩) | rfl := h
  · cases transfer <;> exact ⟨rfl, rfl⟩
  · exact ⟨rfl, rfl⟩
  · exact ⟨rfl, rfl⟩

theorem Iteration.events_eq (iteration : Iteration) :
    iteration.events = iteration.commands.map (fun (cmd, sent, now) => .command cmd sent now) ++
      .check_get_info_timeout iteration.get_info_read ::
        .dispatch_pnp_get_info iteration.dispatched.1 iteration.dispatched.2 ::
          .check_pnp_get_info_timeout iteration.pnp_get_info_read :: iteration.polled := by
  rw [events, polled, List.append_assoc, List.append_assoc, List.append_assoc, List.append_assoc]
  rfl

/-- No command waits after an iteration whose deadline the iteration has found passed. -/
theorem le_deadline_of_iteration {iteration : Iteration} {p : PendingGetInfo}
    (hpending : (final (step setup) self iteration.events).state.pending_get_info = some p) :
    iteration.get_info_read ≤ p.deadline := by
  rw [iteration.events_eq, final_append, final] at hpending
  refine le_deadline_of_check (waited_of_uncommanded ?_ hpending)
  refine List.forall_mem_cons.2 ⟨rfl, List.forall_mem_cons.2 ⟨rfl, fun event hmem => ?_⟩⟩
  exact (Iteration.polled_cases hmem).1

theorem pnp_le_deadline_of_iteration (hself : self.Allocates) {iteration : Iteration} {p : PnpGetInfoPending}
    (hpending : (final (step setup) self iteration.events).state.pnp_pending_get_info = some p) :
    iteration.pnp_get_info_read.first ≤ p.deadline := by
  rw [iteration.events_eq, final_append, final, final, final] at hpending
  have hbegun := @allocates_of_run setup _ hself
    (iteration.commands.map fun (cmd, sent, now) => .command cmd sent now)
  have hchecked := @allocates_of_run setup _ hbegun [.check_get_info_timeout iteration.get_info_read,
    .dispatch_pnp_get_info iteration.dispatched.1 iteration.dispatched.2,
    .check_pnp_get_info_timeout iteration.pnp_get_info_read]
  exact le_deadline_of_pnp_check (waited_of_undispatched hchecked
    (fun event hmem => (Iteration.polled_cases hmem).2) hpending)

end Iterate

/-- At the end of every iteration of the worker loop, no GetInfo waits whose deadline the
iteration has found passed. -/
theorem no_overdue (setup : Setup) (pnp : Option (Table × String)) (start : Instant) (before : List Iteration)
    (iteration : Iteration) :
    Timely (run_worker setup (Worker.start setup pnp start) (before ++ [iteration])) iteration
      (worker_after setup (Worker.start setup pnp start) (before ++ [iteration])) := by
  have hinv : AskedInv (run_worker setup (Worker.start setup pnp start) (before ++ [iteration]))
      (worker_after setup (Worker.start setup pnp start) (before ++ [iteration])) :=
    invariant_of_step AskedInv (AskedInv.init setup pnp start) (fun _ _ _ _ _ h hinv => hinv.step h) _
  have hafter : worker_after setup (Worker.start setup pnp start) (before ++ [iteration]) =
      final (step setup) (worker_after setup (Worker.start setup pnp start) before) iteration.events := by
    rw [worker_after, List.flatMap_append, List.flatMap_singleton, final_append]
    rfl
  have hbefore : (worker_after setup (Worker.start setup pnp start) before).Allocates :=
    allocates_of_run (AskedInv.init setup pnp start).allocates _
  refine ⟨fun p hpending => ⟨hinv.cli p hpending, ?_⟩, fun p hpending => ⟨hinv.pnp p hpending, ?_⟩⟩
  · rw [hafter] at hpending
    exact le_deadline_of_iteration hpending
  · rw [hafter] at hpending
    exact pnp_le_deadline_of_iteration hbefore hpending

end cyphal_service.transport
