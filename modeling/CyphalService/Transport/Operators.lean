import CyphalService.Lib.Unwinding
import CyphalService.Transport.Frame

open effect effect.Logged machine
open cyphal_service.pnp
open cyphal_service.pnp.db cyphal_service.pnp.allocator

namespace cyphal_service.transport

/-- The PNP responses published over a run. -/
def publications (history : History) : List Effect :=
  history.flatMap fun st => st.output.filter (·.isPublish)

/-- An iteration without the commands that operators sent. -/
def Iteration.unattended (iteration : Iteration) : Iteration :=
  { iteration with commands := [] }

namespace Worker

/-- The computation does nothing to node IDs. -/
abbrev Idle {α : Type} (p : Work α) : Prop := Silent allocation (·.isPublish) p

/-- The same for node IDs, from the same point on. -/
abbrev Same {α : Type} (p q : Work α) : Prop := Agree allocation (·.isPublish) p q

theorem Idle.of_quiet {α : Type} {p : Work α} (h : Quiet p) : Idle p :=
  h.part Prod.fst fun _ hseen => hseen

theorem idle_update {f : WorkerState → WorkerState}
    (h : ∀ state, (f state).pnp_pending_get_info = state.pnp_pending_get_info) : Idle (update f) :=
  Silent.modify fun self => by simp [allocation, h]

theorem idle_answer_cli (matches_cli : Bool) (source : UInt16) (parsed : Option GetInfoResponse) :
    Idle (answer_cli matches_cli source parsed) := by
  intro self
  cases matches_cli with
  | false => exact ⟨rfl, rfl⟩
  | true =>
    cases hpending : self.state.pending_get_info <;>
      simp [answer_cli, replying, WorkerState.on_get_info_response, hpending, allocation, Effect.isPublish]

theorem idle_per_second (setup : Setup) (tested_at ticked_at : Instant) :
    Idle (per_second setup tested_at ticked_at) := by
  refine Silent.get.bind fun self => ?_
  split
  · refine Silent.bind (Silent.modify ?_) fun _ => ?_
    · exact fun self => rfl
    · exact idle_update fun state => (state.tick_local_node_pending setup.local_node_id).2
  · exact Silent.pure ()

theorem same_update {f g : WorkerState → WorkerState}
    (h : ∀ a b, a.pnp_pending_get_info = b.pnp_pending_get_info →
      (f a).pnp_pending_get_info = (g b).pnp_pending_get_info) : Same (update f) (update g) := by
  refine Agree.modify fun self other hview => ?_
  simp only [allocation, Prod.mk.injEq] at hview ⊢
  exact ⟨hview.1, h _ _ hview.2⟩

theorem same_call (pnp : system.State) (c : system.Call) (now : Readings) : Same (call pnp c now) (call pnp c now) := by
  refine Agree.bind (Agree.modify fun self other hview => ?_) fun _ => ?_
  · exact congrArg (fun view => (_, view.2)) hview
  · exact (Agree.emit _).bind fun _ => Agree.pure _

theorem same_on_get_info_result (node_id : UInt16) (uid : Option UniqueId) (now : Readings) :
    Same (on_get_info_result node_id uid now) (on_get_info_result node_id uid now) := by
  refine Agree.get_bind fun self other hview => ?_
  obtain ⟨hpnp, -⟩ := Prod.mk.inj hview
  rw [hpnp]
  cases other.pnp_allocator with
  | none => exact Agree.pure ()
  | some pnp => exact (same_call pnp _ now).bind fun _ => Agree.pure ()

theorem same_send_pnp_get_info (setup : Setup) (node_id : UInt16) (sent : SendOutcome) (now : Readings) :
    Same (send_pnp_get_info setup node_id sent now) (send_pnp_get_info setup node_id sent now) := by
  unfold send_pnp_get_info
  split
  · refine (Agree.emit _).bind fun _ => ?_
    cases sent with
    | ok sent =>
      refine Agree.bind (same_update ?_) fun _ => same_update ?_
      · exact fun a b hpending => hpending
      · exact fun a b _ => rfl
    | error e => exact same_on_get_info_result node_id none now
  · exact same_on_get_info_result node_id none now

theorem same_dispatch_pnp_get_info (setup : Setup) (sent : SendOutcome) (now : Readings) :
    Same (dispatch_pnp_get_info setup sent now) (dispatch_pnp_get_info setup sent now) := by
  refine Agree.get_bind fun self other hview => ?_
  obtain ⟨hpnp, hpending⟩ := Prod.mk.inj hview
  rw [hpnp, hpending]
  split
  · refine (same_call _ _ now).bind fun output => ?_
    split
    · exact same_send_pnp_get_info setup _ sent now
    · exact Agree.pure ()
  · exact Agree.pure ()

theorem same_check_pnp_get_info_timeout (now : Readings) :
    Same (check_pnp_get_info_timeout now) (check_pnp_get_info_timeout now) := by
  refine Agree.get_bind fun self other hview => ?_
  obtain ⟨-, hpending⟩ := Prod.mk.inj hview
  unfold WorkerState.check_pnp_get_info_timeout
  rw [hpending]
  cases hother : other.state.pnp_pending_get_info with
  | none =>
    refine Agree.bind (same_update ?_) fun _ => Agree.pure ()
    exact fun a b _ => hpending
  | some p =>
    by_cases hlate : now.first > p.deadline
    · simp only [if_pos hlate]
      refine Agree.bind (same_update ?_) fun _ => same_on_get_info_result p.node_id none now
      exact fun a b _ => rfl
    · simp only [if_neg hlate]
      refine Agree.bind (same_update ?_) fun _ => Agree.pure ()
      exact fun a b _ => hpending

/-- A message reaches the allocator in the same way whatever else the worker
holds. -/
theorem same_message (setup : Setup) (transfer : MessageTransfer) (now : Readings) :
    Same (Event.perform setup (.message transfer now)) (Event.perform setup (.message transfer now)) := by
  intro self other hview
  obtain ⟨hpnp, hpending⟩ := Prod.mk.inj hview
  simp only [Event.perform, run_bind, run_pure, List.append_nil, allocation, true_and]
  cases hallocator : other.pnp_allocator with
  | none =>
    rw [hallocator] at hpnp
    obtain ⟨handled, state, hrun, hsame⟩ := run_handle_message_of_no_pnp setup transfer now hpnp
    obtain ⟨handled', state', hrun', hsame'⟩ := run_handle_message_of_no_pnp setup transfer now hallocator
    rw [hrun, hrun']
    exact ⟨rfl, Prod.ext (hpnp.trans hallocator.symm) (hsame.2.trans (hpending.trans hsame'.2.symm))⟩
  | some pnp =>
    rw [hallocator] at hpnp
    cases hcall : setup.message_call transfer now with
    | none =>
      obtain ⟨handled, hrun⟩ := run_handle_message_of_no_call self hcall
      obtain ⟨handled', hrun'⟩ := run_handle_message_of_no_call other hcall
      rw [hrun, hrun']
      exact ⟨rfl, hview⟩
    | some c =>
      obtain ⟨state, hrun, hsame⟩ := run_handle_message_of_call hpnp hcall
      obtain ⟨state', hrun', hsame'⟩ := run_handle_message_of_call hallocator hcall
      rw [hrun, hrun']
      exact ⟨rfl, Prod.ext rfl (hsame.2.trans (hpending.trans hsame'.2.symm))⟩

/-- A response reaches the allocator only if it answers the GetInfo in flight,
also where a command waits for it as well. -/
theorem same_response (setup : Setup) (transfer : ServiceTransfer) (now : Readings) :
    Same (Event.perform setup (.response transfer now)) (Event.perform setup (.response transfer now)) := by
  intro self other hview
  obtain ⟨-, hpending⟩ := Prod.mk.inj hview
  by_cases hservice : transfer.service = GET_INFO_SERVICE
  · cases hmatches : other.state.pnp_pending_get_info.any (·.node_id = transfer.source) with
    | true =>
      have hmatches' : self.state.pnp_pending_get_info.any (·.node_id = transfer.source) = true := hpending ▸ hmatches
      have hhandled : ∀ cli cli' : Bool, Same
          (do
            answer_cli cli transfer.source (setup.codec.get_info_response transfer.payload)
            answer_pnp true transfer.source (setup.codec.get_info_response transfer.payload) now
            update (·.on_message_received now.first)
            return true : Work Bool)
          (do
            answer_cli cli' transfer.source (setup.codec.get_info_response transfer.payload)
            answer_pnp true transfer.source (setup.codec.get_info_response transfer.payload) now
            update (·.on_message_received now.first)
            return true : Work Bool) := by
        intro cli cli'
        refine Agree.bind ((idle_answer_cli cli _ _).agree (idle_answer_cli cli' _ _)) fun _ => ?_
        refine Agree.bind (Agree.bind (same_update ?_) fun _ => same_on_get_info_result _ _ now) fun _ => ?_
        · exact fun a b _ => rfl
        · refine Agree.bind (same_update ?_) fun _ => Agree.pure true
          exact fun a b hsame => hsame
      obtain ⟨-, hlog, hstate⟩ := hhandled _ _ self other hview
      simp only [Event.perform, run_bind, run_pure, List.append_nil]
      rw [run_handle_response hservice rfl hmatches' (Bool.or_true _),
        run_handle_response hservice rfl hmatches (Bool.or_true _)]
      exact ⟨trivial, hlog, hstate⟩
    | false =>
      have hquiet : ∀ self : Worker, self.state.pnp_pending_get_info.any (·.node_id = transfer.source) = false →
          ((handle_response setup transfer now).run self).state.allocation = self.allocation ∧
            ((handle_response setup transfer now).run self).log.filter (·.isPublish) = [] := by
        intro self hnot
        cases hcli : self.state.pending_get_info.any (·.node_id = transfer.source) with
        | false =>
          rw [run_handle_response_of_ignored fun _ => ⟨hcli, hnot⟩]
          exact ⟨rfl, rfl⟩
        | true =>
          rw [run_handle_response hservice hcli hnot rfl]
          refine Silent.bind (idle_answer_cli true _ _) (fun _ => ?_) self
          refine Silent.bind (Silent.pure ()) fun _ => ?_
          exact (idle_update fun _ => rfl).bind fun _ => Silent.pure true
      obtain ⟨hkept, hlog⟩ := hquiet self (hpending ▸ hmatches)
      obtain ⟨hkept', hlog'⟩ := hquiet other hmatches
      simp only [Event.perform, run_bind, run_pure, List.append_nil]
      exact ⟨trivial, hlog.trans hlog'.symm, hkept.trans (hview.trans hkept'.symm)⟩
  · simp only [Event.perform, run_bind, run_pure, List.append_nil]
    rw [run_handle_response_of_ignored (fun h => absurd h hservice),
      run_handle_response_of_ignored (fun h => absurd h hservice)]
    exact ⟨trivial, rfl, hview⟩

end Worker

/-- What an event is to the allocator; commands and the upkeep of their replies
are nothing. -/
def Event.toAllocator : Event → Option Event
  | .command _ _ _ => none
  | .check_get_info_timeout _ => none
  | .receive_error _ => none
  | .per_second _ _ => none
  | event => some event

theorem eq_of_toAllocator {event event' : Event} (h : event.toAllocator = some event') : event = event' := by
  cases event <;> cases h
  all_goals rfl

/-- An observer of the allocator cannot tell what operators do. -/
theorem operators_unwinding (setup : Setup) :
    Unwinding (step setup) (fun _ => True) Worker.allocation Event.toAllocator
      (fun st => st.output.filter (·.isPublish)) := by
  constructor
  · intro pre event effects post h _
    trivial
  · intro pre event effects post h _ hhidden
    obtain ⟨rfl, rfl⟩ := Prod.mk.inj h
    cases event with
    | command cmd sent now => exact Worker.Idle.of_quiet (Worker.quiet_handle_command setup cmd sent now) pre
    | check_get_info_timeout now => exact Worker.Idle.of_quiet (Worker.quiet_check_get_info_timeout now) pre
    | receive_error e => exact Worker.Idle.of_quiet (Worker.quiet_on_receive_error setup e) pre
    | per_second tested_at ticked_at => exact Worker.idle_per_second setup tested_at ticked_at pre
    | dispatch_pnp_get_info sent now => cases hhidden
    | check_pnp_get_info_timeout now => cases hhidden
    | message transfer now => cases hhidden
    | response transfer now => cases hhidden
  · intro pre₁ event₁ effects₁ post₁ pre₂ event₂ effects₂ post₂ event h₁ h₂ _ _ hview hevent₁ hevent₂
    obtain ⟨rfl, rfl⟩ := Prod.mk.inj h₁
    obtain ⟨rfl, rfl⟩ := Prod.mk.inj h₂
    obtain rfl := eq_of_toAllocator hevent₁
    obtain rfl := eq_of_toAllocator hevent₂
    have hsame : Worker.Same (event₂.perform setup) (event₂.perform setup) := by
      cases event₂ with
      | dispatch_pnp_get_info sent now => exact Worker.same_dispatch_pnp_get_info setup sent now
      | check_pnp_get_info_timeout now => exact Worker.same_check_pnp_get_info_timeout now
      | message transfer now => exact Worker.same_message setup transfer now
      | response transfer now => exact Worker.same_response setup transfer now
      | command cmd sent now => cases hevent₂
      | check_get_info_timeout now => cases hevent₂
      | receive_error e => cases hevent₂
      | per_second tested_at ticked_at => cases hevent₂
    obtain ⟨-, hlog, hstate⟩ := hsame pre₁ pre₂ hview
    exact ⟨hstate, hlog⟩

private theorem toAllocator_events (iterations : List Iteration) :
    (iterations.flatMap Iteration.events).filterMap Event.toAllocator =
      (iterations.map (·.unattended)).flatMap fun iteration => iteration.events.filterMap Event.toAllocator := by
  rw [List.filterMap_flatMap, List.flatMap_map]
  congr 1
  funext iteration
  have hcommands : ∀ f : TransportCommand × SendOutcome × Readings → Event,
      (∀ command, (f command).toAllocator = none) →
        (iteration.commands.map f).filterMap Event.toAllocator = [] := by
    intro f hf
    rw [List.filterMap_eq_nil_iff]
    intro event hmem
    obtain ⟨command, -, rfl⟩ := List.mem_map.1 hmem
    exact hf command
  simp only [Iteration.events, Iteration.unattended, List.filterMap_append, List.map_nil, List.filterMap_nil]
  rw [hcommands _ fun _ => rfl]

/-- Operator commands do not influence node-ID allocation: two runs that differ
only in the commands they receive have, after every iteration, the same
allocator with its table, queue and cooldowns, the same GetInfo in flight and
the same PNP responses behind them. -/
theorem allocation_unaffected_by_operators (setup : Setup) (self₁ self₂ : Worker)
    (hstart : self₁.allocation = self₂.allocation) (iterations₁ iterations₂ : List Iteration)
    (hsame : iterations₁.map (·.unattended) = iterations₂.map (·.unattended)) (k : Nat) :
    (worker_after setup self₁ (iterations₁.take k)).allocation =
        (worker_after setup self₂ (iterations₂.take k)).allocation ∧
      publications (run_worker setup self₁ (iterations₁.take k)) =
        publications (run_worker setup self₂ (iterations₂.take k)) := by
  have hprefix : (iterations₁.take k).map (·.unattended) = (iterations₂.take k).map (·.unattended) := by
    rw [List.map_take, List.map_take, hsame]
  apply (operators_unwinding setup).runs_agree trivial trivial hstart
  rw [toAllocator_events, toAllocator_events, hprefix]

/-- An iteration that receives a heartbeat of node 5. -/
def hears_five (commands : List (TransportCommand × SendOutcome × Readings)) : Iteration where
  commands := commands
  get_info_read := 0
  dispatched := (.ok (), ⟨0, 0, 0, ""⟩)
  pnp_get_info_read := ⟨0, 0, 0, ""⟩
  received := [(.inl ⟨HEARTBEAT_SUBJECT, some 5, []⟩, ⟨0, 0, 0, ""⟩)]
  receive_error := none
  second_read := 0
  ticked_at := 0

/-- A node is heard in both runs; in one an operator asks it for its name while
the allocator waits for its unique ID. -/
theorem allocation_unaffected_by_operators_asked :
    (worker_after beating_udp (Worker.start beating_udp (some (Table.empty, "")) 0)
        ([hears_five [], hears_five []].take 2)).allocation =
        (worker_after beating_udp (Worker.start beating_udp (some (Table.empty, "")) 0)
          ([hears_five [], hears_five [(.GetInfo 5 0, .ok (), ⟨0, 0, 0, ""⟩)]].take 2)).allocation ∧
      publications (run_worker beating_udp (Worker.start beating_udp (some (Table.empty, "")) 0)
          ([hears_five [], hears_five []].take 2)) =
        publications (run_worker beating_udp (Worker.start beating_udp (some (Table.empty, "")) 0)
          ([hears_five [], hears_five [(.GetInfo 5 0, .ok (), ⟨0, 0, 0, ""⟩)]].take 2)) :=
  allocation_unaffected_by_operators beating_udp _ _ rfl _ _ rfl 2

end cyphal_service.transport
