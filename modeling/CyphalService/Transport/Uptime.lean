import CyphalService.Lib.Periodic
import CyphalService.Transport.Overview

open effect effect.Logged machine periodic
open cyphal_service.pnp
open cyphal_service.pnp.db cyphal_service.pnp.allocator

namespace cyphal_service.transport

namespace Worker

/-- The computation leaves the mark of the second alone. -/
abbrev Untimed {α : Type} (p : Work α) : Prop := Silent (·.last_second) (fun _ => false) p

theorem untimed_update (f : WorkerState → WorkerState) : Untimed (update f) := Silent.modify fun _ => rfl

theorem untimed_call (pnp : system.State) (c : system.Call) (now : Readings) : Untimed (call pnp c now) := by
  refine Silent.bind (Silent.modify ?_) fun _ => (Silent.emit rfl).bind fun _ => Silent.pure _
  exact fun self => rfl

theorem untimed_on_get_info_result (node_id : UInt16) (uid : Option UniqueId) (now : Readings) :
    Untimed (on_get_info_result node_id uid now) := by
  refine Silent.get.bind fun self => ?_
  split
  · exact (untimed_call _ _ now).bind fun _ => Silent.pure ()
  · exact Silent.pure ()

theorem untimed_replying (method : WorkerState → Option GetInfoReply × WorkerState) : Untimed (replying method) := by
  refine Silent.get.bind fun self => ?_
  refine (untimed_update _).bind fun _ => ?_
  split
  · exact Silent.emit rfl
  · exact Silent.pure ()

theorem untimed_handle_command (setup : Setup) (cmd : TransportCommand) (sent : SendOutcome) (now : Readings) :
    Untimed (handle_command setup cmd sent now) := by
  cases cmd with
  | ListNodes reply => exact Silent.get.bind fun _ => Silent.emit rfl
  | Diagnostics reply => exact Silent.get.bind fun _ => Silent.emit rfl
  | ListAllocations reply =>
    refine Silent.get.bind fun self => ?_
    split
    · exact Silent.emit rfl
    · exact Silent.emit rfl
  | GetInfo node_id reply =>
    simp only [handle_command]
    split
    · exact Silent.emit rfl
    · split
      · refine (Silent.emit rfl).bind fun _ => ?_
        split
        · exact (untimed_update _).bind fun _ => untimed_update _
        · exact (untimed_update _).bind fun _ => Silent.emit rfl
      · exact (untimed_update _).bind fun _ => Silent.emit rfl

theorem untimed_dispatch_pnp_get_info (setup : Setup) (sent : SendOutcome) (now : Readings) :
    Untimed (dispatch_pnp_get_info setup sent now) := by
  refine Silent.get.bind fun self => ?_
  split
  · refine (untimed_call _ _ now).bind fun output => ?_
    split
    · unfold send_pnp_get_info
      split
      · refine (Silent.emit rfl).bind fun _ => ?_
        split
        · exact (untimed_update _).bind fun _ => untimed_update _
        · exact untimed_on_get_info_result _ none now
      · exact untimed_on_get_info_result _ none now
    · exact Silent.pure ()
  · exact Silent.pure ()

theorem untimed_check_pnp_get_info_timeout (now : Readings) : Untimed (check_pnp_get_info_timeout now) := by
  refine Silent.get.bind fun self => ?_
  refine (untimed_update _).bind fun _ => ?_
  split
  · exact untimed_on_get_info_result _ none now
  · exact Silent.pure ()

theorem untimed_answer_allocation (pnp : system.State) (request : system.Call) (now : Readings) :
    Untimed (answer_allocation pnp request now) := by
  refine (untimed_call pnp request now).bind fun output => ?_
  split
  · exact (Silent.emit rfl).bind fun _ => untimed_update _
  · exact (Silent.emit rfl).bind fun _ => untimed_update _
  · exact Silent.pure ()

theorem untimed_handle_message (setup : Setup) (transfer : MessageTransfer) (now : Readings) :
    Untimed (handle_message setup transfer now) := by
  refine Silent.get.bind fun self => ?_
  dsimp only
  split
  · split
    · exact Silent.pure false
    · split
      · refine (untimed_call _ _ now).bind fun _ => (untimed_update _).bind fun _ => Silent.pure true
      · exact (untimed_update _).bind fun _ => Silent.pure true
  · split
    · exact Silent.pure false
    · split
      · split
        · exact Silent.pure true
        · exact (untimed_answer_allocation _ _ now).bind fun _ => Silent.pure true
      · split
        · split
          · exact Silent.pure true
          · exact (untimed_answer_allocation _ _ now).bind fun _ => Silent.pure true
        · exact Silent.pure false

theorem untimed_handle_response (setup : Setup) (transfer : ServiceTransfer) (now : Readings) :
    Untimed (handle_response setup transfer now) := by
  have hcli : ∀ matched source parsed, Untimed (answer_cli matched source parsed) := by
    intro matched source parsed
    unfold answer_cli
    split
    · exact untimed_replying _
    · exact Silent.pure ()
  have hpnp : ∀ matched source parsed, Untimed (answer_pnp matched source parsed now) := by
    intro matched source parsed
    unfold answer_pnp
    split
    · exact (untimed_update _).bind fun _ => untimed_on_get_info_result _ _ now
    · exact Silent.pure ()
  unfold handle_response
  split
  · exact Silent.pure false
  · refine Silent.get.bind fun self => ?_
    dsimp only
    split
    · exact Silent.pure false
    · exact (hcli _ _ _).bind fun _ => (hpnp _ _ _).bind fun _ => (untimed_update _).bind fun _ => Silent.pure true

theorem untimed_on_receive_error (setup : Setup) (e : ReceiveError) : Untimed (on_receive_error setup e) := by
  unfold on_receive_error
  split
  · exact Silent.pure ()
  · exact untimed_update _

end Worker

/-- The look that a step takes at the second, if it takes one. -/
def Action.look : Action → Option Look
  | .work (.per_second tested_at ticked_at) => some ⟨tested_at, ticked_at⟩
  | _ => none

def looks (actions : List Action) : List Look := actions.filterMap Action.look

/-- The mark of the second before any look: the reading at the start. -/
def first_look (start : Instant) : Look := ⟨start, start⟩

/-- The task of the second, after the looks of a run. -/
def second_task (start : Instant) (before : List ServiceStep) : Task :=
  (looks (before.map (·.input))).foldl (Task.look (Duration.from_secs 1)) ⟨start, 0⟩

/-- The worker keeps the mark of the task and ticks when it runs. -/
def Ticks (setup : Setup) (start : Instant) (before : List ServiceStep) (service : Service) : Prop :=
  service.worker.last_second = (second_task start before).marked_at ∧
    (node_events setup before).countP (·.isTick) = (second_task start before).runs

theorem second_task_snoc (start : Instant) (before : List ServiceStep) (st : ServiceStep) :
    second_task start (before ++ [st]) =
      st.input.look.elim (second_task start before) (Task.look (Duration.from_secs 1) (second_task start before)) := by
  rw [second_task, looks, List.map_append, List.map_singleton, List.filterMap_append, List.foldl_append]
  cases hlook : st.input.look with
  | none =>
    rw [List.filterMap_cons_none hlook]
    rfl
  | some look =>
    rw [List.filterMap_cons_some hlook]
    rfl

theorem node_events_snoc (setup : Setup) (before : List ServiceStep) (st : ServiceStep) :
    node_events setup (before ++ [st]) = node_events setup before ++ (node_event setup st).toList := by
  rw [node_events, List.filterMap_append]
  cases hevent : node_event setup st with
  | none =>
    rw [List.filterMap_cons_none hevent]
    rfl
  | some event =>
    rw [List.filterMap_cons_some hevent]
    rfl

section Step

variable {setup : Setup} {start : Instant} {before : List ServiceStep} {pre post : Service} {action : Action}
  {effects : List Effect}

/-- Only a look at the second changes its mark. -/
theorem last_second_of_perform (setup : Setup) (self : Worker) {event : Event}
    (hevent : ∀ tested_at ticked_at, event ≠ .per_second tested_at ticked_at) :
    ((event.perform setup).run self).state.last_second = self.last_second := by
  cases event with
  | command cmd sent now => exact (Worker.untimed_handle_command setup cmd sent now self).1
  | check_get_info_timeout now => exact (Worker.untimed_replying _ self).1
  | dispatch_pnp_get_info sent now => exact (Worker.untimed_dispatch_pnp_get_info setup sent now self).1
  | check_pnp_get_info_timeout now => exact (Worker.untimed_check_pnp_get_info_timeout now self).1
  | message transfer now => exact (Worker.untimed_handle_message setup transfer now self).1
  | response transfer now => exact (Worker.untimed_handle_response setup transfer now self).1
  | receive_error e => exact (Worker.untimed_on_receive_error setup e self).1
  | per_second tested_at ticked_at => exact absurd rfl (hevent tested_at ticked_at)

/-- A step without a look neither moves the mark nor ticks. -/
theorem unmarked_of_step (h : Service.step setup pre action = (effects, post)) (hlook : action.look = none) :
    post.worker.last_second = pre.worker.last_second ∧
      (node_event setup ⟨pre, action, effects, post⟩).toList.countP (·.isTick) = 0 := by
  cases action with
  | send request =>
    rw [Service.step] at h
    split at h
    · obtain ⟨-, rfl⟩ := Prod.mk.inj h
      exact ⟨rfl, rfl⟩
    · obtain ⟨-, rfl⟩ := Prod.mk.inj h
      exact ⟨rfl, rfl⟩
  | try_recv sent now =>
    rw [Service.step] at h
    split at h
    · obtain ⟨-, rfl⟩ := Prod.mk.inj h
      exact ⟨rfl, rfl⟩
    · obtain ⟨-, rfl⟩ := Prod.mk.inj h
      exact ⟨last_second_of_perform setup pre.worker (by rintro _ _ ⟨⟩), rfl⟩
  | work event =>
    have hevent : ∀ tested_at ticked_at, event ≠ .per_second tested_at ticked_at := by
      intro tested_at ticked_at heq
      rw [heq] at hlook
      cases hlook
    refine ⟨?_, ?_⟩
    · rw [Service.step] at h
      split at h
      · obtain ⟨-, rfl⟩ := Prod.mk.inj h
        rfl
      · obtain ⟨-, rfl⟩ := Prod.mk.inj h
        exact last_second_of_perform setup pre.worker hevent
    · cases event with
      | message transfer now =>
        simp only [node_event, Event.node_event]
        cases setup.heartbeat transfer <;> rfl
      | per_second tested_at ticked_at => exact absurd rfl (hevent tested_at ticked_at)
      | _ => rfl

/-- A step with a look marks the second and ticks when the task is run. -/
theorem marked_of_step (h : Service.step setup pre action = (effects, post)) {look : Look}
    (hlook : action.look = some look) {task : Task} (hmark : pre.worker.last_second = task.marked_at) :
    post.worker.last_second = (task.look (Duration.from_secs 1) look).marked_at ∧
      task.runs + (node_event setup ⟨pre, action, effects, post⟩).toList.countP (·.isTick) =
        (task.look (Duration.from_secs 1) look).runs := by
  cases action with
  | send request => cases hlook
  | try_recv sent now => cases hlook
  | work event =>
    cases event with
    | per_second tested_at ticked_at =>
      obtain rfl := Option.some.inj hlook
      obtain ⟨-, rfl⟩ := Prod.mk.inj h
      simp only [transport.step, Event.perform, Worker.per_second, node_event, Event.node_event, Task.look, elapsed,
        hmark, Logged.run_bind, Logged.run_get]
      split
      · exact ⟨rfl, rfl⟩
      · exact ⟨hmark, rfl⟩
    | _ => cases hlook

theorem Ticks.step (h : Service.step setup pre action = (effects, post)) (hticks : Ticks setup start before pre) :
    Ticks setup start (before ++ [⟨pre, action, effects, post⟩]) post := by
  obtain ⟨hmark, hcount⟩ := hticks
  rw [Ticks, second_task_snoc, node_events_snoc, List.countP_append, hcount]
  cases hlook : action.look with
  | none =>
    dsimp only [Option.elim_none]
    obtain ⟨hkept, huncounted⟩ := unmarked_of_step h hlook
    rw [huncounted]
    exact ⟨hkept.trans hmark, rfl⟩
  | some look =>
    exact marked_of_step h hlook hmark

end Step

theorem Ticks.init (setup : Setup) (pnp : Option (Table × String)) (start : Instant) :
    Ticks setup start [] (Service.start setup pnp start) :=
  ⟨rfl, rfl⟩

/-- The local node as it is listed when no heartbeat of its own comes back. -/
theorem own_uptime {local_node_id : UInt16} {events : List NodeEvent} {node : NodeEntry}
    (hages : Ages local_node_id events node) (hquiet : ∀ event ∈ events, event.heard local_node_id = none) :
    node.uptime.toNat = min (events.countP (·.isTick)) (UInt32.size - 1) := by
  have hlatest : latest (·.heard local_node_id) events = none := latest_eq_none.2 hquiet
  have hsince : ticks_since local_node_id events = events.countP (·.isTick) := by
    rw [ticks_since, count_since, List.rtakeWhile_eq_self_iff.2]
    intro event hmem
    rw [hquiet event hmem]
    rfl
  rw [hages.1, own_heartbeat, hlatest, hsince]
  exact congrArg (min · _) (Nat.zero_add _)

/-- While the clock does not go back, the uptime of the local node is not ahead of it, and
loses no more than the time between two looks in every second; unless it has come to its
maximum. -/
theorem uptime_paced (setup : Setup) (pnp : Option (Table × String)) (start : Instant) (gap : Duration)
    (actions : List Action) (hregular : Regular gap (first_look start) (looks actions)) :
    let run := trace (Service.step setup) (Service.start setup pnp start) actions
    let service := final (Service.step setup) (Service.start setup pnp start) actions
    let last := (first_look start :: looks actions).getLast (List.cons_ne_nil _ _)
    (∀ event ∈ node_events setup run, event.heard setup.local_node_id = none) →
      ∀ node ∈ service.worker.state.node_list, node.node_id = setup.local_node_id →
        start + node.uptime.toNat * Duration.from_secs 1 ≤ last.marked_at ∧
          (node.uptime.toNat < UInt32.size - 1 →
            last.tested_at < start + node.uptime.toNat * (Duration.from_secs 1 + gap) + Duration.from_secs 1) := by
  intro run service last hquiet node hmem hlocal
  have hticks : Ticks setup start run service :=
    invariant_of_step (Ticks setup start) (Ticks.init setup pnp start) (fun _ _ _ _ _ h hticks => hticks.step h) actions
  have hheard : Heard setup run service :=
    invariant_of_step (Heard setup) (Heard.init setup pnp start) (fun _ _ _ _ _ h hheard => hheard.step h) actions
  have hperiod : 0 < Duration.from_secs 1 := by decide
  have hpaced : Paced start (Duration.from_secs 1) gap last (second_task start run) := by
    rw [second_task, trace_map_input]
    exact (Paced.init hperiod).looks hperiod hregular
  obtain ⟨hahead, hbehind⟩ := hpaced.bounds
  have huptime := own_uptime (hheard.summarizes.own node hmem hlocal) hquiet
  rw [hticks.2] at huptime
  have hle : node.uptime.toNat ≤ (second_task start run).runs := huptime.le.trans (Nat.min_le_left _ _)
  refine ⟨?_, fun hunsaturated => ?_⟩
  · have hmul := Nat.mul_le_mul_right (Duration.from_secs 1) hle
    exact (Nat.add_le_add_left hmul start).trans hahead
  · have heq : node.uptime.toNat = (second_task start run).runs := by omega
    rw [heq]
    exact hbehind

/-- Two looks, the second of them late. -/
theorem uptime_paced_late :
    0 + (1 : UInt32).toNat * Duration.from_secs 1 ≤ 1900000000 ∧
      ((1 : UInt32).toNat < UInt32.size - 1 →
        1900000000 < 0 + (1 : UInt32).toNat * (Duration.from_secs 1 + 1500000000) + Duration.from_secs 1) :=
  uptime_paced quiet_udp none 0 1500000000
    [.work (.per_second 400000000 400000000), .work (.per_second 1900000000 1900000000)] (by decide) (by decide)
    ⟨1, 1, 0, 0⟩ (by decide) rfl

end cyphal_service.transport
