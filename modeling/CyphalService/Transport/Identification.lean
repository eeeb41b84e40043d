import CyphalService.Lib.Waiting
import CyphalService.Transport.Identity
import CyphalService.Transport.NodeInfo
import CyphalService.Transport.Turns

open effect machine
open cyphal_service.pnp
open cyphal_service.pnp.db cyphal_service.pnp.allocator

namespace cyphal_service.pnp.system

/-- The node and the result that a call reports. -/
def Call.get_info_result : Call → Option (UInt16 × Option UniqueId)
  | .on_get_info_result node_id unique_id => some (node_id, unique_id)
  | _ => none

section Step

variable {s post : State} {input : Input} {output : Return}

/-- The nodes on the GetInfo queue have a row. -/
theorem known_of_step (h : step s input = (output, post)) (hknown : s.self.get_info_queue ⊆ s.table.ids) :
    post.self.get_info_queue ⊆ post.table.ids := by
  have hids : ∀ node_id ∈ s.self.get_info_queue, node_id ∈ post.table.ids :=
    fun _ hmem => (step_extends h).ids_subset (hknown hmem)
  cases step_transition h with
  | request hq hassigned => exact hids
  | ignored hallocation hq hanswer => exact hknown
  | @queued node_id tested_at queued_at ts hqueues =>
    intro other hmem
    obtain hearlier | hnow := List.mem_append.1 hmem
    · exact hids other hearlier
    · obtain rfl := List.mem_singleton.1 hnow
      exact Table.mem_ids_record s.table other ts
  | noted hqueues => exact hids
  | popped =>
    obtain ⟨⟨local_node_id, max_node_id, queue, queried⟩, table⟩ := s
    cases queue with
    | nil => exact hknown
    | cons node_id rest => exact fun _ hmem => hknown (List.mem_cons_of_mem node_id hmem)
  | resolved =>
    rw [Table.ids_setHex]
    exact hknown
  | failed => exact hknown

/-- A reported unique ID is stored in the row of the node. -/
theorem stored_of_reported {node_id : UInt16} {unique_id : UniqueId} {ts : String}
    (h : step s ⟨.on_get_info_result node_id (some unique_id), ts⟩ = (output, post))
    (hmem : node_id ∈ s.table.ids) :
    ∃ row, post.table.byNode node_id = some row ∧ row.unique_id_hex = bytes_to_hex unique_id.toList := by
  obtain ⟨row, hrow⟩ := Table.mem_ids_iff.1 hmem
  exact ⟨_, byNode_of_applied h rfl hrow, rfl⟩

end Step

end cyphal_service.pnp.system

namespace cyphal_service.transport

/-- The GetInfo of a popped node can be sent. -/
def Setup.sends (setup : Setup) (node_id : UInt16) (sent : SendOutcome) : Bool :=
  setup.get_info_token && (setup.kind.dispatch_target node_id).isSome && sent.toBool

/-- How an event ends the allocator's GetInfo: with the unique ID in the answer of
the node, or without one when that does not decode or the deadline has passed. -/
def Event.identifies (setup : Setup) (p : PnpGetInfoPending) : Event → Option (Option UniqueId)
  | .response transfer _ =>
    if transfer.service = GET_INFO_SERVICE ∧ p.node_id = transfer.source then
      some ((setup.codec.get_info_response transfer.payload).map (·.unique_id))
    else none
  | .check_pnp_get_info_timeout now => if p.deadline < now.first then some none else none
  | _ => none

/-- What the allocator's GetInfo for a node comes to, from the events after its dispatch. -/
def identification (setup : Setup) (node_id : UInt16) (sent : SendOutcome) (now : Readings) (later : List Event) :
    Option (Option UniqueId) :=
  if setup.sends node_id sent then
    later.findSome? (·.identifies setup ⟨node_id, now.first + Duration.from_secs 5⟩)
  else some none

/-- The results that a step reports to the allocator. -/
def get_info_results (st : machine.Step Worker Event (List Effect)) : List (UInt16 × Option UniqueId) :=
  (calls st.output).filterMap (·.1.call.get_info_result)

namespace Worker

theorem run_send_pnp_get_info_of_sends {setup : Setup} {node_id : UInt16} {sent : SendOutcome}
    (hsends : setup.sends node_id sent = true) (now : Readings) (self : Worker) :
    ∃ target, (send_pnp_get_info setup node_id sent now).run self =
      ⟨(), [.send_request target], { self with state := { self.state.on_get_info_request_sent with
        pnp_pending_get_info := some ⟨node_id, now.first + Duration.from_secs 5⟩ } }⟩ := by
  rw [Setup.sends, Bool.and_eq_true, Bool.and_eq_true, Option.isSome_iff_exists] at hsends
  obtain ⟨⟨htoken, target, htarget⟩, hsent⟩ := hsends
  cases sent with
  | error e => cases hsent
  | ok sent => exact ⟨target, by simp [send_pnp_get_info, htoken, htarget]⟩

theorem run_send_pnp_get_info_of_unsent {setup : Setup} {node_id : UInt16} {sent : SendOutcome}
    (hunsent : setup.sends node_id sent = false) (now : Readings) (self : Worker) :
    ∃ tried, calls tried = [] ∧ (send_pnp_get_info setup node_id sent now).run self =
      ⟨(), tried ++ ((on_get_info_result node_id none now).run self).log,
        ((on_get_info_result node_id none now).run self).state⟩ := by
  rw [Setup.sends] at hunsent
  cases htoken : setup.get_info_token with
  | false => exact ⟨[], rfl, by simp [send_pnp_get_info, htoken]⟩
  | true =>
    cases htarget : setup.kind.dispatch_target node_id with
    | none => exact ⟨[], rfl, by simp [send_pnp_get_info, htoken, htarget]⟩
    | some target =>
      cases sent with
      | ok sent =>
        rw [htoken, htarget] at hunsent
        cases hunsent
      | error e => exact ⟨[.send_request target], rfl, by simp [send_pnp_get_info, htoken, htarget]⟩

/-- The worker has an allocator, whose queue holds nodes of its table. -/
def Known (self : Worker) : Prop :=
  ∃ pnp, self.pnp_allocator = some pnp ∧ pnp.self.get_info_queue ⊆ pnp.table.ids

/-- The allocator's GetInfo is in flight to a node of its table. -/
def InFlight (p : PnpGetInfoPending) (self : Worker) : Prop :=
  self.state.pnp_pending_get_info = some p ∧ ∃ pnp, self.pnp_allocator = some pnp ∧ p.node_id ∈ pnp.table.ids

end Worker

section Step

variable {setup : Setup} {self post : Worker} {event : Event} {effects : List Effect} {p : PnpGetInfoPending}
  {pnp : system.State}

/-- What every call keeps of the allocator, a step of the worker keeps. -/
theorem kept_of_step {Kept : system.State → Prop}
    (hkept : ∀ s input output post, system.step s input = (output, post) → Kept s → Kept post)
    (h : step setup self event = (effects, post)) (hpnp : self.pnp_allocator = some pnp) (hself : Kept pnp) :
    ∃ pnp', post.pnp_allocator = some pnp' ∧ Kept pnp' := by
  obtain ⟨pnp', hpnp', hmanaged⟩ := managed_of_step h hpnp
  refine ⟨pnp', hpnp', ?_⟩
  generalize calls effects = made at hmanaged
  generalize post.state.pnp_pending_get_info = pending at hmanaged
  cases hmanaged with
  | idle => exact hself
  | called hcall hstep => exact hkept _ _ _ _ hstep hself
  | unpopped hpending hpop => exact hkept _ _ _ _ hpop hself
  | sent hpending hpop => exact hkept _ _ _ _ hpop hself
  | unsent hpending hpop hreport => exact hkept _ _ _ _ hreport (hkept _ _ _ _ hpop hself)
  | expired hpending hreport => exact hkept _ _ _ _ hreport hself
  | resolved hpending hservice hsource huid hreport => exact hkept _ _ _ _ hreport hself

theorem known_of_step (h : step setup self event = (effects, post)) (hself : self.Known) : post.Known := by
  obtain ⟨pnp, hpnp, hknown⟩ := hself
  exact kept_of_step (fun _ _ _ _ => system.known_of_step) h hpnp hknown

theorem mem_ids_of_step (h : step setup self event = (effects, post)) (hpnp : self.pnp_allocator = some pnp)
    {node_id : UInt16} (hmem : node_id ∈ pnp.table.ids) :
    ∃ pnp', post.pnp_allocator = some pnp' ∧ node_id ∈ pnp'.table.ids := by
  refine kept_of_step (fun s input output post hstep hmem => ?_) h hpnp hmem
  exact (system.step_extends hstep).ids_subset hmem

/-- The event reports the result of the GetInfo in flight, which ends with it. -/
structure Ends (setup : Setup) (self : Worker) (event : Event) (pnp : system.State) (p : PnpGetInfoPending)
    (unique_id : Option UniqueId) : Prop where
  pending : (step setup self event).2.state.pnp_pending_get_info = none
  report : ∃ ts pnp', system.step pnp ⟨.on_get_info_result p.node_id unique_id, ts⟩ = (.unit, pnp') ∧
    calls (step setup self event).1 = [(⟨.on_get_info_result p.node_id unique_id, ts⟩, .unit)] ∧
    (step setup self event).2.pnp_allocator = some pnp'

theorem ends_of_response {transfer : ServiceTransfer} (now : Readings) (hpnp : self.pnp_allocator = some pnp)
    (hpending : self.state.pnp_pending_get_info = some p) (hservice : transfer.service = GET_INFO_SERVICE)
    (hsource : p.node_id = transfer.source) :
    Ends setup self (.response transfer now) pnp p
      ((setup.codec.get_info_response transfer.payload).map (·.unique_id)) := by
  have hmatches : self.state.pnp_pending_get_info.any (·.node_id = transfer.source) = true :=
    Worker.any_of_matches.2 ⟨p, hpending, hsource⟩
  generalize hcli : self.state.pending_get_info.any (·.node_id = transfer.source) = cli
  obtain ⟨hcalls, hallocator, -⟩ := Worker.answer_cli_frame cli transfer.source
    (setup.codec.get_info_response transfer.payload) self
  obtain ⟨pnp', hstep⟩ := system.exists_report pnp transfer.source
    ((setup.codec.get_info_response transfer.payload).map (·.unique_id)) now.current_timestamp
  obtain ⟨hcalled, hpost, hnone⟩ := Worker.run_answer_pnp (hallocator.trans hpnp) hstep
  have hrun := @Worker.run_handle_response setup transfer now self hservice _ _ hcli hmatches (Bool.or_true cli)
  refine ⟨?_, now.current_timestamp, pnp', hsource ▸ hstep, ?_, ?_⟩
  · rw [step, Event.perform]
    simp only [Logged.run_bind, Logged.run_pure, hrun, Worker.run_update, WorkerState.on_message_received, hnone]
  · rw [step, Event.perform, hsource]
    simp only [Logged.run_bind, Logged.run_pure, hrun, Worker.run_update, List.append_nil, calls_append, hcalls,
      hcalled, List.nil_append]
  · rw [step, Event.perform]
    simp only [Logged.run_bind, Logged.run_pure, hrun, Worker.run_update, hpost]

theorem ends_of_expired {now : Readings} (hpnp : self.pnp_allocator = some pnp)
    (hpending : self.state.pnp_pending_get_info = some p) (hlate : p.deadline < now.first) :
    Ends setup self (.check_pnp_get_info_timeout now) pnp p none := by
  obtain ⟨pnp', hstep⟩ := system.exists_report pnp p.node_id none now.current_timestamp
  have hrun := Worker.run_on_get_info_result
    { self with state := { self.state with pnp_pending_get_info := none } } hpnp hstep
  have hcheck := Worker.run_check_pnp_get_info_of_expired hpending hlate
  refine ⟨?_, now.current_timestamp, pnp', hstep, ?_, ?_⟩
  · rw [step, Event.perform, hcheck, hrun]
  · rw [step, Event.perform, hcheck, hrun]
    rfl
  · rw [step, Event.perform, hcheck, hrun]

/-- An event that ends the allocator's GetInfo reports its result. -/
theorem ends_of_identifies (hpnp : self.pnp_allocator = some pnp)
    (hpending : self.state.pnp_pending_get_info = some p) {unique_id : Option UniqueId}
    (hidentifies : event.identifies setup p = some unique_id) : Ends setup self event pnp p unique_id := by
  cases event with
  | response transfer now =>
    rw [Event.identifies] at hidentifies
    split at hidentifies
    · next hmatches =>
      obtain rfl := Option.some.inj hidentifies
      exact ends_of_response now hpnp hpending hmatches.1 hmatches.2
    · cases hidentifies
  | check_pnp_get_info_timeout now =>
    rw [Event.identifies] at hidentifies
    split at hidentifies
    · next hlate =>
      obtain rfl := Option.some.inj hidentifies
      exact ends_of_expired hpnp hpending hlate
    · cases hidentifies
  | command cmd sent now => cases hidentifies
  | check_get_info_timeout now => cases hidentifies
  | dispatch_pnp_get_info sent now => cases hidentifies
  | message transfer now => cases hidentifies
  | receive_error e => cases hidentifies
  | per_second tested_at ticked_at => cases hidentifies

/-- An event that does not end the allocator's GetInfo leaves it in flight. -/
theorem in_flight_of_step (h : step setup self event = (effects, post)) (hself : self.InFlight p)
    (hnone : event.identifies setup p = none) :
    post.InFlight p ∧ get_info_results ⟨self, event, effects, post⟩ = [] := by
  obtain ⟨hpending, pnp, hpnp, hmem⟩ := hself
  have hflight : post.state.pnp_pending_get_info = some p → post.InFlight p :=
    fun hpost => ⟨hpost, mem_ids_of_step h hpnp hmem⟩
  obtain ⟨pnp', -, hmanaged⟩ := managed_of_step h hpnp
  rw [get_info_results]
  generalize hmade : calls effects = made at hmanaged
  generalize hafter : post.state.pnp_pending_get_info = pending' at hmanaged
  rw [hpending] at hmanaged
  cases hmanaged with
  | idle => exact ⟨hflight hafter, rfl⟩
  | @called transfer now c output _ hcall hstep =>
    refine ⟨hflight hafter, ?_⟩
    obtain ⟨_, _, _, rfl⟩ | ⟨_, _, _, rfl⟩ | ⟨_, _, _, rfl⟩ := Setup.message_call_cases hcall
    · rfl
    · rfl
    · rfl
  | unpopped hfree hpop => cases hfree
  | sent hfree hpop => cases hfree
  | unsent hfree hpop hreport => cases hfree
  | @expired now q _ hwaits hreport =>
    obtain rfl := Option.some.inj hwaits
    have hwaiting : ¬ p.deadline < now.first := by
      intro hlate
      rw [Event.identifies, if_pos hlate] at hnone
      cases hnone
    have hrun := @Worker.run_check_pnp_get_info_of_waiting self now fun other hother => by
      obtain rfl := Option.some.inj (hpending.symm.trans hother)
      exact hwaiting
    rw [step, Event.perform, hrun] at h
    obtain ⟨rfl, -⟩ := Prod.mk.inj h
    cases hmade
  | resolved hwaits hservice hsource huid hreport =>
    obtain rfl := Option.some.inj hwaits
    rw [Event.identifies, if_pos ⟨hservice, hsource⟩] at hnone
    cases hnone

end Step

/-- The allocator's GetInfo waits for the first event that ends it. -/
theorem waits_in_flight (setup : Setup) (p : PnpGetInfoPending) :
    Waits (step setup) (Worker.InFlight p) (·.state.pnp_pending_get_info = none) (·.input.identifies setup p)
      get_info_results (fun unique_id => [(p.node_id, unique_id)]) where
  waits _ _ hwaiting hnone := in_flight_of_step rfl hwaiting hnone
  ends pre event unique_id hwaiting hidentifies := by
    obtain ⟨hpending, pnp, hpnp, -⟩ := hwaiting
    obtain ⟨hnone, ts, pnp', -, hcalls, -⟩ := @ends_of_identifies setup pre event p pnp hpnp hpending
      unique_id hidentifies
    refine ⟨hnone, ?_⟩
    rw [get_info_results, stepOf, hcalls]
    rfl

/-- One of the events is a GetInfo response of the node. -/
def Responded (setup : Setup) (node_id : UInt16) (events : List Event) (response : GetInfoResponse) : Prop :=
  ∃ transfer now, .response transfer now ∈ events ∧ transfer.service = GET_INFO_SERVICE ∧
    transfer.source = node_id ∧ setup.codec.get_info_response transfer.payload = some response

/-- The row of the node holds the unique ID of one of its answers. -/
def Identified (setup : Setup) (node_id : UInt16) (events : List Event) (t : Table) : Prop :=
  ∃ response row, Responded setup node_id events response ∧ t.byNode node_id = some row ∧
    row.unique_id_hex = bytes_to_hex response.unique_id.toList

section Identify

variable {setup : Setup} {self post : Worker} {event : Event} {effects : List Effect} {p : PnpGetInfoPending}
  {pnp : system.State} {node_id : UInt16} {events : List Event}

theorem identified_of_step (h : step setup self event = (effects, post)) (hself : self.Known)
    (hevent : event ∈ events) (hidentified : Identified setup node_id events self.table) :
    Identified setup node_id events post.table := by
  obtain ⟨pnp, hpnp, -⟩ := hself
  obtain ⟨response, row, hresponded, hrow, hhex⟩ := hidentified
  have hframe := tableFrame_of_step h hpnp
  obtain ⟨hmem, hid⟩ := Table.byNode_eq_some_iff.1 hrow
  obtain ⟨row', hmem', hid', -⟩ := hframe.kept row hmem
  have hrow' : post.table.byNode node_id = some row' := Table.byNode_eq_some_iff.2 ⟨hmem', hid'.trans hid⟩
  by_cases hsame : row'.unique_id_hex = row.unique_id_hex
  · exact ⟨response, row', hresponded, hrow', hsame.trans hhex⟩
  · obtain ⟨newer, ⟨transfer, now, rfl, hservice, hsource, hdecodes, -⟩, hwritten⟩ :=
      hframe.rewritten row hmem row' hmem' hid' hsame
    exact ⟨newer, row', ⟨transfer, now, hevent, hservice, hsource.trans hid, hdecodes⟩, hrow', hwritten⟩

theorem identified_of_run (hself : self.Known) {rest : List Event} (hrest : rest ⊆ events)
    (hidentified : Identified setup node_id events self.table) :
    Identified setup node_id events (final (step setup) self rest).table := by
  induction rest generalizing self with
  | nil => exact hidentified
  | cons event rest ih =>
    obtain ⟨hevent, hrest⟩ := List.cons_subset.1 hrest
    exact ih (known_of_step rfl hself) hrest (identified_of_step rfl hself hevent hidentified)

theorem known_of_run (hself : self.Known) (events : List Event) : (final (step setup) self events).Known := by
  induction events generalizing self with
  | nil => exact hself
  | cons event events ih => exact ih (known_of_step rfl hself)

/-- An answer that decodes is stored. -/
theorem identified_of_ends (hself : self.InFlight p) {unique_id : UniqueId} (hevent : event ∈ events)
    (hidentifies : event.identifies setup p = some (some unique_id)) :
    Identified setup p.node_id events (step setup self event).2.table := by
  obtain ⟨hpending, pnp, hpnp, hmem⟩ := hself
  obtain ⟨-, ts, pnp', hreport, -, hpost⟩ := ends_of_identifies hpnp hpending hidentifies
  obtain ⟨row, hrow, hhex⟩ := system.stored_of_reported hreport hmem
  have htable : (step setup self event).2.table = pnp'.table := by rw [Worker.table, hpost]
  rw [htable]
  cases event with
  | response transfer now =>
    rw [Event.identifies] at hidentifies
    split at hidentifies
    · next hmatches =>
      obtain ⟨response, hdecodes, hunique⟩ := Option.map_eq_some_iff.1 (Option.some.inj hidentifies)
      refine ⟨response, row, ⟨transfer, now, hevent, hmatches.1, hmatches.2.symm, hdecodes⟩, hrow, ?_⟩
      rw [hhex, hunique]
    · cases hidentifies
  | check_pnp_get_info_timeout now =>
    rw [Event.identifies] at hidentifies
    split at hidentifies
    · cases hidentifies
    · cases hidentifies
  | command cmd sent now => cases hidentifies
  | check_get_info_timeout now => cases hidentifies
  | dispatch_pnp_get_info sent now => cases hidentifies
  | message transfer now => cases hidentifies
  | receive_error e => cases hidentifies
  | per_second tested_at ticked_at => cases hidentifies

/-- From the dispatch of a request in flight: what the allocator is told first, and what
its table holds for an answer that decodes. -/
theorem settled_of_in_flight (hself : self.InFlight p) (hknown : self.Known) (later : List Event) :
    ((trace (step setup) self later).flatMap get_info_results).head? =
        (later.findSome? (·.identifies setup p)).map (p.node_id, ·) ∧
      ∀ unique_id, later.findSome? (·.identifies setup p) = some (some unique_id) →
        Identified setup p.node_id later (final (step setup) self later).table := by
  have hwait := (waits_in_flight setup p).wait hself later
  have hinputs : (trace (step setup) self later).findSome? (·.input.identifies setup p) =
      later.findSome? (·.identifies setup p) := by
    conv_rhs => rw [← trace_map_input (step setup) self later, List.findSome?_map]
    rfl
  rw [hinputs] at hwait
  refine ⟨hwait.head?_sends, ?_⟩
  intro unique_id houtcome
  rw [houtcome] at hwait
  cases hwait with
  | @passed first rest event result hwaiting hsilent hending hended hsends =>
    have hfirst := @known_of_run setup self hknown first
    have hstored := @identified_of_ends setup (final (step setup) self first) event p (first ++ event :: rest) hwaiting
      unique_id (List.mem_append_right first List.mem_cons_self) hending
    rw [final_append, final]
    exact identified_of_run (known_of_step rfl hfirst)
      (fun _ hmem => List.mem_append_right first (List.mem_cons_of_mem event hmem)) hstored

/-- A dispatch that pops a node has its GetInfo in flight then, or reports that it failed. -/
theorem dispatched_of_popped {sent : SendOutcome} {now : Readings}
    (h : step setup self (.dispatch_pnp_get_info sent now) = (effects, post)) (hself : self.Known)
    (hpopped : node_id ∈ (calls effects).filterMap (·.2.popped_id)) :
    (setup.sends node_id sent = true ∧ post.InFlight ⟨node_id, now.first + Duration.from_secs 5⟩ ∧
      (calls effects).filterMap (·.1.call.get_info_result) = []) ∨
    (setup.sends node_id sent = false ∧
      (calls effects).filterMap (·.1.call.get_info_result) = [(node_id, none)]) := by
  obtain ⟨pnp, hpnp, hknown⟩ := hself
  obtain ⟨rfl, rfl⟩ := Prod.mk.inj h
  rw [Event.perform] at hpopped ⊢
  cases hpending : self.state.pnp_pending_get_info with
  | some p =>
    rw [Worker.run_dispatch_of_pending hpending] at hpopped
    cases hpopped
  | none =>
    have hpop := system.step_pop_get_info_request pnp now.current_timestamp
    have hextends := (system.step_extends hpop).ids_subset
    cases hqueue : pnp.self.get_info_queue with
    | nil =>
      rw [PnpAllocator.pop_get_info_request, hqueue] at hpop
      rw [Worker.run_dispatch_of_unpopped hpending hpnp hpop] at hpopped
      cases hpopped
    | cons head rest =>
      rw [PnpAllocator.pop_get_info_request, hqueue] at hpop hextends
      have hmem : head ∈ pnp.table.ids := hknown (hqueue ▸ List.mem_cons_self)
      rw [Worker.run_dispatch_of_popped hpending hpnp hpop] at hpopped ⊢
      cases hsends : setup.sends head sent with
      | true =>
        obtain ⟨target, hrun⟩ := Worker.run_send_pnp_get_info_of_sends hsends now
          { self with pnp_allocator := some ⟨{ pnp.self with get_info_queue := rest }, pnp.table⟩ }
        rw [hrun] at hpopped ⊢
        obtain rfl : node_id = head := List.mem_singleton.1 hpopped
        exact .inl ⟨hsends, ⟨rfl, _, rfl, hextends hmem⟩, rfl⟩
      | false =>
        obtain ⟨tried, htried, hrun⟩ := Worker.run_send_pnp_get_info_of_unsent hsends now
          { self with pnp_allocator := some ⟨{ pnp.self with get_info_queue := rest }, pnp.table⟩ }
        obtain ⟨post, hreport⟩ := system.exists_report
          ⟨{ pnp.self with get_info_queue := rest }, pnp.table⟩ head none now.current_timestamp
        rw [hrun, Worker.run_on_get_info_result _ rfl hreport] at hpopped ⊢
        simp only [calls_cons, calls_append, htried, List.nil_append] at hpopped ⊢
        obtain rfl : node_id = head := List.mem_singleton.1 hpopped
        exact .inr ⟨hsends, rfl⟩

/-- The dispatch pops the node; the allocator is first told what its GetInfo comes to,
and stores the unique ID in an answer that decodes. -/
structure Settles (setup : Setup) (self : Worker) (node_id : UInt16) (sent : SendOutcome) (now : Readings)
    (later : List Event) : Prop where
  popped : node_id ∈ (calls (step setup self (.dispatch_pnp_get_info sent now)).1).filterMap (·.2.popped_id)
  told : ((trace (step setup) self (.dispatch_pnp_get_info sent now :: later)).flatMap get_info_results).head? =
    (identification setup node_id sent now later).map (node_id, ·)
  stored : ∀ unique_id, identification setup node_id sent now later = some (some unique_id) →
    Identified setup node_id later (final (step setup) self (.dispatch_pnp_get_info sent now :: later)).table

theorem settles_of_popped {sent : SendOutcome} {now : Readings} (hself : self.Known)
    (hpopped : node_id ∈ (calls (step setup self (.dispatch_pnp_get_info sent now)).1).filterMap (·.2.popped_id))
    (later : List Event) : Settles setup self node_id sent now later := by
  have hstep : step setup self (.dispatch_pnp_get_info sent now) =
    ((step setup self (.dispatch_pnp_get_info sent now)).1, (step setup self (.dispatch_pnp_get_info sent now)).2) := rfl
  obtain ⟨hsends, hflight, hresults⟩ | ⟨hunsent, hresults⟩ := dispatched_of_popped hstep hself hpopped
  · obtain ⟨htold, hstored⟩ := settled_of_in_flight hflight (known_of_step hstep hself) later
    have hidentification : identification setup node_id sent now later =
        later.findSome? (·.identifies setup ⟨node_id, now.first + Duration.from_secs 5⟩) := if_pos hsends
    refine ⟨hpopped, ?_, fun unique_id houtcome => hstored unique_id (hidentification ▸ houtcome)⟩
    rw [trace, List.flatMap_cons, get_info_results, stepOf, hresults, List.nil_append, hidentification]
    exact htold
  · have hidentification : identification setup node_id sent now later = some none := by
      rw [identification, hunsent]
      rfl
    refine ⟨hpopped, ?_, fun unique_id houtcome => ?_⟩
    · rw [trace, List.flatMap_cons, get_info_results, stepOf, hresults, hidentification]
      rfl
    · cases hidentification.symm.trans houtcome

/-- Only a dispatch pops a node. -/
theorem dispatch_of_popped (h : step setup self event = (effects, post)) (hself : self.Known)
    (hpopped : node_id ∈ (calls effects).filterMap (·.2.popped_id)) :
    ∃ sent now, event = .dispatch_pnp_get_info sent now := by
  obtain ⟨pnp, hpnp, -⟩ := hself
  cases hdispatch : event.isDispatch with
  | false =>
    obtain ⟨-, hunpopped, -⟩ := awaits_of_step h hdispatch ⟨pnp, _, hpnp, (List.nil_append _).symm⟩
    rw [hunpopped] at hpopped
    cases hpopped
  | true =>
    cases event with
    | dispatch_pnp_get_info sent now => exact ⟨sent, now, rfl⟩
    | _ => cases hdispatch

end Identify

theorem Worker.known_start (setup : Setup) (table : Table) (ts : String) (start : Instant) :
    (Worker.start setup (some (table, ts)) start).Known := by
  refine ⟨_, Worker.start_pnp_allocator setup table ts start, ?_⟩
  rw [system.connect_eq]
  exact List.nil_subset _

section Steady

variable {gap : Duration} {now bound : Instant} {iterations : List Iteration}

/-- Some steady iterations come past a time by at most `gap`. -/
theorem steady_prefix (hsteady : Steady gap now iterations) (hle : now ≤ bound)
    (hlate : bound < last_read now iterations) :
    ∃ first rest, iterations = first ++ rest ∧ bound < last_read now first ∧ last_read now first ≤ bound + gap := by
  induction iterations generalizing now with
  | nil => exact absurd hlate (Nat.not_lt_of_le hle)
  | cons iteration iterations ih =>
    obtain ⟨-, -, hgap, hrest⟩ := hsteady
    by_cases hpassed : bound < iteration.pnp_get_info_read.first
    · exact ⟨[iteration], iterations, rfl, hpassed, Nat.le_trans hgap (Nat.add_le_add_right hle gap)⟩
    · obtain ⟨first, rest, rfl, hfirst, hbounded⟩ := ih hrest (Nat.le_of_not_lt hpassed) hlate
      exact ⟨iteration :: first, rest, rfl, hfirst, hbounded⟩

theorem le_last_read (hsteady : Steady gap now iterations) : now ≤ last_read now iterations := by
  induction iterations generalizing now with
  | nil => exact Nat.le_refl now
  | cons iteration iterations ih =>
    obtain ⟨hlater, hread, -, hrest⟩ := hsteady
    exact Nat.le_trans (Nat.le_trans hlater hread) (ih hrest)

theorem dispatched_le_last_read (hsteady : Steady gap now iterations) {sent : SendOutcome} {asked : Readings}
    (hmem : .dispatch_pnp_get_info sent asked ∈ iterations.flatMap Iteration.events) :
    asked.first ≤ last_read now iterations := by
  induction iterations generalizing now with
  | nil => cases hmem
  | cons iteration iterations ih =>
    obtain ⟨-, hread, -, hrest⟩ := hsteady
    rw [List.flatMap_cons, List.mem_append] at hmem
    obtain hnow | hlater := hmem
    · rw [Iteration.dispatched_of_mem hnow]
      exact Nat.le_trans hread (le_last_read hrest)
    · exact ih hrest hlater

end Steady

/-- A node on the GetInfo queue is asked in time, its GetInfo is settled by the first event
that ends it, and the table has an answer of the node from then on if that was one. -/
theorem node_identified (setup : Setup) (table : Table) (ts : String) (start : Instant) (gap : Duration)
    (before later : List Iteration) (pnp : system.State) (ahead behind : List UInt16) (node_id : UInt16)
    (hsteady : Steady gap start (before ++ later))
    (hpnp : (worker_after setup (Worker.start setup (some (table, ts)) start) before).pnp_allocator = some pnp)
    (hqueue : pnp.self.get_info_queue = ahead ++ node_id :: behind)
    (hlate : last_read start before + (ahead.length + 1) * (Duration.from_secs 5 + 2 * gap) <
      last_read start (before ++ later)) :
    ∃ earlier sent now rest, later.flatMap Iteration.events = earlier ++ .dispatch_pnp_get_info sent now :: rest ∧
      now.first ≤ last_read start before + (ahead.length + 1) * (Duration.from_secs 5 + 2 * gap) + gap ∧
      Settles setup (final (step setup)
        (worker_after setup (Worker.start setup (some (table, ts)) start) before) earlier) node_id sent now rest := by
  obtain ⟨hbefore, hlater⟩ := steady_append.1 hsteady
  rw [last_read_append] at hlate
  have hpunctual := punctual_of_start setup table ts hbefore
  have hknown : (worker_after setup (Worker.start setup (some (table, ts)) start) before).Known :=
    known_of_run (Worker.known_start setup table ts start) _
  generalize worker_after setup (Worker.start setup (some (table, ts)) start) before = worker at *
  obtain ⟨first, others, rfl, hfirst, hbounded⟩ := steady_prefix hlater (Nat.le_add_right _ _) hlate
  obtain ⟨hsteady_first, -⟩ := steady_append.1 hlater
  have hawaits : worker.Awaits (ahead ++ [node_id]) := ⟨pnp, behind, hpnp, by rw [hqueue, List.append_assoc]; rfl⟩
  have hpopped := popped_of_steady setup hawaits hpunctual hsteady_first (by rwa [List.length_append])
  have hmem : node_id ∈ popped (run_worker setup worker first) :=
    hpopped.subset (List.mem_append_right ahead List.mem_cons_self)
  obtain ⟨st, hst, hpops⟩ := List.mem_flatMap.1 hmem
  obtain ⟨earlier, event, rest, hevents, rfl⟩ := split_of_mem_trace (step setup) hst
  have hasked : (final (step setup) worker earlier).Known := known_of_run hknown earlier
  obtain ⟨sent, now, rfl⟩ := dispatch_of_popped rfl hasked hpops
  have hdispatch : .dispatch_pnp_get_info sent now ∈ first.flatMap Iteration.events := by
    rw [hevents]
    exact List.mem_append_right earlier List.mem_cons_self
  refine ⟨earlier, sent, now, rest ++ others.flatMap Iteration.events, ?_, ?_, settles_of_popped hasked hpops _⟩
  · rw [List.flatMap_append, hevents, List.append_assoc]
    rfl
  · exact Nat.le_trans (dispatched_le_last_read hsteady_first hdispatch) hbounded

/-- The first node stays silent, the second one answers after three seconds. -/
theorem node_identified_answering :
    let setup := { beating_udp with codec := { beating_udp.codec with get_info_response := get_info_fields } }
    let payload := [1, 0, 0, 0, 0, 1] ++ List.replicate 8 0 ++ List.replicate 16 7 ++ [0, 0, 0]
    let answer : Iteration := { heard_at 15 [] with
      received := [(.inr ⟨GET_INFO_SERVICE, 5, payload⟩, ⟨Duration.from_secs 15, 0, 0, ""⟩)] }
    let later := [heard_at 3 [], heard_at 6 [], heard_at 9 [], heard_at 12 [], answer, heard_at 18 [], heard_at 21 [],
      heard_at 24 []]
    ∃ earlier sent now rest, later.flatMap Iteration.events = earlier ++ .dispatch_pnp_get_info sent now :: rest ∧
      now.first ≤ 0 + (1 + 1) * (Duration.from_secs 5 + 2 * Duration.from_secs 3) + Duration.from_secs 3 ∧
      Settles setup (final (step setup)
        (worker_after setup (Worker.start setup (some (Table.empty, "")) 0) [heard_at 0 [7, 5]]) earlier) 5 sent now
        rest :=
  node_identified _ Table.empty "" 0 (Duration.from_secs 3) [heard_at 0 [7, 5]] _ _ [7] [] 5 (by decide) rfl rfl
    (by decide)

end cyphal_service.transport
