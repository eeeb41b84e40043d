import CyphalService.Lib.Queueing
import CyphalService.Transport.Deadlines

open effect machine
open cyphal_service.pnp
open cyphal_service.pnp.db cyphal_service.pnp.allocator

namespace cyphal_service.pnp.system

/-- Only a pop takes a node from the GetInfo queue, and the others are put behind. -/
theorem queue_of_step {s post : State} {input : Input} {output : Return} (h : step s input = (output, post))
    (hcall : input.call ≠ .pop_get_info_request) :
    ∃ more, post.self.get_info_queue = s.self.get_info_queue ++ more := by
  cases step_transition h with
  | request hq hassigned => exact ⟨[], (List.append_nil _).symm⟩
  | ignored hallocation hq hanswer => exact ⟨[], (List.append_nil _).symm⟩
  | queued hqueues => exact ⟨_, rfl⟩
  | noted hqueues => exact ⟨[], (List.append_nil _).symm⟩
  | popped => exact absurd rfl hcall
  | resolved => exact ⟨[], (List.append_nil _).symm⟩
  | failed => exact ⟨[], (List.append_nil _).symm⟩

theorem exists_report (s : State) (node_id : UInt16) (unique_id : Option UniqueId) (ts : String) :
    ∃ post, step s ⟨.on_get_info_result node_id unique_id, ts⟩ = (.unit, post) :=
  ⟨_, Prod.ext (step_on_get_info_result s node_id unique_id ts) rfl⟩

end cyphal_service.pnp.system

namespace cyphal_service.transport

/-- In the queue of the worker's allocator these nodes are next. -/
def Worker.Awaits (self : Worker) (awaited : List UInt16) : Prop :=
  ∃ pnp behind, self.pnp_allocator = some pnp ∧ pnp.self.get_info_queue = awaited ++ behind

theorem Worker.Awaits.allocates {self : Worker} {awaited : List UInt16} (h : self.Awaits awaited) :
    self.Allocates := by
  obtain ⟨pnp, -, hpnp, -⟩ := h
  exact .inl ⟨pnp, hpnp⟩

section Step

variable {setup : Setup} {self post : Worker} {event : Event} {effects : List Effect} {awaited : List UInt16}

theorem message_call_ne_pop {transfer : MessageTransfer} {now : Readings} {c : system.Call}
    (hcall : setup.message_call transfer now = some c) : c ≠ .pop_get_info_request := by
  rintro rfl
  obtain ⟨_, _, _, h⟩ | ⟨_, _, _, h⟩ | ⟨_, _, _, h⟩ := Setup.message_call_cases hcall
  · cases h
  · cases h
  · cases h

/-- An event other than a dispatch pops no node, and starts no GetInfo. -/
theorem awaits_of_step (h : step setup self event = (effects, post)) (hevent : event.isDispatch = false)
    (hself : self.Awaits awaited) :
    post.Awaits awaited ∧ (calls effects).filterMap (·.2.popped_id) = [] ∧
      (post.state.pnp_pending_get_info = self.state.pnp_pending_get_info ∨
        post.state.pnp_pending_get_info = none) := by
  obtain ⟨pnp, behind, hpnp, hqueue⟩ := hself
  obtain ⟨pnp', hpnp', hmanaged⟩ := managed_of_step h hpnp
  have hawaits : ∀ more, pnp'.self.get_info_queue = pnp.self.get_info_queue ++ more → post.Awaits awaited := by
    intro more hmore
    rw [hqueue, List.append_assoc] at hmore
    exact ⟨pnp', behind ++ more, hpnp', hmore⟩
  generalize post.state.pnp_pending_get_info = pending' at hmanaged ⊢
  generalize self.state.pnp_pending_get_info = pending at hmanaged ⊢
  generalize calls effects = made at hmanaged ⊢
  cases hmanaged with
  | idle => exact ⟨hawaits [] (List.append_nil _).symm, rfl, .inl rfl⟩
  | called hcall hstep =>
    obtain ⟨more, hmore⟩ := system.queue_of_step hstep (message_call_ne_pop hcall)
    refine ⟨hawaits more hmore, ?_, .inl rfl⟩
    rw [List.filterMap_cons, (called_neither hcall hstep).1]
    rfl
  | unpopped hpending hpop => cases hevent
  | sent hpending hpop => cases hevent
  | unsent hpending hpop hreport => cases hevent
  | expired hpending hreport =>
    obtain ⟨more, hmore⟩ := system.queue_of_step hreport (by rintro ⟨⟩)
    exact ⟨hawaits more hmore, rfl, .inr rfl⟩
  | resolved hpending hservice hsource huid hreport =>
    obtain ⟨more, hmore⟩ := system.queue_of_step hreport (by rintro ⟨⟩)
    exact ⟨hawaits more hmore, rfl, .inr rfl⟩

/-- A dispatch pops the next node, unless a GetInfo is in flight. -/
theorem awaits_of_dispatch {sent : SendOutcome} {now : Readings} {node_id : UInt16}
    (h : step setup self (.dispatch_pnp_get_info sent now) = (effects, post))
    (hself : self.Awaits (node_id :: awaited)) :
    ((∃ p, self.state.pnp_pending_get_info = some p) ∧ calls effects = [] ∧ post = self) ∨
      self.state.pnp_pending_get_info = none ∧ (calls effects).filterMap (·.2.popped_id) = [node_id] ∧
        post.Awaits awaited := by
  obtain ⟨pnp, behind, hpnp, hqueue⟩ := hself
  obtain ⟨rfl, rfl⟩ := Prod.mk.inj h
  rw [Event.perform]
  cases hpending : self.state.pnp_pending_get_info with
  | some p =>
    rw [Worker.run_dispatch_of_pending hpending]
    exact .inl ⟨⟨p, rfl⟩, rfl, rfl⟩
  | none =>
    have hpopped : pnp.self.pop_get_info_request =
        (some node_id, { pnp.self with get_info_queue := awaited ++ behind }) := by
      rw [PnpAllocator.pop_get_info_request, hqueue]
      rfl
    have hpop := system.step_pop_get_info_request pnp now.current_timestamp
    rw [hpopped] at hpop
    rw [Worker.run_dispatch_of_popped hpending hpnp hpop]
    obtain ⟨target, hrun⟩ | ⟨tried, -, htried, hrun⟩ := Worker.run_send_pnp_get_info setup node_id sent now
      { self with pnp_allocator := some ⟨{ pnp.self with get_info_queue := awaited ++ behind }, pnp.table⟩ }
    · rw [hrun]
      exact .inr ⟨rfl, rfl, ⟨_, behind, rfl, rfl⟩⟩
    · obtain ⟨post, hreport⟩ := system.exists_report
        ⟨{ pnp.self with get_info_queue := awaited ++ behind }, pnp.table⟩ node_id none now.current_timestamp
      have hreported := Worker.run_on_get_info_result
        { self with pnp_allocator := some ⟨{ pnp.self with get_info_queue := awaited ++ behind }, pnp.table⟩ }
        rfl hreport
      obtain ⟨more, hmore⟩ := system.queue_of_step hreport (by rintro ⟨⟩)
      rw [hrun, hreported]
      refine .inr ⟨rfl, ?_, post, behind ++ more, rfl, ?_⟩
      · simp only [calls_cons, calls_append, htried, List.nil_append]
        rfl
      · rw [hmore, List.append_assoc]

end Step

section Iterate

variable (setup : Setup) {self : Worker} {events : List Event} {awaited : List UInt16} {iteration : Iteration}

theorem popped_append (first second : History) : popped (first ++ second) = popped first ++ popped second :=
  List.flatMap_append

/-- Events other than a dispatch pop no node, and start no GetInfo. -/
theorem awaits_of_run (hevents : ∀ event ∈ events, event.isDispatch = false) (hself : self.Awaits awaited) :
    (final (step setup) self events).Awaits awaited ∧ popped (trace (step setup) self events) = [] ∧
      ((final (step setup) self events).state.pnp_pending_get_info = self.state.pnp_pending_get_info ∨
        (final (step setup) self events).state.pnp_pending_get_info = none) := by
  induction events generalizing self with
  | nil => exact ⟨hself, rfl, .inl rfl⟩
  | cons event events ih =>
    obtain ⟨hevent, hrest⟩ := List.forall_mem_cons.1 hevents
    have hstep : step setup self event = ((step setup self event).1, (step setup self event).2) := rfl
    obtain ⟨hpost, hunpopped, hpending⟩ := awaits_of_step hstep hevent hself
    obtain ⟨hafter, hpopped, hkept⟩ := ih hrest hpost
    refine ⟨hafter, ?_, ?_⟩
    · exact List.append_eq_nil_iff.2 ⟨hunpopped, hpopped⟩
    · rw [final]
      exact hkept.elim (fun hkept => hpending.imp hkept.trans hkept.trans) .inr

/-- A PNP GetInfo in flight after some events was in flight before them or sent by one of them. -/
theorem pnp_asked_of_run (hself : self.Allocates) {p : PnpGetInfoPending}
    (hpending : (final (step setup) self events).state.pnp_pending_get_info = some p) :
    self.state.pnp_pending_get_info = some p ∨ ∃ sent now, .dispatch_pnp_get_info sent now ∈ events ∧
      p.deadline = now.first + Duration.from_secs 5 := by
  induction events generalizing self with
  | nil => exact .inl hpending
  | cons event events ih =>
    obtain hpost | ⟨sent, now, hmem, hdeadline⟩ := ih (allocates_of_step rfl hself) hpending
    · refine (pnp_asked_of_step rfl hself hpost).imp_right ?_
      rintro ⟨sent, now, hdispatch, -, hdeadline⟩
      exact ⟨sent, now, List.mem_cons.2 (.inl hdispatch.symm), hdeadline⟩
    · exact .inr ⟨sent, now, List.mem_cons_of_mem _ hmem, hdeadline⟩

/-- The events of an iteration before its dispatch. -/
def Iteration.begun (self : Iteration) : List Event :=
  self.commands.map (fun (cmd, sent, now) => .command cmd sent now) ++ [.check_get_info_timeout self.get_info_read]

theorem Iteration.events_eq_begun (iteration : Iteration) :
    iteration.events = iteration.begun ++ .dispatch_pnp_get_info iteration.dispatched.1 iteration.dispatched.2 ::
      .check_pnp_get_info_timeout iteration.pnp_get_info_read :: iteration.polled := by
  rw [iteration.events_eq, begun, List.append_assoc]
  rfl

theorem Iteration.undispatched_begun (iteration : Iteration) :
    ∀ event ∈ iteration.begun, event.isDispatch = false := by
  intro event hmem
  rw [begun, List.mem_append, List.mem_map, List.mem_singleton] at hmem
  obtain ⟨_, -, rfl⟩ | rfl := hmem
  · rfl
  · rfl

theorem Iteration.undispatched_polled (iteration : Iteration) :
    ∀ event ∈ .check_pnp_get_info_timeout iteration.pnp_get_info_read :: iteration.polled,
      event.isDispatch = false :=
  List.forall_mem_cons.2 ⟨rfl, fun _ hmem => (Iteration.polled_cases hmem).2⟩

theorem Iteration.dispatched_of_mem {sent : SendOutcome} {now : Readings}
    (h : .dispatch_pnp_get_info sent now ∈ iteration.events) : now = iteration.dispatched.2 := by
  rw [iteration.events_eq_begun, List.mem_append, List.mem_cons] at h
  obtain hbegun | hdispatch | hpolled := h
  · cases iteration.undispatched_begun _ hbegun
  · exact (Event.dispatch_pnp_get_info.inj hdispatch).2
  · cases iteration.undispatched_polled _ hpolled

/-- The worker as the server of the PNP GetInfo queue. -/
def Worker.server (self : Worker) (now : Instant) (waiting : Nat) : queueing.Server :=
  ⟨now, self.state.pnp_pending_get_info.map (·.deadline), waiting⟩

/-- The worker has its PNP GetInfo in flight for no longer than five seconds. -/
def Worker.Punctual (self : Worker) (now : Instant) : Prop :=
  ∀ p, self.state.pnp_pending_get_info = some p → now ≤ p.deadline ∧ p.deadline ≤ now + Duration.from_secs 5

theorem Worker.Punctual.server {now : Instant} (h : self.Punctual now) (waiting : Nat) :
    (self.server now waiting).Punctual (Duration.from_secs 5) := by
  intro deadline hbusy
  obtain ⟨p, hpending, rfl⟩ := Option.map_eq_some_iff.1 hbusy
  exact h p hpending

theorem punctual_of_iteration {now : Instant} (hself : self.Allocates) (hpunctual : self.Punctual now)
    (hlater : now ≤ iteration.pnp_get_info_read.first)
    (hread : iteration.dispatched.2.first ≤ iteration.pnp_get_info_read.first) :
    (final (step setup) self iteration.events).Punctual iteration.pnp_get_info_read.first := by
  intro p hpending
  refine ⟨pnp_le_deadline_of_iteration hself hpending, ?_⟩
  obtain hwaited | ⟨sent, asked, hmem, hdeadline⟩ := pnp_asked_of_run setup hself hpending
  · exact Nat.le_trans (hpunctual p hwaited).2 (Nat.add_le_add_right hlater _)
  · rw [hdeadline, Iteration.dispatched_of_mem hmem]
    exact Nat.add_le_add_right hread _

/-- An iteration of the loop is a round of the server. -/
theorem round_of_iteration {now : Instant} {gap : Duration} {node_id : UInt16}
    (hself : self.Awaits (node_id :: awaited)) (hpunctual : self.Punctual now)
    (hlater : now ≤ iteration.pnp_get_info_read.first)
    (hread : iteration.dispatched.2.first ≤ iteration.pnp_get_info_read.first)
    (hgap : iteration.pnp_get_info_read.first ≤ now + gap) :
    ∃ left, popped (trace (step setup) self iteration.events) ++ left = node_id :: awaited ∧
      (final (step setup) self iteration.events).Awaits left ∧
        queueing.Round (Duration.from_secs 5) gap (self.server now (awaited.length + 1))
          ((final (step setup) self iteration.events).server iteration.pnp_get_info_read.first left.length) := by
  have hafter := punctual_of_iteration setup hself.allocates hpunctual hlater hread
  obtain ⟨hbegun, hnone, hwaited⟩ := awaits_of_run setup iteration.undispatched_begun hself
  have hfinal : final (step setup) self iteration.events =
      final (step setup) (step setup (final (step setup) self iteration.begun)
        (.dispatch_pnp_get_info iteration.dispatched.1 iteration.dispatched.2)).2
          (.check_pnp_get_info_timeout iteration.pnp_get_info_read :: iteration.polled) := by
    rw [iteration.events_eq_begun, final_append, final]
  have htrace : popped (trace (step setup) self iteration.events) =
      (calls (step setup (final (step setup) self iteration.begun)
        (.dispatch_pnp_get_info iteration.dispatched.1 iteration.dispatched.2)).1).filterMap (·.2.popped_id) ++
          popped (trace (step setup) (step setup (final (step setup) self iteration.begun)
            (.dispatch_pnp_get_info iteration.dispatched.1 iteration.dispatched.2)).2
              (.check_pnp_get_info_timeout iteration.pnp_get_info_read :: iteration.polled)) := by
    rw [iteration.events_eq_begun, trace_append, popped_append, hnone]
    rfl
  generalize final (step setup) self iteration.events = post at hafter hfinal ⊢
  generalize final (step setup) self iteration.begun = begun at hbegun hwaited hfinal htrace
  generalize hdispatch : step setup begun (.dispatch_pnp_get_info iteration.dispatched.1 iteration.dispatched.2) =
    dispatched at hfinal htrace
  obtain ⟨effects, dispatched⟩ := dispatched
  obtain ⟨⟨p, hflight⟩, hcalls, rfl⟩ | ⟨hfree, hpopped, hdispatched⟩ := awaits_of_dispatch hdispatch hbegun
  · obtain ⟨hpost, hunpopped, hkept⟩ := awaits_of_run setup iteration.undispatched_polled hbegun
    refine ⟨node_id :: awaited, ?_, hfinal ▸ hpost, ?_⟩
    · rw [htrace, hcalls, hunpopped]
      rfl
    · have hwas : self.state.pnp_pending_get_info = some p := by
        obtain hsame | hnone := hwaited
        · exact hsame.symm.trans hflight
        · cases hnone.symm.trans hflight
      rw [← hfinal, hflight] at hkept
      obtain hgoes_on | hdone := hkept
      · have hbusy := hafter.server (awaited.length + 1)
        rw [Worker.server, hgoes_on] at hbusy
        rw [Worker.server, Worker.server, hwas, hgoes_on]
        exact .goes_on hgap hbusy
      · rw [Worker.server, Worker.server, hwas, hdone]
        exact .done hgap
  · obtain ⟨hpost, hunpopped, -⟩ := awaits_of_run setup iteration.undispatched_polled hdispatched
    refine ⟨awaited, ?_, hfinal ▸ hpost, .takes hgap (hafter.server _)⟩
    rw [htrace, hpopped, hunpopped]
    rfl

end Iterate

/-- From a reading of the clock on, the clock does not go back, and each iteration checks
the PNP GetInfo within `gap` of the check before. -/
def Steady (gap : Duration) : Instant → List Iteration → Prop
  | _, [] => True
  | now, iteration :: iterations =>
    now ≤ iteration.dispatched.2.first ∧ iteration.dispatched.2.first ≤ iteration.pnp_get_info_read.first ∧
      iteration.pnp_get_info_read.first ≤ now + gap ∧ Steady gap iteration.pnp_get_info_read.first iterations

instance Steady.decidable (gap : Duration) : ∀ now iterations, Decidable (Steady gap now iterations)
  | _, [] => .isTrue trivial
  | now, iteration :: iterations =>
    have := Steady.decidable gap iteration.pnp_get_info_read.first iterations
    inferInstanceAs (Decidable (now ≤ iteration.dispatched.2.first ∧
      iteration.dispatched.2.first ≤ iteration.pnp_get_info_read.first ∧
        iteration.pnp_get_info_read.first ≤ now + gap ∧
          Steady gap iteration.pnp_get_info_read.first iterations))

/-- The last check of the PNP GetInfo. -/
def last_read : Instant → List Iteration → Instant
  | now, [] => now
  | _, iteration :: iterations => last_read iteration.pnp_get_info_read.first iterations

section Run

variable (setup : Setup) {self : Worker} {now : Instant} {gap : Duration} {awaited : List UInt16}
  {iterations : List Iteration}

theorem steady_append {before later : List Iteration} :
    Steady gap now (before ++ later) ↔ Steady gap now before ∧ Steady gap (last_read now before) later := by
  induction before generalizing now with
  | nil => exact (and_iff_right trivial).symm
  | cons iteration before ih => simp only [List.cons_append, Steady, last_read, ih, and_assoc]

theorem last_read_append {before later : List Iteration} :
    last_read now (before ++ later) = last_read (last_read now before) later := by
  induction before generalizing now with
  | nil => rfl
  | cons iteration before ih => exact ih

theorem worker_after_cons (iteration : Iteration) :
    worker_after setup self (iteration :: iterations) =
      worker_after setup (final (step setup) self iteration.events) iterations := by
  rw [worker_after, List.flatMap_cons, final_append]
  rfl

theorem popped_run_worker_cons (iteration : Iteration) :
    popped (run_worker setup self (iteration :: iterations)) = popped (trace (step setup) self iteration.events) ++
      popped (run_worker setup (final (step setup) self iteration.events) iterations) := by
  rw [run_worker, List.flatMap_cons, trace_append, popped_append]
  rfl

theorem punctual_of_steady (hself : self.Allocates) (hpunctual : self.Punctual now)
    (hsteady : Steady gap now iterations) :
    (worker_after setup self iterations).Punctual (last_read now iterations) := by
  induction iterations generalizing self now with
  | nil => exact hpunctual
  | cons iteration iterations ih =>
    obtain ⟨hlater, hread, -, hrest⟩ := hsteady
    rw [worker_after_cons]
    refine ih (allocates_of_run hself _) ?_ hrest
    exact punctual_of_iteration setup hself hpunctual (Nat.le_trans hlater hread) hread

/-- Some steady iterations pop all that are awaited, or they are rounds of the server
and some are left. -/
theorem turns_of_steady (hself : self.Awaits awaited) (hpunctual : self.Punctual now)
    (hsteady : Steady gap now iterations) :
    awaited <+: popped (run_worker setup self iterations) ∨ ∃ left : List UInt16, left ≠ [] ∧
      Relation.ReflTransGen (queueing.Round (Duration.from_secs 5) gap) (self.server now awaited.length)
        ((worker_after setup self iterations).server (last_read now iterations) left.length) := by
  induction iterations generalizing self now awaited with
  | nil =>
    cases awaited with
    | nil => exact .inl List.nil_prefix
    | cons node_id awaited => exact .inr ⟨node_id :: awaited, List.cons_ne_nil _ _, .refl⟩
  | cons iteration iterations ih =>
    cases awaited with
    | nil => exact .inl List.nil_prefix
    | cons node_id awaited =>
      obtain ⟨hlater, hread, hgap, hrest⟩ := hsteady
      have hlast := Nat.le_trans hlater hread
      obtain ⟨left, hpopped, hleft, hround⟩ :=
        round_of_iteration setup hself hpunctual hlast hread hgap
      have hafter := punctual_of_iteration setup hself.allocates hpunctual hlast hread
      rw [worker_after_cons, popped_run_worker_cons]
      obtain hserved | ⟨rest, hrest, hrounds⟩ := ih hleft hafter hrest
      · rw [← hpopped]
        exact .inl ((List.prefix_append_right_inj _).2 hserved)
      · exact .inr ⟨rest, hrest, .head hround hrounds⟩

/-- Iterations that are steady for long enough pop all that are awaited. -/
theorem popped_of_steady (hself : self.Awaits awaited) (hpunctual : self.Punctual now)
    (hsteady : Steady gap now iterations)
    (hlate : now + awaited.length * (Duration.from_secs 5 + 2 * gap) < last_read now iterations) :
    awaited <+: popped (run_worker setup self iterations) := by
  obtain hserved | ⟨left, hleft, hrounds⟩ := turns_of_steady setup hself hpunctual hsteady
  · exact hserved
  · have hle := queueing.now_le_of_waiting hrounds (hpunctual.server _) (List.length_pos_iff.2 hleft)
    exact absurd hlate (Nat.not_lt_of_le hle)

theorem punctual_of_start (table : Table) (ts : String) {start : Instant} {before : List Iteration}
    (hsteady : Steady gap start before) :
    (worker_after setup (Worker.start setup (some (table, ts)) start) before).Punctual (last_read start before) := by
  have hinit := AskedInv.init setup (some (table, ts)) start
  refine punctual_of_steady setup hinit.allocates ?_ hsteady
  intro p hpending
  exact absurd (hinit.pnp p hpending) not_occurred_nil

end Run

/-- The nodes on the GetInfo queue get their turn in their order, and each within five
seconds and two iterations for itself and every node before it. -/
theorem get_info_turns (setup : Setup) (table : Table) (ts : String) (start : Instant) (gap : Duration)
    (before later : List Iteration) (pnp : system.State) (awaited behind : List UInt16)
    (hsteady : Steady gap start (before ++ later))
    (hpnp : (worker_after setup (Worker.start setup (some (table, ts)) start) before).pnp_allocator = some pnp)
    (hqueue : pnp.self.get_info_queue = awaited ++ behind)
    (hlate : last_read start before + awaited.length * (Duration.from_secs 5 + 2 * gap) <
      last_read start (before ++ later)) :
    awaited <+: popped (run_worker setup
      (worker_after setup (Worker.start setup (some (table, ts)) start) before) later) := by
  obtain ⟨hbefore, hlater⟩ := steady_append.1 hsteady
  rw [last_read_append] at hlate
  exact popped_of_steady setup ⟨pnp, behind, hpnp, hqueue⟩ (punctual_of_start setup table ts hbefore) hlater hlate

/-- An iteration that starts at some second, and hears these nodes. -/
def heard_at (secs : Nat) (sources : List UInt16) : Iteration where
  commands := []
  get_info_read := Duration.from_secs secs
  dispatched := (.ok (), ⟨Duration.from_secs secs, 0, 0, ""⟩)
  pnp_get_info_read := ⟨Duration.from_secs secs, 0, 0, ""⟩
  received := sources.map fun source =>
    (.inl ⟨HEARTBEAT_SUBJECT, some source, []⟩, ⟨Duration.from_secs secs, Duration.from_secs secs, 0, ""⟩)
  receive_error := none
  second_read := Duration.from_secs secs
  ticked_at := Duration.from_secs secs

/-- Two nodes that do not answer. -/
theorem get_info_turns_unanswered :
    [7, 5] <+: popped (run_worker beating_udp
      (worker_after beating_udp (Worker.start beating_udp (some (Table.empty, "")) 0) [heard_at 0 [7, 5, 9]])
      [heard_at 3 [], heard_at 6 [], heard_at 9 [], heard_at 12 [], heard_at 15 [], heard_at 18 [], heard_at 21 [],
        heard_at 24 []]) :=
  get_info_turns beating_udp Table.empty "" 0 (Duration.from_secs 3) [heard_at 0 [7, 5, 9]]
    [heard_at 3 [], heard_at 6 [], heard_at 9 [], heard_at 12 [], heard_at 15 [], heard_at 18 [], heard_at 21 [],
      heard_at 24 []]
    _ [7, 5] [9] (by decide) rfl rfl (by decide)

end cyphal_service.transport
