import CyphalService.Transport.Dispatch

open effect machine
open cyphal_service.pnp
open cyphal_service.pnp.db cyphal_service.pnp.allocator

namespace cyphal_service.transport

/-- The allocator calls of a worker run with their returns, in order. -/
def made (history : History) : List (system.Input × system.Return) :=
  history.flatMap fun st => calls st.output

/-- The allocator run behind a list of calls, as far as it can be seen from outside. -/
def seen (pnp : system.State) (inputs : List system.Input) : List (system.Input × system.Return) :=
  (trace system.step pnp inputs).map fun st => (st.input, st.output)

private theorem seen_append (pnp : system.State) (first second : List system.Input) :
    seen pnp (first ++ second) = seen pnp first ++ seen (final system.step pnp first) second := by
  rw [seen, trace_append, List.map_append]
  rfl

/-- The calls of one event are a piece of an allocator run. -/
theorem Managed.seen {setup : Setup} {pnp pnp' : system.State} {pending pending' : Option PnpGetInfoPending}
    {event : Event} {cs : List (system.Input × system.Return)}
    (h : Managed setup pnp pending event cs pnp' pending') :
    transport.seen pnp (cs.map (·.1)) = cs ∧ final system.step pnp (cs.map (·.1)) = pnp' := by
  cases h with
  | idle => exact ⟨rfl, rfl⟩
  | called hcall hstep => simp [transport.seen, trace, stepOf, final, hstep]
  | unpopped hpending hpop => simp [transport.seen, trace, stepOf, final, hpop]
  | sent hpending hpop => simp [transport.seen, trace, stepOf, final, hpop]
  | unsent hpending hpop hreport => simp [transport.seen, trace, stepOf, final, hpop, hreport]
  | expired hpending hreport => simp [transport.seen, trace, stepOf, final, hreport]
  | resolved hpending hservice hsource huid hreport => simp [transport.seen, trace, stepOf, final, hreport]

private theorem outstanding_called {before : system.History}
    {st : machine.Step system.State system.Input system.Return} (hpopped : st.output.popped_id = none) (hreports : st.input.call.reports = none) :
    system.outstanding (before ++ [st]) = system.outstanding before := by
  obtain ⟨pre, ⟨call, ts⟩, output, post⟩ := st
  rw [system.outstanding_snoc]
  cases call with
  | pop_get_info_request =>
    match output, hpopped with
    | .popped none, _ => rfl
    | .allocation_v1 response, _ => rfl
    | .allocation_v2 response, _ => rfl
    | .unit, _ => rfl
  | on_get_info_result node_id uid => cases hreports
  | on_allocation_v1 msg source => rfl
  | on_allocation_v2 msg source => rfl
  | on_heartbeat node_id tested_at queued_at => rfl

/-- The pending PNP GetInfo is the node ID that the allocator has handed out. -/
private theorem Managed.outstanding {setup : Setup} {pnp pnp' : system.State}
    {pending pending' : Option PnpGetInfoPending} {event : Event} {cs : List (system.Input × system.Return)}
    (h : Managed setup pnp pending event cs pnp' pending') {before : system.History}
    (hbefore : system.outstanding before = PnpGetInfoPending.nodes pending)
    (hsolicited : Everywhere system.Solicited before) :
    system.outstanding (before ++ trace system.step pnp (cs.map (·.1))) = PnpGetInfoPending.nodes pending' ∧
      Everywhere system.Solicited (before ++ trace system.step pnp (cs.map (·.1))) := by
  cases h with
  | idle => simpa [trace] using ⟨hbefore, hsolicited⟩
  | called hcall hstep =>
    obtain ⟨hpopped, hreports⟩ := called_neither hcall hstep
    simp only [List.map_cons, List.map_nil, trace, stepOf, hstep, everywhere_snoc]
    refine ⟨(outstanding_called hpopped hreports).trans hbefore, hsolicited, ?_⟩
    simp [system.Solicited, hreports]
  | unpopped hpending hpop =>
    simp only [List.map_cons, List.map_nil, trace, stepOf, hpop, everywhere_snoc]
    refine ⟨(outstanding_called rfl rfl).trans (hpending ▸ hbefore), hsolicited, ?_⟩
    simp [system.Solicited, system.Call.reports]
  | sent hpending hpop =>
    simp only [List.map_cons, List.map_nil, trace, stepOf, hpop, everywhere_snoc]
    refine ⟨?_, hsolicited, ?_⟩
    · simp [system.outstandingStep, hbefore, hpending, PnpGetInfoPending.nodes]
    · simp [system.Solicited, system.Call.reports]
  | unsent hpending hpop hreport =>
    have hsteps : ∀ first second : machine.Step system.State system.Input system.Return,
        before ++ [first, second] = before ++ [first] ++ [second] := by simp
    simp only [List.map_cons, List.map_nil, trace, stepOf, hpop, hreport, hsteps, everywhere_snoc]
    refine ⟨?_, ⟨hsolicited, ?_⟩, ?_⟩
    · rw [system.outstanding_snoc, system.outstanding_snoc, hbefore, hpending]
      simp [system.outstandingStep, PnpGetInfoPending.nodes]
    · simp [system.Solicited, system.Call.reports]
    · simp [system.Solicited, system.Call.reports, system.outstandingStep]
  | expired hpending hreport =>
    simp only [List.map_cons, List.map_nil, trace, stepOf, hreport, everywhere_snoc]
    subst hpending
    refine ⟨?_, hsolicited, ?_⟩
    · simp [system.outstandingStep, hbefore, PnpGetInfoPending.nodes]
    · simp [system.Solicited, system.Call.reports, hbefore, PnpGetInfoPending.nodes]
  | resolved hpending hservice hsource huid hreport =>
    simp only [List.map_cons, List.map_nil, trace, stepOf, hreport, everywhere_snoc]
    subst hpending
    refine ⟨?_, hsolicited, ?_⟩
    · simp [system.outstandingStep, hbefore, hsource, PnpGetInfoPending.nodes]
    · simp [system.Solicited, system.Call.reports, hbefore, hsource, PnpGetInfoPending.nodes]

/-- What ties a worker to the allocator run behind its calls: the run returns what the
calls returned, it ends in the worker's allocator, and the nodes it has handed out
are the one whose GetInfo is in flight. -/
structure AllocatorInv (pnp : system.State) (before : History) (worker : Worker) : Prop where
  seen : transport.seen pnp ((made before).map (·.1)) = made before
  final : worker.pnp_allocator = some (machine.final system.step pnp ((made before).map (·.1)))
  outstanding : system.outstanding (trace system.step pnp ((made before).map (·.1))) =
    PnpGetInfoPending.nodes worker.state.pnp_pending_get_info
  solicited : Everywhere system.Solicited (trace system.step pnp ((made before).map (·.1)))

private theorem AllocatorInv.step {setup : Setup} {pnp : system.State} {before : History} {pre post : Worker}
    {event : Event} {effects : List Effect} (h : transport.step setup pre event = (effects, post))
    (hinv : AllocatorInv pnp before pre) : AllocatorInv pnp (before ++ [⟨pre, event, effects, post⟩]) post := by
  obtain ⟨pnp', hpost, hmanaged⟩ := managed_of_step h hinv.final
  obtain ⟨hpiece, hfinal⟩ := hmanaged.seen
  obtain ⟨houtstanding, hsolicited⟩ := hmanaged.outstanding hinv.outstanding hinv.solicited
  have hinputs : (made (before ++ [⟨pre, event, effects, post⟩])).map (·.1) =
      (made before).map (·.1) ++ (calls effects).map (·.1) := by
    simp [made]
  constructor
  · rw [hinputs, seen_append, hinv.seen, hpiece]
    simp [made]
  · rw [hinputs, final_append, hfinal, hpost]
  · rw [hinputs, trace_append, houtstanding]
  · rw [hinputs, trace_append]
    exact hsolicited

theorem allocatorInv_run (setup : Setup) (table : Table) (ts : String) (now : Instant) (events : List Event) :
    AllocatorInv (system.connect setup.local_node_id setup.kind.max_node_id ts table)
      (trace (step setup) (Worker.start setup (some (table, ts)) now) events)
      (final (step setup) (Worker.start setup (some (table, ts)) now) events) :=
  invariant_of_step (AllocatorInv _) ⟨rfl, rfl, rfl, everywhere_nil _⟩
    (fun _ _ _ _ _ h hinv => hinv.step h) events

/-- The worker refines the allocator: the calls it makes and what they return are a
run of the allocator on its database, and that run reports only GetInfo results
for nodes it handed out and that were not reported yet. -/
theorem worker_refines_allocator (setup : Setup) (table : Table) (ts : String) (now : Instant)
    (events : List Event) :
    ∃ inputs, made (trace (step setup) (Worker.start setup (some (table, ts)) now) events) =
        (trace system.step (system.connect setup.local_node_id setup.kind.max_node_id ts table) inputs).map
          (fun st => (st.input, st.output)) ∧
      Everywhere system.Solicited
        (trace system.step (system.connect setup.local_node_id setup.kind.max_node_id ts table) inputs) ∧
      (final (step setup) (Worker.start setup (some (table, ts)) now) events).pnp_allocator =
        some (final system.step (system.connect setup.local_node_id setup.kind.max_node_id ts table) inputs) := by
  have hinv := allocatorInv_run setup table ts now events
  exact ⟨_, hinv.seen.symm, hinv.solicited, hinv.final⟩

end cyphal_service.transport
