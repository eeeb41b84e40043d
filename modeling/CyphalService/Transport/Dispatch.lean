import CyphalService.Transport.Managed

open effect machine
open cyphal_service.pnp
open cyphal_service.pnp.db cyphal_service.pnp.allocator

namespace cyphal_service.transport

/-- The node IDs that `pop_get_info_request` returned, in order. -/
def popped (history : History) : List UInt16 :=
  history.flatMap fun st => (calls st.output).filterMap (·.2.popped_id)

/-- The node IDs passed to `on_get_info_result`, in order. -/
def reported (history : History) : List UInt16 :=
  history.flatMap fun st => (calls st.output).filterMap (·.1.call.reports)

/-- The node ID of the PNP GetInfo in flight. -/
def PnpGetInfoPending.nodes (pending : Option PnpGetInfoPending) : List UInt16 :=
  (pending.map (·.node_id)).toList

/-- A message neither pops a node nor reports one. -/
theorem called_neither {setup : Setup} {transfer : MessageTransfer} {now : Readings} {c : system.Call}
    {pnp post : system.State} {output : system.Return} (hcall : setup.message_call transfer now = some c)
    (hstep : system.step pnp ⟨c, now.current_timestamp⟩ = (output, post)) :
    output.popped_id = none ∧ c.reports = none := by
  obtain ⟨rfl, -⟩ := Prod.mk.inj hstep
  rcases Setup.message_call_cases hcall with
    ⟨hb, hheartbeat, hdecoded, rfl⟩ | ⟨msg, hv2, hdecoded, rfl⟩ | ⟨msg, hv1, hdecoded, rfl⟩
  · exact ⟨by simp [system.Call.run, system.Return.popped_id], rfl⟩
  · exact ⟨by simp [system.Call.run, system.Return.popped_id], rfl⟩
  · exact ⟨by simp [system.Call.run, system.Return.popped_id], rfl⟩

/-- One event pops and reports in step with the request in flight. -/
private theorem Managed.conserves {setup : Setup} {pnp pnp' : system.State}
    {pending pending' : Option PnpGetInfoPending} {event : Event}
    {made : List (system.Input × system.Return)} (h : Managed setup pnp pending event made pnp' pending') :
    PnpGetInfoPending.nodes pending ++ made.filterMap (·.2.popped_id) =
      made.filterMap (·.1.call.reports) ++ PnpGetInfoPending.nodes pending' := by
  cases h with
  | idle => simp
  | called hcall hstep =>
    obtain ⟨hpopped, hreports⟩ := called_neither hcall hstep
    simp [hpopped, hreports]
  | unpopped hpending hpop => simp [hpending, PnpGetInfoPending.nodes, system.Return.popped_id, system.Call.reports]
  | sent hpending hpop => simp [hpending, PnpGetInfoPending.nodes, system.Return.popped_id, system.Call.reports]
  | unsent hpending hpop hreport =>
    simp [hpending, PnpGetInfoPending.nodes, system.Return.popped_id, system.Call.reports]
  | expired hpending hreport => simp [hpending, PnpGetInfoPending.nodes, system.Return.popped_id, system.Call.reports]
  | resolved hpending hservice hsource huid hreport =>
    simp [hpending, hsource, PnpGetInfoPending.nodes, system.Return.popped_id, system.Call.reports]

/-- Every popped PNP GetInfo is reported exactly once, for the right node: at the
end of every iteration of the worker loop only the one in flight is missing. -/
theorem popped_eq_reported (setup : Setup) (table : Table) (ts : String) (now : Instant)
    (iterations : List Iteration) :
    popped (run_worker setup (Worker.start setup (some (table, ts)) now) iterations) =
      reported (run_worker setup (Worker.start setup (some (table, ts)) now) iterations) ++
        PnpGetInfoPending.nodes
          (worker_after setup (Worker.start setup (some (table, ts)) now) iterations).state.pnp_pending_get_info := by
  refine conservation (fun self : Worker => ∃ pnp, self.pnp_allocator = some pnp)
    (fun self : Worker => PnpGetInfoPending.nodes self.state.pnp_pending_get_info)
    (fun st => (calls st.output).filterMap (·.2.popped_id))
    (fun st => (calls st.output).filterMap (·.1.call.reports))
    ⟨_, Worker.start_pnp_allocator setup table ts now⟩ ?_ ?_ (iterations.flatMap Iteration.events)
  · rintro pre event effects post h ⟨pnp, hpnp⟩
    obtain ⟨pnp', hpost, -⟩ := managed_of_step h hpnp
    exact ⟨pnp', hpost⟩
  · rintro pre event effects post h ⟨pnp, hpnp⟩
    obtain ⟨pnp', -, hmanaged⟩ := managed_of_step h hpnp
    exact hmanaged.conserves

end cyphal_service.transport
