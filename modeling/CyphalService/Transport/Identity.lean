import CyphalService.Pnp.Provenance
import CyphalService.Transport.Managed

open effect machine
open cyphal_service.pnp
open cyphal_service.pnp.db cyphal_service.pnp.allocator

namespace cyphal_service.transport

/-- The allocation table behind a worker; it is empty when PNP is off. -/
def Worker.table (self : Worker) : Table :=
  match self.pnp_allocator with
  | some pnp => pnp.table
  | none => Table.empty

/-- The step handles a GetInfo response of the node to the allocator's own
request for it, and the response decodes. -/
def ResolvesNode (setup : Setup) (st : machine.Step Worker Event (List Effect)) (node_id : UInt16)
    (resp : GetInfoResponse) : Prop :=
  ∃ transfer now, st.input = .response transfer now ∧ transfer.service = GET_INFO_SERVICE ∧
    transfer.source = node_id ∧ setup.codec.get_info_response transfer.payload = some resp ∧
    ∃ p, st.pre.state.pnp_pending_get_info = some p ∧ p.node_id = node_id

/-- The step handles a well-formed heartbeat that counts for the node; an
anonymous one counts for 0xFFFF. -/
def HeardFrom (setup : Setup) (st : machine.Step Worker Event (List Effect)) (node_id : UInt16) : Prop :=
  ∃ transfer now hb, st.input = .message transfer now ∧ transfer.subject = HEARTBEAT_SUBJECT ∧
    setup.codec.heartbeat transfer.payload = some hb ∧ transfer.source.getD 0xFFFF = node_id

/-- The requester of a message on one of the allocation subjects. -/
def Setup.requester (setup : Setup) (transfer : MessageTransfer) : Option Requester :=
  if transfer.source.isSome then none
  else if transfer.subject = PNP_V2_SUBJECT then
    (setup.codec.allocation_v2 transfer.payload).map fun msg => .v2 msg.unique_id
  else if transfer.subject = PNP_V1_SUBJECT then
    (setup.codec.allocation_v1 transfer.payload).bind fun msg =>
      if msg.allocated_node_id = [] then some (.v1 msg.unique_id_hash) else none
  else none

/-- The allocation message that offers the node ID to a requester. -/
def offer : Requester → UInt16 → Effect
  | .v1 hash, node_id => .publish_v1 ⟨hash, [⟨node_id⟩]⟩
  | .v2 uid, node_id => .publish_v2 ⟨⟨node_id⟩, uid⟩

/-- The step answers an anonymous request that matches no row with the node ID. -/
def AllocatedTo (setup : Setup) (st : machine.Step Worker Event (List Effect)) (node_id : UInt16) : Prop :=
  ∃ transfer now q, st.input = .message transfer now ∧ setup.requester transfer = some q ∧
    q.lookup st.pre.table = none ∧ offer q node_id ∈ st.output

/-- All that one step of a worker may do to the allocation table. -/
structure TableFrame (setup : Setup) (st : machine.Step Worker Event (List Effect)) : Prop where
  kept : ∀ row ∈ st.pre.table.rows, ∃ row' ∈ st.post.table.rows, row'.node_id = row.node_id ∧
    row'.pseudo_unique_id = row.pseudo_unique_id ∧ row'.ts = row.ts
  rewritten : ∀ row ∈ st.pre.table.rows, ∀ row' ∈ st.post.table.rows, row'.node_id = row.node_id →
    row'.unique_id_hex ≠ row.unique_id_hex →
    ∃ resp, ResolvesNode setup st row.node_id resp ∧ row'.unique_id_hex = bytes_to_hex resp.unique_id.toList
  added : ∀ row' ∈ st.post.table.rows, row'.node_id ∉ st.pre.table.ids →
    HeardFrom setup st row'.node_id ∨ AllocatedTo setup st row'.node_id

private theorem requester_of_call {setup : Setup} {transfer : MessageTransfer} {now : Readings} {c : system.Call}
    {q : Requester} (hcall : setup.message_call transfer now = some c) (hq : c.requester = some q) :
    setup.requester transfer = some q := by
  rcases Setup.message_call_cases hcall with
    ⟨hb, hheartbeat, hdecoded, rfl⟩ | ⟨msg, hv2, hdecoded, rfl⟩ | ⟨msg, hv1, hdecoded, rfl⟩
  · cases hq
  · cases hsource : transfer.source with
    | some source => simp [hsource, system.Call.requester] at hq
    | none =>
      rw [hsource] at hq
      simp only [Setup.requester, hsource, Option.isSome_none, Bool.false_eq_true, ↓reduceIte, if_pos hv2, hdecoded,
        Option.map_some]
      exact hq
  · have hv2 : transfer.subject ≠ PNP_V2_SUBJECT := by
      rw [hv1]
      decide
    cases hsource : transfer.source with
    | some source => simp [hsource, system.Call.requester] at hq
    | none =>
      rw [hsource] at hq
      simp only [Setup.requester, hsource, Option.isSome_none, Bool.false_eq_true, ↓reduceIte, if_neg hv2,
        if_pos hv1, hdecoded, Option.bind_some]
      exact hq

private theorem tableFrame_of_same {setup : Setup} {st : machine.Step Worker Event (List Effect)}
    (htable : st.post.table = st.pre.table) : TableFrame setup st := by
  constructor
  · intro row hrow
    exact ⟨row, htable ▸ hrow, rfl, rfl, rfl⟩
  · intro row hrow row' hrow' hid hhex
    rw [htable] at hrow'
    exact absurd (List.inj_on_of_nodup_map st.pre.table.unique hrow' hrow hid ▸ rfl) hhex
  · intro row' hrow' hnew
    rw [htable] at hrow'
    exact absurd (List.mem_map_of_mem hrow') hnew

/-- Only `on_get_info_result` with a unique ID rewrites a row. -/
private theorem rewritten_by_result {s post : system.State} {input : system.Input} {output : system.Return}
    (h : system.step s input = (output, post)) {row row' : AllocationEntry} (hrow : row ∈ s.table.rows)
    (hrow' : row' ∈ post.table.rows) (hid : row'.node_id = row.node_id)
    (hhex : row'.unique_id_hex ≠ row.unique_id_hex) :
    ∃ uid, input.call = .on_get_info_result row.node_id (some uid) ∧
      row'.unique_id_hex = bytes_to_hex uid.toList := by
  have hchange := system.rowChange_of_step h row.node_id
  rw [Table.byNode_eq_some_iff.2 ⟨hrow, rfl⟩, Table.byNode_eq_some_iff.2 ⟨hrow', hid⟩] at hchange
  generalize hnew : some row' = new at hchange
  cases hchange with
  | kept =>
    rw [Option.some.injEq] at hnew
    exact absurd (hnew ▸ rfl) hhex
  | rewritten _ hcall =>
    rw [Option.some.injEq] at hnew
    exact ⟨_, hcall, by rw [hnew]⟩

private theorem created_of_added {s post : system.State} {input : system.Input} {output : system.Return}
    (h : system.step s input = (output, post)) {node_id : UInt16} (hmem : node_id ∈ post.table.ids)
    (hnew : node_id ∉ s.table.ids) : ∃ o, system.Creates ⟨s, input, output, post⟩ node_id o := by
  obtain ⟨row', hrow'⟩ := Table.mem_ids_iff.1 hmem
  have hchange := system.rowChange_of_step h node_id
  rw [hrow'] at hchange
  generalize hold : s.table.byNode node_id = old at hchange
  cases hchange with
  | kept => exact absurd (Table.mem_ids_iff.2 ⟨row', hold⟩) hnew
  | created o hcreates => exact ⟨o, hcreates⟩
  | rewritten row hcall => exact absurd (Table.mem_ids_iff.2 ⟨row, hold⟩) hnew

private theorem kept_of_extends {t t' : Table} (h : t.Extends t') :
    ∀ row ∈ t.rows, ∃ row' ∈ t'.rows, row'.node_id = row.node_id ∧
      row'.pseudo_unique_id = row.pseudo_unique_id ∧ row'.ts = row.ts := by
  intro row hrow
  obtain ⟨row', hrow', hframe⟩ := h.byNode (Table.byNode_eq_some_iff.2 ⟨hrow, rfl⟩)
  obtain ⟨hmem, hid⟩ := Table.byNode_eq_some_iff.1 hrow'
  simp only [AllocationEntry.frame, Prod.mk.injEq] at hframe
  exact ⟨row', hmem, hid, hframe.2.1, hframe.2.2⟩

private theorem table_of_pnp {self : Worker} {pnp : system.State} (hpnp : self.pnp_allocator = some pnp) :
    self.table = pnp.table := by
  rw [Worker.table, hpnp]

private theorem tableFrame_of_called {setup : Setup} {self post : Worker} {transfer : MessageTransfer}
    {now : Readings} {effects : List Effect} {pnp pnp' : system.State} {c : system.Call} {output : system.Return}
    (h : step setup self (.message transfer now) = (effects, post)) (hpnp : self.pnp_allocator = some pnp)
    (hpost : post.pnp_allocator = some pnp') (hcall : setup.message_call transfer now = some c)
    (hstep : system.step pnp ⟨c, now.current_timestamp⟩ = (output, pnp')) :
    TableFrame setup ⟨self, .message transfer now, effects, post⟩ := by
  have heffects : effects = .call ⟨c, now.current_timestamp⟩ output :: published output := by
    obtain ⟨state, hrun, hsame⟩ := Worker.run_handle_message_of_call hpnp hcall
    rw [step, Event.perform, Logged.run_bind, hrun, hstep] at h
    simpa using (Prod.mk.inj h).1.symm
  constructor
  · simp only [table_of_pnp hpnp, table_of_pnp hpost]
    exact kept_of_extends (system.step_extends hstep)
  · intro row hrow row' hrow' hid hhex
    simp only [table_of_pnp hpnp, table_of_pnp hpost] at hrow hrow'
    obtain ⟨uid, hresult, -⟩ := rewritten_by_result hstep hrow hrow' hid hhex
    rcases Setup.message_call_cases hcall with
      ⟨hb, hheartbeat, hdecoded, rfl⟩ | ⟨msg, hv2, hdecoded, rfl⟩ | ⟨msg, hv1, hdecoded, rfl⟩ <;> cases hresult
  · intro row' hrow' hnew
    simp only [table_of_pnp hpnp, table_of_pnp hpost] at hrow' hnew
    obtain ⟨o, hcreates⟩ := created_of_added hstep (Table.mem_ids_of_mem hrow') hnew
    cases o with
    | static_node =>
      obtain ⟨-, tested_at, queued_at, hheard⟩ := hcreates
      rcases Setup.message_call_cases hcall with
        ⟨hb, hheartbeat, hdecoded, rfl⟩ | ⟨msg, hv2, hdecoded, rfl⟩ | ⟨msg, hv1, hdecoded, rfl⟩
      · have hsource := (system.Call.on_heartbeat.inj hheard).1
        exact .inl ⟨transfer, now, hb, rfl, hheartbeat, hdecoded, hsource⟩
      · cases hheard
      · cases hheard
    | allocated q =>
      have hlookup := (system.fresh_of_creates hstep hcreates).1
      obtain ⟨-, hq, hanswer⟩ := hcreates
      refine .inr ⟨transfer, now, q, rfl, requester_of_call hcall hq, ?_, ?_⟩
      · rw [table_of_pnp hpnp]
        exact hlookup
      · have hoffer : published (system.response q row'.node_id) = [offer q row'.node_id] := by
          cases q <;> rfl
        rw [heffects, system.response_of_step hstep hq hanswer, hoffer]
        simp

private theorem tableFrame_of_resolved {setup : Setup} {self post : Worker} {transfer : ServiceTransfer}
    {now : Readings} {effects : List Effect} {pnp pnp' : system.State} {p : PnpGetInfoPending}
    {output : system.Return} (hpnp : self.pnp_allocator = some pnp)
    (hpost : post.pnp_allocator = some pnp') (hpending : self.state.pnp_pending_get_info = some p)
    (hservice : transfer.service = GET_INFO_SERVICE) (hsource : p.node_id = transfer.source)
    (hreport : system.step pnp ⟨.on_get_info_result transfer.source
      ((setup.codec.get_info_response transfer.payload).map (·.unique_id)), now.current_timestamp⟩ =
        (output, pnp')) :
    TableFrame setup ⟨self, .response transfer now, effects, post⟩ := by
  constructor
  · simp only [table_of_pnp hpnp, table_of_pnp hpost]
    exact kept_of_extends (system.step_extends hreport)
  · intro row hrow row' hrow' hid hhex
    simp only [table_of_pnp hpnp, table_of_pnp hpost] at hrow hrow'
    obtain ⟨uid, hresult, hwritten⟩ := rewritten_by_result hreport hrow hrow' hid hhex
    simp only [system.Call.on_get_info_result.injEq, Option.map_eq_some_iff] at hresult
    obtain ⟨hnode, resp, hdecoded, rfl⟩ := hresult
    exact ⟨resp, ⟨transfer, now, rfl, hservice, hnode, hdecoded, p, hpending, hsource.trans hnode⟩, hwritten⟩
  · intro row' hrow' hnew
    simp only [table_of_pnp hpnp, table_of_pnp hpost] at hrow' hnew
    obtain ⟨o, hcreates⟩ := created_of_added hreport (Table.mem_ids_of_mem hrow') hnew
    cases o with
    | static_node =>
      obtain ⟨-, tested_at, queued_at, hheard⟩ := hcreates
      cases hheard
    | allocated q =>
      obtain ⟨-, hq, hanswer⟩ := hcreates
      cases hq

private theorem table_of_failed {s post : system.State} {node_id : UInt16} {ts : String} {output : system.Return}
    (h : system.step s ⟨.on_get_info_result node_id none, ts⟩ = (output, post)) : post.table = s.table := by
  cases system.step_transition h with
  | request hq hassigned => cases hq
  | ignored hcall hq hanswer => rfl
  | failed => rfl

theorem tableFrame_of_step {setup : Setup} {self post : Worker} {event : Event} {effects : List Effect}
    {pnp : system.State} (h : step setup self event = (effects, post)) (hpnp : self.pnp_allocator = some pnp) :
    TableFrame setup ⟨self, event, effects, post⟩ := by
  obtain ⟨pnp', hpost, hmanaged⟩ := managed_of_step h hpnp
  have hsame : pnp'.table = pnp.table → TableFrame setup ⟨self, event, effects, post⟩ := by
    intro htable
    apply tableFrame_of_same
    rw [table_of_pnp hpnp, table_of_pnp hpost, htable]
  generalize hcalls : calls effects = made at hmanaged
  generalize hpending : self.state.pnp_pending_get_info = pending at hmanaged
  generalize post.state.pnp_pending_get_info = pending' at hmanaged
  cases hmanaged with
  | idle => exact hsame rfl
  | called hcall hstep => exact tableFrame_of_called h hpnp hpost hcall hstep
  | unpopped hnone hpop =>
    rw [system.step_pop_get_info_request, Prod.mk.injEq] at hpop
    exact hsame (by rw [← hpop.2])
  | sent hnone hpop =>
    rw [system.step_pop_get_info_request, Prod.mk.injEq] at hpop
    exact hsame (by rw [← hpop.2])
  | unsent hnone hpop hreport =>
    rw [system.step_pop_get_info_request, Prod.mk.injEq] at hpop
    exact hsame ((table_of_failed hreport).trans (by rw [← hpop.2]))
  | expired hsome hreport => exact hsame (table_of_failed hreport)
  | resolved hsome hservice hsource huid hreport =>
    subst huid
    exact tableFrame_of_resolved hpnp hpost (hpending.trans hsome) hservice hsource hreport

/-- The allocation table only grows, and a stored unique ID changes only through
a solicited GetInfo, in every run of a worker with PNP enabled. -/
theorem table_only_grows (setup : Setup) (table : Table) (ts : String) (now : Instant) (events : List Event) :
    (Worker.start setup (some (table, ts)) now).table = table.record setup.local_node_id ts ∧
      Everywhere (fun _ st => TableFrame setup st)
        (trace (step setup) (Worker.start setup (some (table, ts)) now) events) := by
  constructor
  · rw [table_of_pnp (Worker.start_pnp_allocator setup table ts now), system.connect_eq]
  · refine everywhere_of_invariant (fun _ self => ∃ pnp, self.pnp_allocator = some pnp) ⟨_, rfl⟩ ?_ ?_ events
    · rintro before pre event effects post h ⟨pnp, hpnp⟩
      obtain ⟨pnp', hpost, -⟩ := managed_of_step h hpnp
      exact ⟨pnp', hpost⟩
    · rintro before pre event effects post h ⟨pnp, hpnp⟩
      exact tableFrame_of_step h hpnp

end cyphal_service.transport
