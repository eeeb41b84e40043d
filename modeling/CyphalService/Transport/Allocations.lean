import CyphalService.Pnp.Provenance
import CyphalService.Transport.Overview
import CyphalService.Transport.Refinement

open effect machine
open cyphal_service.pnp
open cyphal_service.pnp.db cyphal_service.pnp.allocator

namespace cyphal_service.pnp.system

theorem mem_ids_record_iff {t : Table} {node_id other : UInt16} {ts : String} :
    other ∈ (t.record node_id ts).ids ↔ other ∈ t.ids ∨ other = node_id := by
  by_cases h : node_id ∈ t.ids
  · rw [Table.record_of_mem h, or_iff_left_of_imp]
    intro heq
    rw [heq]
    exact h
  · rw [Table.record_of_not_mem h, Table.ids_push, List.mem_append, List.mem_singleton]

section Step

variable {s post : State} {input : Input} {output : Return}

/-- The node IDs with a row after a call: those before, a node heard and the one
that is answered. -/
theorem mem_ids_of_step (h : step s input = (output, post)) (node_id : UInt16) :
    node_id ∈ post.table.ids ↔ node_id ∈ s.table.ids ∨
      (∃ tested_at queued_at, input.call = .on_heartbeat node_id tested_at queued_at) ∨
      output.node_id = some node_id := by
  cases step_transition h with
  | @request call ts q _ t hq hassigned =>
    have hcall : ¬ ∃ tested_at queued_at, call = .on_heartbeat node_id tested_at queued_at := by
      rintro ⟨tested_at, queued_at, rfl⟩
      cases hq
    simp only [hcall, false_or]
    generalize output.node_id = answer at hassigned
    cases hassigned with
    | reused hrow =>
      refine (or_iff_left_of_imp ?_).symm
      intro hanswer
      obtain rfl := Option.some.inj hanswer
      exact Table.mem_ids_of_mem (Requester.lookup_mem hrow)
    | exhausted hnone hfull => simp
    | fresh hnone hfree hnew =>
      rw [Table.ids_push, List.mem_append, List.mem_singleton, Requester.newRow_node_id, Option.some.injEq]
      exact or_congr_right eq_comm
  | @ignored call ts _ hcall hq hanswer =>
    rw [hanswer, or_iff_left]
    rintro (⟨tested_at, queued_at, rfl⟩ | hsome)
    · cases hcall
    · cases hsome
  | queued hqueues => simp [mem_ids_record_iff, Return.node_id, eq_comm]
  | noted hqueues => simp [mem_ids_record_iff, Return.node_id, eq_comm]
  | popped => simp [Return.node_id]
  | resolved => simp [Return.node_id]
  | failed => simp [Return.node_id]

/-- A v1 requester that is answered has the row of the node ID it gets. -/
theorem byNode_of_v1 {hash : UInt64} {node_id : UInt16}
    (h : step s input = (.allocation_v1 (some ⟨hash, [⟨node_id⟩]⟩), post)) :
    ∃ row, post.table.byNode node_id = some row ∧ row.pseudo_unique_id = some hash.toInt64 := by
  have hanswer : (Return.allocation_v1 (some ⟨hash, [⟨node_id⟩]⟩)).node_id = some node_id := rfl
  generalize houtput : Return.allocation_v1 (some ⟨hash, [⟨node_id⟩]⟩) = output at h hanswer
  cases hq : input.call.requester with
  | none =>
    cases step_transition h with
    | request hrequester hassigned =>
      rw [hrequester] at hq
      cases hq
    | ignored hcall hrequester hnone =>
      rw [hnone] at hanswer
      cases hanswer
    | queued hqueues => cases houtput
    | noted hqueues => cases houtput
    | popped => cases houtput
    | resolved => cases houtput
    | failed => cases houtput
  | some q =>
    have hassigned := assigned_of_step h hq
    rw [hanswer] at hassigned
    obtain ⟨row, hrow, rfl⟩ := hassigned.lookup_after
    have hresponse := response_of_step h hq hanswer
    cases q with
    | v2 uid => cases houtput.trans hresponse
    | v1 other =>
      obtain ⟨rfl, -⟩ := AllocationDataV1.mk.inj (Option.some.inj (Return.allocation_v1.inj (houtput.trans hresponse)))
      obtain ⟨hmem, hhash⟩ := Table.byHash_mem hrow
      exact ⟨row, Table.byNode_eq_some_iff.2 ⟨hmem, rfl⟩, hhash⟩

end Step

end cyphal_service.pnp.system

namespace cyphal_service.transport

/-- The node ID that an effect gives out on the bus. -/
def Effect.allocates : Effect → Option UInt16
  | .publish_v1 msg => msg.allocated_node_id.head?.map (·.value)
  | .publish_v2 msg => some msg.node_id.value
  | _ => none

/-- The unique ID that the allocator is told last for a node. -/
def told (node_id : UInt16) (effects : List Effect) : Option UniqueId :=
  latest (·.1.call.identifies node_id) (calls effects)

/-- The old rows are as they were, but for the unique IDs that the allocator was told. -/
def KeepsRows (effects : List Effect) (t t' : Table) : Prop :=
  ∀ node_id row, t.byNode node_id = some row → t'.byNode node_id = some (system.identified row (told node_id effects))

theorem KeepsRows.trans {first second : List Effect} {t t' t'' : Table} (hfirst : KeepsRows first t t')
    (hsecond : KeepsRows second t' t'') : KeepsRows (first ++ second) t t'' := by
  intro node_id row hrow
  have htold : told node_id (first ++ second) = (told node_id second).or (told node_id first) := by
    rw [told, calls_append, latest_append]
    rfl
  rw [htold, system.identified_or]
  exact hsecond _ _ (hfirst _ _ hrow)

/-- What an event does to the table: it adds rows for the node heard and for the
node IDs given out, with a v1 requester's hash in the row of its node ID, and leaves
the old rows as they are, but for the unique IDs that the allocator is told. -/
structure Recorded (heard : Option NodeEvent) (effects : List Effect) (t t' : Table) : Prop where
  listed : ∀ node_id, node_id ∈ t'.ids ↔ node_id ∈ t.ids ∨ (∃ event ∈ heard, event.source = some node_id) ∨
    ∃ effect ∈ effects, effect.allocates = some node_id
  hashed : ∀ hash node_id, .publish_v1 ⟨hash, [⟨node_id⟩]⟩ ∈ effects →
    ∃ row, t'.byNode node_id = some row ∧ row.pseudo_unique_id = some hash.toInt64
  kept : KeepsRows effects t t'

/-- The calls of an event keep the rows. -/
theorem Managed.keeps_rows {setup : Setup} {pnp pnp' : system.State} {pending pending' : Option PnpGetInfoPending}
    {event : Event} {effects : List Effect} (h : Managed setup pnp pending event (calls effects) pnp' pending') :
    KeepsRows effects pnp.table pnp'.table := by
  intro node_id row hrow
  have hrun := system.identified_of_calls pnp ((calls effects).map (·.1)) hrow
  rw [h.seen.2] at hrun
  rw [hrun, told, latest, latest, List.filterMap_map]
  rfl

theorem exists_published_iff {input : system.Input} {output : system.Return} {node_id : UInt16} :
    (∃ effect ∈ .call input output :: published output, effect.allocates = some node_id) ↔
      output.node_id = some node_id := by
  cases output with
  | allocation_v1 response =>
    cases response with
    | none => simp [published, Effect.allocates, system.Return.node_id]
    | some response => simp [published, Effect.allocates, system.Return.node_id]
  | allocation_v2 response =>
    cases response with
    | none => simp [published, Effect.allocates, system.Return.node_id]
    | some response => simp [published, Effect.allocates, system.Return.node_id]
  | popped popped => simp [published, Effect.allocates, system.Return.node_id]
  | unit => simp [published, Effect.allocates, system.Return.node_id]

theorem output_of_published {output : system.Return} {msg : AllocationDataV1}
    (h : .publish_v1 msg ∈ published output) : output = .allocation_v1 (some msg) := by
  unfold published at h
  split at h
  · obtain rfl := Effect.publish_v1.inj (List.mem_singleton.1 h)
    rfl
  · cases List.mem_singleton.1 h
  · cases h

section Event

variable {setup : Setup} {self : Worker} {pnp : system.State} {event : Event} {effects : List Effect} {post : Worker}

theorem unpublished_of_unshown (h : effects.filter (·.isShown) = []) : effects.filter (·.isPublish) = [] := by
  rw [List.filter_eq_nil_iff] at h ⊢
  exact fun effect hmem hpublish => h effect hmem (by rw [Effect.isShown, hpublish, Bool.or_true])

/-- A step that gives nothing out and hears nothing changes no row's node ID. -/
theorem Recorded.of_quiet {heard : Option NodeEvent} {t t' : Table}
    (hids : ∀ node_id, node_id ∈ t'.ids ↔ node_id ∈ t.ids) (hheard : ∀ event ∈ heard, event.source = none)
    (hpublish : effects.filter (·.isPublish) = []) (hkept : KeepsRows effects t t') :
    Recorded heard effects t t' := by
  rw [List.filter_eq_nil_iff] at hpublish
  have hsilent : ∀ effect ∈ effects, effect.allocates = none := by
    intro effect hmem
    have hunpublished := hpublish effect hmem
    cases effect with
    | publish_v1 msg => exact absurd rfl hunpublished
    | publish_v2 msg => exact absurd rfl hunpublished
    | reply channel message => rfl
    | send_request target => rfl
    | call input output => rfl
  refine ⟨?_, ?_, hkept⟩
  · intro node_id
    rw [hids]
    refine (or_iff_left ?_).symm
    rintro (⟨event, hmem, hsource⟩ | ⟨effect, hmem, hallocates⟩)
    · rw [hheard event hmem] at hsource
      cases hsource
    · rw [hsilent effect hmem] at hallocates
      cases hallocates
  · intro hash node_id hmem
    exact absurd rfl (hpublish _ hmem)

/-- The node that a message is heard from is the one whose heartbeat the allocator
gets. -/
theorem heard_iff_call (transfer : MessageTransfer) (now : Readings) (node_id : UInt16) :
    (∃ event ∈ (Event.message transfer now).node_event setup self, event.source = some node_id) ↔
      ∃ tested_at queued_at, setup.message_call transfer now = some (.on_heartbeat node_id tested_at queued_at) := by
  rw [Event.node_event]
  cases hmessage : setup.heartbeat transfer with
  | none =>
    refine iff_of_false ?_ ?_
    · rintro ⟨event, hmem, -⟩
      cases hmem
    · rintro ⟨tested_at, queued_at, hcall⟩
      obtain ⟨hb, hsubject, hdecoded, -⟩ | ⟨msg, -, -, hother⟩ | ⟨msg, -, -, hother⟩ :=
        Setup.message_call_cases hcall
      · rw [Setup.heartbeat, if_pos hsubject, hdecoded] at hmessage
        cases hmessage
      · cases hother
      · cases hother
  | some hb =>
    by_cases hsubject : transfer.subject = HEARTBEAT_SUBJECT
    · rw [Setup.heartbeat, if_pos hsubject] at hmessage
      rw [Setup.message_call, if_pos hsubject, hmessage]
      simp [NodeEvent.source]
    · rw [Setup.heartbeat, if_neg hsubject] at hmessage
      cases hmessage

theorem recorded_of_message (hpnp : self.pnp_allocator = some pnp) (transfer : MessageTransfer) (now : Readings)
    {pnp' : system.State}
    (hpnp' : ((Worker.handle_message setup transfer now).run self).state.pnp_allocator = some pnp')
    (hkept : KeepsRows ((Worker.handle_message setup transfer now).run self).log pnp.table pnp'.table) :
    Recorded ((Event.message transfer now).node_event setup self)
      ((Worker.handle_message setup transfer now).run self).log pnp.table pnp'.table := by
  cases hcall : setup.message_call transfer now with
  | none =>
    obtain ⟨handled, hrun⟩ := Worker.run_handle_message_of_no_call self hcall
    rw [hrun] at hpnp' hkept ⊢
    obtain rfl := Option.some.inj (hpnp.symm.trans hpnp')
    refine .of_quiet (fun _ => Iff.rfl) ?_ rfl hkept
    intro event hmem
    cases hsource : event.source with
    | none => rfl
    | some node_id =>
      obtain ⟨tested_at, queued_at, hheartbeat⟩ := (heard_iff_call transfer now node_id).1 ⟨event, hmem, hsource⟩
      rw [hcall] at hheartbeat
      cases hheartbeat
  | some c =>
    obtain ⟨state, hrun, -⟩ := Worker.run_handle_message_of_call hpnp hcall
    have hstep : system.step pnp ⟨c, now.current_timestamp⟩ =
        ((system.step pnp ⟨c, now.current_timestamp⟩).1, (system.step pnp ⟨c, now.current_timestamp⟩).2) := rfl
    rw [hrun] at hpnp' hkept ⊢
    obtain rfl := Option.some.inj hpnp'
    refine ⟨?_, ?_, hkept⟩
    · intro node_id
      rw [exists_published_iff, system.mem_ids_of_step hstep, heard_iff_call, hcall]
      simp only [Option.some.injEq]
    · intro hash node_id hmem
      obtain heq | hpublished := List.mem_cons.1 hmem
      · cases heq
      · exact system.byNode_of_v1 (Prod.ext (output_of_published hpublished) rfl)

/-- A call that hears no node and gives none out leaves the node IDs alone. -/
theorem ids_of_call {pnp post : system.State} {input : system.Input} {output : system.Return}
    (h : system.step pnp input = (output, post))
    (hcall : ∀ node_id tested_at queued_at, input.call ≠ .on_heartbeat node_id tested_at queued_at)
    (houtput : output.node_id = none) (node_id : UInt16) :
    node_id ∈ post.table.ids ↔ node_id ∈ pnp.table.ids := by
  rw [system.mem_ids_of_step h, houtput]
  refine or_iff_left ?_
  rintro (⟨tested_at, queued_at, heq⟩ | hsome)
  · exact hcall _ _ _ heq
  · cases hsome

/-- Only a message tells of a node. -/
theorem source_of_node_event (hmessage : ∀ transfer now, event ≠ .message transfer now) :
    ∀ told ∈ event.node_event setup self, told.source = none := by
  intro told hmem
  cases event with
  | message transfer now => exact absurd rfl (hmessage transfer now)
  | per_second tested_at ticked_at =>
    rw [Event.node_event] at hmem
    split at hmem
    · obtain rfl := Option.some.inj hmem
      rfl
    · cases hmem
  | _ => cases hmem

/-- Only a message is answered on the bus. -/
theorem unpublished_of_step (h : step setup self event = (effects, post))
    (hmessage : ∀ transfer now, event ≠ .message transfer now) : effects.filter (·.isPublish) = [] := by
  obtain ⟨rfl, -⟩ := Prod.mk.inj h
  cases hcommand : event.isCommand with
  | false => exact unpublished_of_unshown (unshown_of_perform setup self hcommand hmessage)
  | true =>
    cases event with
    | command cmd sent now => exact (Worker.quiet_handle_command setup cmd sent now self).2
    | _ => cases hcommand

/-- A step of a worker with an allocator records what it hears and gives out. -/
theorem recorded_of_step (h : step setup self event = (effects, post)) (hpnp : self.pnp_allocator = some pnp) :
    ∃ pnp', post.pnp_allocator = some pnp' ∧
      Recorded (event.node_event setup self) effects pnp.table pnp'.table := by
  obtain ⟨pnp', hpnp', hmanaged⟩ := managed_of_step h hpnp
  have hkept := hmanaged.keeps_rows
  refine ⟨pnp', hpnp', ?_⟩
  by_cases hmessage : ∀ transfer now, event ≠ .message transfer now
  · have hheard := @source_of_node_event setup self event hmessage
    have hpublish := unpublished_of_step h hmessage
    have hpopped : ∀ node_id tested_at queued_at,
        system.Call.pop_get_info_request ≠ .on_heartbeat node_id tested_at queued_at := by
      intro _ _ _ heq
      cases heq
    have hreported : ∀ reported info node_id tested_at queued_at,
        system.Call.on_get_info_result reported info ≠ .on_heartbeat node_id tested_at queued_at := by
      intro _ _ _ _ _ heq
      cases heq
    generalize calls effects = called at hmanaged
    generalize post.state.pnp_pending_get_info = pending at hmanaged
    cases hmanaged with
    | idle => exact .of_quiet (fun _ => Iff.rfl) hheard hpublish hkept
    | called hcall hstep => exact absurd rfl (hmessage _ _)
    | unpopped hpending hpop => exact .of_quiet (ids_of_call hpop hpopped rfl) hheard hpublish hkept
    | sent hpending hpop => exact .of_quiet (ids_of_call hpop hpopped rfl) hheard hpublish hkept
    | unsent hpending hpop hreport =>
      refine .of_quiet ?_ hheard hpublish hkept
      intro node_id
      exact (ids_of_call hreport (hreported _ _) rfl node_id).trans (ids_of_call hpop hpopped rfl node_id)
    | expired hpending hreport =>
      exact .of_quiet (ids_of_call hreport (hreported _ _) rfl) hheard hpublish hkept
    | resolved hpending hservice hsource huid hreport =>
      exact .of_quiet (ids_of_call hreport (hreported _ _) rfl) hheard hpublish hkept
  · push Not at hmessage
    obtain ⟨transfer, now, rfl⟩ := hmessage
    obtain ⟨rfl, rfl⟩ := Prod.mk.inj h
    simp only [Event.perform, Logged.run_bind, Logged.run_pure, List.append_nil] at hpnp' hkept ⊢
    exact recorded_of_message hpnp transfer now hpnp' hkept

end Event

/-- `TransportHandle::list_allocations`. -/
def TransportHandle.list_allocations (sent : Bool) (received : Option (List AllocationEntry)) :
    List AllocationEntry :=
  if sent then received.getD [] else []

/-- A step hears a node. -/
def Hears (setup : Setup) (node_id : UInt16) (st : ServiceStep) : Prop :=
  ∃ event ∈ node_event setup st, event.source = some node_id

/-- A step gives a node ID out on the bus. -/
def Allocates (node_id : UInt16) (st : ServiceStep) : Prop :=
  ∃ effect ∈ st.output, effect.allocates = some node_id

/-- A step gives a node ID to the v1 requester with the hash. -/
def AllocatesV1 (hash : UInt64) (node_id : UInt16) (st : ServiceStep) : Prop :=
  .publish_v1 ⟨hash, [⟨node_id⟩]⟩ ∈ st.output

/-- What the table holds after a run on a database that held `start`: its rows, with
the unique IDs that the allocator was told last, and one row for the worker, every
node heard and every node ID given out. -/
structure Records (setup : Setup) (start : Table) (before : List ServiceStep) (t : Table) : Prop where
  listed : ∀ node_id, node_id ∈ t.ids ↔ node_id ∈ start.ids ∨ node_id = setup.local_node_id ∨
    Occurred (Hears setup node_id) before ∨ Occurred (Allocates node_id) before
  hashed : ∀ hash node_id, Occurred (AllocatesV1 hash node_id) before →
    ∃ row, t.byNode node_id = some row ∧ row.pseudo_unique_id = some hash.toInt64
  kept : KeepsRows (before.flatMap (·.output)) start t

theorem Records.snoc {setup : Setup} {start t t' : Table} {before : List ServiceStep} {st : ServiceStep}
    (hrecords : Records setup start before t) (hstep : Recorded (node_event setup st) st.output t t') :
    Records setup start (before ++ [st]) t' := by
  refine ⟨?_, ?_, ?_⟩
  · intro node_id
    rw [hstep.listed, hrecords.listed, occurred_snoc, occurred_snoc, or_assoc, or_assoc, or_or_or_comm]
    rfl
  · intro hash node_id hgiven
    obtain hearlier | hnow := occurred_snoc.1 hgiven
    · obtain ⟨row, hrow, hhash⟩ := hrecords.hashed hash node_id hearlier
      exact ⟨_, hstep.kept _ _ hrow, hhash⟩
    · exact hstep.hashed hash node_id hnow
  · rw [List.flatMap_append, List.flatMap_singleton]
    exact hrecords.kept.trans hstep.kept

/-- The worker's allocator stands on what the run has recorded. -/
def Kept (setup : Setup) (start : Table) (before : List ServiceStep) (service : Service) : Prop :=
  ∃ pnp, service.worker.pnp_allocator = some pnp ∧ Records setup start before pnp.table

section Run

variable {setup : Setup} {start : Table} {before : List ServiceStep} {pre post : Service} {action : Action}
  {effects : List Effect}

private theorem Kept.of_recorded {worker : Worker} {pnp : system.State} (hrecords : Records setup start before pnp.table)
    (h : ∃ pnp', worker.pnp_allocator = some pnp' ∧
      Recorded (node_event setup ⟨pre, action, effects, post⟩) effects pnp.table pnp'.table)
    (hpost : post.worker = worker) : Kept setup start (before ++ [⟨pre, action, effects, post⟩]) post := by
  obtain ⟨pnp', hpnp', hrecorded⟩ := h
  exact ⟨pnp', hpost ▸ hpnp', hrecords.snoc hrecorded⟩

theorem Kept.step (h : Service.step setup pre action = (effects, post)) (hkept : Kept setup start before pre) :
    Kept setup start (before ++ [⟨pre, action, effects, post⟩]) post := by
  obtain ⟨pnp, hpnp, hrecords⟩ := hkept
  have hquiet : Recorded none [] pnp.table pnp.table :=
    .of_quiet (fun _ => Iff.rfl) (fun event hmem => absurd hmem (Option.not_mem_none event)) rfl
      fun _ _ hrow => hrow
  cases action with
  | send request =>
    rw [Service.step] at h
    split at h
    · obtain ⟨rfl, rfl⟩ := Prod.mk.inj h
      exact .of_recorded hrecords ⟨pnp, hpnp, hquiet⟩ rfl
    · obtain ⟨rfl, rfl⟩ := Prod.mk.inj h
      exact .of_recorded hrecords ⟨pnp, hpnp, hquiet⟩ rfl
  | try_recv sent now =>
    rw [Service.step] at h
    split at h
    · obtain ⟨rfl, rfl⟩ := Prod.mk.inj h
      exact .of_recorded hrecords ⟨pnp, hpnp, hquiet⟩ rfl
    · obtain ⟨rfl, rfl⟩ := Prod.mk.inj h
      exact .of_recorded hrecords (recorded_of_step rfl hpnp) rfl
  | work event =>
    rw [Service.step] at h
    split at h
    · next hcommand =>
      obtain ⟨rfl, rfl⟩ := Prod.mk.inj h
      refine .of_recorded hrecords ⟨pnp, hpnp, ?_⟩ rfl
      cases event with
      | command cmd sent now => exact hquiet
      | _ => cases hcommand
    · obtain ⟨rfl, rfl⟩ := Prod.mk.inj h
      exact .of_recorded hrecords (recorded_of_step rfl hpnp) rfl

theorem Kept.init (setup : Setup) (start : Table) (ts : String) (now : Instant) :
    Kept setup start [] (Service.start setup (some (start, ts)) now) := by
  refine ⟨_, Worker.start_pnp_allocator setup start ts now, ?_⟩
  rw [system.connect_eq]
  refine ⟨?_, ?_, ?_⟩
  · intro node_id
    simp [system.mem_ids_record_iff]
  · intro hash node_id hgiven
    exact absurd hgiven not_occurred_nil
  · exact fun _ _ hrow => Table.byNode_record hrow

/-- A listing of the allocations: one row for each node of the start, the worker,
every node heard and every node ID given out, in the order of the node IDs; the v1
requesters have their hash, and the rows of the start are as they were, but for the
unique ID that the allocator was told last for the node, if it was told one. -/
structure Shows (setup : Setup) (start : Table) (before : List ServiceStep) (entries : List AllocationEntry) :
    Prop where
  sorted : entries.Pairwise (·.node_id < ·.node_id)
  listed : ∀ node_id, node_id ∈ entries.map (·.node_id) ↔ node_id ∈ start.ids ∨ node_id = setup.local_node_id ∨
    Occurred (Hears setup node_id) before ∨ Occurred (Allocates node_id) before
  hashed : ∀ hash node_id, Occurred (AllocatesV1 hash node_id) before →
    ∃ entry ∈ entries, entry.node_id = node_id ∧ entry.pseudo_unique_id = some hash.toInt64
  kept : ∀ row ∈ start.rows, system.identified row (told row.node_id (before.flatMap (·.output))) ∈ entries

end Run

end cyphal_service.transport
