import CyphalService.Lib.Unwinding
import CyphalService.Pnp.Restart

open effect machine
open cyphal_service.pnp.db cyphal_service.pnp.allocator

namespace cyphal_service.pnp.db

/-- The columns of a row but for its timestamp. -/
def AllocationEntry.content (row : AllocationEntry) : UInt16 × String × Option Int64 :=
  (row.node_id, row.unique_id_hex, row.pseudo_unique_id)

namespace Table

/-- A table without its timestamps. -/
def content (t : Table) : List (UInt16 × String × Option Int64) :=
  t.rows.map (·.content)

theorem ids_eq_content (t : Table) : t.ids = t.content.map (·.1) := by
  simp only [ids, content, List.map_map]
  rfl

theorem content_push {t : Table} {row : AllocationEntry} (hfresh : row.node_id ∉ t.ids) :
    (t.push row hfresh).content = t.content ++ [row.content] := by
  simp [content]

theorem content_record (t : Table) (node_id : UInt16) (ts : String) :
    (t.record node_id ts).content =
      if node_id ∈ t.ids then t.content else t.content ++ [(node_id, zero_hex, none)] := by
  by_cases h : node_id ∈ t.ids
  · rw [record_of_mem h, if_pos h]
  · rw [record_of_not_mem h, if_neg h, content_push]
    rfl

theorem content_setHex (t : Table) (node_id : UInt16) (hex : String) :
    (t.setHex node_id hex).content =
      t.content.map fun row => if row.1 = node_id then (row.1, hex, row.2.2) else row := by
  simp only [content, setHex, List.map_map]
  apply List.map_congr_left
  intro row _
  simp only [Function.comp_apply, AllocationEntry.content]
  split <;> rfl

end Table

end cyphal_service.pnp.db

namespace cyphal_service.pnp.allocator

/-- The content of a row by which a requester is recognised. -/
def Requester.knows : Requester → UInt16 × String × Option Int64 → Bool
  | .v1 hash, row => row.2.2 == some hash.toInt64
  | .v2 uid, row => row.2.1 == bytes_to_hex uid.toList

theorem Requester.lookup_content (q : Requester) (t : Table) :
    (q.lookup t).map (·.content) = t.content.find? q.knows := by
  cases q with
  | v1 hash =>
    simp only [Requester.lookup, Table.byHash, Table.content, List.find?_map]
    rfl
  | v2 uid =>
    simp only [Requester.lookup, Table.byHex, Table.content, List.find?_map]
    rfl

theorem newRow_content (q : Requester) (node_id : UInt16) (ts ts' : String) :
    (q.newRow node_id ts).content = (q.newRow node_id ts').content := by
  cases q <;> rfl

/-- An answer and the rows it leaves are read off the rows it found, whatever
their timestamps. -/
theorem Assigned.congr {self self' : PnpAllocator} {t t' u u' : Table} {q : Requester} {ts ts' : String}
    {answer answer' : Option UInt16} (h : Assigned self t q ts answer u) (h' : Assigned self' t' q ts' answer' u')
    (hlocal : self.local_node_id = self'.local_node_id) (hmax : self.max_node_id = self'.max_node_id)
    (hcontent : t.content = t'.content) : answer = answer' ∧ u.content = u'.content := by
  have hlookup : (q.lookup t).map (·.content) = (q.lookup t').map (·.content) := by
    rw [Requester.lookup_content, Requester.lookup_content, hcontent]
  have hids : t.ids = t'.ids := by
    rw [Table.ids_eq_content, Table.ids_eq_content, hcontent]
  have hfree : t.firstFree [self.local_node_id] self.max_node_id =
      t'.firstFree [self'.local_node_id] self'.max_node_id := by
    simp only [Table.firstFree, hids, hlocal, hmax]
  cases hfound : q.lookup t with
  | some row =>
    obtain ⟨row', hfound', hrow⟩ := Option.map_eq_some_iff.1 (hlookup.symm.trans (congrArg _ hfound))
    obtain ⟨rfl, rfl⟩ := h.answer_of_lookup hfound
    obtain ⟨rfl, rfl⟩ := h'.answer_of_lookup hfound'
    exact ⟨congrArg some (congrArg Prod.fst hrow).symm, hcontent⟩
  | none =>
    have hfound' : q.lookup t' = none := Option.map_eq_none_iff.1 (hlookup.symm.trans (congrArg _ hfound))
    cases h with
    | reused hrow => simp [hfound] at hrow
    | exhausted _ hfull =>
      cases h' with
      | reused hrow => simp [hfound'] at hrow
      | exhausted _ _ => exact ⟨rfl, hcontent⟩
      | fresh _ hfree' _ => simp [hfree, hfree'] at hfull
    | @fresh node_id _ hsome hnew =>
      cases h' with
      | reused hrow => simp [hfound'] at hrow
      | exhausted _ hfull => simp [hfree, hfull] at hsome
      | @fresh node_id' _ hsome' hnew' =>
        have hsame : node_id = node_id' := by
          rw [hfree, hsome', Option.some.injEq] at hsome
          exact hsome.symm
        subst hsame
        refine ⟨rfl, ?_⟩
        rw [Table.content_push, Table.content_push, hcontent, newRow_content q node_id ts ts']

end cyphal_service.pnp.allocator

namespace cyphal_service.pnp.system

/-- A call without its clock readings. -/
def Call.untimed : Call → Call
  | .on_heartbeat node_id _ _ => .on_heartbeat node_id 0 0
  | call => call

@[simp] theorem Call.requester_untimed (call : Call) : call.untimed.requester = call.requester := by
  cases call <;> rfl

@[simp] theorem Call.isAllocation_untimed (call : Call) : call.untimed.isAllocation = call.isAllocation := by
  cases call <;> rfl

/-- The calls among the events, without clock readings and timestamps. -/
def Event.untimed_call : Event → Option Call
  | .call input => some input.call.untimed
  | .restart _ _ _ => none

/-- A restart keeps the node IDs the allocator was constructed with. -/
def Event.ReopensAs (local_node_id max_node_id : UInt16) : Event → Prop
  | .call _ => True
  | .restart local_node_id' max_node_id' _ => local_node_id' = local_node_id ∧ max_node_id' = max_node_id

instance (local_node_id max_node_id : UInt16) (event : Event) :
    Decidable (event.ReopensAs local_node_id max_node_id) :=
  match event with
  | .call _ => .isTrue trivial
  | .restart _ _ _ => inferInstanceAs (Decidable (_ ∧ _))

/-- The response to an allocation request, as its requester sees it. -/
def allocationResponse (st : machine.Step State Event Return) : List Return :=
  match st.input with
  | .call input => if input.call.isAllocation then [st.output] else []
  | .restart _ _ _ => []

/-- The responses to the allocation requests of a run, in order. -/
def responses (history : EventHistory) : List Return :=
  history.flatMap allocationResponse

/-- What requesters can depend on: the allocator's IDs and the table without its
timestamps. -/
def requesterView (s : State) : UInt16 × UInt16 × List (UInt16 × String × Option Int64) :=
  (s.self.local_node_id, s.self.max_node_id, s.table.content)

/-- What an allocation operation returns when it refuses. -/
def Call.refusal : Call → Return
  | .on_allocation_v1 _ _ => .allocation_v1 none
  | _ => .allocation_v2 none

@[simp] theorem Call.refusal_untimed (call : Call) : call.untimed.refusal = call.refusal := by
  cases call <;> rfl

private theorem ignored_of_step {s post : State} {input : Input} {output : Return}
    (h : step s input = (output, post)) (hcall : input.call.isAllocation) (hq : input.call.requester = none) :
    output = input.call.refusal ∧ post = s := by
  obtain ⟨rfl, rfl⟩ := Prod.mk.inj h
  obtain ⟨call, ts⟩ := input
  cases call with
  | on_allocation_v1 msg source =>
    cases source with
    | some source =>
      simp [Call.run, Call.refusal, s.self.run_on_allocation_v1_of_source ts s.table msg (some source) rfl]
    | none =>
      have hallocated : msg.allocated_node_id ≠ [] := by
        intro hempty
        simp [Call.requester, hempty] at hq
      simp [Call.run, Call.refusal, s.self.run_on_allocation_v1_of_allocated ts s.table msg none hallocated]
  | on_allocation_v2 msg source =>
    cases source with
    | some source =>
      simp [Call.run, Call.refusal, s.self.run_on_allocation_v2_of_source ts s.table msg (some source) rfl]
    | none => cases hq
  | on_heartbeat node_id tested_at queued_at => cases hcall
  | pop_get_info_request => cases hcall
  | on_get_info_result node_id uid => cases hcall

private theorem content_of_heartbeat {s post : State} {input : Input} {output : Return} {node_id : UInt16}
    {tested_at queued_at : Instant} (h : step s input = (output, post))
    (hcall : input.call.untimed = .on_heartbeat node_id tested_at queued_at) :
    post.table.content =
      if node_id ∈ s.table.ids then s.table.content else s.table.content ++ [(node_id, zero_hex, none)] := by
  obtain ⟨call, ts⟩ := input
  cases call with
  | on_heartbeat heard tested_at queued_at =>
    cases hcall
    rw [← Table.content_record _ _ ts]
    cases step_transition h with
    | queued hqueues => rfl
    | noted hqueues => rfl
    | request hq hassigned => cases hq
    | ignored hallocation hq hanswer => cases hallocation
  | on_allocation_v1 msg source => cases hcall
  | on_allocation_v2 msg source => cases hcall
  | pop_get_info_request => cases hcall
  | on_get_info_result node_id uid => cases hcall

private theorem content_of_result {s post : State} {input : Input} {output : Return} {node_id : UInt16}
    {uid : UniqueId} (h : step s input = (output, post))
    (hcall : input.call.untimed = .on_get_info_result node_id (some uid)) :
    post.table = s.table.setHex node_id (bytes_to_hex uid.toList) := by
  obtain ⟨call, ts⟩ := input
  cases call with
  | on_get_info_result result_id result =>
    cases hcall
    cases step_transition h with
    | resolved => rfl
    | request hq hassigned => cases hq
    | ignored hallocation hq hanswer => cases hallocation
  | on_heartbeat heard tested_at queued_at => cases hcall
  | on_allocation_v1 msg source => cases hcall
  | on_allocation_v2 msg source => cases hcall
  | pop_get_info_request => cases hcall

/-- A pop and a failed GetInfo write nothing. -/
private theorem table_of_silent {s post : State} {input : Input} {output : Return}
    (h : step s input = (output, post))
    (hcall : input.call.untimed = .pop_get_info_request ∨
      ∃ node_id, input.call.untimed = .on_get_info_result node_id none) : post.table = s.table := by
  cases step_transition h with
  | popped => rfl
  | failed => rfl
  | ignored hallocation hq hanswer => rfl
  | @request call ts q output t hq hassigned =>
    rw [← Call.requester_untimed] at hq
    obtain hcall | ⟨node_id, hcall⟩ := hcall
    · rw [hcall] at hq
      cases hq
    · rw [hcall] at hq
      cases hq
  | queued hqueues => simp [Call.untimed] at hcall
  | noted hqueues => simp [Call.untimed] at hcall
  | resolved => simp [Call.untimed] at hcall

/-- Two allocators that look the same to requesters answer a call the same way
and look the same after it. -/
private theorem step_agrees {s₁ s₂ post₁ post₂ : State} {input₁ input₂ : Input} {output₁ output₂ : Return}
    (h₁ : step s₁ input₁ = (output₁, post₁)) (h₂ : step s₂ input₂ = (output₂, post₂))
    (hview : requesterView s₁ = requesterView s₂) (hcall : input₁.call.untimed = input₂.call.untimed) :
    requesterView post₁ = requesterView post₂ ∧ (input₁.call.isAllocation → output₁ = output₂) := by
  simp only [requesterView, Prod.mk.injEq] at hview
  obtain ⟨hlocal, hmax, hcontent⟩ := hview
  have hids : s₁.table.ids = s₂.table.ids := by
    rw [Table.ids_eq_content, Table.ids_eq_content, hcontent]
  have hviews : post₁.table.content = post₂.table.content → requesterView post₁ = requesterView post₂ := by
    intro htable
    obtain ⟨hlocal₁, hmax₁⟩ := config_of_step h₁
    obtain ⟨hlocal₂, hmax₂⟩ := config_of_step h₂
    rw [requesterView, requesterView, hlocal₁, hmax₁, hlocal₂, hmax₂, hlocal, hmax, htable]
  have hrequester : input₁.call.requester = input₂.call.requester := by
    rw [← Call.requester_untimed, hcall, Call.requester_untimed]
  have hallocation : input₁.call.isAllocation = input₂.call.isAllocation := by
    rw [← Call.isAllocation_untimed, hcall, Call.isAllocation_untimed]
  cases hq : input₁.call.requester with
  | some q =>
    have hq₂ := hrequester.symm.trans hq
    obtain ⟨hanswer, htable⟩ := (assigned_of_step h₁ hq).congr (assigned_of_step h₂ hq₂) hlocal hmax hcontent
    refine ⟨hviews htable, fun _ => ?_⟩
    rw [output_of_step h₁ hq, output_of_step h₂ hq₂, hanswer]
  | none =>
    have hq₂ := hrequester.symm.trans hq
    have hignored : input₁.call.isAllocation → requesterView post₁ = requesterView post₂ ∧ output₁ = output₂ := by
      intro hkind
      obtain ⟨rfl, rfl⟩ := ignored_of_step h₁ hkind hq
      obtain ⟨rfl, rfl⟩ := ignored_of_step h₂ (hallocation ▸ hkind) hq₂
      refine ⟨hviews hcontent, ?_⟩
      rw [← Call.refusal_untimed, hcall, Call.refusal_untimed]
    refine ⟨?_, fun hkind => (hignored hkind).2⟩
    cases hkind : input₁.call.untimed with
    | on_allocation_v1 msg source => exact (hignored (by rw [← Call.isAllocation_untimed, hkind]; rfl)).1
    | on_allocation_v2 msg source => exact (hignored (by rw [← Call.isAllocation_untimed, hkind]; rfl)).1
    | on_heartbeat node_id tested_at queued_at =>
      apply hviews
      rw [content_of_heartbeat h₁ hkind, content_of_heartbeat h₂ (hcall.symm.trans hkind), hids, hcontent]
    | pop_get_info_request =>
      apply hviews
      rw [table_of_silent h₁ (.inl hkind), table_of_silent h₂ (.inl (hcall.symm.trans hkind)), hcontent]
    | on_get_info_result node_id uid =>
      apply hviews
      cases uid with
      | none =>
        rw [table_of_silent h₁ (.inr ⟨node_id, hkind⟩),
          table_of_silent h₂ (.inr ⟨node_id, hcall.symm.trans hkind⟩), hcontent]
      | some uid =>
        rw [content_of_result h₁ hkind, content_of_result h₂ (hcall.symm.trans hkind),
          Table.content_setHex, Table.content_setHex, hcontent]

/-- A restart on a table that holds the local node's row writes nothing. -/
theorem table_of_restart {s : State} {local_node_id : UInt16} (hlocal : local_node_id ∈ s.table.ids)
    (max_node_id : UInt16) (ts : String) : (connect local_node_id max_node_id ts s.table).table = s.table := by
  rw [connect_eq]
  exact Table.record_of_mem hlocal

/-- The invariant under which a restart is nothing to a requester: the allocator
has its IDs, and its own one is reserved. -/
def Reserves (local_node_id max_node_id : UInt16) (s : State) : Prop :=
  s.self.local_node_id = local_node_id ∧ s.self.max_node_id = max_node_id ∧ local_node_id ∈ s.table.ids

theorem reserves_connect (local_node_id max_node_id : UInt16) (ts : String) (t : Table) :
    Reserves local_node_id max_node_id (connect local_node_id max_node_id ts t) := by
  rw [connect_eq]
  exact ⟨rfl, rfl, Table.mem_ids_record t local_node_id ts⟩

/-- An event of an allocator that keeps its IDs. -/
abbrev ReopenEvent (local_node_id max_node_id : UInt16) :=
  { event : Event // event.ReopensAs local_node_id max_node_id }

/-- Requesters cannot tell a restarted allocator from one that went on. -/
theorem reopen_unwinding (local_node_id max_node_id : UInt16) :
    Unwinding (fun s (event : ReopenEvent local_node_id max_node_id) => eventStep s event.1)
      (Reserves local_node_id max_node_id) requesterView (fun event => event.1.untimed_call)
      (fun st => allocationResponse ⟨st.pre, st.input.1, st.output, st.post⟩) := by
  constructor
  · rintro pre ⟨event, hreopens⟩ output post h ⟨hlocal, hmax, hids⟩
    cases event with
    | call input =>
      obtain ⟨hlocal', hmax'⟩ := config_of_step (show step pre input = (output, post) from h)
      exact ⟨hlocal'.trans hlocal, hmax'.trans hmax, (eventStep_extends h).ids_subset hids⟩
    | restart local_node_id' max_node_id' ts =>
      obtain ⟨rfl, rfl⟩ := hreopens
      obtain ⟨-, rfl⟩ := Prod.mk.inj h
      exact reserves_connect local_node_id' max_node_id' ts pre.table
  · rintro pre ⟨event, hreopens⟩ output post h ⟨hlocal, hmax, hids⟩ hhidden
    cases event with
    | call input => cases hhidden
    | restart local_node_id' max_node_id' ts =>
      obtain ⟨rfl, rfl⟩ := hreopens
      obtain ⟨-, rfl⟩ := Prod.mk.inj h
      refine ⟨?_, rfl⟩
      rw [requesterView, table_of_restart hids, connect_eq, requesterView, hlocal, hmax]
  · rintro pre₁ ⟨event₁, _⟩ output₁ post₁ pre₂ ⟨event₂, _⟩ output₂ post₂ k h₁ h₂ - - hview hcall₁ hcall₂
    cases event₁ with
    | restart local_node_id' max_node_id' ts => cases hcall₁
    | call input₁ =>
      cases event₂ with
      | restart local_node_id' max_node_id' ts => cases hcall₂
      | call input₂ =>
        have hcall : input₁.call.untimed = input₂.call.untimed := Option.some.inj (hcall₁.trans hcall₂.symm)
        obtain ⟨hviews, houtput⟩ := step_agrees (show step pre₁ input₁ = (output₁, post₁) from h₁)
          (show step pre₂ input₂ = (output₂, post₂) from h₂) hview hcall
        refine ⟨hviews, ?_⟩
        have hkind : input₁.call.isAllocation = input₂.call.isAllocation := by
          rw [← Call.isAllocation_untimed, hcall, Call.isAllocation_untimed]
        cases hallocation : input₁.call.isAllocation with
        | true => simp [allocationResponse, hallocation, hkind ▸ hallocation, houtput hallocation]
        | false => simp [allocationResponse, hallocation, hkind ▸ hallocation]

/-- Restarts are invisible to requesters: a run whose allocator is dropped and
reopened any number of times gives the responses of the run without restarts,
and ends with the same rows. -/
theorem restarts_invisible (local_node_id max_node_id : UInt16) (ts ts' : String) (inputs : List Input)
    (events : List Event) (hreopens : ∀ event ∈ events, event.ReopensAs local_node_id max_node_id)
    (hcalls : events.filterMap Event.untimed_call = inputs.map (·.call.untimed)) :
    responses (trace eventStep (connect local_node_id max_node_id ts Table.empty) events) =
        responses (trace eventStep (connect local_node_id max_node_id ts' Table.empty) (inputs.map .call)) ∧
      (final eventStep (connect local_node_id max_node_id ts Table.empty) events).table.content =
        (final eventStep (connect local_node_id max_node_id ts' Table.empty) (inputs.map .call)).table.content := by
  let reopened : List (ReopenEvent local_node_id max_node_id) := events.attachWith _ hreopens
  let continued : List (ReopenEvent local_node_id max_node_id) := inputs.map fun input => ⟨.call input, trivial⟩
  have hreopened : reopened.map (·.1) = events := List.attachWith_map_subtype_val hreopens
  have hcontinued : continued.map (·.1) = inputs.map .call := by
    simp [continued, Function.comp_def]
  have hlabels : reopened.filterMap (fun event => event.1.untimed_call) =
      continued.filterMap fun event => event.1.untimed_call := by
    have hleft : reopened.filterMap (fun event => event.1.untimed_call) =
        (reopened.map (·.1)).filterMap Event.untimed_call := by
      rw [List.filterMap_map]
      rfl
    have hright : continued.filterMap (fun event => event.1.untimed_call) = inputs.map (·.call.untimed) := by
      simp only [continued, List.filterMap_map]
      exact congrFun (List.filterMap_eq_map (f := fun input : Input => input.call.untimed)) inputs
    rw [hleft, hright, hreopened, hcalls]
  have hview : requesterView (connect local_node_id max_node_id ts Table.empty) =
      requesterView (connect local_node_id max_node_id ts' Table.empty) := by
    rw [requesterView, requesterView, connect_eq, connect_eq, Table.content_record, Table.content_record]
  obtain ⟨hviews, hresponses⟩ := (reopen_unwinding local_node_id max_node_id).runs_agree
    (reserves_connect local_node_id max_node_id ts Table.empty)
    (reserves_connect local_node_id max_node_id ts' Table.empty) hview hlabels
  rw [← hreopened, ← hcontinued, trace_map, trace_map, final_map, final_map, responses, responses,
    List.flatMap_map, List.flatMap_map]
  exact ⟨hresponses, congrArg (·.2.2) hviews⟩

/-- A v1 node that asks again after a restart gets the response it would have
got without one. -/
theorem restarts_invisible_reopened :
    responses (trace eventStep (connect 100 127 "" Table.empty)
        [.call ⟨.on_allocation_v1 ⟨7, []⟩ none, ""⟩, .restart 100 127 "",
          .call ⟨.on_allocation_v1 ⟨7, []⟩ none, ""⟩]) =
        responses (trace eventStep (connect 100 127 "" Table.empty)
          [.call ⟨.on_allocation_v1 ⟨7, []⟩ none, ""⟩, .call ⟨.on_allocation_v1 ⟨7, []⟩ none, ""⟩]) ∧
      (final eventStep (connect 100 127 "" Table.empty)
          [.call ⟨.on_allocation_v1 ⟨7, []⟩ none, ""⟩, .restart 100 127 "",
            .call ⟨.on_allocation_v1 ⟨7, []⟩ none, ""⟩]).table.content =
        (final eventStep (connect 100 127 "" Table.empty)
          [.call ⟨.on_allocation_v1 ⟨7, []⟩ none, ""⟩,
            .call ⟨.on_allocation_v1 ⟨7, []⟩ none, ""⟩]).table.content :=
  restarts_invisible 100 127 "" "" [⟨.on_allocation_v1 ⟨7, []⟩ none, ""⟩, ⟨.on_allocation_v1 ⟨7, []⟩ none, ""⟩] _
    (by decide) (by decide)

end cyphal_service.pnp.system
