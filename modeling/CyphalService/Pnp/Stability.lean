import CyphalService.Pnp.Reserved

open effect machine
open cyphal_service.pnp.db cyphal_service.pnp.allocator

namespace cyphal_service.pnp.system

/-- The step serves the anonymous v2 request for a unique ID: a row is found for it,
or a node ID is free. -/
def Serves (st : machine.Step State Input Return) (uid : UniqueId) : Prop :=
  uid ∈ st.input.call.asks ∧
    ((st.pre.table.byHex (bytes_to_hex uid.toList)).isSome ∨
      (st.pre.table.firstFree [st.pre.self.local_node_id] st.pre.self.max_node_id).isSome)

/-- A GetInfo result leaves the row that is found for a unique ID alone: it neither
replaces the unique ID there nor puts it into an older row. -/
def KeepsLookup (t : Table) (uid : UniqueId) (result : UInt16 × UniqueId) : Prop :=
  ∀ row ∈ t.byHex (bytes_to_hex uid.toList),
    if result.2 = uid then t.ids.idxOf row.node_id ≤ t.ids.idxOf result.1 else row.node_id ≠ result.1

/-- A GetInfo result leaves the row alone that is found for the unique ID served in a
step. -/
def KeepsServed (t : Table) (result : UInt16 × UniqueId) (earlier : machine.Step State Input Return) : Prop :=
  ∀ uid ∈ earlier.input.call.asks, Serves earlier uid → KeepsLookup t uid result

/-- A successful GetInfo result leaves the rows alone that are found for the unique
IDs served before. -/
def ResultKeepsLookup (before : History) (st : machine.Step State Input Return) : Prop :=
  ∀ result ∈ st.input.call.resolves, ∀ earlier ∈ before, KeepsServed st.pre.table result earlier

instance (st : machine.Step State Input Return) (uid : UniqueId) : Decidable (Serves st uid) :=
  inferInstanceAs (Decidable (_ ∧ _))

instance (t : Table) (uid : UniqueId) (result : UInt16 × UniqueId) : Decidable (KeepsLookup t uid result) :=
  Option.decidableForallMem (p := fun row : AllocationEntry =>
    if result.2 = uid then t.ids.idxOf row.node_id ≤ t.ids.idxOf result.1 else row.node_id ≠ result.1) _

instance (t : Table) (result : UInt16 × UniqueId) (earlier : machine.Step State Input Return) :
    Decidable (KeepsServed t result earlier) :=
  Option.decidableForallMem (p := fun uid : UniqueId => Serves earlier uid → KeepsLookup t uid result) _

instance (before : History) (st : machine.Step State Input Return) : Decidable (ResultKeepsLookup before st) :=
  Option.decidableForallMem (p := fun result : UInt16 × UniqueId =>
    ∀ earlier ∈ before, KeepsServed st.pre.table result earlier) st.input.call.resolves

/-- The unique ID is found under the node ID. -/
def FoundAt (t : Table) (uid : UniqueId) (node_id : UInt16) : Prop :=
  ∃ row, t.byHex (bytes_to_hex uid.toList) = some row ∧ row.node_id = node_id

theorem FoundAt.push {t : Table} {uid : UniqueId} {node_id : UInt16} (h : FoundAt t uid node_id)
    {row : AllocationEntry} (hfresh : row.node_id ∉ t.ids) : FoundAt (t.push row hfresh) uid node_id := by
  obtain ⟨found, hfound, hid⟩ := h
  exact ⟨found, by rw [Table.byHex_push, hfound, Option.some_or], hid⟩

theorem FoundAt.record {t : Table} {uid : UniqueId} {node_id : UInt16} (h : FoundAt t uid node_id)
    (heard : UInt16) (ts : String) : FoundAt (t.record heard ts) uid node_id := by
  by_cases hknown : heard ∈ t.ids
  · rwa [Table.record_of_mem hknown]
  · rw [Table.record_of_not_mem hknown]
    exact h.push hknown

theorem FoundAt.setHex {t : Table} {uid : UniqueId} {node_id : UInt16} (h : FoundAt t uid node_id)
    {result : UInt16 × UniqueId} (hkeeps : KeepsLookup t uid result) :
    FoundAt (t.setHex result.1 (bytes_to_hex result.2.toList)) uid node_id := by
  obtain ⟨row, hrow, hid⟩ := h
  have hrow_kept := hkeeps row hrow
  by_cases hsame : row.node_id = result.1
  · -- the result is for the row itself, and confirms its unique ID
    have hconfirms : result.2 = uid := by
      by_contra hother
      rw [if_neg hother] at hrow_kept
      exact hrow_kept hsame
    obtain ⟨hmem, hhex⟩ := Table.byHex_mem hrow
    rw [Table.setHex_eq_self _ _ _ (Table.byNode_eq_some_iff.2 ⟨hmem, hsame⟩) (hconfirms ▸ hhex)]
    exact ⟨row, hrow, hid⟩
  · refine ⟨row, Table.byHex_setHex hrow hsame ?_, hid⟩
    intro heq
    rwa [if_pos (UniqueId.hex_inj.1 heq)] at hrow_kept

theorem FoundAt.step {s post : State} {input : Input} {output : Return}
    (h : system.step s input = (output, post)) {uid : UniqueId} {node_id : UInt16}
    (hfound : FoundAt s.table uid node_id)
    (hkeeps : ∀ result ∈ input.call.resolves, KeepsLookup s.table uid result) : FoundAt post.table uid node_id := by
  cases step_transition h with
  | request hq hassigned =>
    generalize output.node_id = answer at hassigned
    cases hassigned with
    | reused hrow => exact hfound
    | exhausted hnone hfull => exact hfound
    | fresh hnone hfree hnew => exact hfound.push hnew
  | ignored hcall hq hanswer => exact hfound
  | queued hqueues => exact hfound.record _ _
  | noted hqueues => exact hfound.record _ _
  | popped => exact hfound
  | resolved => exact hfound.setHex (hkeeps _ rfl)
  | failed => exact hfound

private theorem foundAt_of_answers {s post : State} {input : Input} {output : Return}
    (h : step s input = (output, post)) {uid : UniqueId} {node_id : UInt16}
    (hanswers : Answers ⟨s, input, output, post⟩ (.v2 uid) node_id) : FoundAt post.table uid node_id := by
  have hassigned := assigned_of_step h hanswers.1
  have hanswer : output.node_id = some node_id := hanswers.2
  rw [hanswer] at hassigned
  exact hassigned.lookup_after

/-- Only a served request is answered. -/
private theorem serves_of_answers {s post : State} {input : Input} {output : Return}
    (h : step s input = (output, post)) {uid : UniqueId} {node_id : UInt16}
    (hanswers : Answers ⟨s, input, output, post⟩ (.v2 uid) node_id) :
    Serves ⟨s, input, output, post⟩ uid := by
  refine ⟨Call.asks_of_requester hanswers.1, ?_⟩
  have hassigned := assigned_of_step h hanswers.1
  have hanswer : output.node_id = some node_id := hanswers.2
  rw [hanswer] at hassigned
  generalize post.table = t at hassigned
  cases hassigned with
  | reused hrow => exact .inl (Option.isSome_iff_exists.2 ⟨_, hrow⟩)
  | fresh hnone hfree hnew => exact .inr (Option.isSome_iff_exists.2 ⟨_, hfree⟩)

/-- A v2 node keeps its node ID in any run whose GetInfo results leave the rows alone
that are found for the v2 requests served before. -/
theorem v2_allocation_stable (local_node_id max_node_id : UInt16) (ts : String) (inputs : List Input)
    (hok : Everywhere ResultKeepsLookup
      (trace step (connect local_node_id max_node_id ts Table.empty) inputs)) :
    Everywhere (fun before st => ∀ uid node_id, Answered before (.v2 uid) node_id →
        st.input.call.requester = some (.v2 uid) → st.output.node_id = some node_id)
      (trace step (connect local_node_id max_node_id ts Table.empty) inputs) := by
  refine everywhere_of_admissible (fun history s => ∀ uid node_id, Answered history (.v2 uid) node_id →
    FoundAt s.table uid node_id ∧ Occurred (Serves · uid) history) ?_ ?_ ?_ inputs hok
  · intro uid node_id hanswered
    exact absurd hanswered not_occurred_nil
  · intro before pre input output post h hinv hkeeps uid node_id hanswered
    obtain hearlier | hnow := occurred_snoc.1 hanswered
    · obtain ⟨hfound, earlier, hmem, hserves⟩ := hinv uid node_id hearlier
      refine ⟨hfound.step h ?_, occurred_snoc.2 (.inl ⟨earlier, hmem, hserves⟩)⟩
      exact fun result hresult => hkeeps result hresult earlier hmem uid hserves.1 hserves
    · exact ⟨foundAt_of_answers h hnow, occurred_snoc.2 (.inr (serves_of_answers h hnow))⟩
  · intro before pre input output post h hinv _ uid node_id hanswered hq
    obtain ⟨⟨row, hrow, hid⟩, -⟩ := hinv uid node_id hanswered
    rw [← hid]
    exact ((assigned_of_step h hq).answer_of_lookup hrow).1

/-- Also a v2 node that is answered from the placeholder of the local node, while
another node reports its unique ID. -/
theorem v2_allocation_stable_get_info :
    Everywhere (fun before st => ∀ uid node_id, Answered before (.v2 uid) node_id →
        st.input.call.requester = some (.v2 uid) → st.output.node_id = some node_id)
      (trace step (connect 100 127 "" Table.empty)
        [⟨.on_allocation_v2 ⟨⟨0⟩, Vector.replicate 16 0⟩ none, ""⟩, ⟨.on_heartbeat 5 0 0, ""⟩,
          ⟨.pop_get_info_request, ""⟩, ⟨.on_get_info_result 5 (some (Vector.replicate 16 8)), ""⟩,
          ⟨.on_allocation_v2 ⟨⟨0⟩, Vector.replicate 16 0⟩ none, ""⟩]) :=
  v2_allocation_stable 100 127 "" _ (by decide)

/-- A static node that answers its GetInfo with the unique ID of a v2 node takes
over that node's allocation, because its row is older. -/
theorem v2_allocation_stable_fails :
    ¬ ∀ (local_node_id max_node_id : UInt16) (ts : String) (inputs : List Input),
      Everywhere Solicited (trace step (connect local_node_id max_node_id ts Table.empty) inputs) →
      Everywhere (fun before st => ∀ uid node_id, Answered before (.v2 uid) node_id →
          st.input.call.requester = some (.v2 uid) → st.output.node_id = some node_id)
        (trace step (connect local_node_id max_node_id ts Table.empty) inputs) := by
  intro hall
  have hrun := hall 100 127 ""
    [⟨.on_heartbeat 5 0 0, ""⟩, ⟨.on_allocation_v2 ⟨⟨0⟩, Vector.replicate 16 9⟩ none, ""⟩,
      ⟨.pop_get_info_request, ""⟩, ⟨.on_get_info_result 5 (some (Vector.replicate 16 9)), ""⟩,
      ⟨.on_allocation_v2 ⟨⟨0⟩, Vector.replicate 16 9⟩ none, ""⟩]
    (by decide)
  have hlast := everywhere_iff.1 hrun [_, _, _, _] _ [] rfl (Vector.replicate 16 9) 1
    (by decide) (by decide)
  exact absurd hlast (by decide)

end cyphal_service.pnp.system
