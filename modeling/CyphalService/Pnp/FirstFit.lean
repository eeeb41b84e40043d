import CyphalService.Pnp.Provenance

open effect machine
open cyphal_service.pnp.db cyphal_service.pnp.allocator

namespace cyphal_service.pnp.system

/-- The step passes the node ID to `on_heartbeat`. -/
def Hears (st : machine.Step State Input Return) (node_id : UInt16) : Prop :=
  ∃ tested_at queued_at, st.input.call = .on_heartbeat node_id tested_at queued_at

/-- The allocator's own node ID, every one it heard and every one it newly
allocated so far. -/
def Occupied (local_node_id : UInt16) (history : History) (node_id : UInt16) : Prop :=
  node_id = local_node_id ∨ Occurred (Hears · node_id) history ∨
    ∃ q, Occurred (Creates · node_id (.allocated q)) history

/-- Nothing identifies the requester: its hash was never answered, or its
unique ID is stored in no row. -/
def Unmatched (before : History) (st : machine.Step State Input Return) : Requester → Prop
  | .v1 hash => ∀ node_id, ¬ Answered before (.v1 hash) node_id
  | .v2 uid => ∀ row ∈ st.pre.table.rows, row.unique_id_hex ≠ bytes_to_hex uid.toList

/-- The least node ID of `1..=max_node_id` that is not occupied. -/
structure LeastFree (local_node_id max_node_id : UInt16) (history : History) (node_id : UInt16) : Prop where
  one_le : 1 ≤ node_id
  le_max : node_id ≤ max_node_id
  free : ¬ Occupied local_node_id history node_id
  least : ∀ other, 1 ≤ other → other < node_id → Occupied local_node_id history other

/-- An unmatched requester gets the least free node ID and the row for it, or
nothing at all when every node ID is occupied. -/
def FirstFit (local_node_id max_node_id : UInt16) (before : History) (st : machine.Step State Input Return) : Prop :=
  ∀ q, st.input.call.requester = some q → Unmatched before st q →
    (∃ node_id, LeastFree local_node_id max_node_id before node_id ∧ st.output = response q node_id ∧
      st.post.table.rows = st.pre.table.rows ++ [q.newRow node_id st.input.current_timestamp]) ∨
    ((∀ node_id, 1 ≤ node_id → node_id ≤ max_node_id → Occupied local_node_id before node_id) ∧
      st.output = refusal q ∧ st.post.table = st.pre.table)

/-- The history says which node IDs have a row. -/
structure OccupiedInv (local_node_id max_node_id : UInt16) (history : History) (s : State) : Prop where
  provenance : Provenance local_node_id history s
  heard : ∀ node_id, Occurred (Hears · node_id) history → node_id ∈ s.table.ids
  config : s.self.local_node_id = local_node_id ∧ s.self.max_node_id = max_node_id

theorem OccupiedInv.mem_ids_iff {local_node_id max_node_id node_id : UInt16} {history : History} {s : State}
    (hinv : OccupiedInv local_node_id max_node_id history s) :
    node_id ∈ s.table.ids ↔ Occupied local_node_id history node_id := by
  constructor
  · intro hmem
    obtain ⟨o, hcreated⟩ := hinv.provenance.mem_ids_iff.1 hmem
    obtain ⟨hlocal, -⟩ | hcreates := hcreated
    · exact .inl hlocal
    · cases o with
      | static_node =>
        obtain ⟨st, hst, -, hheard⟩ := hcreates
        exact .inr (.inl ⟨st, hst, hheard⟩)
      | allocated q => exact .inr (.inr ⟨q, hcreates⟩)
  · rintro (rfl | hheard | ⟨q, hcreates⟩)
    · exact hinv.provenance.mem_ids_iff.2 ⟨.static_node, .inl ⟨rfl, rfl⟩⟩
    · exact hinv.heard node_id hheard
    · exact hinv.provenance.mem_ids_iff.2 ⟨.allocated q, .inr hcreates⟩

private theorem mem_ids_of_hears {s post : State} {input : Input} {output : Return} {node_id : UInt16}
    (h : step s input = (output, post)) (hheard : Hears ⟨s, input, output, post⟩ node_id) :
    node_id ∈ post.table.ids := by
  obtain ⟨tested_at, queued_at, hcall⟩ := hheard
  obtain ⟨call, ts⟩ := input
  simp only at hcall
  subst hcall
  cases step_transition h with
  | queued hqueues => exact Table.mem_ids_record _ _ _
  | noted hqueues => exact Table.mem_ids_record _ _ _
  | request hq hassigned => cases hq
  | ignored hallocation hq hanswer => cases hallocation

theorem OccupiedInv.init (local_node_id max_node_id : UInt16) (ts : String) :
    OccupiedInv local_node_id max_node_id [] (connect local_node_id max_node_id ts Table.empty) where
  provenance := Provenance.init local_node_id max_node_id ts
  heard := fun _ hheard => absurd hheard not_occurred_nil
  config := by
    rw [connect_eq]
    exact ⟨rfl, rfl⟩

theorem OccupiedInv.step {local_node_id max_node_id : UInt16} {before : History} {s post : State} {input : Input}
    {output : Return} (h : system.step s input = (output, post))
    (hinv : OccupiedInv local_node_id max_node_id before s) :
    OccupiedInv local_node_id max_node_id (before ++ [⟨s, input, output, post⟩]) post := by
  constructor
  · exact hinv.provenance.step h
  · intro node_id hheard
    obtain hearlier | hnow := occurred_snoc.1 hheard
    · exact (step_extends h).ids_subset (hinv.heard node_id hearlier)
    · exact mem_ids_of_hears h hnow
  · obtain ⟨hlocal, hmax⟩ := config_of_step h
    exact ⟨hlocal.trans hinv.config.1, hmax.trans hinv.config.2⟩

/-- The lookup of an unmatched requester finds nothing. -/
private theorem lookup_of_unmatched {local_node_id : UInt16} {before : History} {s post : State} {input : Input}
    {output : Return} (hinv : Provenance local_node_id before s) {q : Requester}
    (hunmatched : Unmatched before ⟨s, input, output, post⟩ q) : q.lookup s.table = none := by
  cases q with
  | v1 hash =>
    cases hfound : (Requester.v1 hash).lookup s.table with
    | none => rfl
    | some row => exact absurd (hinv.answered_of_byHash hfound) (hunmatched row.node_id)
  | v2 uid =>
    cases hfound : (Requester.v2 uid).lookup s.table with
    | none => rfl
    | some row =>
      obtain ⟨hmem, hhex⟩ := Table.byHex_mem hfound
      exact absurd hhex (hunmatched row hmem)

/-- The first candidate the probing loop finds free is the least ID that the
history leaves free. -/
private theorem OccupiedInv.leastFree {local_node_id max_node_id node_id : UInt16} {history : History} {s : State}
    (hinv : OccupiedInv local_node_id max_node_id history s)
    (hfree : s.table.firstFree [local_node_id] max_node_id = some node_id) :
    LeastFree local_node_id max_node_id history node_id := by
  obtain ⟨⟨hlow, hhigh⟩, -, hids⟩ := Table.firstFree_some hfree
  refine ⟨hlow, hhigh, fun hoccupied => hids (hinv.mem_ids_iff.2 hoccupied), ?_⟩
  intro other hother hlt
  by_contra hnot
  have hle : node_id ≤ other := by
    apply Table.firstFree_le hfree hother (UInt16.le_trans (UInt16.le_of_lt hlt) hhigh)
    · intro hreserved
      exact hnot (.inl (List.mem_singleton.1 hreserved))
    · exact fun hmem => hnot (hinv.mem_ids_iff.1 hmem)
  exact UInt16.not_lt.2 hle hlt

private theorem OccupiedInv.full {local_node_id max_node_id node_id : UInt16} {history : History} {s : State}
    (hinv : OccupiedInv local_node_id max_node_id history s)
    (hfull : s.table.firstFree [local_node_id] max_node_id = none)
    (hlow : 1 ≤ node_id) (hhigh : node_id ≤ max_node_id) : Occupied local_node_id history node_id := by
  obtain hreserved | hids := Table.firstFree_none hfull hlow hhigh
  · exact .inl (List.mem_singleton.1 hreserved)
  · exact hinv.mem_ids_iff.1 hids

/-- In every run from an empty table a requester that matches no row is answered
with the least node ID that the whole history leaves free, under a new row, and
refused only when none is left. -/
theorem first_fit_over_history (local_node_id max_node_id : UInt16) (ts : String) (inputs : List Input) :
    Everywhere (FirstFit local_node_id max_node_id)
      (trace step (connect local_node_id max_node_id ts Table.empty) inputs) := by
  refine everywhere_of_invariant (OccupiedInv local_node_id max_node_id)
    (OccupiedInv.init local_node_id max_node_id ts) ?_ ?_ inputs
  · intro before pre input output post h hinv
    exact hinv.step h
  · intro before pre input output post h hinv q hq hunmatched
    have hnone := lookup_of_unmatched hinv.provenance hunmatched
    obtain ⟨hlocal, hmax⟩ := hinv.config
    have hassigned := assigned_of_step h hq
    generalize hanswer : output.node_id = answer at hassigned
    simp only
    generalize post.table = t at hassigned ⊢
    cases hassigned with
    | reused hrow =>
      rw [hnone] at hrow
      cases hrow
    | exhausted _ hfull =>
      right
      rw [hlocal, hmax] at hfull
      exact ⟨fun node_id => hinv.full hfull, refusal_of_step h hq hanswer, rfl⟩
    | @fresh node_id _ hfree hnew =>
      left
      rw [hlocal, hmax] at hfree
      exact ⟨node_id, hinv.leastFree hfree, response_of_step h hq hanswer, Table.rows_push hnew⟩

end cyphal_service.pnp.system
