import CyphalService.Pnp.Reserved

open effect machine
open cyphal_service.pnp.db cyphal_service.pnp.allocator

namespace cyphal_service.pnp.db

/-- The bytes that stand for an unknown unique ID in a row. -/
def AllocationEntry.placeholder (row : AllocationEntry) : List UInt8 :=
  match row.pseudo_unique_id with
  | none => List.replicate 16 0
  | some hash => padded hash.toUInt64

theorem zero_hex_eq_replicate : zero_hex = bytes_to_hex (List.replicate 16 0) := by decide

/-- A row is unresolved as far as its columns can tell: it stores exactly its
placeholder. -/
theorem AllocationEntry.needs_get_info_iff (row : AllocationEntry) :
    row.needs_get_info = true ↔ row.unique_id_hex = bytes_to_hex row.placeholder := by
  unfold AllocationEntry.needs_get_info AllocationEntry.placeholder
  cases row.pseudo_unique_id with
  | none => simp [zero_hex_eq_replicate]
  | some hash => simp

end cyphal_service.pnp.db

namespace cyphal_service.pnp.system

/-- The row was made without knowing the node's unique ID. -/
def Origin.IsPlaceholder : Origin → Prop
  | .static_node => True
  | .allocated (.v1 _) => True
  | .allocated (.v2 _) => False

/-- The step applies a successful GetInfo result to the row of the node. -/
def Applied (st : machine.Step State Input Return) (node_id : UInt16) : Prop :=
  (∃ uid, st.input.call = .on_get_info_result node_id (some uid)) ∧ node_id ∈ st.pre.table.ids

/-- The row of the node was made by `record_static_node` or `insert_v1`, and no
GetInfo result was applied to it since. -/
def Unresolved (local_node_id : UInt16) (history : History) (node_id : UInt16) : Prop :=
  (∃ o, Created local_node_id history node_id o ∧ o.IsPlaceholder) ∧
    ¬ Occurred (Applied · node_id) history

/-- `needs_get_info` tells the unresolved rows. -/
def RowsKnown (local_node_id : UInt16) (history : History) (t : Table) : Prop :=
  ∀ row ∈ t.rows, row.needs_get_info = true ↔ Unresolved local_node_id history row.node_id

/-- After the step `needs_get_info` tells the unresolved rows, and a heartbeat
puts a node on the queue only if it is unresolved, and then whenever no cooldown
holds it back. -/
def ResolutionKnown (local_node_id : UInt16) (before : History) (st : machine.Step State Input Return) : Prop :=
  RowsKnown local_node_id (before ++ [st]) st.post.table ∧
    ∀ node_id tested_at queued_at, st.input.call = .on_heartbeat node_id tested_at queued_at →
      (st.post.self.get_info_queue = st.pre.self.get_info_queue ++ [node_id] ↔
        Unresolved local_node_id (before ++ [st]) node_id ∧
          ∀ queried_at, st.pre.self.recently_queried.lookup node_id = some queried_at →
            GET_INFO_RETRY_COOLDOWN ≤ elapsed queried_at tested_at)

/-- The step stores a real unique ID that reads as the placeholder of its row:
an all-zero one in a new v2 row, or a reported one equal to the placeholder. -/
def MimicsPlaceholder (st : machine.Step State Input Return) : Prop :=
  (st.input.call.requester = some (.v2 zero_uid) ∧ st.pre.table.byHex zero_hex = none ∧
    st.pre.table.firstFree [st.pre.self.local_node_id] st.pre.self.max_node_id ≠ none) ∨
  ∃ node_id uid row, st.input.call = .on_get_info_result node_id (some uid) ∧
    st.pre.table.byNode node_id = some row ∧ uid.toList = row.placeholder

theorem Origin.needs_get_info_row (o : Origin) (node_id : UInt16) (ts : String) :
    (o.row node_id ts).needs_get_info = true ↔ o.IsPlaceholder ∨ o = .allocated (.v2 zero_uid) := by
  rcases o with _ | (hash | uid)
  · simp [Origin.row, Origin.IsPlaceholder, AllocationEntry.needs_get_info]
  · simp [Origin.row, Origin.IsPlaceholder, AllocationEntry.needs_get_info, Requester.newRow]
  · simp [Origin.row, Origin.IsPlaceholder, AllocationEntry.needs_get_info, Requester.newRow,
      hex_eq_zero_hex_iff]

/-- One step makes one row for one reason. -/
theorem creates_unique {st : machine.Step State Input Return} {node_id : UInt16} {o o' : Origin}
    (h : Creates st node_id o) (h' : Creates st node_id o') : o = o' := by
  cases o with
  | static_node =>
    obtain ⟨-, tested_at, queued_at, hcall⟩ := h
    cases o' with
    | static_node => rfl
    | allocated q =>
      have hq := h'.2.1
      rw [hcall] at hq
      cases hq
  | allocated q =>
    have hq := h.2.1
    cases o' with
    | static_node =>
      obtain ⟨-, tested_at, queued_at, hcall⟩ := h'
      rw [hcall] at hq
      cases hq
    | allocated q' =>
      have hsame : some q = some q' := hq.symm.trans h'.2.1
      rw [Option.some.inj hsame]

section Step

variable {local_node_id : UInt16} {before : History} {s post : State} {input : Input} {output : Return}

/-- Reading a row that a result was applied to: it looks unresolved only if the
reported unique ID is the row's placeholder. -/
private theorem needs_get_info_setHex {row : AllocationEntry} {uid : UniqueId} :
    ({ row with unique_id_hex := bytes_to_hex uid.toList } : AllocationEntry).needs_get_info = true ↔
      uid.toList = row.placeholder := by
  rw [AllocationEntry.needs_get_info_iff]
  exact ⟨fun h => bytes_to_hex_injective h, fun h => congrArg bytes_to_hex h⟩

/-- A row that the step neither makes nor resolves stays as unresolved as it
was. -/
private theorem unresolved_snoc_of_kept {node_id : UInt16} (hknown : node_id ∈ s.table.ids)
    (hnot : ¬ Applied ⟨s, input, output, post⟩ node_id) :
    Unresolved local_node_id (before ++ [⟨s, input, output, post⟩]) node_id ↔
      Unresolved local_node_id before node_id := by
  have hcreated : ∀ o, Created local_node_id (before ++ [⟨s, input, output, post⟩]) node_id o ↔
      Created local_node_id before node_id o := by
    intro o
    refine ⟨?_, fun h => h.snoc _⟩
    rintro (hlocal | hcreates)
    · exact .inl hlocal
    · obtain hearlier | hnow := occurred_snoc.1 hcreates
      · exact .inr hearlier
      · cases o <;> exact absurd hknown hnow.1
  simp only [Unresolved, hcreated, occurred_snoc, hnot, or_false]

/-- A row that the step makes is unresolved if its origin says so. -/
private theorem unresolved_snoc_of_creates {node_id : UInt16} {o : Origin}
    (hinv : Provenance local_node_id before s)
    (happlied : Occurred (Applied · node_id) before → node_id ∈ s.table.ids)
    (hcreates : Creates ⟨s, input, output, post⟩ node_id o) :
    Unresolved local_node_id (before ++ [⟨s, input, output, post⟩]) node_id ↔ o.IsPlaceholder := by
  have hnew : node_id ∉ s.table.ids := by
    cases o with
    | static_node => exact hcreates.1
    | allocated q => exact hcreates.1
  constructor
  · rintro ⟨⟨o', hcreated, hplaceholder⟩, -⟩
    have hbefore : ¬ Created local_node_id before node_id o' :=
      fun h => hnew (hinv.mem_ids_iff.2 ⟨o', h⟩)
    obtain hlocal | hoccurred := hcreated
    · exact absurd (.inl hlocal) hbefore
    · obtain hearlier | hnow := occurred_snoc.1 hoccurred
      · exact absurd (.inr hearlier) hbefore
      · exact creates_unique hcreates hnow ▸ hplaceholder
  · intro hplaceholder
    refine ⟨⟨o, .inr (occurred_snoc.2 (.inr hcreates)), hplaceholder⟩, ?_⟩
    rw [occurred_snoc]
    rintro (hearlier | hnow)
    · exact hnew (happlied hearlier)
    · exact hnew hnow.2

/-- A step that mimics no placeholder keeps the rows told apart. -/
private theorem rowsKnown_of_not_mimics (h : step s input = (output, post))
    (hinv : Provenance local_node_id before s)
    (happlied : ∀ node_id, Occurred (Applied · node_id) before → node_id ∈ s.table.ids)
    (hknown : RowsKnown local_node_id before s.table)
    (hmimics : ¬ MimicsPlaceholder ⟨s, input, output, post⟩) :
    RowsKnown local_node_id (before ++ [⟨s, input, output, post⟩]) post.table := by
  intro row hmem
  have hnode := Table.byNode_eq_some_iff.2 ⟨hmem, rfl⟩
  generalize hid : row.node_id = node_id at hnode ⊢
  by_cases hresult : Applied ⟨s, input, output, post⟩ node_id
  · obtain ⟨⟨uid, hcall⟩, hids⟩ := hresult
    obtain ⟨old, hold⟩ := Table.mem_ids_iff.1 hids
    have hnew := byNode_of_applied h hcall hold
    rw [hnode, Option.some.injEq] at hnew
    have hneeds : ¬ row.needs_get_info = true := by
      rw [hnew, needs_get_info_setHex]
      exact fun heq => hmimics (.inr ⟨node_id, uid, old, hcall, hold, heq⟩)
    have hresolved : ¬ Unresolved local_node_id (before ++ [⟨s, input, output, post⟩]) node_id :=
      fun hunresolved => hunresolved.2 (occurred_snoc.2 (.inr ⟨⟨uid, hcall⟩, hids⟩))
    exact iff_of_false hneeds hresolved
  · have hchange := rowChange_of_step h node_id
    rw [hnode] at hchange
    generalize hold : s.table.byNode node_id = old at hchange
    cases hchange with
    | kept =>
      obtain ⟨hmem_old, hid_old⟩ := Table.byNode_eq_some_iff.1 hold
      rw [unresolved_snoc_of_kept (hid_old ▸ Table.mem_ids_of_mem hmem_old) hresult, ← hid_old]
      exact hknown row hmem_old
    | created o hcreates =>
      rw [Origin.needs_get_info_row, unresolved_snoc_of_creates hinv (happlied node_id) hcreates]
      refine or_iff_left ?_
      rintro rfl
      obtain ⟨hnone, hfree, -⟩ := fresh_of_creates h hcreates
      refine hmimics (.inl ⟨hcreates.2.1, ?_, by simp [hfree]⟩)
      simpa only [Requester.lookup, hex_eq_zero_hex_iff.2 rfl] using hnone
    | rewritten old_row hcall =>
      exact absurd ⟨⟨_, hcall⟩, Table.mem_ids_iff.2 ⟨old_row, hold⟩⟩ hresult

/-- A step that mimics a placeholder leaves a row that reads as unresolved but
is not. -/
private theorem not_rowsKnown_of_mimics (h : step s input = (output, post))
    (hinv : Provenance local_node_id before s)
    (happlied : ∀ node_id, Occurred (Applied · node_id) before → node_id ∈ s.table.ids)
    (hmimics : MimicsPlaceholder ⟨s, input, output, post⟩) :
    ¬ RowsKnown local_node_id (before ++ [⟨s, input, output, post⟩]) post.table := by
  intro hknown
  obtain ⟨hq, hnone, hroom⟩ | ⟨node_id, uid, row, hcall, hrow, heq⟩ := hmimics
  · have hassigned := assigned_of_step h hq
    generalize hanswer : output.node_id = answer at hassigned
    generalize htable : post.table = t at hassigned
    cases hassigned with
    | reused hrow =>
      simp only [Requester.lookup, hex_eq_zero_hex_iff.2 rfl] at hrow
      rw [hnone] at hrow
      cases hrow
    | exhausted _ hfull => exact hroom hfull
    | @fresh node_id _ hfree hnew =>
      rw [Requester.newRow_node_id] at hnew
      have hcreates : Creates ⟨s, input, output, post⟩ node_id (.allocated (.v2 zero_uid)) :=
        ⟨hnew, hq, hanswer⟩
      obtain ⟨hmem, hid⟩ := Table.byNode_eq_some_iff.1 (byNode_of_creates h hcreates)
      have hneeds := (hknown _ hmem).1 ((Origin.needs_get_info_row _ _ _).2 (.inr rfl))
      rw [hid] at hneeds
      exact (unresolved_snoc_of_creates hinv (happlied node_id) hcreates).1 hneeds
  · obtain ⟨hmem, hid⟩ := Table.byNode_eq_some_iff.1 (byNode_of_applied h hcall hrow)
    have hneeds := (hknown _ hmem).1 (needs_get_info_setHex.2 heq)
    rw [hid] at hneeds
    exact hneeds.2 (occurred_snoc.2 (.inr ⟨⟨uid, hcall⟩, Table.mem_ids_iff.2 ⟨row, hrow⟩⟩))

/-- What a heartbeat does once the rows are told apart. -/
private theorem queued_iff_unresolved {node_id : UInt16} {tested_at queued_at : Instant}
    (h : step s input = (output, post)) (hcall : input.call = .on_heartbeat node_id tested_at queued_at)
    (hinv : Provenance local_node_id (before ++ [⟨s, input, output, post⟩]) post)
    (hknown : RowsKnown local_node_id (before ++ [⟨s, input, output, post⟩]) post.table) :
    post.self.get_info_queue = s.self.get_info_queue ++ [node_id] ↔
      Unresolved local_node_id (before ++ [⟨s, input, output, post⟩]) node_id ∧
        ∀ queried_at, s.self.recently_queried.lookup node_id = some queried_at →
          GET_INFO_RETRY_COOLDOWN ≤ elapsed queried_at tested_at := by
  have hrow : (∃ row, post.table.byNode node_id = some row ∧ row.needs_get_info) ↔
      Unresolved local_node_id (before ++ [⟨s, input, output, post⟩]) node_id := by
    constructor
    · rintro ⟨row, hrow, hneeds⟩
      obtain ⟨hmem, hid⟩ := Table.byNode_eq_some_iff.1 hrow
      exact hid ▸ (hknown row hmem).1 hneeds
    · intro hunresolved
      obtain ⟨o, hcreated, -⟩ := hunresolved.1
      obtain ⟨row, hrow, -⟩ := hinv.row_of_created node_id o hcreated
      obtain ⟨hmem, hid⟩ := Table.byNode_eq_some_iff.1 hrow
      exact ⟨row, hrow, (hknown row hmem).2 (hid.symm ▸ hunresolved)⟩
  rw [← hrow]
  obtain ⟨call, ts⟩ := input
  simp only at hcall
  subst hcall
  cases step_transition h with
  | queued hqueues => exact ⟨fun _ => hqueues, fun _ => rfl⟩
  | noted hqueues => exact ⟨fun hqueue => by simp at hqueue, fun hboth => absurd hboth hqueues⟩
  | request hq hassigned => cases hq
  | ignored hallocation hq hanswer => cases hallocation

end Step

/-- The rows' origins, with the rows told apart. -/
structure ResolutionInv (local_node_id : UInt16) (history : History) (s : State) : Prop where
  provenance : Provenance local_node_id history s
  applied : ∀ node_id, Occurred (Applied · node_id) history → node_id ∈ s.table.ids
  known : RowsKnown local_node_id history s.table

theorem ResolutionInv.init (local_node_id max_node_id : UInt16) (ts : String) :
    ResolutionInv local_node_id [] (connect local_node_id max_node_id ts Table.empty) where
  provenance := Provenance.init local_node_id max_node_id ts
  applied := fun _ happlied => absurd happlied not_occurred_nil
  known := by
    intro row hmem
    rw [connect_eq, Table.record_of_not_mem (by simp [Table.ids, Table.empty])] at hmem
    obtain rfl := List.mem_singleton.1 hmem
    have hneeds := Origin.needs_get_info_row .static_node local_node_id ts
    refine iff_of_true (hneeds.2 (.inl trivial)) ⟨⟨.static_node, .inl ⟨rfl, rfl⟩, trivial⟩, not_occurred_nil⟩

theorem ResolutionInv.step {local_node_id : UInt16} {before : History} {s post : State} {input : Input}
    {output : Return} (h : system.step s input = (output, post))
    (hinv : ResolutionInv local_node_id before s) (hmimics : ¬ MimicsPlaceholder ⟨s, input, output, post⟩) :
    ResolutionInv local_node_id (before ++ [⟨s, input, output, post⟩]) post := by
  constructor
  · exact hinv.provenance.step h
  · intro node_id happlied
    obtain hearlier | hnow := occurred_snoc.1 happlied
    · exact (step_extends h).ids_subset (hinv.applied node_id hearlier)
    · exact (step_extends h).ids_subset hnow.2
  · exact rowsKnown_of_not_mimics h hinv.provenance hinv.applied hinv.known hmimics

/-- `needs_get_info` tells resolved rows from unresolved ones in exactly those
runs in which no real unique ID that reads as a placeholder is stored. -/
theorem resolution_known_iff (local_node_id max_node_id : UInt16) (ts : String) (inputs : List Input) :
    Everywhere (ResolutionKnown local_node_id)
        (trace step (connect local_node_id max_node_id ts Table.empty) inputs) ↔
      Everywhere (fun _ st => ¬ MimicsPlaceholder st)
        (trace step (connect local_node_id max_node_id ts Table.empty) inputs) := by
  refine everywhere_iff_of_admissible (ResolutionInv local_node_id)
    (ResolutionInv.init local_node_id max_node_id ts) ?_ inputs (everywhere_trivial inputs)
  intro before pre input output post h hinv _
  refine ⟨⟨fun hresolution hmimics => ?_, fun hmimics => ?_⟩, hinv.step h⟩
  · exact not_rowsKnown_of_mimics h hinv.provenance hinv.applied hmimics hresolution.1
  · have hafter := hinv.step h hmimics
    refine ⟨hafter.known, ?_⟩
    intro node_id tested_at queued_at hcall
    exact queued_iff_unresolved h hcall hafter.provenance hafter.known

/-- A static node answers its GetInfo with the all-zero unique ID: its row is
resolved and still reads as unresolved. -/
theorem resolution_known_fails :
    ¬ ∀ (local_node_id max_node_id : UInt16) (ts : String) (inputs : List Input),
      Everywhere (ResolutionKnown local_node_id)
        (trace step (connect local_node_id max_node_id ts Table.empty) inputs) := by
  intro hall
  have hrun := hall 100 127 ""
    [⟨.on_heartbeat 5 0 0, ""⟩, ⟨.pop_get_info_request, ""⟩, ⟨.on_get_info_result 5 (some zero_uid), ""⟩]
  have hlast := (everywhere_iff.1 hrun [_, _] _ [] rfl).1 ⟨5, zero_hex, none, ""⟩ (by decide)
  have hunresolved := hlast.1 (by decide)
  refine hunresolved.2 (occurred_snoc.2 (.inr ⟨⟨zero_uid, rfl⟩, by decide⟩))

end cyphal_service.pnp.system
