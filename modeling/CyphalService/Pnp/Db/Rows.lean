import CyphalService.Pnp.Db

open bytes effect

namespace cyphal_service.pnp.db

namespace Table

theorem byNode_eq_some_iff {t : Table} {node_id : UInt16} {row : AllocationEntry} :
    t.byNode node_id = some row ↔ row ∈ t.rows ∧ row.node_id = node_id := by
  constructor
  · intro h
    exact ⟨List.mem_of_find?_eq_some h, by simpa using List.find?_some h⟩
  · rintro ⟨hmem, rfl⟩
    cases hfound : t.byNode row.node_id with
    | none =>
      have hnone := List.find?_eq_none.1 hfound row hmem
      simp at hnone
    | some other =>
      have hother := List.mem_of_find?_eq_some hfound
      have heq : other.node_id = row.node_id := by simpa using List.find?_some hfound
      rw [List.inj_on_of_nodup_map t.unique hother hmem heq]

theorem mem_ids_iff {t : Table} {node_id : UInt16} :
    node_id ∈ t.ids ↔ ∃ row, t.byNode node_id = some row := by
  simp only [ids, List.mem_map, byNode_eq_some_iff]

theorem mem_ids_of_mem {t : Table} {row : AllocationEntry} (h : row ∈ t.rows) : row.node_id ∈ t.ids :=
  List.mem_map_of_mem h

theorem byHex_mem {t : Table} {hex : String} {row : AllocationEntry} (h : t.byHex hex = some row) :
    row ∈ t.rows ∧ row.unique_id_hex = hex :=
  ⟨List.mem_of_find?_eq_some h, by simpa using List.find?_some h⟩

theorem byHash_mem {t : Table} {hash : Int64} {row : AllocationEntry} (h : t.byHash hash = some row) :
    row ∈ t.rows ∧ row.pseudo_unique_id = some hash :=
  ⟨List.mem_of_find?_eq_some h, by simpa using List.find?_some h⟩

section Push

variable {t : Table} {row : AllocationEntry} (hfresh : row.node_id ∉ t.ids)

@[simp] theorem rows_push : (t.push row hfresh).rows = t.rows ++ [row] := rfl

@[simp] theorem ids_push : (t.push row hfresh).ids = t.ids ++ [row.node_id] := by
  simp [ids]

theorem byHex_push (hex : String) :
    (t.push row hfresh).byHex hex = (t.byHex hex).or (if row.unique_id_hex = hex then some row else none) := by
  simp only [byHex, rows_push, List.find?_append, List.find?_singleton, beq_iff_eq]

theorem byHash_push (hash : Int64) :
    (t.push row hfresh).byHash hash =
      (t.byHash hash).or (if row.pseudo_unique_id = some hash then some row else none) := by
  simp only [byHash, rows_push, List.find?_append, List.find?_singleton, beq_iff_eq]

theorem byNode_push (node_id : UInt16) :
    (t.push row hfresh).byNode node_id = if node_id = row.node_id then some row else t.byNode node_id := by
  by_cases hid : node_id = row.node_id
  · rw [if_pos hid]
    exact byNode_eq_some_iff.2 ⟨by simp, hid.symm⟩
  · rw [if_neg hid]
    simp [byNode, List.find?_append, Ne.symm hid]

end Push

section SetHex

variable (t : Table) (node_id : UInt16) (hex : String)

theorem byNode_setHex (other : UInt16) :
    (t.setHex node_id hex).byNode other =
      if other = node_id then (t.byNode other).map ({ · with unique_id_hex := hex }) else t.byNode other := by
  have hkeep : ∀ row : AllocationEntry,
      ((if row.node_id = node_id then { row with unique_id_hex := hex } else row).node_id == other) =
        (row.node_id == other) := by
    intro row
    split <;> rfl
  simp only [byNode, setHex, List.find?_map, Function.comp_def, hkeep]
  cases hrow : t.rows.find? (·.node_id == other) with
  | none => simp
  | some row =>
    have hid : row.node_id = other := by simpa using List.find?_some hrow
    subst hid
    by_cases heq : row.node_id = node_id <;> simp [heq]

@[simp] theorem ids_setHex : (t.setHex node_id hex).ids = t.ids := by
  simp only [ids, setHex, List.map_map]
  apply List.map_congr_left
  intro row _
  simp only [Function.comp_apply]
  split <;> rfl

/-- A row of the overwritten table is either an untouched row or the row of the
named node with the new unique ID. -/
theorem mem_rows_setHex {row : AllocationEntry} (h : row ∈ (t.setHex node_id hex).rows) :
    (row ∈ t.rows ∧ row.node_id ≠ node_id) ∨
      (∃ old, old ∈ t.rows ∧ old.node_id = node_id ∧ row = { old with unique_id_hex := hex }) := by
  obtain ⟨old, hmem, rfl⟩ := List.mem_map.1 h
  by_cases hid : old.node_id = node_id
  · right
    exact ⟨old, hmem, hid, by rw [if_pos hid]⟩
  · left
    rw [if_neg hid]
    exact ⟨hmem, hid⟩

/-- Writing the value already stored changes nothing. -/
theorem setHex_eq_self {row : AllocationEntry} (hrow : t.byNode node_id = some row)
    (hhex : row.unique_id_hex = hex) : t.setHex node_id hex = t := by
  obtain ⟨hmem, hid⟩ := byNode_eq_some_iff.1 hrow
  have hrows : (t.setHex node_id hex).rows = t.rows := by
    apply (List.map_congr_left ?_).trans (List.map_id _)
    intro old hold
    by_cases heq : old.node_id = node_id
    · have hsame : old = row := List.inj_on_of_nodup_map t.unique hold hmem (heq.trans hid.symm)
      subst hsame
      rw [if_pos heq, ← hhex]
      rfl
    · rw [if_neg heq]
      rfl
  cases t
  simpa only [setHex, mk.injEq] using hrows

end SetHex

/-- The row found for a unique ID stays the first one that stores it when
another row takes a different unique ID, or the same one further back. -/
theorem byHex_setHex {t : Table} {hex new : String} {row : AllocationEntry} {node_id : UInt16}
    (hrow : t.byHex hex = some row) (hne : row.node_id ≠ node_id)
    (hkeeps : new = hex → t.ids.idxOf row.node_id ≤ t.ids.idxOf node_id) :
    (t.setHex node_id new).byHex hex = some row := by
  obtain ⟨hhex, older, younger, hrows, holder⟩ := List.find?_eq_some_iff_append.1 hrow
  have hids : t.ids = older.map (·.node_id) ++ row.node_id :: younger.map (·.node_id) := by
    simp [Table.ids, hrows]
  have hnodup : row.node_id ∉ older.map (·.node_id) := by
    have hunique : t.ids.Nodup := t.unique
    rw [hids, List.nodup_append] at hunique
    exact fun hmem => hunique.2.2 _ hmem _ (List.mem_cons_self ..) rfl
  have hrow_kept : (if row.node_id = node_id then { row with unique_id_hex := new } else row) = row :=
    if_neg hne
  refine List.find?_eq_some_iff_append.2 ⟨hhex, ?_⟩
  refine ⟨older.map fun row => if row.node_id = node_id then { row with unique_id_hex := new } else row,
    younger.map fun row => if row.node_id = node_id then { row with unique_id_hex := new } else row, ?_, ?_⟩
  · simp [Table.setHex, hrows, hrow_kept]
  · intro other hother
    obtain ⟨old, hold, rfl⟩ := List.mem_map.1 hother
    by_cases hid : old.node_id = node_id
    · have hfront : node_id ∈ older.map (·.node_id) := hid ▸ List.mem_map_of_mem hold
      have hdiffer : new ≠ hex := by
        intro heq
        have hle := hkeeps heq
        rw [hids, List.idxOf_append_of_mem hfront, List.idxOf_append_of_notMem hnodup,
          List.idxOf_cons_self] at hle
        have hlt := List.idxOf_lt_length_of_mem hfront
        omega
      simpa [hid] using hdiffer
    · simpa [hid] using holder old hold

end Table

/-- The columns of a row that no statement ever writes again. -/
def AllocationEntry.frame (row : AllocationEntry) : UInt16 × Option Int64 × String :=
  (row.node_id, row.pseudo_unique_id, row.ts)

/-- One table continues another: rows are only appended, and only the unique ID
column of an old row may differ. -/
def Table.Extends (t t' : Table) : Prop :=
  t.rows.map (·.frame) <+: t'.rows.map (·.frame)

namespace Table.Extends

theorem refl (t : Table) : t.Extends t := List.prefix_rfl

theorem trans {a b c : Table} (hab : a.Extends b) (hbc : b.Extends c) : a.Extends c :=
  List.IsPrefix.trans hab hbc

theorem push {t : Table} {row : AllocationEntry} (hfresh : row.node_id ∉ t.ids) :
    t.Extends (t.push row hfresh) := by
  simp [Table.Extends]

theorem setHex (t : Table) (node_id : UInt16) (hex : String) : t.Extends (t.setHex node_id hex) := by
  have hframe : (t.setHex node_id hex).rows.map (·.frame) = t.rows.map (·.frame) := by
    simp only [Table.setHex, List.map_map]
    apply List.map_congr_left
    intro row _
    simp only [Function.comp_apply]
    split <;> rfl
  rw [Table.Extends, hframe]

/-- A row is never removed, and keeps its node ID, hash and timestamp. -/
theorem byNode {t t' : Table} (h : t.Extends t') {node_id : UInt16} {row : AllocationEntry}
    (hrow : t.byNode node_id = some row) :
    ∃ row', t'.byNode node_id = some row' ∧ row'.frame = row.frame := by
  obtain ⟨hmem, hid⟩ := byNode_eq_some_iff.1 hrow
  have hframe : row.frame ∈ t'.rows.map (·.frame) := h.subset (List.mem_map_of_mem hmem)
  obtain ⟨row', hmem', heq⟩ := List.mem_map.1 hframe
  refine ⟨row', byNode_eq_some_iff.2 ⟨hmem', ?_⟩, heq⟩
  exact (congrArg Prod.fst heq).trans hid

theorem ids_subset {t t' : Table} (h : t.Extends t') : t.ids ⊆ t'.ids := by
  intro node_id hmem
  obtain ⟨row, hrow⟩ := mem_ids_iff.1 hmem
  obtain ⟨row', hrow', _⟩ := h.byNode hrow
  exact mem_ids_iff.2 ⟨row', hrow'⟩

private theorem byHash_frame (t : Table) (hash : Int64) :
    (t.byHash hash).map (·.frame) = (t.rows.map (·.frame)).find? fun f => f.2.1 == some hash := by
  simp only [byHash, List.find?_map, Function.comp_def, AllocationEntry.frame]

/-- The row that answers a hash stays the row that answers it. -/
theorem byHash {t t' : Table} (h : t.Extends t') {hash : Int64} {row : AllocationEntry}
    (hrow : t.byHash hash = some row) :
    ∃ row', t'.byHash hash = some row' ∧ row'.frame = row.frame := by
  have hold := byHash_frame t hash
  rw [hrow, Option.map_some] at hold
  have hnew := List.IsPrefix.find?_eq_some h hold.symm
  rw [← byHash_frame, Option.map_eq_some_iff] at hnew
  exact hnew

end Table.Extends

theorem exec_extends (ts : String) (s : Statement) (t : Table) : t.Extends (exec ts s t).2 := by
  cases s with
  | insert node_id hex hash =>
    by_cases h : node_id ∈ t.ids
    · simpa only [exec, h, ↓reduceDIte] using Table.Extends.refl t
    · simpa only [exec, h, ↓reduceDIte] using Table.Extends.push h
  | insert_or_ignore node_id hex hash =>
    by_cases h : node_id ∈ t.ids
    · simpa only [exec, h, ↓reduceDIte] using Table.Extends.refl t
    · simpa only [exec, h, ↓reduceDIte] using Table.Extends.push h
  | update_unique_id_hex hex node_id => exact Table.Extends.setHex t node_id hex
  | select_by_unique_id_hex hex => exact Table.Extends.refl t
  | select_by_pseudo_unique_id hash_signed => exact Table.Extends.refl t
  | count_by_node_id candidate => exact Table.Extends.refl t
  | select_by_node_id node_id => exact Table.Extends.refl t
  | select_all => exact Table.Extends.refl t

/-- Whatever a program does, the table only grows. -/
theorem run_extends {α : Type} (ts : String) (program : Sql α) (t : Table) :
    t.Extends (program.run (exec ts) t).2 :=
  Program.run_related Table.Extends.refl (fun _ _ _ => Table.Extends.trans) (exec_extends ts) program t

end cyphal_service.pnp.db
