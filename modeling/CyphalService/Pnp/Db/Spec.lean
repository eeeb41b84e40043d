import CyphalService.Pnp.Db.Rows

open bytes effect

namespace cyphal_service.pnp.db

/-- The first candidate that is neither reserved nor has a row. -/
def Table.firstFree (t : Table) (reserved : List UInt16) (max_id : UInt16) : Option UInt16 :=
  (AllocationDb.candidates max_id).find? fun candidate => candidate ∉ reserved ∧ candidate ∉ t.ids

/-- The table after a heartbeat of a node: a placeholder row unless the node
has one already. -/
def Table.record (t : Table) (node_id : UInt16) (ts : String) : Table :=
  if h : node_id ∈ t.ids then t else t.push ⟨node_id, zero_hex, none, ts⟩ h

theorem bytes_to_hex_injective {xs ys : List UInt8} (h : bytes_to_hex xs = bytes_to_hex ys) : xs = ys :=
  flatMap_hex_digits_injective (String.ofList_inj.1 h)

theorem UniqueId.hex_inj {u w : UniqueId} : bytes_to_hex u.toList = bytes_to_hex w.toList ↔ u = w :=
  ⟨fun h => Vector.toList_inj.1 (bytes_to_hex_injective h), fun h => h ▸ rfl⟩

/-- The placeholder of a static node reads as the all-zero unique ID. -/
theorem zero_hex_eq : zero_hex = bytes_to_hex (Vector.replicate 16 0 : UniqueId).toList := by decide

theorem mem_candidates {candidate max_id : UInt16} :
    candidate ∈ AllocationDb.candidates max_id ↔ 1 ≤ candidate ∧ candidate ≤ max_id := by
  simp only [AllocationDb.candidates, List.mem_map, List.mem_range'_1, UInt16.le_iff_toNat_le]
  have hmax := max_id.toNat_lt
  constructor
  · rintro ⟨n, ⟨hlo, hhi⟩, rfl⟩
    rw [UInt16.toNat_ofNat_of_lt' (by simp only [UInt16.size]; omega)]
    exact ⟨hlo, by omega⟩
  · rintro ⟨hlo, hhi⟩
    have hone : (1 : UInt16).toNat = 1 := rfl
    exact ⟨candidate.toNat, ⟨by omega, by omega⟩, UInt16.ofNat_toNat⟩

theorem Table.firstFree_some {t : Table} {reserved : List UInt16} {max_id node_id : UInt16}
    (h : t.firstFree reserved max_id = some node_id) :
    (1 ≤ node_id ∧ node_id ≤ max_id) ∧ node_id ∉ reserved ∧ node_id ∉ t.ids := by
  have hmem := List.mem_of_find?_eq_some h
  have hfree := List.find?_some h
  simp only [decide_eq_true_eq] at hfree
  exact ⟨mem_candidates.1 hmem, hfree⟩

private theorem candidates_pairwise (max_id : UInt16) :
    (AllocationDb.candidates max_id).Pairwise (· < ·) := by
  have hmax := max_id.toNat_lt
  refine List.pairwise_map.2 ((List.pairwise_lt_range' 1).imp_of_mem ?_)
  intro a b ha hb hlt
  obtain ⟨-, ha⟩ := List.mem_range'_1.1 ha
  obtain ⟨-, hb⟩ := List.mem_range'_1.1 hb
  rw [UInt16.lt_iff_toNat_lt, UInt16.toNat_ofNat_of_lt' (by simp only [UInt16.size]; omega),
    UInt16.toNat_ofNat_of_lt' (by simp only [UInt16.size]; omega)]
  exact hlt

/-- No smaller candidate is free. -/
theorem Table.firstFree_le {t : Table} {reserved : List UInt16} {max_id node_id other : UInt16}
    (h : t.firstFree reserved max_id = some node_id) (hlow : 1 ≤ other) (hhigh : other ≤ max_id)
    (hreserved : other ∉ reserved) (hids : other ∉ t.ids) : node_id ≤ other := by
  obtain ⟨-, smaller, larger, hsplit, htaken⟩ := List.find?_eq_some_iff_append.1 h
  have hmem : other ∈ AllocationDb.candidates max_id := mem_candidates.2 ⟨hlow, hhigh⟩
  have hsorted := candidates_pairwise max_id
  rw [hsplit] at hmem hsorted
  obtain ⟨-, hrest, -⟩ := List.pairwise_append.1 hsorted
  obtain hsmaller | hlarger := List.mem_append.1 hmem
  · have hnot := htaken other hsmaller
    simp [hreserved, hids] at hnot
  · obtain rfl | hlarger := List.mem_cons.1 hlarger
    · exact UInt16.le_refl other
    · exact UInt16.le_of_lt ((List.pairwise_cons.1 hrest).1 other hlarger)

theorem Table.firstFree_none {t : Table} {reserved : List UInt16} {max_id other : UInt16}
    (h : t.firstFree reserved max_id = none) (hlow : 1 ≤ other) (hhigh : other ≤ max_id) :
    other ∈ reserved ∨ other ∈ t.ids := by
  have hnot := List.find?_eq_none.1 h other (mem_candidates.2 ⟨hlow, hhigh⟩)
  simp only [decide_eq_true_eq, not_and, not_not] at hnot
  by_cases hreserved : other ∈ reserved
  · exact .inl hreserved
  · exact .inr (hnot hreserved)

theorem Table.record_of_mem {t : Table} {node_id : UInt16} {ts : String} (h : node_id ∈ t.ids) :
    t.record node_id ts = t := by
  rw [Table.record, dif_pos h]

theorem Table.record_of_not_mem {t : Table} {node_id : UInt16} {ts : String} (h : node_id ∉ t.ids) :
    t.record node_id ts = t.push ⟨node_id, zero_hex, none, ts⟩ h := by
  rw [Table.record, dif_neg h]

theorem Table.mem_ids_record (t : Table) (node_id : UInt16) (ts : String) :
    node_id ∈ (t.record node_id ts).ids := by
  by_cases h : node_id ∈ t.ids
  · rwa [Table.record_of_mem h]
  · rw [Table.record_of_not_mem h]
    exact Table.mem_ids_iff.2 ⟨_, by rw [Table.byNode_push, if_pos rfl]⟩

theorem Table.byNode_record {t : Table} {node_id other : UInt16} {ts : String} {row : AllocationEntry}
    (hrow : t.byNode other = some row) : (t.record node_id ts).byNode other = some row := by
  by_cases h : node_id ∈ t.ids
  · rwa [Table.record_of_mem h]
  · rw [Table.record_of_not_mem h, Table.byNode_push, if_neg, hrow]
    rintro rfl
    exact h (Table.mem_ids_iff.2 ⟨row, hrow⟩)

theorem record_extends (t : Table) (node_id : UInt16) (ts : String) : t.Extends (t.record node_id ts) := by
  by_cases h : node_id ∈ t.ids
  · rw [Table.record_of_mem h]
    exact .refl t
  · rw [Table.record_of_not_mem h]
    exact .push h

namespace AllocationDb

variable (ts : String) (t : Table)

private theorem toOption_firstRow {α : Type} (row : Option α) : (firstRow row).toOption = row := by
  cases row <;> rfl

@[simp] theorem run_find_by_unique_id (uid : UniqueId) :
    (find_by_unique_id uid).run (exec ts) t =
      ((t.byHex (bytes_to_hex uid.toList)).map (·.node_id), t) := by
  simp [find_by_unique_id, query, exec, toOption_firstRow]

@[simp] theorem run_find_by_hash (hash : UInt64) :
    (find_by_hash hash).run (exec ts) t = ((t.byHash hash.toInt64).map (·.node_id), t) := by
  simp [find_by_hash, query, exec, toOption_firstRow]

@[simp] theorem run_find_by_node_id (node_id : UInt16) :
    (find_by_node_id node_id).run (exec ts) t = (t.byNode node_id, t) := by
  simp [find_by_node_id, query, exec, toOption_firstRow]

/-- When every `COUNT` succeeds, probing stops at the first candidate that is
free and leaves the table alone. -/
theorem run_probe (reserved rest : List UInt16) :
    (next_free_id.probe reserved rest).run (exec ts) t =
      (rest.find? fun candidate => candidate ∉ reserved ∧ candidate ∉ t.ids, t) := by
  induction rest with
  | nil => rfl
  | cons candidate rest ih =>
    rw [next_free_id.probe]
    by_cases hreserved : candidate ∈ reserved
    · simp [hreserved, ih]
    · by_cases htaken : candidate ∈ t.ids
      · have hcount : t.ids.count candidate ≠ 0 := (List.count_pos_iff.2 htaken).ne'
        simp [hreserved, htaken, query, exec, Except.toOption, hcount, ih]
      · have hcount : t.ids.count candidate = 0 := List.count_eq_zero.2 htaken
        simp [hreserved, htaken, query, exec, Except.toOption, hcount]

@[simp] theorem run_next_free_id (reserved : List UInt16) (max_id : UInt16) :
    (next_free_id reserved max_id).run (exec ts) t = (t.firstFree reserved max_id, t) :=
  run_probe ts t reserved _

theorem run_insert_v2 {node_id : UInt16} (uid : UniqueId) (hfresh : node_id ∉ t.ids) :
    (insert_v2 node_id uid).run (exec ts) t =
      (.ok (), t.push ⟨node_id, bytes_to_hex uid.toList, none, ts⟩ hfresh) := by
  simp [insert_v2, query, exec, mapErr, hfresh]

theorem run_insert_v1 {node_id : UInt16} (hash : UInt64) (hfresh : node_id ∉ t.ids) :
    (insert_v1 node_id hash).run (exec ts) t =
      (.ok (), t.push ⟨node_id, bytes_to_hex (padded hash), some hash.toInt64, ts⟩ hfresh) := by
  simp [insert_v1, query, exec, mapErr, hfresh]

@[simp] theorem run_record_static_node (node_id : UInt16) :
    (record_static_node node_id).run (exec ts) t = (.ok (), t.record node_id ts) := by
  by_cases h : node_id ∈ t.ids
  · simp [record_static_node, query, exec, mapErr, h, Table.record_of_mem]
  · simp [record_static_node, query, exec, mapErr, h, Table.record_of_not_mem]

@[simp] theorem run_update_unique_id (node_id : UInt16) (uid : UniqueId) :
    (update_unique_id node_id uid).run (exec ts) t =
      (.ok (), t.setHex node_id (bytes_to_hex uid.toList)) := by
  simp [update_unique_id, query, exec, mapErr]

end AllocationDb

end cyphal_service.pnp.db
