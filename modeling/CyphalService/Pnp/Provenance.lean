import CyphalService.Lib.History
import CyphalService.Pnp.System

open effect machine
open cyphal_service.pnp.db cyphal_service.pnp.allocator

namespace cyphal_service.pnp.system

/-- What made a row: `record_static_node`, or the allocation for a requester. -/
inductive Origin where
  | static_node
  | allocated (q : Requester)
  deriving DecidableEq

def Origin.row : Origin → UInt16 → String → AllocationEntry
  | .static_node, node_id, ts => ⟨node_id, zero_hex, none, ts⟩
  | .allocated q, node_id, ts => q.newRow node_id ts

/-- The unique ID column a row starts with. -/
def Origin.hex (o : Origin) : String := (o.row 0 "").unique_id_hex

/-- The hash column of a row, which is never written again. -/
def Origin.hash (o : Origin) : Option Int64 := (o.row 0 "").pseudo_unique_id

@[simp] theorem Origin.row_hex (o : Origin) (node_id : UInt16) (ts : String) :
    (o.row node_id ts).unique_id_hex = o.hex := by
  rcases o with _ | (_ | _) <;> rfl

@[simp] theorem Origin.row_hash (o : Origin) (node_id : UInt16) (ts : String) :
    (o.row node_id ts).pseudo_unique_id = o.hash := by
  rcases o with _ | (_ | _) <;> rfl

/-- The step adds the row of the node. -/
def Creates (st : machine.Step State Input Return) (node_id : UInt16) : Origin → Prop
  | .static_node => node_id ∉ st.pre.table.ids ∧
      ∃ tested_at queued_at, st.input.call = .on_heartbeat node_id tested_at queued_at
  | .allocated q => node_id ∉ st.pre.table.ids ∧ Answers st q node_id

/-- How the row of a node came to be, over the history of an allocator that
started on an empty table and reserved its own node ID. -/
def Created (local_node_id : UInt16) (history : History) (node_id : UInt16) (o : Origin) : Prop :=
  (node_id = local_node_id ∧ o = .static_node) ∨ Occurred (Creates · node_id o) history

/-- What one step does to the row of one node. -/
inductive RowChange (st : machine.Step State Input Return) (node_id : UInt16) :
    Option AllocationEntry → Option AllocationEntry → Prop where
  | kept (row : Option AllocationEntry) : RowChange st node_id row row
  | created (o : Origin) (h : Creates st node_id o) :
      RowChange st node_id none (some (o.row node_id st.input.current_timestamp))
  | rewritten (row : AllocationEntry) {uid : UniqueId}
      (h : st.input.call = .on_get_info_result node_id (some uid)) :
      RowChange st node_id (some row) (some { row with unique_id_hex := bytes_to_hex uid.toList })

private theorem byNode_eq_none {t : Table} {node_id : UInt16} (h : node_id ∉ t.ids) :
    t.byNode node_id = none := by
  cases hrow : t.byNode node_id with
  | none => rfl
  | some row => exact absurd (Table.mem_ids_iff.2 ⟨row, hrow⟩) h

private theorem rowChange_record {s post : State} {heard tested_at queued_at} {ts : String}
    (hpost : post.table = s.table.record heard ts) (node_id : UInt16) :
    RowChange ⟨s, ⟨.on_heartbeat heard tested_at queued_at, ts⟩, .unit, post⟩ node_id
      (s.table.byNode node_id) (post.table.byNode node_id) := by
  by_cases hknown : heard ∈ s.table.ids
  · rw [hpost, Table.record_of_mem hknown]
    exact .kept _
  · rw [hpost, Table.record_of_not_mem hknown, Table.byNode_push]
    by_cases hid : node_id = heard
    · subst hid
      rw [if_pos rfl, byNode_eq_none hknown]
      exact .created .static_node ⟨hknown, tested_at, queued_at, rfl⟩
    · rw [if_neg hid]
      exact .kept _

/-- A step keeps a row, adds it, or rewrites its unique ID after a GetInfo
result for its node. -/
theorem rowChange_of_step {s post : State} {input : Input} {output : Return}
    (h : step s input = (output, post)) (node_id : UInt16) :
    RowChange ⟨s, input, output, post⟩ node_id (s.table.byNode node_id) (post.table.byNode node_id) := by
  cases step_transition h with
  | request hq hassigned =>
    generalize hanswer : output.node_id = answer at hassigned
    cases hassigned with
    | reused hrow => exact .kept _
    | exhausted hnone hfull => exact .kept _
    | @fresh fresh_id hnone hfree hnew =>
      rw [Table.byNode_push, Requester.newRow_node_id]
      by_cases hid : node_id = fresh_id
      · subst hid
        rw [Requester.newRow_node_id] at hnew
        rw [if_pos rfl, byNode_eq_none hnew]
        exact .created (.allocated _) ⟨hnew, hq, hanswer⟩
      · rw [if_neg hid]
        exact .kept _
  | ignored hcall hq hanswer => exact .kept _
  | queued hqueues => exact rowChange_record rfl node_id
  | noted hqueues => exact rowChange_record rfl node_id
  | popped => exact .kept _
  | @resolved result_id uid ts =>
    rw [Table.byNode_setHex]
    by_cases hid : node_id = result_id
    · subst hid
      rw [if_pos rfl]
      cases hrow : s.table.byNode node_id with
      | none => exact .kept _
      | some row => exact .rewritten row rfl
    · rw [if_neg hid]
      exact .kept _
  | failed => exact .kept _

theorem byNode_of_applied {s post : State} {input : Input} {output : Return} {node_id : UInt16} {uid : UniqueId}
    {row : AllocationEntry} (h : step s input = (output, post))
    (hcall : input.call = .on_get_info_result node_id (some uid)) (hrow : s.table.byNode node_id = some row) :
    post.table.byNode node_id = some { row with unique_id_hex := bytes_to_hex uid.toList } := by
  obtain ⟨call, ts⟩ := input
  simp only at hcall
  subst hcall
  cases step_transition h with
  | resolved => rw [Table.byNode_setHex, if_pos rfl, hrow, Option.map_some]
  | request hq hassigned => cases hq
  | ignored hallocation hq hanswer => cases hallocation

/-- The unique ID that a call reports for a node. -/
def Call.identifies (node_id : UInt16) (call : Call) : Option UniqueId :=
  (call.resolves.filter (·.1 = node_id)).map (·.2)

theorem Call.identifies_eq_some {node_id : UInt16} {call : Call} {uid : UniqueId} :
    call.identifies node_id = some uid ↔ call = .on_get_info_result node_id (some uid) := by
  cases call with
  | on_get_info_result other info =>
    cases info with
    | none => simp [identifies, resolves]
    | some info => simp [identifies, resolves, Option.filter_some]
  | _ => simp [identifies, resolves]

/-- A row with the unique ID that was reported for it, if one was. -/
def identified (row : AllocationEntry) (uid : Option UniqueId) : AllocationEntry :=
  { row with unique_id_hex := (uid.map (bytes_to_hex ·.toList)).getD row.unique_id_hex }

theorem identified_or (row : AllocationEntry) (later earlier : Option UniqueId) :
    identified row (later.or earlier) = identified (identified row earlier) later := by
  cases later <;> rfl

/-- A call leaves a row as it is, but for the unique ID that it reports for the node. -/
theorem identified_of_step {s post : State} {input : Input} {output : Return}
    (h : step s input = (output, post)) {node_id : UInt16} {row : AllocationEntry}
    (hrow : s.table.byNode node_id = some row) :
    post.table.byNode node_id = some (identified row (input.call.identifies node_id)) := by
  cases hcall : input.call.identifies node_id with
  | some uid => exact byNode_of_applied h (Call.identifies_eq_some.1 hcall) hrow
  | none =>
    have hchange := rowChange_of_step h node_id
    rw [hrow] at hchange
    generalize post.table.byNode node_id = new at hchange
    cases hchange with
    | kept => rfl
    | rewritten row hresult =>
      rw [Call.identifies_eq_some.2 hresult] at hcall
      cases hcall

/-- Calls leave a row as it is, but for the unique ID that they report last for the
node. -/
theorem identified_of_calls (s : State) (inputs : List Input) {node_id : UInt16} {row : AllocationEntry}
    (hrow : s.table.byNode node_id = some row) :
    (final step s inputs).table.byNode node_id =
      some (identified row (latest (·.call.identifies node_id) inputs)) := by
  induction inputs using List.reverseRecOn with
  | nil => exact hrow
  | append_singleton inputs input ih =>
    rw [final_append, latest_snoc, identified_or]
    exact identified_of_step rfl ih

/-- The row of a node agrees with its origin and with the GetInfo results so
far: the hash is the one it was created with, and so is the unique ID unless a
result replaced it. -/
structure RowOf (history : History) (node_id : UInt16) (o : Origin) (row : AllocationEntry) : Prop where
  hash : row.pseudo_unique_id = o.hash
  hex : row.unique_id_hex = o.hex ∨
    ∃ uid, Reported history node_id uid ∧ row.unique_id_hex = bytes_to_hex uid.toList

/-- The rows are exactly those the history created. -/
structure Provenance (local_node_id : UInt16) (history : History) (s : State) : Prop where
  row_of_created : ∀ node_id o, Created local_node_id history node_id o →
    ∃ row, s.table.byNode node_id = some row ∧ RowOf history node_id o row
  created_of_row : ∀ node_id row, s.table.byNode node_id = some row →
    ∃ o, Created local_node_id history node_id o

theorem Provenance.init (local_node_id max_node_id : UInt16) (ts : String) :
    Provenance local_node_id [] (connect local_node_id max_node_id ts Table.empty) := by
  have htable : (connect local_node_id max_node_id ts Table.empty).table.rows =
      [⟨local_node_id, zero_hex, none, ts⟩] := by
    rw [connect_eq, Table.record_of_not_mem (by simp [Table.ids, Table.empty])]
    rfl
  constructor
  · rintro node_id o (⟨rfl, rfl⟩ | hcreates)
    · refine ⟨⟨node_id, zero_hex, none, ts⟩, ?_, rfl, .inl rfl⟩
      simp [Table.byNode, htable]
    · exact absurd hcreates not_occurred_nil
  · intro node_id row hrow
    obtain ⟨hmem, rfl⟩ := Table.byNode_eq_some_iff.1 hrow
    rw [htable, List.mem_singleton] at hmem
    exact ⟨.static_node, .inl ⟨by rw [hmem], rfl⟩⟩

theorem Created.snoc {local_node_id node_id : UInt16} {history : History} {o : Origin}
    (h : Created local_node_id history node_id o) (st : machine.Step State Input Return) :
    Created local_node_id (history ++ [st]) node_id o := by
  obtain h | h := h
  · exact .inl h
  · exact .inr (occurred_snoc.2 (.inl h))

private theorem RowOf.snoc {history : History} {node_id : UInt16} {o : Origin} {row : AllocationEntry}
    (h : RowOf history node_id o row) (st : machine.Step State Input Return) :
    RowOf (history ++ [st]) node_id o row := by
  refine ⟨h.hash, ?_⟩
  obtain hhex | ⟨uid, hreported, hhex⟩ := h.hex
  · exact .inl hhex
  · exact .inr ⟨uid, occurred_snoc.2 (.inl hreported), hhex⟩

private theorem RowChange.rowOf {before : History} {st : machine.Step State Input Return} {node_id : UInt16}
    {o : Origin} {row : AllocationEntry} {new : Option AllocationEntry}
    (h : RowChange st node_id (some row) new) (hof : RowOf before node_id o row) :
    ∃ row', new = some row' ∧ RowOf (before ++ [st]) node_id o row' := by
  cases h with
  | kept => exact ⟨row, rfl, hof.snoc st⟩
  | rewritten _ hcall =>
    refine ⟨_, rfl, hof.hash, .inr ⟨_, occurred_snoc.2 (.inr hcall), rfl⟩⟩

/-- A request that adds a row matched none, and took the first free node ID. -/
theorem fresh_of_creates {s post : State} {input : Input} {output : Return}
    (h : step s input = (output, post)) {node_id : UInt16} {q : Requester}
    (hcreates : Creates ⟨s, input, output, post⟩ node_id (.allocated q)) :
    q.lookup s.table = none ∧
      s.table.firstFree [s.self.local_node_id] s.self.max_node_id = some node_id ∧
        ∃ hnew, post.table = s.table.push (q.newRow node_id input.current_timestamp) hnew := by
  obtain ⟨hunknown, hq, hanswer⟩ := hcreates
  have hassigned := assigned_of_step h hq
  simp only at hanswer
  rw [hanswer] at hassigned
  generalize post.table = t at hassigned
  cases hassigned with
  | reused hrow => exact absurd (Table.mem_ids_of_mem (Requester.lookup_mem hrow)) hunknown
  | fresh hnone hfree hnew => exact ⟨hnone, hfree, hnew, rfl⟩

/-- The row a step adds is the one its origin describes. -/
theorem byNode_of_creates {s post : State} {input : Input} {output : Return}
    (h : step s input = (output, post)) {node_id : UInt16} {o : Origin}
    (hcreates : Creates ⟨s, input, output, post⟩ node_id o) :
    post.table.byNode node_id = some (o.row node_id input.current_timestamp) := by
  cases o with
  | static_node =>
    obtain ⟨hunknown, tested_at, queued_at, hcall⟩ := hcreates
    have hrecord : (s.table.record node_id input.current_timestamp).byNode node_id =
        some (Origin.static_node.row node_id input.current_timestamp) := by
      rw [Table.record_of_not_mem hunknown, Table.byNode_push, if_pos rfl]
      rfl
    cases step_transition h with
    | queued hqueues =>
      cases hcall
      exact hrecord
    | noted hqueues =>
      cases hcall
      exact hrecord
    | request hq hassigned =>
      cases hcall
      cases hq
    | ignored hallocation hq hanswer =>
      cases hcall
      cases hallocation
    | popped => cases hcall
    | resolved => cases hcall
    | failed => cases hcall
  | allocated q =>
    obtain ⟨-, -, hnew, htable⟩ := fresh_of_creates h hcreates
    rw [htable, Table.byNode_push, Requester.newRow_node_id, if_pos rfl]
    rfl

theorem Provenance.step {local_node_id : UInt16} {before : History} {s post : State} {input : Input}
    {output : Return} (h : system.step s input = (output, post))
    (hinv : Provenance local_node_id before s) :
    Provenance local_node_id (before ++ [⟨s, input, output, post⟩]) post := by
  have hkept : ∀ node_id o, Created local_node_id before node_id o →
      ∃ row, post.table.byNode node_id = some row ∧
        RowOf (before ++ [⟨s, input, output, post⟩]) node_id o row := by
    intro node_id o hcreated
    obtain ⟨row, hrow, hof⟩ := hinv.row_of_created node_id o hcreated
    have hchange := rowChange_of_step h node_id
    rw [hrow] at hchange
    exact hchange.rowOf hof
  constructor
  · rintro node_id o (hlocal | hoccurred)
    · exact hkept node_id o (.inl hlocal)
    · obtain hearlier | hnow := occurred_snoc.1 hoccurred
      · exact hkept node_id o (.inr hearlier)
      · exact ⟨_, byNode_of_creates h hnow, Origin.row_hash o _ _, .inl (Origin.row_hex o _ _)⟩
  · intro node_id row hrow
    have hchange := rowChange_of_step h node_id
    rw [hrow] at hchange
    generalize hold : s.table.byNode node_id = old at hchange
    cases hchange with
    | kept =>
      obtain ⟨o, hcreated⟩ := hinv.created_of_row node_id row hold
      exact ⟨o, hcreated.snoc _⟩
    | created o hcreates => exact ⟨o, .inr (occurred_snoc.2 (.inr hcreates))⟩
    | rewritten old_row hcall =>
      obtain ⟨o, hcreated⟩ := hinv.created_of_row node_id old_row hold
      exact ⟨o, hcreated.snoc _⟩

theorem Provenance.mem_ids_iff {local_node_id node_id : UInt16} {history : History} {s : State}
    (hinv : Provenance local_node_id history s) :
    node_id ∈ s.table.ids ↔ ∃ o, Created local_node_id history node_id o := by
  rw [Table.mem_ids_iff]
  constructor
  · rintro ⟨row, hrow⟩
    exact hinv.created_of_row node_id row hrow
  · rintro ⟨o, hcreated⟩
    obtain ⟨row, hrow, -⟩ := hinv.row_of_created node_id o hcreated
    exact ⟨row, hrow⟩

/-- A row carries a hash only if a request with that hash was given its node
ID. -/
theorem Provenance.answered_of_byHash {local_node_id : UInt16} {history : History} {s : State}
    (hinv : Provenance local_node_id history s) {hash : UInt64} {row : AllocationEntry}
    (hrow : s.table.byHash hash.toInt64 = some row) : Answered history (.v1 hash) row.node_id := by
  obtain ⟨hmem, hhash⟩ := Table.byHash_mem hrow
  have hnode := Table.byNode_eq_some_iff.2 ⟨hmem, rfl⟩
  obtain ⟨o, hcreated⟩ := hinv.created_of_row row.node_id row hnode
  obtain ⟨row', hrow', hof⟩ := hinv.row_of_created row.node_id o hcreated
  rw [hnode, Option.some.injEq] at hrow'
  have horigin : o.hash = some hash.toInt64 := by rw [← hof.hash, ← hrow', hhash]
  rcases o with _ | (other | uid)
  · cases horigin
  · have hsame : other = hash := bytes.toInt64_injective (Option.some.inj horigin)
    subst hsame
    obtain ⟨-, hstatic⟩ | ⟨st, hst, hcreates⟩ := hcreated
    · cases hstatic
    · exact ⟨st, hst, hcreates.2⟩
  · cases horigin

end cyphal_service.pnp.system
