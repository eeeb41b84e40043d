import CyphalService.Pnp.Reserved

open effect machine
open cyphal_service.pnp.db cyphal_service.pnp.allocator

namespace cyphal_service.pnp.system

/-- Two answers with one node ID went to one requester. The exception is a v1
hash and a v2 unique ID that a GetInfo result for that node reported before the
v2 answer. -/
def SameRequester (before₁ before₂ : History) (q₁ q₂ : Requester) (node_id : UInt16) : Prop :=
  q₁ = q₂ ∨ (∃ hash uid, q₁ = .v1 hash ∧ q₂ = .v2 uid ∧ Reported before₂ node_id uid) ∨
    (∃ hash uid, q₁ = .v2 uid ∧ q₂ = .v1 hash ∧ Reported before₁ node_id uid)

/-- No node ID is shared by two requesters. -/
def NoSharedNodeId (history : History) : Prop :=
  Everywhere (fun before₁ st₁ => Everywhere (fun before₂ st₂ =>
    ∀ q₁ q₂ node_id, Answers st₁ q₁ node_id → Answers st₂ q₂ node_id →
      SameRequester before₁ before₂ q₁ q₂ node_id) history) history

/-- A v2 request is not answered from a row that still awaits its GetInfo: the
row that is found for its unique ID, or the one that would be stored for it, is
no placeholder. -/
def AsksForIdentity (st : machine.Step State Input Return) : Prop :=
  ∀ uid ∈ st.input.call.asks,
    (∀ row ∈ st.pre.table.byHex (bytes_to_hex uid.toList), row.needs_get_info = false) ∧
      (st.pre.table.byHex (bytes_to_hex uid.toList) = none → uid ≠ zero_uid)

instance (st : machine.Step State Input Return) : Decidable (AsksForIdentity st) :=
  Option.decidableForallMem (p := fun uid : UniqueId =>
    (∀ row ∈ st.pre.table.byHex (bytes_to_hex uid.toList), row.needs_get_info = false) ∧
      (st.pre.table.byHex (bytes_to_hex uid.toList) = none → uid ≠ zero_uid)) st.input.call.asks

/-- A successful GetInfo result reaches a row that still awaits it, or confirms
the unique ID the row already has. -/
def ResultAwaited (st : machine.Step State Input Return) : Prop :=
  ∀ result ∈ st.input.call.resolves, ∀ row ∈ st.pre.table.byNode result.1,
    row.needs_get_info = true ∨ row.unique_id_hex = bytes_to_hex result.2.toList

instance (st : machine.Step State Input Return) : Decidable (ResultAwaited st) :=
  Option.decidableForallMem (p := fun result : UInt16 × UniqueId => ∀ row ∈ st.pre.table.byNode result.1,
    row.needs_get_info = true ∨ row.unique_id_hex = bytes_to_hex result.2.toList) st.input.call.resolves

/-- A stored unique ID is an identity: it is no placeholder. -/
def Resolved (t : Table) (node_id : UInt16) (uid : UniqueId) : Prop :=
  ∃ row, t.byNode node_id = some row ∧ row.unique_id_hex = bytes_to_hex uid.toList ∧
    row.needs_get_info = false

theorem needs_get_info_newRow_v2 {uid : UniqueId} {node_id : UInt16} {ts : String} (h : uid ≠ zero_uid) :
    ((Requester.v2 uid).newRow node_id ts).needs_get_info = false := by
  have hne : bytes_to_hex uid.toList ≠ zero_hex := fun heq => h (hex_eq_zero_hex_iff.1 heq)
  simpa [AllocationEntry.needs_get_info, Requester.newRow] using hne

/-- The row that answers an admissible v2 request holds that unique ID for
good. -/
theorem resolved_of_answers {s post : State} {input : Input} {output : Return}
    (h : step s input = (output, post)) {uid : UniqueId} {node_id : UInt16}
    (hanswers : Answers ⟨s, input, output, post⟩ (.v2 uid) node_id)
    (hasks : AsksForIdentity ⟨s, input, output, post⟩) : Resolved post.table node_id uid := by
  have hassigned := assigned_of_step h hanswers.1
  have hanswer : output.node_id = some node_id := hanswers.2
  obtain ⟨hfound, habsent⟩ := hasks uid (Call.asks_of_requester hanswers.1)
  rw [hanswer] at hassigned
  generalize post.table = t at hassigned ⊢
  cases hassigned with
  | @reused row hrow =>
    obtain ⟨hmem, hhex⟩ := Table.byHex_mem hrow
    exact ⟨row, Table.byNode_eq_some_iff.2 ⟨hmem, rfl⟩, hhex, hfound row hrow⟩
  | fresh hnone hfree hnew =>
    refine ⟨(Requester.v2 uid).newRow node_id input.current_timestamp, ?_, rfl, ?_⟩
    · rw [Table.byNode_push, Requester.newRow_node_id, if_pos rfl]
    · exact needs_get_info_newRow_v2 (habsent hnone)

/-- An awaited result leaves every resolved row alone. -/
theorem Resolved.step {s post : State} {input : Input} {output : Return}
    (h : system.step s input = (output, post)) {uid : UniqueId} {node_id : UInt16}
    (hresolved : Resolved s.table node_id uid) (hawaited : ResultAwaited ⟨s, input, output, post⟩) :
    Resolved post.table node_id uid := by
  obtain ⟨row, hrow, hhex, hneeds⟩ := hresolved
  have hchange := rowChange_of_step h node_id
  rw [hrow] at hchange
  generalize hnew : post.table.byNode node_id = new at hchange
  cases hchange with
  | kept => exact ⟨row, hnew, hhex, hneeds⟩
  | @rewritten _ reported hcall =>
    have hresolves : (node_id, reported) ∈ input.call.resolves := by
      simp only at hcall
      simp [hcall, Call.resolves]
    obtain hawaits | hsame := hawaited _ hresolves row hrow
    · rw [hneeds] at hawaits
      cases hawaits
    · rw [← hsame] at hnew
      exact ⟨row, hnew, hhex, hneeds⟩

/-- The row of the node was made for a v1 node only if a GetInfo result reported
this unique ID for it. -/
def ReportedIfHashed (before : History) (t : Table) (node_id : UInt16) (uid : UniqueId) : Prop :=
  ∃ row, t.byNode node_id = some row ∧ (row.pseudo_unique_id ≠ none → Reported before node_id uid)

theorem ReportedIfHashed.extends {before : History} {t t' : Table} {node_id : UInt16} {uid : UniqueId}
    (h : ReportedIfHashed before t node_id uid) (hextends : t.Extends t') :
    ReportedIfHashed before t' node_id uid := by
  obtain ⟨row, hrow, hreported⟩ := h
  obtain ⟨row', hrow', hframe⟩ := hextends.byNode hrow
  have hhash : row'.pseudo_unique_id = row.pseudo_unique_id := congrArg (·.2.1) hframe
  exact ⟨row', hrow', fun hne => hreported (hhash ▸ hne)⟩

/-- What answered requests and rows owe to each other. -/
structure IdentityInv (local_node_id : UInt16) (history : History) (s : State) : Prop where
  provenance : Provenance local_node_id history s
  v1 : ∀ hash node_id, Answered history (.v1 hash) node_id →
    ∃ row, s.table.byNode node_id = some row ∧ row.pseudo_unique_id = some hash.toInt64
  v2 : ∀ uid node_id, Answered history (.v2 uid) node_id → Resolved s.table node_id uid
  mixed : Everywhere (fun before st => ∀ uid node_id, Answers st (.v2 uid) node_id →
    ReportedIfHashed before s.table node_id uid) history

/-- A resolved row with a hash got its unique ID from a GetInfo result. -/
private theorem reported_of_hash {local_node_id : UInt16} {history : History} {s : State}
    (hinv : Provenance local_node_id history s) {node_id : UInt16} {uid : UniqueId} {row : AllocationEntry}
    (hrow : s.table.byNode node_id = some row) (hhex : row.unique_id_hex = bytes_to_hex uid.toList)
    (hneeds : row.needs_get_info = false) (hhash : row.pseudo_unique_id ≠ none) :
    Reported history node_id uid := by
  obtain ⟨o, hcreated⟩ := hinv.created_of_row node_id row hrow
  obtain ⟨row', hrow', hof⟩ := hinv.row_of_created node_id o hcreated
  rw [hrow, Option.some.injEq] at hrow'
  subst hrow'
  obtain hcreated_hex | ⟨reported, hreported, heq⟩ := hof.hex
  · have hplaceholder : row.needs_get_info = true := by
      have hohash := hof.hash
      rcases o with _ | (hash | w)
      · exact absurd hohash hhash
      · simp only [Origin.hash, Origin.row, Requester.newRow] at hohash
        simp only [Origin.hex, Origin.row, Requester.newRow] at hcreated_hex
        simp [AllocationEntry.needs_get_info, hohash, hcreated_hex]
      · exact absurd hohash hhash
    rw [hneeds] at hplaceholder
    cases hplaceholder
  · have huid : reported = uid := UniqueId.hex_inj.1 (heq.symm.trans hhex)
    exact huid ▸ hreported

private theorem hash_of_answers_v1 {s post : State} {input : Input} {output : Return}
    (h : step s input = (output, post)) {hash : UInt64} {node_id : UInt16}
    (hanswers : Answers ⟨s, input, output, post⟩ (.v1 hash) node_id) :
    ∃ row, post.table.byNode node_id = some row ∧ row.pseudo_unique_id = some hash.toInt64 := by
  have hassigned := assigned_of_step h hanswers.1
  have hanswer : output.node_id = some node_id := hanswers.2
  rw [hanswer] at hassigned
  obtain ⟨row, hrow, hid⟩ := hassigned.lookup_after
  obtain ⟨hmem, hhash⟩ := Table.byHash_mem hrow
  exact ⟨row, Table.byNode_eq_some_iff.2 ⟨hmem, hid⟩, hhash⟩

private theorem reportedIfHashed_of_answers {local_node_id : UInt16} {before : History} {s post : State}
    {input : Input} {output : Return} (h : step s input = (output, post))
    (hinv : Provenance local_node_id before s) {uid : UniqueId} {node_id : UInt16}
    (hanswers : Answers ⟨s, input, output, post⟩ (.v2 uid) node_id)
    (hasks : AsksForIdentity ⟨s, input, output, post⟩) :
    ReportedIfHashed before post.table node_id uid := by
  have hassigned := assigned_of_step h hanswers.1
  have hanswer : output.node_id = some node_id := hanswers.2
  rw [hanswer] at hassigned
  generalize post.table = t at hassigned ⊢
  cases hassigned with
  | @reused row hrow =>
    obtain ⟨hmem, hhex⟩ := Table.byHex_mem hrow
    have hnode := Table.byNode_eq_some_iff.2 ⟨hmem, rfl⟩
    have hneeds := (hasks uid (Call.asks_of_requester hanswers.1)).1 row hrow
    exact ⟨row, hnode, reported_of_hash hinv hnode hhex hneeds⟩
  | fresh hnone hfree hnew =>
    refine ⟨(Requester.v2 uid).newRow node_id input.current_timestamp, ?_, ?_⟩
    · rw [Table.byNode_push, Requester.newRow_node_id, if_pos rfl]
    · intro hne
      exact absurd rfl hne

theorem IdentityInv.step {local_node_id : UInt16} {before : History} {s post : State} {input : Input}
    {output : Return} (h : system.step s input = (output, post))
    (hinv : IdentityInv local_node_id before s)
    (hasks : AsksForIdentity ⟨s, input, output, post⟩)
    (hawaited : ResultAwaited ⟨s, input, output, post⟩) :
    IdentityInv local_node_id (before ++ [⟨s, input, output, post⟩]) post := by
  have hextends := step_extends h
  constructor
  · exact hinv.provenance.step h
  · intro hash node_id hanswered
    obtain hearlier | hnow := occurred_snoc.1 hanswered
    · obtain ⟨row, hrow, hhash⟩ := hinv.v1 hash node_id hearlier
      obtain ⟨row', hrow', hframe⟩ := hextends.byNode hrow
      exact ⟨row', hrow', (congrArg (·.2.1) hframe).trans hhash⟩
    · exact hash_of_answers_v1 h hnow
  · intro uid node_id hanswered
    obtain hearlier | hnow := occurred_snoc.1 hanswered
    · exact (hinv.v2 uid node_id hearlier).step h hawaited
    · exact resolved_of_answers h hnow hasks
  · refine everywhere_snoc.2 ⟨hinv.mixed.mono ?_, ?_⟩
    · intro earlier st hst uid node_id hanswers
      exact (hst uid node_id hanswers).extends hextends
    · intro uid node_id hanswers
      exact reportedIfHashed_of_answers h hinv.provenance hanswers hasks

theorem IdentityInv.init (local_node_id max_node_id : UInt16) (ts : String) :
    IdentityInv local_node_id [] (connect local_node_id max_node_id ts Table.empty) where
  provenance := Provenance.init local_node_id max_node_id ts
  v1 := fun _ _ hanswered => absurd hanswered not_occurred_nil
  v2 := fun _ _ hanswered => absurd hanswered not_occurred_nil
  mixed := everywhere_nil _

/-- No node ID is shared by two requesters in any run whose v2 requests do not
hit a placeholder and whose GetInfo results reach rows that await them. -/
theorem no_shared_node_id (local_node_id max_node_id : UInt16) (ts : String) (inputs : List Input)
    (hok : Everywhere (fun _ st => AsksForIdentity st ∧ ResultAwaited st)
      (trace step (connect local_node_id max_node_id ts Table.empty) inputs)) :
    NoSharedNodeId (trace step (connect local_node_id max_node_id ts Table.empty) inputs) := by
  have hinv := invariant_of_everywhere (IdentityInv local_node_id)
    (IdentityInv.init local_node_id max_node_id ts)
    (fun before pre input output post h hinv hstep => hinv.step h hstep.1 hstep.2) inputs hok
  generalize trace step (connect local_node_id max_node_id ts Table.empty) inputs = history at hinv
  generalize final step (connect local_node_id max_node_id ts Table.empty) inputs = s at hinv
  have hmixed : ∀ before st after, history = before ++ st :: after → ∀ hash uid node_id,
      Answered history (.v1 hash) node_id → Answers st (.v2 uid) node_id → Reported before node_id uid := by
    intro before st after heq hash uid node_id hv1 hv2
    obtain ⟨row, hrow, hhash⟩ := hinv.v1 hash node_id hv1
    obtain ⟨row', hrow', hreported⟩ := everywhere_iff.1 hinv.mixed before st after heq uid node_id hv2
    rw [hrow, Option.some.injEq] at hrow'
    subst hrow'
    exact hreported (by simp [hhash])
  refine everywhere_iff.2 fun before₁ st₁ after₁ heq₁ => everywhere_iff.2 fun before₂ st₂ after₂ heq₂ => ?_
  intro q₁ q₂ node_id h₁ h₂
  have hanswered₁ : Answered history q₁ node_id := ⟨st₁, by simp [heq₁], h₁⟩
  have hanswered₂ : Answered history q₂ node_id := ⟨st₂, by simp [heq₂], h₂⟩
  rcases q₁ with hash₁ | uid₁ <;> rcases q₂ with hash₂ | uid₂
  · obtain ⟨row₁, hrow₁, hhash₁⟩ := hinv.v1 hash₁ node_id hanswered₁
    obtain ⟨row₂, hrow₂, hhash₂⟩ := hinv.v1 hash₂ node_id hanswered₂
    rw [hrow₁, Option.some.injEq] at hrow₂
    rw [← hrow₂, hhash₁, Option.some.injEq] at hhash₂
    exact .inl (congrArg Requester.v1 (bytes.toInt64_injective hhash₂))
  · have hreported := hmixed before₂ st₂ after₂ heq₂ hash₁ uid₂ node_id hanswered₁ h₂
    exact .inr (.inl ⟨hash₁, uid₂, rfl, rfl, hreported⟩)
  · have hreported := hmixed before₁ st₁ after₁ heq₁ hash₂ uid₁ node_id hanswered₂ h₁
    exact .inr (.inr ⟨hash₂, uid₁, rfl, rfl, hreported⟩)
  · obtain ⟨row₁, hrow₁, hhex₁, -⟩ := hinv.v2 uid₁ node_id hanswered₁
    obtain ⟨row₂, hrow₂, hhex₂, -⟩ := hinv.v2 uid₂ node_id hanswered₂
    rw [hrow₁, Option.some.injEq] at hrow₂
    rw [← hrow₂, hhex₁] at hhex₂
    exact .inl (congrArg Requester.v2 (UniqueId.hex_inj.1 hhex₂))

theorem no_shared_node_id_get_info :
    NoSharedNodeId (trace step (connect 100 127 "" Table.empty)
      [⟨.on_allocation_v1 ⟨7, []⟩ none, ""⟩, ⟨.on_heartbeat 1 0 0, ""⟩, ⟨.pop_get_info_request, ""⟩,
        ⟨.on_get_info_result 1 (some (Vector.replicate 16 9)), ""⟩,
        ⟨.on_allocation_v2 ⟨⟨0⟩, Vector.replicate 16 9⟩ none, ""⟩]) :=
  no_shared_node_id 100 127 "" _ (by decide)

/-- A v1 node's row can be taken by a v2 node: the unique ID whose bytes are the
padded hash finds it, with no GetInfo result in between. -/
theorem no_shared_node_id_fails :
    ¬ ∀ (local_node_id max_node_id : UInt16) (ts : String) (inputs : List Input),
      Everywhere Solicited (trace step (connect local_node_id max_node_id ts Table.empty) inputs) →
      NoSharedNodeId (trace step (connect local_node_id max_node_id ts Table.empty) inputs) := by
  intro hall
  have hrun := hall 100 127 ""
    [⟨.on_allocation_v1 ⟨0xABCDEF123456, []⟩ none, ""⟩,
      ⟨.on_allocation_v2 ⟨⟨0⟩, #v[0, 0, 0, 0, 0, 0, 0, 0, 0, 0, 0xAB, 0xCD, 0xEF, 0x12, 0x34, 0x56]⟩ none, ""⟩]
    (by decide)
  have hpair := everywhere_iff.1 (everywhere_iff.1 hrun [] _ [_] rfl) [_] _ [] rfl
  have hsame := hpair (.v1 0xABCDEF123456)
    (.v2 #v[0, 0, 0, 0, 0, 0, 0, 0, 0, 0, 0xAB, 0xCD, 0xEF, 0x12, 0x34, 0x56]) 1 (by decide) (by decide)
  obtain heq | ⟨hash, uid, -, -, st, hmem, hcall⟩ | ⟨hash, uid, heq, -⟩ := hsame
  · cases heq
  · rw [List.mem_singleton] at hmem
    subst hmem
    cases hcall
  · cases heq

end cyphal_service.pnp.system
