import CyphalService.Pnp.Provenance

open effect machine
open cyphal_service.pnp.db cyphal_service.pnp.allocator

namespace cyphal_service.pnp.system

/-- The unique ID of sixteen zero bytes. -/
def zero_uid : UniqueId := Vector.replicate 16 0

theorem hex_eq_zero_hex_iff {uid : UniqueId} : bytes_to_hex uid.toList = zero_hex ↔ uid = zero_uid := by
  rw [zero_hex_eq]
  exact UniqueId.hex_inj

/-- An answered node ID whose row was made by `record_static_node` goes to a v2
requester whose unique ID was reported for that node before. -/
def StaticOnReport (local_node_id : UInt16) (before : History) (st : machine.Step State Input Return) : Prop :=
  ∀ q node_id, Answers st q node_id → Created local_node_id before node_id .static_node →
    ∃ uid, q = .v2 uid ∧ Reported before node_id uid

/-- The request carries the all-zero unique ID, and the first row that stores it
is a static row for which nobody ever reported it: the lookup takes the
placeholder for an identity. -/
def HitsPlaceholder (local_node_id : UInt16) (before : History) (st : machine.Step State Input Return) : Prop :=
  st.input.call.requester = some (.v2 zero_uid) ∧
    ∃ row, st.pre.table.byHex zero_hex = some row ∧
      Created local_node_id before row.node_id .static_node ∧ ¬ Reported before row.node_id zero_uid

theorem static_on_report_iff (local_node_id max_node_id : UInt16) (ts : String) (inputs : List Input) :
    Everywhere (fun before st =>
        StaticOnReport local_node_id before st ↔ ¬ HitsPlaceholder local_node_id before st)
      (trace step (connect local_node_id max_node_id ts Table.empty) inputs) := by
  refine everywhere_of_invariant (Provenance local_node_id)
    (Provenance.init local_node_id max_node_id ts) ?_ ?_ inputs
  · intro before pre input output post h hinv
    exact hinv.step h
  · intro before pre input output post h hinv
    constructor
    · rintro hproperty ⟨hq, row, hrow, hcreated, hunreported⟩
      have hassigned := assigned_of_step h hq
      have hlookup : (Requester.v2 zero_uid).lookup pre.table = some row := by
        simpa only [Requester.lookup, hex_eq_zero_hex_iff.2 rfl] using hrow
      obtain ⟨uid, heq, hreported⟩ :=
        hproperty _ _ ⟨hq, (hassigned.answer_of_lookup hlookup).1⟩ hcreated
      cases heq
      exact hunreported hreported
    · intro hmiss q node_id hanswers hcreated
      obtain ⟨row, hrow, hof⟩ := hinv.row_of_created node_id _ hcreated
      have hlookup := lookup_of_answers h hanswers hrow
      obtain ⟨hmem, hid⟩ := Table.byNode_eq_some_iff.1 hrow
      cases q with
      | v1 hash =>
        have hsome := (Table.byHash_mem hlookup).2
        rw [hof.hash] at hsome
        cases hsome
      | v2 uid =>
        have hhex : row.unique_id_hex = bytes_to_hex uid.toList := (Table.byHex_mem hlookup).2
        refine ⟨uid, rfl, ?_⟩
        obtain hzero | ⟨reported, hreported, heq⟩ := hof.hex
        · have huid : uid = zero_uid := hex_eq_zero_hex_iff.1 (hhex.symm.trans hzero)
          subst huid
          by_contra hunreported
          refine hmiss ⟨hanswers.1, row, ?_, hid ▸ hcreated, hid ▸ hunreported⟩
          simpa only [Requester.lookup, hex_eq_zero_hex_iff.2 rfl] using hlookup
        · have huid : reported = uid := UniqueId.hex_inj.1 (heq.symm.trans hhex)
          exact huid ▸ hreported

/-- A request for the all-zero unique ID is answered with the allocator's own
node ID: the placeholder of the row that reserves it matches. -/
theorem static_on_report_fails :
    ¬ ∀ (local_node_id max_node_id : UInt16) (ts : String) (inputs : List Input),
      Everywhere (StaticOnReport local_node_id)
        (trace step (connect local_node_id max_node_id ts Table.empty) inputs) := by
  intro hall
  have hstep := everywhere_iff.1
    (hall 100 127 "" [⟨.on_allocation_v2 ⟨⟨0⟩, zero_uid⟩ none, ""⟩]) [] _ [] rfl
  obtain ⟨uid, -, hreported⟩ := hstep (.v2 zero_uid) 100 (by decide) (.inl ⟨rfl, rfl⟩)
  exact not_occurred_nil hreported

end cyphal_service.pnp.system
