import CyphalService.Pnp.Reserved
import CyphalService.Pnp.Restart

open effect machine
open cyphal_service.pnp.db cyphal_service.pnp.allocator

namespace cyphal_service.pnp.system

/-- A node ID that an allocator may hand out: in `1..=max_node_id`, and not its
own. -/
def InRange (local_node_id max_node_id node_id : UInt16) : Prop :=
  1 ≤ node_id ∧ node_id ≤ max_node_id ∧ node_id ≠ local_node_id

instance (local_node_id max_node_id node_id : UInt16) : Decidable (InRange local_node_id max_node_id node_id) :=
  inferInstanceAs (Decidable (_ ∧ _ ∧ _))

/-- The answer to a v1 request, or to a v2 request whose unique ID is not all
zeros, is a node ID the live allocator may hand out. -/
def AnswersInRange (st : machine.Step State Event Return) : Prop :=
  ∀ q ∈ st.input.requester, q ≠ .v2 zero_uid → ∀ node_id ∈ st.output.node_id,
    InRange st.pre.self.local_node_id st.pre.self.max_node_id node_id

instance (st : machine.Step State Event Return) : Decidable (AnswersInRange st) :=
  have : DecidablePred fun q : Requester => q ≠ .v2 zero_uid → ∀ node_id ∈ st.output.node_id,
      InRange st.pre.self.local_node_id st.pre.self.max_node_id node_id := fun _ =>
    have := Option.decidableForallMem
      (p := InRange st.pre.self.local_node_id st.pre.self.max_node_id) st.output.node_id
    inferInstanceAs (Decidable (_ → _))
  Option.decidableForallMem st.input.requester

/-- The row that the request matches, if any, has such a node ID. -/
def MatchesInRange (st : machine.Step State Event Return) : Prop :=
  ∀ q ∈ st.input.requester, q ≠ .v2 zero_uid → ∀ row ∈ q.lookup st.pre.table,
    InRange st.pre.self.local_node_id st.pre.self.max_node_id row.node_id

/-- A row that a request other than the all-zero one can match. -/
def Keyed (row : AllocationEntry) : Prop :=
  row.pseudo_unique_id ≠ none ∨ row.unique_id_hex ≠ zero_hex

instance (row : AllocationEntry) : Decidable (Keyed row) :=
  inferInstanceAs (Decidable (_ ∨ _))

/-- Every row that can be matched has a node ID the allocator may hand out. -/
def Fits (local_node_id max_node_id : UInt16) (t : Table) : Prop :=
  ∀ row ∈ t.rows, Keyed row → InRange local_node_id max_node_id row.node_id

instance (local_node_id max_node_id : UInt16) (t : Table) : Decidable (Fits local_node_id max_node_id t) :=
  inferInstanceAs (Decidable (∀ row ∈ t.rows, _ → _))

/-- A restart takes a configuration that the rows it finds fit, and a GetInfo
result gives a unique ID only to a node ID that the allocator may hand out. -/
def ConfigFits (st : machine.Step State Event Return) : Prop :=
  match st.input with
  | .restart local_node_id max_node_id _ => Fits local_node_id max_node_id st.pre.table
  | .call input => ∀ result ∈ input.call.resolves, result.2 ≠ zero_uid → result.1 ∈ st.pre.table.ids →
      InRange st.pre.self.local_node_id st.pre.self.max_node_id result.1

instance (st : machine.Step State Event Return) : Decidable (ConfigFits st) :=
  match st with
  | ⟨pre, .restart local_node_id max_node_id _, _, _⟩ =>
    inferInstanceAs (Decidable (Fits local_node_id max_node_id pre.table))
  | ⟨pre, .call input, _, _⟩ =>
    Option.decidableForallMem (p := fun result : UInt16 × UniqueId =>
      result.2 ≠ zero_uid → result.1 ∈ pre.table.ids →
        InRange pre.self.local_node_id pre.self.max_node_id result.1) input.call.resolves

theorem keyed_of_lookup {q : Requester} {t : Table} {row : AllocationEntry} (hq : q ≠ .v2 zero_uid)
    (hrow : q.lookup t = some row) : Keyed row := by
  cases q with
  | v1 hash =>
    left
    simp [(Table.byHash_mem hrow).2]
  | v2 uid =>
    right
    rw [(Table.byHex_mem hrow).2]
    intro hzero
    exact hq (congrArg Requester.v2 (hex_eq_zero_hex_iff.1 hzero))

theorem Fits.push {local_node_id max_node_id : UInt16} {t : Table} (h : Fits local_node_id max_node_id t)
    {row : AllocationEntry} (hfresh : row.node_id ∉ t.ids)
    (hrow : Keyed row → InRange local_node_id max_node_id row.node_id) :
    Fits local_node_id max_node_id (t.push row hfresh) := by
  intro other hmem
  rw [Table.rows_push, List.mem_append, List.mem_singleton] at hmem
  obtain hold | rfl := hmem
  · exact h other hold
  · exact hrow

theorem Fits.record {local_node_id max_node_id : UInt16} {t : Table} (h : Fits local_node_id max_node_id t)
    (heard : UInt16) (ts : String) : Fits local_node_id max_node_id (t.record heard ts) := by
  by_cases hknown : heard ∈ t.ids
  · rwa [Table.record_of_mem hknown]
  · rw [Table.record_of_not_mem hknown]
    refine h.push hknown ?_
    rintro (hhash | hhex)
    · exact absurd rfl hhash
    · exact absurd rfl hhex

theorem Fits.setHex {local_node_id max_node_id : UInt16} {t : Table} (h : Fits local_node_id max_node_id t)
    (node_id : UInt16) (uid : UniqueId)
    (hresult : uid ≠ zero_uid → node_id ∈ t.ids → InRange local_node_id max_node_id node_id) :
    Fits local_node_id max_node_id (t.setHex node_id (bytes_to_hex uid.toList)) := by
  intro row hmem hkeyed
  obtain ⟨hold, -⟩ | ⟨old, hold, rfl, rfl⟩ := Table.mem_rows_setHex t node_id _ hmem
  · exact h row hold hkeyed
  · by_cases huid : uid = zero_uid
    · obtain hhash | hhex := hkeyed
      · exact h old hold (.inl hhash)
      · exact absurd (hex_eq_zero_hex_iff.2 huid) hhex
    · exact hresult huid (Table.mem_ids_of_mem hold)

private theorem fits_step {s post : State} {event : Event} {output : Return}
    (h : eventStep s event = (output, post))
    (hfits : Fits s.self.local_node_id s.self.max_node_id s.table)
    (hconfig : ConfigFits ⟨s, event, output, post⟩) :
    Fits post.self.local_node_id post.self.max_node_id post.table := by
  cases event with
  | restart local_node_id max_node_id ts =>
    obtain ⟨-, rfl⟩ := Prod.mk.inj h
    rw [connect_eq]
    exact Fits.record hconfig local_node_id ts
  | call input =>
    cases step_transition (show step s input = (output, post) from h) with
    | request hq hassigned =>
      generalize output.node_id = answer at hassigned
      cases hassigned with
      | reused hrow => exact hfits
      | exhausted hnone hfull => exact hfits
      | fresh hnone hfree hnew =>
        refine hfits.push hnew fun _ => ?_
        obtain ⟨⟨hlow, hhigh⟩, hreserved, -⟩ := Table.firstFree_some hfree
        rw [Requester.newRow_node_id]
        exact ⟨hlow, hhigh, by simpa using hreserved⟩
    | ignored hcall hq hanswer => exact hfits
    | queued hqueues => exact hfits.record _ _
    | noted hqueues => exact hfits.record _ _
    | popped =>
      unfold PnpAllocator.pop_get_info_request
      split <;> exact hfits
    | resolved => exact hfits.setHex _ _ (hconfig _ rfl)
    | failed => exact hfits

private theorem answersInRange_iff {s post : State} {event : Event} {output : Return}
    (h : eventStep s event = (output, post)) :
    AnswersInRange ⟨s, event, output, post⟩ ↔ MatchesInRange ⟨s, event, output, post⟩ := by
  constructor
  · intro hanswers q hq hne row hrow
    obtain ⟨ts, hassigned⟩ := eventStep_assigned h hq
    exact hanswers q hq hne row.node_id (hassigned.answer_of_lookup hrow).1
  · intro hmatches q hq hne node_id hanswer
    obtain ⟨ts, hassigned⟩ := eventStep_assigned h hq
    simp only [Option.mem_def] at hanswer
    rw [hanswer] at hassigned
    generalize post.table = t at hassigned
    cases hassigned with
    | reused hrow => exact hmatches q hq hne _ hrow
    | fresh hnone hfree hnew =>
      obtain ⟨⟨hlow, hhigh⟩, hreserved, -⟩ := Table.firstFree_some hfree
      exact ⟨hlow, hhigh, by simpa using hreserved⟩

/-- Whatever allocators with other configurations left in the file, an answer is
in range and not the allocator's own ID as long as every restart fits the rows
it finds and no GetInfo result makes an unfit row matchable. At each single
request this holds exactly when the row that it matches is in range. -/
theorem answers_in_range (local_node_id max_node_id : UInt16) (ts : String) (events : List Event) :
    (Everywhere (fun _ st => ConfigFits st)
        (trace eventStep (connect local_node_id max_node_id ts Table.empty) events) →
      Everywhere (fun _ st => AnswersInRange st)
        (trace eventStep (connect local_node_id max_node_id ts Table.empty) events)) ∧
    Everywhere (fun _ st => AnswersInRange st ↔ MatchesInRange st)
      (trace eventStep (connect local_node_id max_node_id ts Table.empty) events) := by
  constructor
  · intro hok
    refine everywhere_of_admissible
      (fun _ s => Fits s.self.local_node_id s.self.max_node_id s.table) ?_ ?_ ?_ events hok
    · rw [connect_eq]
      refine Fits.record ?_ local_node_id ts
      intro row hmem
      cases hmem
    · intro before pre event output post h hfits hconfig
      exact fits_step h hfits hconfig
    · intro before pre event output post h hfits _
      refine (answersInRange_iff h).2 fun q hq hne row hrow => ?_
      exact hfits row (Requester.lookup_mem hrow) (keyed_of_lookup hne hrow)
  · refine everywhere_of_invariant (fun _ _ => True) trivial ?_ ?_ events
    · intro before pre event output post h _
      trivial
    · intro before pre event output post h _
      exact answersInRange_iff h

theorem answers_in_range_restart :
    Everywhere (fun _ st => AnswersInRange st) (trace eventStep (connect 100 127 "" Table.empty)
      [.call ⟨.on_allocation_v1 ⟨7, []⟩ none, ""⟩, .restart 101 120 "",
        .call ⟨.on_allocation_v1 ⟨7, []⟩ none, ""⟩]) :=
  (answers_in_range 100 127 "" _).1 (by decide)

/-- A database in which an earlier run allocated node ID 1 is reopened by an
allocator whose own ID is 1: the known v1 node is answered with it. -/
theorem answers_in_range_fails :
    ¬ ∀ (local_node_id max_node_id : UInt16) (ts : String) (events : List Event),
      Everywhere (fun _ st => AnswersInRange st)
        (trace eventStep (connect local_node_id max_node_id ts Table.empty) events) := by
  intro hall
  have hrun := hall 100 127 ""
    [.call ⟨.on_allocation_v1 ⟨7, []⟩ none, ""⟩, .restart 1 127 "",
      .call ⟨.on_allocation_v1 ⟨7, []⟩ none, ""⟩]
  exact absurd hrun (by decide)

end cyphal_service.pnp.system
