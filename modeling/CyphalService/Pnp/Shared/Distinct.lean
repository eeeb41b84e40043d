import CyphalService.Pnp.Shared.Knowledge

open bytes effect machine
open cyphal_service.pnp.db cyphal_service.pnp.allocator cyphal_service.pnp.system

namespace cyphal_service.pnp.shared

theorem Attempt.exec_extends (attempt : Attempt) (s : Statement) (t : Table) :
    t.Extends (attempt.exec s t).2 := by
  obtain ⟨ts, failure⟩ := attempt
  cases failure with
  | some e => exact .refl t
  | none => exact db.exec_extends ts s t

/-- The node has a row, and it carries the hash. -/
def Hashed (t : Table) (hash : Int64) (node_id : UInt16) : Prop :=
  ∃ row, t.byNode node_id = some row ∧ row.pseudo_unique_id = some hash

theorem Hashed.extends {t t' : Table} {hash : Int64} {node_id : UInt16} (h : Hashed t hash node_id)
    (hextends : t.Extends t') : Hashed t' hash node_id := by
  obtain ⟨row, hrow, hhash⟩ := h
  obtain ⟨row', hrow', hframe⟩ := hextends.byNode hrow
  exact ⟨row', hrow', (congrArg (·.2.1) hframe).trans hhash⟩

theorem Hashed.unique {t : Table} {hash hash' : Int64} {node_id : UInt16} (h : Hashed t hash node_id)
    (h' : Hashed t hash' node_id) : hash = hash' := by
  obtain ⟨row, hrow, hhash⟩ := h
  obtain ⟨row', hrow', hhash'⟩ := h'
  rw [hrow, Option.some.injEq] at hrow'
  rw [← hrow', hhash, Option.some.injEq] at hhash'
  exact hhash'

/-- A hash that an allocator knows a node ID for is in the row of that node. -/
def FoundHashed (known : Knowledge) (t : Table) : Prop :=
  ∀ hash node_id, known = .found (.hash hash) node_id → Hashed t hash node_id

theorem FoundHashed.extends {known : Knowledge} {t t' : Table} (h : FoundHashed known t)
    (hextends : t.Extends t') : FoundHashed known t' :=
  fun hash node_id hknown => (h hash node_id hknown).extends hextends

private theorem hashed_of_stores {ts : String} {s : Statement} {t : Table} {hash : Int64} {node_id : UInt16}
    (hstores : stores s = some (.hash hash, node_id)) (hfresh : node_id ∉ t.ids) :
    Hashed (db.exec ts s t).2 hash node_id := by
  cases s with
  | insert stored_id hex stored =>
    cases stored <;> cases hstores
    simp only [db.exec, hfresh, ↓reduceDIte]
    exact ⟨_, by rw [Table.byNode_push, if_pos rfl], rfl⟩
  | _ => cases hstores

theorem foundHashed_exec {known : Knowledge} {t : Table} (h : FoundHashed known t) (ts : String)
    (s : Statement) : FoundHashed (lookup_first.learn known s (db.exec ts s t).1) (db.exec ts s t).2 := by
  intro hash node_id hlearned
  obtain ⟨-, row, hrow, rfl⟩ | ⟨hstores, hfresh⟩ | ⟨-, -, hknown⟩ := learn_exec_eq_found hlearned
  · obtain ⟨hmem, hhash⟩ := Table.byHash_mem hrow
    have hhashed : Hashed t hash row.node_id := ⟨row, Table.byNode_eq_some_iff.2 ⟨hmem, rfl⟩, hhash⟩
    exact hhashed.extends (db.exec_extends ts s t)
  · exact hashed_of_stores hstores hfresh
  · exact (h hash node_id hknown).extends (db.exec_extends ts s t)

theorem foundHashed_attempt {known : Knowledge} {t : Table} (h : FoundHashed known t) (attempt : Attempt)
    (s : Statement) : FoundHashed (lookup_first.learn known s (attempt.exec s t).1) (attempt.exec s t).2 := by
  obtain ⟨ts, failure⟩ := attempt
  cases failure with
  | some e => exact fun hash node_id hlearned => h hash node_id (learn_error_eq_found hlearned).2.2
  | none => exact foundHashed_exec h ts s

section Step

variable {ι χ : Type} [DecidableEq ι] {handler : χ → Handler Statement Statement.Reply Table}

theorem step_extends (hextends : ∀ choice s (t : Table), t.Extends (handler choice s t).2) {pool after : Allocators ι}
    {move : Move ι Task χ} {output : Option (ι × Task × Return)} (h : step handler pool move = (output, after)) :
    pool.shared.Extends after.shared := by
  obtain ⟨-, hshared⟩ | ⟨i, choice, s, -, -, -, hshared⟩ := Pool.shared_of_step h
  · rw [hshared]
    exact .refl _
  · rw [hshared]
    exact hextends choice s pool.shared

/-- The hashes that were answered so far are in the rows of the node IDs that
were given for them. -/
def GivenHashed (history : History ι χ) (t : Table) : Prop :=
  ∀ hash node_id, Given history (.v1 hash) node_id → Hashed t hash.toInt64 node_id

omit [DecidableEq ι] in
theorem givenHashed_nil (t : Table) : GivenHashed ([] : History ι χ) t :=
  fun _ _ hgiven => absurd hgiven not_occurred_nil

/-- An answer rests on what its allocator knows, and that is in the table. -/
theorem GivenHashed.step {Holds : ι → Knowledge → History ι χ → Table → Prop}
    (hfound : ∀ {i known history t}, Holds i known history t → FoundHashed known t)
    (hextends : ∀ choice s (t : Table), t.Extends (handler choice s t).2) {before : History ι χ}
    {pool after : Allocators ι} {move : Move ι Task χ} {output : Option (ι × Task × Return)}
    (h : shared.step handler pool move = (output, after))
    (hbacked : Pool.Backed lookup_first Informed Holds before pool) (hgiven : GivenHashed before pool.shared) :
    GivenHashed (before ++ [⟨pool, move, output, after⟩]) after.shared := by
  intro hash node_id hoccurred
  obtain hearlier | ⟨⟨i, task, answer⟩, houtput, hq, hanswer⟩ := occurred_snoc.1 hoccurred
  · exact (hgiven hash node_id hearlier).extends (step_extends hextends h)
  · simp only [Option.mem_def] at houtput
    subst houtput
    obtain ⟨-, known, hinformed, hholds⟩ := hbacked.finished h
    exact (hfound hholds hash.toInt64 node_id (hinformed _ _ hq hanswer)).extends (step_extends hextends h)

end Step

/-- Allocators that share a database never give one node ID to two v1 nodes:
whatever they run, however their statements interleave and whichever of them
fail. -/
theorem v1_nodes_distinct {ι : Type} [DecidableEq ι] (t : Table) (moves : List (Move ι Task Attempt))
    (hash₁ hash₂ : UInt64) (node_id₁ node_id₂ : UInt16)
    (hgiven₁ : Given (trace (step Attempt.exec) (opened t) moves) (.v1 hash₁) node_id₁)
    (hgiven₂ : Given (trace (step Attempt.exec) (opened t) moves) (.v1 hash₂) node_id₂)
    (hne : hash₁ ≠ hash₂) : node_id₁ ≠ node_id₂ := by
  have hinv : GivenHashed (trace (step Attempt.exec) (opened t) moves)
      (final (step Attempt.exec) (opened t) moves).shared := by
    refine (invariant_of_step (fun before pool =>
      Pool.Backed lookup_first Informed (fun _ known _ t => FoundHashed known t) before pool ∧
        GivenHashed before pool.shared) ⟨Pool.backed_idle _ t none, givenHashed_nil t⟩ ?_ moves).2
    rintro before pool move output after h ⟨hbacked, hgiven⟩
    refine ⟨Pool.Backed.step h hbacked ?_ ?_ ?_ ?_, hgiven.step id Attempt.exec_extends h hbacked⟩
    · intro i task memory _
      refine ⟨.nothing, obeys_program task memory, ?_⟩
      rintro hash node_id ⟨⟩
    · intro _ i known hfound
      exact hfound
    · intro i attempt s known _ _ _ hfound
      exact foundHashed_attempt hfound attempt s
    · intro i j attempt s known other _ _ _ _ hfound
      exact hfound.extends (attempt.exec_extends s pool.shared)
  rintro rfl
  exact hne (toInt64_injective ((hinv hash₁ node_id₁ hgiven₁).unique (hinv hash₂ node_id₁ hgiven₂)))

/-- Both allocators look their node up and see ID 1 free before either stores
it; the second `INSERT` fails and its node is served at the next request. -/
theorem v1_nodes_distinct_collision : (1 : UInt16) ≠ 2 :=
  v1_nodes_distinct Table.empty
    [.start true (.new 100 127), .perform true ⟨"", none⟩, .finish true,
      .start false (.new 101 127), .perform false ⟨"", none⟩, .finish false,
      .start true (.call (.on_allocation_v1 ⟨7, []⟩ none)), .start false (.call (.on_allocation_v1 ⟨8, []⟩ none)),
      .perform true ⟨"", none⟩, .perform false ⟨"", none⟩, .perform true ⟨"", none⟩, .perform false ⟨"", none⟩,
      .perform true ⟨"", none⟩, .perform false ⟨"", none⟩, .finish true, .finish false,
      .start false (.call (.on_allocation_v1 ⟨8, []⟩ none)), .perform false ⟨"", none⟩, .perform false ⟨"", none⟩,
      .perform false ⟨"", none⟩, .perform false ⟨"", none⟩, .finish false]
    7 8 1 2 (by decide) (by decide) (by decide)

end cyphal_service.pnp.shared
