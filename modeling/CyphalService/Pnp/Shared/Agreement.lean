import CyphalService.Pnp.Shared.Distinct

open bytes effect machine
open cyphal_service.pnp.db cyphal_service.pnp.allocator cyphal_service.pnp.system

namespace cyphal_service.pnp.shared

/-- No two rows carry the same `pseudo_unique_id`. -/
def UniqueHashes (t : Table) : Prop :=
  ∀ row ∈ t.rows, ∀ row' ∈ t.rows,
    row.pseudo_unique_id ≠ none → row.pseudo_unique_id = row'.pseudo_unique_id → row = row'

instance (t : Table) : Decidable (UniqueHashes t) :=
  inferInstanceAs (Decidable (∀ row ∈ t.rows, ∀ row' ∈ t.rows, _ → _))

theorem uniqueHashes_empty : UniqueHashes Table.empty := by
  intro row hmem
  cases hmem

private theorem byHash_eq_none_iff {t : Table} {hash : Int64} :
    t.byHash hash = none ↔ ∀ row ∈ t.rows, row.pseudo_unique_id ≠ some hash := by
  simp [Table.byHash]

/-- A new row keeps the hashes apart exactly if its own is not there yet. -/
theorem uniqueHashes_push {t : Table} (h : UniqueHashes t) {row : AllocationEntry} (hfresh : row.node_id ∉ t.ids) :
    UniqueHashes (t.push row hfresh) ↔ ∀ hash, row.pseudo_unique_id = some hash → t.byHash hash = none := by
  constructor
  · intro hunique hash hhash
    refine byHash_eq_none_iff.2 fun old hold hsame => ?_
    have heq := hunique old (by simp [hold]) row (by simp) (by simp [hsame]) (hsame.trans hhash.symm)
    exact hfresh (heq ▸ Table.mem_ids_of_mem hold)
  · intro hnew first hfirst second hsecond hsome hsame
    rw [Table.rows_push, List.mem_append, List.mem_singleton] at hfirst hsecond
    obtain ⟨hash, hhash⟩ := Option.ne_none_iff_exists'.1 hsome
    rcases hfirst with hfirst | rfl <;> rcases hsecond with hsecond | rfl
    · exact h first hfirst second hsecond hsome hsame
    · exact absurd hhash (byHash_eq_none_iff.1 (hnew hash (hsame ▸ hhash)) first hfirst)
    · exact absurd (hsame ▸ hhash) (byHash_eq_none_iff.1 (hnew hash hhash) second hsecond)
    · rfl

private theorem hash_overwritten (row : AllocationEntry) (node_id : UInt16) (hex : String) :
    (if row.node_id = node_id then { row with unique_id_hex := hex } else row).pseudo_unique_id =
      row.pseudo_unique_id := by
  split <;> rfl

theorem UniqueHashes.setHex {t : Table} (h : UniqueHashes t) (node_id : UInt16) (hex : String) :
    UniqueHashes (t.setHex node_id hex) := by
  intro first hfirst second hsecond hsome hsame
  obtain ⟨old, hold, rfl⟩ := List.mem_map.1 hfirst
  obtain ⟨old', hold', rfl⟩ := List.mem_map.1 hsecond
  rw [hash_overwritten] at hsome
  rw [hash_overwritten, hash_overwritten] at hsame
  rw [h old hold old' hold' hsome hsame]

/-- Where hashes are apart, a hash has one node ID. -/
theorem Hashed.agree {t : Table} (h : UniqueHashes t) {hash : Int64} {node_id node_id' : UInt16}
    (hhashed : Hashed t hash node_id) (hhashed' : Hashed t hash node_id') : node_id = node_id' := by
  obtain ⟨row, hrow, hhash⟩ := hhashed
  obtain ⟨row', hrow', hhash'⟩ := hhashed'
  obtain ⟨hmem, rfl⟩ := Table.byNode_eq_some_iff.1 hrow
  obtain ⟨hmem', rfl⟩ := Table.byNode_eq_some_iff.1 hrow'
  rw [h row hmem row' hmem' (by simp [hhash]) (hhash.trans hhash'.symm)]

private theorem byHash_setHex_eq_none_iff (t : Table) (node_id : UInt16) (hex : String) (hash : Int64) :
    (t.setHex node_id hex).byHash hash = none ↔ t.byHash hash = none := by
  simp [byHash_eq_none_iff, Table.setHex, hash_overwritten]

/-- Hashes stay apart exactly if a stored one is not there yet. -/
theorem Effect.uniqueHashes_iff {t t' : Table} {s : Statement} (h : Effect t s t') (hunique : UniqueHashes t) :
    UniqueHashes t' ↔ ∀ hash, storedIn t s = some (.hash hash) → t.byHash hash = none := by
  cases h with
  | read hstores =>
    rw [storedIn_of_none hstores]
    exact iff_of_true hunique fun hash hstored => by cases hstored
  | refused hstores htaken =>
    rw [storedIn_of_taken hstores htaken]
    exact iff_of_true hunique fun hash hstored => by cases hstored
  | stored hstores hfresh hhash hrow =>
    simp only [uniqueHashes_push hunique, hhash, storedIn_of_fresh hstores hfresh, Option.some.injEq]
  | recorded hfresh =>
    refine iff_of_true ?_ fun hash hstored => by cases hstored
    refine (uniqueHashes_push hunique hfresh).2 fun hash hhash => ?_
    cases hhash
  | overwritten => exact iff_of_true (hunique.setHex _ _) fun hash hstored => by cases hstored

/-- A hash comes into the table only when it is stored. -/
theorem Effect.byHash_eq_none_iff {t t' : Table} {s : Statement} (h : Effect t s t') (hash : Int64) :
    t'.byHash hash = none ↔ t.byHash hash = none ∧ storedIn t s ≠ some (.hash hash) := by
  cases h with
  | read hstores => simp [storedIn_of_none hstores]
  | refused hstores htaken => simp [storedIn_of_taken hstores htaken]
  | stored hstores hfresh hhash hrow =>
    rw [Table.byHash_push, Option.or_eq_none_iff, storedIn_of_fresh hstores hfresh]
    simp [hhash]
  | recorded hfresh =>
    rw [Table.byHash_push, if_neg (by simp), Option.or_none, storedIn_of_none rfl]
    simp
  | overwritten =>
    rw [byHash_setHex_eq_none_iff, storedIn_of_none rfl]
    simp

section Step

variable {ι χ : Type}

/-- The allocator looks the key up. -/
def LooksUp (st : Step ι χ) (i : ι) (key : Key) : Prop :=
  ∃ performed ∈ st.pre.performs st.input, performed.1 = i ∧ looksUp performed.2 = some key

instance [DecidableEq ι] (st : Step ι χ) (i : ι) (key : Key) : Decidable (LooksUp st i key) :=
  Option.decidableExistsMem (p := fun performed : ι × Statement => performed.1 = i ∧ looksUp performed.2 = some key)
    (st.pre.performs st.input)

/-- Another allocator stores the key. -/
def OtherStores (st : Step ι χ) (i : ι) (key : Key) : Prop :=
  ∃ performed ∈ st.pre.performs st.input, performed.1 ≠ i ∧ storedIn st.pre.shared performed.2 = some key

instance [DecidableEq ι] (st : Step ι χ) (i : ι) (key : Key) : Decidable (OtherStores st i key) :=
  Option.decidableExistsMem (p := fun performed : ι × Statement =>
    performed.1 ≠ i ∧ storedIn st.pre.shared performed.2 = some key) (st.pre.performs st.input)

/-- Another allocator has stored the key since this one looked it up. -/
def StoredSince (history : History ι χ) (i : ι) (key : Key) : Prop :=
  Since (fun st => ¬ LooksUp st i key) (fun st => OtherStores st i key) history

instance [DecidableEq ι] (history : History ι χ) (i : ι) (key : Key) : Decidable (StoredSince history i key) :=
  inferInstanceAs (Decidable (Since _ _ history))

/-- An allocator stores a hash that another one has stored since this one
looked it up. -/
def Overtaken (before : History ι χ) (st : Step ι χ) : Prop :=
  ∃ performed ∈ st.pre.performs st.input, ∃ key ∈ storedIn st.pre.shared performed.2,
    key.isHash ∧ StoredSince before performed.1 key

instance [DecidableEq ι] (before : History ι χ) (st : Step ι χ) : Decidable (Overtaken before st) :=
  have := fun performed : ι × Statement => Option.decidableExistsMem
    (p := fun key : Key => key.isHash ∧ StoredSince before performed.1 key) (storedIn st.pre.shared performed.2)
  Option.decidableExistsMem (st.pre.performs st.input)

/-- All answers to one v1 node so far carry the same node ID, and no two rows
carry the same hash. -/
def HashesAgree (before : History ι χ) (st : Step ι χ) : Prop :=
  (∀ hash node_id node_id', Given (before ++ [st]) (.v1 hash) node_id →
    Given (before ++ [st]) (.v1 hash) node_id' → node_id = node_id') ∧ UniqueHashes st.post.shared

/-- What an allocator knows is in the table; a hash that it has found absent is
there again exactly if another allocator has stored it since. -/
structure Watched (i : ι) (known : Knowledge) (history : History ι χ) (t : Table) : Prop where
  found : FoundHashed known t
  absent : ∀ hash, known = .absent (.hash hash) → (t.byHash hash = none ↔ ¬ StoredSince history i (.hash hash))

variable {history : History ι χ} {pool after : Allocators ι} {move : Move ι Task χ}
  {output : Option (ι × Task × Return)} {key : Key} {i j : ι} {s : Statement}

private theorem storedSince_quiet (h : pool.performs move = none) :
    StoredSince (history ++ [⟨pool, move, output, after⟩]) i key ↔ StoredSince history i key := by
  simp [StoredSince, LooksUp, OtherStores, h]

private theorem storedSince_performs (h : pool.performs move = some (j, s)) :
    StoredSince (history ++ [⟨pool, move, output, after⟩]) i key ↔
      (j ≠ i ∧ storedIn pool.shared s = some key) ∨
        (StoredSince history i key ∧ ¬ (j = i ∧ looksUp s = some key)) := by
  simp [StoredSince, LooksUp, OtherStores, h]

private theorem Watched.quiet (h : pool.performs move = none) {known : Knowledge}
    (hwatched : Watched i known history pool.shared) :
    Watched i known (history ++ [⟨pool, move, output, after⟩]) pool.shared := by
  refine ⟨hwatched.found, fun hash habsent => ?_⟩
  rw [storedSince_quiet h]
  exact hwatched.absent hash habsent

private theorem Watched.own (h : pool.performs move = some (i, s)) {known : Knowledge}
    (hmay : lookup_first.may known s) (ts : String) (hwatched : Watched i known history pool.shared) :
    Watched i (lookup_first.learn known s (exec ts s pool.shared).1)
      (history ++ [⟨pool, move, output, after⟩]) (exec ts s pool.shared).2 := by
  have heffect := exec_effect hmay ts pool.shared
  refine ⟨foundHashed_exec hwatched.found ts s, fun hash hlearned => ?_⟩
  rw [storedSince_performs h, heffect.byHash_eq_none_iff]
  obtain ⟨hlooks, e, herror⟩ | ⟨hlooks, hstores, habsent⟩ := learn_eq_absent hlearned
  -- Its own lookup starts the watch anew, on a table without the hash.
  · have hrow : pool.shared.byHash hash = none := row_of_exec_error hlooks herror
    have hstored : storedIn pool.shared s = none := by
      cases s <;> first | rfl | cases hlooks
    simp [hrow, hstored, hlooks]
  · simp [storedIn_of_none hstores, hlooks, hwatched.absent hash habsent]

private theorem Watched.other (h : pool.performs move = some (j, s)) {known other : Knowledge}
    (hmay : lookup_first.may known s) (hne : i ≠ j) (ts : String) (hwatched : Watched i other history pool.shared) :
    Watched i other (history ++ [⟨pool, move, output, after⟩]) (exec ts s pool.shared).2 := by
  have heffect := exec_effect hmay ts pool.shared
  refine ⟨hwatched.found.extends (exec_extends ts s pool.shared), fun hash habsent => ?_⟩
  rw [storedSince_performs h, heffect.byHash_eq_none_iff, hwatched.absent hash habsent]
  simp [hne.symm, and_comm]

/-- The state of a run in which no `INSERT` was overtaken. -/
structure AgreementInv (history : History ι χ) (pool : Allocators ι) : Prop where
  backed : Pool.Backed lookup_first Informed Watched history pool
  given : GivenHashed history pool.shared
  unique : UniqueHashes pool.shared

/-- A move keeps hashes apart exactly if no `INSERT` is overtaken. -/
private theorem uniqueHashes_iff_of_step [DecidableEq ι] {before : History ι String}
    {move : Move ι Task String} (h : step exec pool move = (output, after)) (hinv : AgreementInv before pool) :
    UniqueHashes after.shared ↔ ¬ Overtaken before ⟨pool, move, output, after⟩ := by
  obtain ⟨hquiet, hshared⟩ | ⟨i, ts, s, -, hperforms, -, hshared⟩ := Pool.shared_of_step h
  · rw [hshared]
    refine iff_of_true hinv.unique ?_
    rintro ⟨performed, hperformed, -⟩
    rw [hquiet] at hperformed
    cases hperformed
  · obtain ⟨known, hmay, hwatched⟩ := hinv.backed.performs hperforms
    rw [hshared, (exec_effect hmay ts pool.shared).uniqueHashes_iff hinv.unique]
    constructor
    · rintro hfresh ⟨performed, hperformed, key, hstored, hhash, hsince⟩
      rw [hperforms] at hperformed
      cases hperformed
      cases key with
      | hex unique_id_hex => cases hhash
      | hash pseudo_unique_id =>
        have habsent := absent_of_storedIn hmay hstored
        exact (hwatched.absent _ habsent).1 (hfresh _ hstored) hsince
    · intro hovertaken hash hstored
      refine (hwatched.absent hash (absent_of_storedIn hmay hstored)).2 fun hsince => ?_
      exact hovertaken ⟨(i, s), hperforms, .hash hash, hstored, rfl, hsince⟩

end Step

/-- Allocators that share a database agree on the node ID of every v1 node, and
store its hash once, in exactly those interleavings in which no allocator stores
a hash that another one has stored since its own lookup. -/
theorem hashes_agree_iff {ι : Type} [DecidableEq ι] (t : Table) (hunique : UniqueHashes t)
    (moves : List (Move ι Task String)) :
    Everywhere HashesAgree (trace (step exec) (opened t) moves) ↔
      Everywhere (fun before st => ¬ Overtaken before st) (trace (step exec) (opened t) moves) := by
  refine everywhere_iff_of_admissible AgreementInv ⟨Pool.backed_idle _ t none, givenHashed_nil t, hunique⟩ ?_
    moves (everywhere_trivial moves)
  intro before pool move output after h hinv _
  have hiff := uniqueHashes_iff_of_step h hinv
  have hgiven := hinv.given.step Watched.found exec_extends h hinv.backed
  refine ⟨⟨fun hagree => hiff.1 hagree.2, fun hovertaken => ⟨?_, hiff.2 hovertaken⟩⟩,
    fun hovertaken => ⟨?_, hgiven, hiff.2 hovertaken⟩⟩
  · intro hash node_id node_id' hanswered hanswered'
    exact (hgiven hash node_id hanswered).agree (hiff.2 hovertaken) (hgiven hash node_id' hanswered')
  · refine hinv.backed.step h ?_ ?_ ?_ ?_
    · intro i task memory _
      refine ⟨.nothing, obeys_program task memory, ?_, ?_⟩
      · rintro hash node_id ⟨⟩
      · rintro hash ⟨⟩
    · intro hquiet i known hwatched
      exact hwatched.quiet hquiet
    · intro i ts s known _ hperforms hmay hwatched
      exact hwatched.own hperforms hmay ts
    · intro i j ts s known other _ hperforms hmay hne hwatched
      exact hwatched.other hperforms hmay hne ts

/-- Two allocators serve one node in turns. -/
theorem hashes_agree_turns :
    Everywhere HashesAgree (trace (step exec) (opened Table.empty)
      [.start true (.new 100 127), .perform true "", .finish true,
        .start false (.new 101 127), .perform false "", .finish false,
        .start true (.call (.on_allocation_v1 ⟨7, []⟩ none)), .perform true "", .perform true "",
        .perform true "", .start false (.call (.on_allocation_v1 ⟨7, []⟩ none)), .perform false "",
        .finish false, .finish true]) :=
  (hashes_agree_iff Table.empty uniqueHashes_empty _).2 (by decide)

/-- Both allocators look the node up before either stores it: one stores it
under ID 1, the other sees that ID taken and stores it under ID 2. -/
theorem hashes_agree_fails :
    ¬ ∀ moves : List (Move Bool Task String), Everywhere HashesAgree (trace (step exec) (opened Table.empty) moves) := by
  intro hall
  have hrun := hall
    [.start true (.new 100 127), .perform true "", .finish true,
      .start false (.new 101 127), .perform false "", .finish false,
      .start true (.call (.on_allocation_v1 ⟨7, []⟩ none)), .start false (.call (.on_allocation_v1 ⟨7, []⟩ none)),
      .perform true "", .perform false "", .perform true "", .perform true "", .finish true,
      .perform false "", .perform false "", .perform false "", .finish false]
  obtain ⟨hsame, -⟩ := everywhere_iff.1 hrun [_, _, _, _, _, _, _, _, _, _, _, _, _, _, _, _] _ [] rfl
  exact absurd (hsame 7 1 2 (by decide) (by decide)) (by decide)

end cyphal_service.pnp.shared
