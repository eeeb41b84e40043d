import CyphalService.Pnp.Shared.Agreement

open bytes effect machine
open cyphal_service.pnp.db cyphal_service.pnp.allocator cyphal_service.pnp.system

namespace cyphal_service.pnp.shared

/-- The row that is found for the key is the row of the node. -/
def RowAt (t : Table) (key : Key) (node_id : UInt16) : Prop :=
  ∃ row, key.row t = some row ∧ row.node_id = node_id

theorem RowAt.unique {t : Table} {key : Key} {node_id node_id' : UInt16} (h : RowAt t key node_id)
    (h' : RowAt t key node_id') : node_id = node_id' := by
  obtain ⟨row, hrow, rfl⟩ := h
  obtain ⟨row', hrow', rfl⟩ := h'
  rw [hrow, Option.some.injEq] at hrow'
  rw [hrow']

theorem RowAt.push {t : Table} {key : Key} {node_id : UInt16} (h : RowAt t key node_id) {row : AllocationEntry}
    (hfresh : row.node_id ∉ t.ids) : RowAt (t.push row hfresh) key node_id := by
  obtain ⟨found, hfound, hid⟩ := h
  refine ⟨found, ?_, hid⟩
  cases key with
  | hash pseudo_unique_id =>
    simp only [Key.row] at hfound ⊢
    rw [Table.byHash_push, hfound, Option.some_or]
  | hex unique_id_hex =>
    simp only [Key.row] at hfound ⊢
    rw [Table.byHex_push, hfound, Option.some_or]

/-- A row stays the one that is found while no GetInfo result overwrites its
unique ID or puts the same one into an older row. -/
theorem RowAt.effect {t t' : Table} {s : Statement} (heffect : Effect t s t') {key : Key} {node_id : UInt16}
    (h : RowAt t key node_id)
    (hkeeps : ∀ hex result_id, s = .update_unique_id_hex hex result_id →
      key.isHash ∨ (node_id ≠ result_id ∧ (key = .hex hex → t.ids.idxOf node_id ≤ t.ids.idxOf result_id))) :
    RowAt t' key node_id := by
  cases heffect with
  | read hstores => exact h
  | refused hstores htaken => exact h
  | stored hstores hfresh hhash hrow => exact h.push hfresh
  | recorded hfresh => exact h.push hfresh
  | @overwritten hex result_id =>
    obtain ⟨row, hrow, rfl⟩ := h
    cases key with
    | hash pseudo_unique_id =>
      obtain ⟨row', hrow', hframe⟩ := (Table.Extends.setHex t result_id hex).byHash hrow
      exact ⟨row', hrow', congrArg Prod.fst hframe⟩
    | hex unique_id_hex =>
      obtain hhash | ⟨hne, hfront⟩ := hkeeps hex result_id rfl
      · cases hhash
      · refine ⟨row, Table.byHex_setHex hrow hne ?_, rfl⟩
        rintro rfl
        exact hfront rfl

/-- A key that is stored where there was none is found under its node ID. -/
theorem Effect.rowAt_of_stores {t t' : Table} {s : Statement} (h : Effect t s t') {key : Key} {node_id : UInt16}
    (hstores : stores s = some (key, node_id)) (hfresh : node_id ∉ t.ids) (hnone : key.row t = none) :
    RowAt t' key node_id := by
  cases h with
  | read hnot =>
    rw [hnot] at hstores
    cases hstores
  | refused htaken_stores htaken =>
    rw [htaken_stores] at hstores
    cases hstores
    exact absurd htaken hfresh
  | stored hstored_stores hnew hhash hrow =>
    rw [hstored_stores] at hstores
    cases hstores
    exact ⟨_, hrow hnone, rfl⟩
  | recorded hnew => cases hstores
  | overwritten => cases hstores

/-- The unique ID that a statement overwrites, and the node whose row it is in. -/
def overwrites : Statement → Option (String × UInt16)
  | .update_unique_id_hex hex node_id => some (hex, node_id)
  | _ => none

section Step

variable {ι : Type}

/-- The statement that the move performs fails. -/
def Fails (st : Step ι Attempt) : Prop :=
  match st.input with
  | .perform _ attempt => attempt.failure ≠ none
  | _ => False

instance (st : Step ι Attempt) : Decidable (Fails st) :=
  match st with
  | ⟨_, .perform _ attempt, _, _⟩ => inferInstanceAs (Decidable (attempt.failure ≠ none))
  | ⟨_, .start _ _, _, _⟩ => inferInstanceAs (Decidable False)
  | ⟨_, .finish _, _, _⟩ => inferInstanceAs (Decidable False)

/-- A lookup of a key that has a row fails. -/
def Loses (st : Step ι Attempt) (i : ι) (key : Key) : Prop :=
  LooksUp st i key ∧ Fails st ∧ key.row st.pre.shared ≠ none

instance [DecidableEq ι] (st : Step ι Attempt) (i : ι) (key : Key) : Decidable (Loses st i key) :=
  inferInstanceAs (Decidable (_ ∧ _ ∧ _))

/-- The latest lookup of the key had a row to find, and failed. -/
def LostSince (history : History ι Attempt) (i : ι) (key : Key) : Prop :=
  Since (fun st => ¬ LooksUp st i key) (fun st => Loses st i key) history

instance [DecidableEq ι] (history : History ι Attempt) (i : ι) (key : Key) : Decidable (LostSince history i key) :=
  inferInstanceAs (Decidable (Since _ _ history))

/-- A requester is stored although it has a row, because the lookup of that row
failed. -/
def Forgets (before : History ι Attempt) (st : Step ι Attempt) : Prop :=
  ¬ Fails st ∧ ∃ performed ∈ st.pre.performs st.input, ∃ key ∈ storedIn st.pre.shared performed.2,
    LostSince before performed.1 key

instance [DecidableEq ι] (before : History ι Attempt) (st : Step ι Attempt) : Decidable (Forgets before st) :=
  have := fun performed : ι × Statement => Option.decidableExistsMem
    (p := fun key : Key => LostSince before performed.1 key) (storedIn st.pre.shared performed.2)
  have := Option.decidableExistsMem (p := fun performed : ι × Statement =>
    ∃ key ∈ storedIn st.pre.shared performed.2, LostSince before performed.1 key) (st.pre.performs st.input)
  inferInstanceAs (Decidable (_ ∧ _))

/-- A GetInfo result is written to the row of the node. -/
def Touches (st : Step ι Attempt) (node_id : UInt16) : Prop :=
  ¬ Fails st ∧ ∃ performed ∈ st.pre.performs st.input, (overwrites performed.2).map Prod.snd = some node_id

instance (st : Step ι Attempt) (node_id : UInt16) : Decidable (Touches st node_id) :=
  have := Option.decidableExistsMem (p := fun performed : ι × Statement =>
    (overwrites performed.2).map Prod.snd = some node_id) (st.pre.performs st.input)
  inferInstanceAs (Decidable (_ ∧ _))

/-- The requester was answered with the node ID, and if it is a v2 node, no
GetInfo result was written to that row since. -/
def Known (history : History ι Attempt) (q : Requester) (node_id : UInt16) : Prop :=
  Since (fun st => (key q).isHash ∨ ¬ Touches st node_id) (fun st => Gives st q node_id) history

instance (history : History ι Attempt) (q : Requester) (node_id : UInt16) : Decidable (Known history q node_id) :=
  inferInstanceAs (Decidable (Since _ _ history))

/-- The requesters that were served so far. -/
def served (history : History ι Attempt) : List Requester :=
  history.filterMap fun st => st.output.bind fun result => result.2.1.requester

/-- The unique ID of a known node goes into an older row than its own. -/
def TakenOver (before : History ι Attempt) (t : Table) (hex : String) (result_id : UInt16) : Prop :=
  ∃ q ∈ served before, key q = .hex hex ∧ ∃ row ∈ q.lookup t,
    Known before q row.node_id ∧ t.ids.idxOf result_id < t.ids.idxOf row.node_id

instance (before : History ι Attempt) (t : Table) (hex : String) (result_id : UInt16) :
    Decidable (TakenOver before t hex result_id) :=
  have := fun q : Requester => Option.decidableExistsMem (p := fun row : AllocationEntry =>
    Known before q row.node_id ∧ t.ids.idxOf result_id < t.ids.idxOf row.node_id) (q.lookup t)
  inferInstanceAs (Decidable (∃ q ∈ served before, _ ∧ _))

/-- A GetInfo result writes the unique ID of a known node into an older row. -/
def Steals (before : History ι Attempt) (st : Step ι Attempt) : Prop :=
  ¬ Fails st ∧ ∃ performed ∈ st.pre.performs st.input, ∃ target ∈ overwrites performed.2,
    TakenOver before st.pre.shared target.1 target.2

instance (before : History ι Attempt) (st : Step ι Attempt) : Decidable (Steals before st) :=
  have := fun performed : ι × Statement => Option.decidableExistsMem (p := fun target : String × UInt16 =>
    TakenOver before st.pre.shared target.1 target.2) (overwrites performed.2)
  have := Option.decidableExistsMem (p := fun performed : ι × Statement =>
    ∃ target ∈ overwrites performed.2, TakenOver before st.pre.shared target.1 target.2) (st.pre.performs st.input)
  inferInstanceAs (Decidable (_ ∧ _))

/-- A known requester is answered with the node ID it has, if at all, and no two
rows carry the same hash. -/
def KeepsKnown (before : History ι Attempt) (st : Step ι Attempt) : Prop :=
  (∀ q node_id node_id', Known before q node_id → Gives st q node_id' → node_id' = node_id) ∧
    UniqueHashes st.post.shared

/-- What an allocator knows is in the table; a key that it has found absent is,
unless its lookup failed. -/
structure Recalled (i : ι) (known : Knowledge) (history : History ι Attempt) (t : Table) : Prop where
  found : ∀ key node_id, known = .found key node_id → RowAt t key node_id
  absent : ∀ key, known = .absent key → key.row t = none ∨ LostSince history i key

variable {history : History ι Attempt} {pool after : Allocators ι} {output : Option (ι × Task × Return)}
  {i : ι} {s : Statement} {known : Knowledge}

private theorem Recalled.quiet {move : Move ι Task Attempt} (h : pool.performs move = none)
    (hrecalled : Recalled i known history pool.shared) :
    Recalled i known (history ++ [⟨pool, move, output, after⟩]) pool.shared := by
  refine ⟨hrecalled.found, fun key habsent => ?_⟩
  refine (hrecalled.absent key habsent).imp_right fun hlost => since_snoc.2 (.inr ⟨hlost, ?_⟩)
  rintro ⟨performed, hperformed, -⟩
  rw [h] at hperformed
  cases hperformed

/-- Unless a lost row is stored again, a key is stored where there is none. -/
private theorem row_of_storedIn {attempt : Attempt} (h : pool.performs (.perform i attempt) = some (i, s))
    (hmay : lookup_first.may known s) (hrecalled : Recalled i known history pool.shared)
    (hforgets : ¬ Forgets history ⟨pool, .perform i attempt, output, after⟩) (hok : attempt.failure = none)
    {key : Key} (hstored : storedIn pool.shared s = some key) : key.row pool.shared = none := by
  obtain hnone | hlost := hrecalled.absent key (absent_of_storedIn hmay hstored)
  · exact hnone
  · exact absurd ⟨fun hfails => hfails hok, (i, s), h, key, hstored, hlost⟩ hforgets

private theorem Recalled.own_found {attempt : Attempt} (h : pool.performs (.perform i attempt) = some (i, s))
    (hmay : lookup_first.may known s) (hrecalled : Recalled i known history pool.shared)
    (hforgets : ¬ Forgets history ⟨pool, .perform i attempt, output, after⟩) {key : Key} {node_id : UInt16}
    (hlearned : lookup_first.learn known s (attempt.exec s pool.shared).1 = .found key node_id) :
    RowAt (attempt.exec s pool.shared).2 key node_id := by
  have hstored := row_of_storedIn h hmay hrecalled hforgets
  obtain ⟨ts, failure⟩ := attempt
  cases failure with
  | some e => exact hrecalled.found key node_id (learn_error_eq_found hlearned).2.2
  | none =>
    have heffect := exec_effect hmay ts pool.shared
    obtain ⟨hlooks, hrow⟩ | ⟨hstores, hfresh⟩ | ⟨-, -, hknown⟩ := learn_exec_eq_found hlearned
    · refine RowAt.effect heffect hrow fun hex result_id heq => ?_
      subst heq
      cases hlooks
    · exact heffect.rowAt_of_stores hstores hfresh (hstored rfl (storedIn_of_fresh hstores hfresh))
    · refine RowAt.effect heffect (hrecalled.found key node_id hknown) fun hex result_id heq => ?_
      subst heq
      cases hknown.symm.trans (show known = .nothing from hmay)

private theorem Recalled.own_absent {attempt : Attempt} (h : pool.performs (.perform i attempt) = some (i, s))
    (hmay : lookup_first.may known s) (hrecalled : Recalled i known history pool.shared) {key : Key}
    (hlearned : lookup_first.learn known s (attempt.exec s pool.shared).1 = .absent key) :
    key.row (attempt.exec s pool.shared).2 = none ∨
      LostSince (history ++ [⟨pool, .perform i attempt, output, after⟩]) i key := by
  obtain ⟨hlooks, e, herror⟩ | ⟨hlooks, hstores, habsent⟩ := learn_eq_absent hlearned
  -- The lookup has just come back empty: there is no row, or the failure hid it.
  · obtain ⟨ts, failure⟩ := attempt
    cases failure with
    | none =>
      left
      have hnone : key.row pool.shared = none := row_of_exec_error hlooks herror
      have htable : (exec ts s pool.shared).2 = pool.shared := exec_of_looksUp hlooks
      simpa only [Attempt.exec, htable] using hnone
    | some e =>
      by_cases hrow : key.row pool.shared = none
      · exact .inl hrow
      · right
        refine since_snoc.2 (.inl ⟨⟨(i, s), h, rfl, hlooks⟩, ?_, hrow⟩)
        simp [Fails]
  -- A later statement of the same request, which neither looks up nor stores.
  · have htable : (attempt.exec s pool.shared).2 = pool.shared := by
      obtain ⟨ts, failure⟩ := attempt
      cases failure with
      | some e => rfl
      | none => exact exec_of_known hmay (by simp [habsent]) hstores
    rw [htable]
    refine (hrecalled.absent key habsent).imp_right fun hlost => since_snoc.2 (.inr ⟨hlost, ?_⟩)
    rintro ⟨performed, hperformed, -, hlooked⟩
    rw [h] at hperformed
    cases hperformed
    rw [hlooks] at hlooked
    cases hlooked

/-- Known requesters are found under the node IDs they were given. -/
def KnownFound (history : History ι Attempt) (t : Table) : Prop :=
  ∀ q node_id, Known history q node_id → RowAt t (key q) node_id

private theorem mem_served {q : Requester} {node_id : UInt16} (h : Known history q node_id) :
    q ∈ served history := by
  obtain ⟨st, hst, result, hresult, hq, -⟩ := h.occurred
  refine List.mem_filterMap.2 ⟨st, hst, ?_⟩
  rw [Option.mem_def.1 hresult]
  exact hq

private theorem KnownFound.step [DecidableEq ι] {move : Move ι Task Attempt} (h : step Attempt.exec pool move = (output, after))
    (hbacked : Pool.Backed lookup_first Informed Recalled history pool) (hfound : KnownFound history pool.shared)
    (hsteals : ¬ Steals history ⟨pool, move, output, after⟩) :
    KnownFound (history ++ [⟨pool, move, output, after⟩]) after.shared := by
  intro q node_id hknown
  obtain ⟨⟨i, task, answer⟩, houtput, hq, hanswer⟩ | ⟨hearlier, huntouched⟩ := since_snoc.1 hknown
  · simp only [Option.mem_def] at houtput
    subst houtput
    obtain ⟨hquiet, known, hinformed, hrecalled⟩ := hbacked.finished h
    obtain ⟨-, hshared⟩ | ⟨-, -, -, -, -, hnone, -⟩ := Pool.shared_of_step h
    · rw [hshared]
      exact hrecalled.found _ _ (hinformed q node_id hq hanswer)
    · cases hnone
  -- Only an `UPDATE` could take the row away: of its own node, or of an older row.
  · have hrow := hfound q node_id hearlier
    obtain ⟨-, hshared⟩ | ⟨i, ⟨ts, failure⟩, s, rfl, hperforms, -, hshared⟩ := Pool.shared_of_step h
    · rwa [hshared]
    · rw [hshared]
      cases failure with
      | some e => exact hrow
      | none =>
        obtain ⟨known, hmay, -⟩ := hbacked.performs hperforms
        refine RowAt.effect (exec_effect hmay ts pool.shared) hrow fun hex result_id heq => ?_
        subst heq
        have hok : ¬ Fails ⟨pool, .perform i ⟨ts, none⟩, output, after⟩ := fun hfails => hfails rfl
        refine huntouched.imp_right fun huntouched => ⟨?_, fun hkey => Nat.le_of_not_lt fun hlt => ?_⟩
        · rintro rfl
          exact huntouched ⟨hok, _, hperforms, rfl⟩
        · obtain ⟨row, hfoundrow, rfl⟩ := hrow
          rw [row_key] at hfoundrow
          exact hsteals ⟨hok, _, hperforms, _, rfl, q, mem_served hearlier, hkey, row, hfoundrow, hearlier, hlt⟩

private theorem uniqueHashes_step [DecidableEq ι] {move : Move ι Task Attempt}
    (h : step Attempt.exec pool move = (output, after))
    (hbacked : Pool.Backed lookup_first Informed Recalled history pool) (hunique : UniqueHashes pool.shared)
    (hforgets : ¬ Forgets history ⟨pool, move, output, after⟩) : UniqueHashes after.shared := by
  obtain ⟨-, hshared⟩ | ⟨i, ⟨ts, failure⟩, s, rfl, hperforms, -, hshared⟩ := Pool.shared_of_step h
  · rwa [hshared]
  · rw [hshared]
    cases failure with
    | some e => exact hunique
    | none =>
      obtain ⟨known, hmay, hrecalled⟩ := hbacked.performs hperforms
      refine ((exec_effect hmay ts pool.shared).uniqueHashes_iff hunique).2 fun hash hstored => ?_
      exact row_of_storedIn hperforms hmay hrecalled hforgets rfl hstored

end Step

/-- The state of a run of one allocator that has lost no row. -/
structure FaultInv (history : History Unit Attempt) (pool : Allocators Unit) : Prop where
  backed : Pool.Backed lookup_first Informed Recalled history pool
  known : KnownFound history pool.shared
  unique : UniqueHashes pool.shared

/-- Whichever statements of an allocator fail, a known node is answered with the
node ID it has or not at all, and no hash is stored twice, as long as no row is
stored for a requester whose own row a failed lookup has missed, and no GetInfo
result takes over the unique ID of a known node. -/
theorem known_nodes_kept (moves : List (Move Unit Task Attempt))
    (hok : Everywhere (fun before st => ¬ Forgets before st ∧ ¬ Steals before st)
      (trace (step Attempt.exec) (opened Table.empty) moves)) :
    Everywhere KeepsKnown (trace (step Attempt.exec) (opened Table.empty) moves) := by
  refine everywhere_of_admissible FaultInv ⟨Pool.backed_idle _ _ _, ?_, uniqueHashes_empty⟩ ?_ ?_ moves hok
  · intro q node_id hknown
    exact absurd hknown not_since_nil
  · rintro before pool move output after h hinv ⟨hforgets, hsteals⟩
    refine ⟨hinv.backed.step h ?_ ?_ ?_ ?_, hinv.known.step h hinv.backed hsteals,
      uniqueHashes_step h hinv.backed hinv.unique hforgets⟩
    · intro i task memory _
      refine ⟨.nothing, obeys_program task memory, ?_, ?_⟩
      · rintro key node_id ⟨⟩
      · rintro key ⟨⟩
    · intro hquiet i known hrecalled
      exact hrecalled.quiet hquiet
    · rintro i attempt s known rfl hperforms hmay hrecalled
      constructor
      · intro key node_id hlearned
        exact hrecalled.own_found hperforms hmay hforgets hlearned
      · intro key hlearned
        exact hrecalled.own_absent hperforms hmay hlearned
    · intro i j attempt s known other _ _ _ hne _
      exact absurd rfl hne
  · rintro before pool move output after h hinv ⟨hforgets, hsteals⟩
    refine ⟨fun q node_id node_id' hknown hgives => ?_, uniqueHashes_step h hinv.backed hinv.unique hforgets⟩
    obtain ⟨⟨i, task, answer⟩, houtput, hq, hanswer⟩ := hgives
    simp only [Option.mem_def] at houtput
    subst houtput
    obtain ⟨-, known, hinformed, hrecalled⟩ := hinv.backed.finished h
    exact (hrecalled.found _ _ (hinformed q node_id' hq hanswer)).unique (hinv.known q node_id hknown)

/-- The lookup of a new node and a `COUNT` fail, and it is given ID 2. Later its own
lookup fails while no other ID is free, and it is not answered. -/
theorem known_nodes_kept_faults :
    Everywhere KeepsKnown (trace (step Attempt.exec) (opened Table.empty)
      [.start () (.new 100 2), .perform () ⟨"", none⟩, .finish (),
        .start () (.call (.on_allocation_v1 ⟨7, []⟩ none)), .perform () ⟨"", some .QueryReturnedNoRows⟩,
        .perform () ⟨"", some (.SqliteFailure "disk I/O error")⟩, .perform () ⟨"", none⟩, .perform () ⟨"", none⟩,
        .finish (), .start () (.call (.on_allocation_v1 ⟨7, []⟩ none)),
        .perform () ⟨"", some (.SqliteFailure "disk I/O error")⟩,
        .perform () ⟨"", some (.SqliteFailure "disk I/O error")⟩, .perform () ⟨"", none⟩, .finish (),
        .start () (.call (.on_allocation_v1 ⟨7, []⟩ none)), .perform () ⟨"", none⟩, .finish ()]) :=
  known_nodes_kept _ (by decide)

/-- A known node asks again and its lookup fails: it is taken for a new one and
given a second node ID. -/
theorem known_nodes_kept_fails :
    ¬ ∀ moves : List (Move Unit Task Attempt),
      Everywhere KeepsKnown (trace (step Attempt.exec) (opened Table.empty) moves) := by
  intro hall
  have hrun := hall
    [.start () (.new 100 127), .perform () ⟨"", none⟩, .finish (),
      .start () (.call (.on_allocation_v1 ⟨7, []⟩ none)), .perform () ⟨"", none⟩, .perform () ⟨"", none⟩,
      .perform () ⟨"", none⟩, .finish (),
      .start () (.call (.on_allocation_v1 ⟨7, []⟩ none)),
      .perform () ⟨"", some (.SqliteFailure "database is locked")⟩, .perform () ⟨"", none⟩, .perform () ⟨"", none⟩,
      .perform () ⟨"", none⟩, .finish ()]
  obtain ⟨hsame, -⟩ := everywhere_iff.1 hrun [_, _, _, _, _, _, _, _, _, _, _, _, _] _ [] rfl
  exact absurd (hsame (.v1 7) 1 2 (by decide) (by decide)) (by decide)

end cyphal_service.pnp.shared
