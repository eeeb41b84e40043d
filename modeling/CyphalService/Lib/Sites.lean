import CyphalService.Lib.Atomicity

open machine

namespace effect

/-- Parties that each act on the state at a place, which several may share. -/
structure Sites (ι κ Op : Type) (Reply : Op → Type) (τ ο μ σ : Type) where
  store : κ → σ
  party : ι → Party Op Reply τ ο μ

namespace Sites

variable {ι κ Op : Type} {Reply : Op → Type} {τ ο μ σ χ : Type}

/-- All parties are idle. -/
def idle (store : κ → σ) (memory : μ) : Sites ι κ Op Reply τ ο μ σ where
  store
  party _ := ⟨memory, none⟩

/-- The parties on the state at one place. -/
def pool (sites : Sites ι κ Op Reply τ ο μ σ) (k : κ) : Pool ι Op Reply τ ο μ σ where
  shared := sites.store k
  party := sites.party

/-- One move, on the state at the place of its party. -/
def step [DecidableEq ι] [DecidableEq κ] (place : ι → κ) (program : τ → μ → Program Op Reply (ο × μ))
    (handler : χ → Handler Op Reply σ) (sites : Sites ι κ Op Reply τ ο μ σ) (move : Move ι τ χ) :
    Option (ι × τ × ο) × Sites ι κ Op Reply τ ο μ σ :=
  let result := (sites.pool (place move.party)).step program handler move
  (result.1, ⟨Function.update sites.store (place move.party) result.2.shared, result.2.party⟩)

/-- A pool shows what there is at a place: its state, and the parties that act on it. -/
structure Shows (place : ι → κ) (k : κ) (sites : Sites ι κ Op Reply τ ο μ σ) (pool : Pool ι Op Reply τ ο μ σ) :
    Prop where
  shared : pool.shared = sites.store k
  party : ∀ i, place i = k → pool.party i = sites.party i

theorem shows_pool (place : ι → κ) (k : κ) (sites : Sites ι κ Op Reply τ ο μ σ) :
    Shows place k sites (sites.pool k) :=
  ⟨rfl, fun _ _ => rfl⟩

variable {place : ι → κ} {program : τ → μ → Program Op Reply (ο × μ)}
  {handler : χ → Handler Op Reply σ} {k : κ} {sites : Sites ι κ Op Reply τ ο μ σ} {pool : Pool ι Op Reply τ ο μ σ}
  {move : Move ι τ χ}

theorem Shows.explained (h : Shows place k sites pool) {i : ι} (hi : place i = k) {state : μ × σ}
    (hexplained : Pool.Explained program handler i pool state) :
    Pool.Explained program handler i (sites.pool k) state := by
  cases hexplained with
  | idle hparty =>
    rw [h.shared]
    exact .idle ((h.party i hi).symm.trans hparty)
  | running hparty hreaches =>
    rw [h.shared] at hreaches
    exact .running ((h.party i hi).symm.trans hparty) hreaches

variable [DecidableEq ι] [DecidableEq κ]

variable (program handler) in
/-- A move at another place is not seen. -/
theorem Shows.elsewhere (h : Shows place k sites pool) (hmove : place move.party ≠ k) :
    Shows place k (sites.step place program handler move).2 pool where
  shared := h.shared.trans (Function.update_of_ne (Ne.symm hmove) _ sites.store).symm
  party i hi := by
    have hother : i ≠ move.party := by
      rintro rfl
      exact hmove hi
    exact (h.party i hi).trans (Pool.party_of_step program handler (sites.pool (place move.party)) hother).symm

variable (program handler) in
/-- A move at the place is a move of the pool. -/
theorem Shows.here (h : Shows place k sites pool) (hmove : place move.party = k) :
    (pool.step program handler move).1 = (sites.step place program handler move).1 ∧
      Shows place k (sites.step place program handler move).2 (pool.step program handler move).2 := by
  subst hmove
  obtain ⟨houtput, hshared, hparty⟩ :=
    Pool.step_congr program handler pool move (sites.pool (place move.party)) h.shared (h.party move.party rfl)
  refine ⟨houtput, hshared.trans (Function.update_self _ _ sites.store).symm, ?_⟩
  intro i hi
  by_cases hown : i = move.party
  · subst hown
    exact hparty
  · rw [Pool.party_of_step program handler pool hown, h.party i hi]
    exact (Pool.party_of_step program handler (sites.pool (place move.party)) hown).symm

variable (program handler) in
/-- What happens at a place is a run of the pool there by itself, from which the
moves at other places are left out. -/
theorem Shows.run (h : Shows place k sites pool) {i : ι} (hi : place i = k) (moves : List (Move ι τ χ)) :
    Pool.handed i (trace (step place program handler) sites moves) =
        Pool.handed i (trace (Pool.step program handler) pool (moves.filter (place ·.party = k))) ∧
      Shows place k (final (step place program handler) sites moves)
        (final (Pool.step program handler) pool (moves.filter (place ·.party = k))) := by
  induction moves generalizing sites pool with
  | nil => exact ⟨rfl, h⟩
  | cons move moves ih =>
    by_cases hmove : place move.party = k
    · obtain ⟨houtput, hnext⟩ := h.here program handler hmove
      obtain ⟨hhanded, hend⟩ := ih hnext
      rw [List.filter_cons_of_pos (by simpa using hmove)]
      refine ⟨?_, hend⟩
      rw [trace, trace, Pool.handed_cons, Pool.handed_cons, hhanded]
      exact congrArg (fun output => (Pool.handedBy i output).toList ++ _) houtput.symm
    · obtain ⟨hhanded, hend⟩ := ih (h.elsewhere program handler hmove)
      rw [List.filter_cons_of_neg (by simpa using hmove)]
      have hother : i ≠ move.party := by
        rintro rfl
        exact hmove hi
      refine ⟨?_, hend⟩
      have hhidden : Pool.handedBy i (stepOf (step place program handler) sites move).output = none :=
        Pool.handedBy_step program handler _ hother
      rw [trace, Pool.handed_cons, hhidden, hhanded]
      rfl

variable (sites) in
/-- Alone at its place, a party hands over what some run of its programs as single
steps hands over, whatever the parties at other places do in between. -/
theorem exists_atomic [Inhabited χ] {blind : Op → Bool}
    (hblind : ∀ op, blind op → ∀ first second state, handler first op state = handler second op state)
    (honce : ∀ task memory, (program task memory).Once blind)
    {i : ι} {memory : μ} (hidle : sites.party i = ⟨memory, none⟩) (halone : ∀ j, place j = place i → j = i)
    (moves : List (Move ι τ χ)) :
    ∃ inputs, Pool.handed i (trace (step place program handler) sites moves) =
        (trace (Pool.atomic program handler) (memory, sites.store (place i)) inputs).map
          (fun st => (st.input.1, st.output)) ∧
      Pool.Explained program handler i ((final (step place program handler) sites moves).pool (place i))
        (final (Pool.atomic program handler) (memory, sites.store (place i)) inputs) := by
  have hmoves : ∀ move ∈ moves.filter (place ·.party = place i), move.party = i := by
    intro move hmove
    exact halone move.party (by simpa using (List.mem_filter.1 hmove).2)
  obtain ⟨hhanded, hend⟩ := (shows_pool place (place i) sites).run program handler rfl moves
  obtain ⟨inputs, hatomic, hexplained⟩ :=
    Pool.exists_atomic (sites.pool (place i)) hblind honce hidle hmoves
  exact ⟨inputs, hhanded.trans hatomic, hend.explained rfl hexplained⟩

end Sites

end effect
