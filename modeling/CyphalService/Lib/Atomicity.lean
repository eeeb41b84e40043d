import CyphalService.Lib.Environment
import CyphalService.Lib.Interleaving
import CyphalService.Lib.Simulation

open machine

namespace effect

namespace Program

variable {Op : Type} {Reply : Op → Type} {α β χ σ : Type}

/-- Operations that each meet a choice of their own. -/
def chosen (handler : χ → Handler Op Reply σ) : Environment Op Reply σ where
  permits _ _ := True
  answers state op reply after := ∃ choice, handler choice op state = (reply, after)

/-- At most one operation on which the choice tells: the knowledge is whether it
was performed. -/
def once (blind : Op → Bool) : Protocol Op Reply Bool where
  may spent op := blind op ∨ spent = false
  learn spent op _ := spent || !blind op

/-- The choice tells on no operation of the program. -/
def Blind (blind : Op → Bool) (program : Program Op Reply α) : Prop :=
  ∀ spent, program.Obeys (once blind) (fun _ after => after = spent) spent

/-- The choice tells on one operation of the program at most. -/
def Once (blind : Op → Bool) (program : Program Op Reply α) : Prop :=
  program.Obeys (once blind) (fun _ _ => True) false

section Rules

variable {blind : Op → Bool} {program : Program Op Reply α} {f : α → Program Op Reply β}

theorem Blind.pure (value : α) : (Pure.pure value : Program Op Reply α).Blind blind :=
  fun _ => .pure rfl

theorem Blind.ask {op : Op} (h : blind op) : (Program.ask op : Program Op Reply (Reply op)).Blind blind :=
  fun _ => .ask (.inl h) fun _ => by simp [once, h]

theorem Blind.bind (h : program.Blind blind) (hf : ∀ value, (f value).Blind blind) : (program >>= f).Blind blind := by
  intro spent
  refine (h spent).bind ?_
  rintro value after rfl
  exact hf value after

theorem Blind.once (h : program.Blind blind) : program.Once blind :=
  (h false).mono fun _ _ _ => trivial

theorem Once.pure (value : α) : (Pure.pure value : Program Op Reply α).Once blind :=
  (Blind.pure value).once

theorem Once.ask (op : Op) : (Program.ask op : Program Op Reply (Reply op)).Once blind :=
  Obeys.ask (.inr rfl) fun _ => trivial

/-- What follows the one operation is blind. -/
theorem Once.bind (h : program.Once blind) (hf : ∀ value, (f value).Blind blind) : (program >>= f).Once blind :=
  Obeys.bind h fun value after _ => (hf value after).mono fun _ _ _ => trivial

/-- What comes before the one operation is blind. -/
theorem Blind.bind_once (h : program.Blind blind) (hf : ∀ value, (f value).Once blind) : (program >>= f).Once blind := by
  refine (h false).bind ?_
  rintro value after rfl
  exact hf value

end Rules

section Atomic

variable {handler : χ → Handler Op Reply σ} {blind : Op → Bool}
  (hblind : ∀ op, blind op → ∀ first second state, handler first op state = handler second op state)

include hblind

/-- When the one operation is performed, every choice explains what is left. -/
theorem safe_of_spent {program : Program Op Reply α} {P : α → Bool → Prop} (h : program.Obeys (once blind) P true)
    (choice : χ) (state : σ) :
    program.Safe (chosen handler) (fun value after => program.run (handler choice) state = (value, after)) state := by
  induction program generalizing state with
  | pure value => rfl
  | perform op next ih =>
    have hop : blind op := h.1.resolve_right (by decide)
    refine ⟨trivial, ?_⟩
    rintro reply after ⟨other, hanswer⟩
    have hrun : handler choice op state = (reply, after) := (hblind op hop choice other state).trans hanswer
    rw [run, hrun]
    exact ih reply (h.2 reply) after

/-- A program on which the choice tells once at most ends, under any choices, as it
ends under one choice throughout. -/
theorem Once.safe [Inhabited χ] {program : Program Op Reply α} (h : program.Once blind) (state : σ) :
    program.Safe (chosen handler) (fun value after => ∃ choice, program.run (handler choice) state = (value, after))
      state := by
  induction program generalizing state with
  | pure value => exact ⟨default, rfl⟩
  | perform op next ih =>
    refine ⟨trivial, ?_⟩
    rintro reply after ⟨choice, hanswer⟩
    have hrest := h.2 reply
    cases hop : blind op with
    | true =>
      simp only [once, hop, Bool.not_true, Bool.or_false] at hrest
      refine (ih reply hrest after).mono ?_
      rintro value last ⟨later, hrun⟩
      refine ⟨later, ?_⟩
      rw [run, hblind op hop later choice state, hanswer, hrun]
    | false =>
      -- The choice of this operation is the one for the whole program.
      simp only [once, hop, Bool.not_false, Bool.or_true] at hrest
      refine (safe_of_spent hblind hrest choice after).mono ?_
      intro value last hrun
      refine ⟨choice, ?_⟩
      rw [run, hanswer, hrun]

end Atomic

end Program

namespace Pool

variable {ι Op : Type} {Reply : Op → Type} {τ ο μ σ χ : Type}

/-- Whole programs as single steps on the memory of one party and the shared state. -/
def atomic (program : τ → μ → Program Op Reply (ο × μ)) (handler : χ → Handler Op Reply σ)
    (state : μ × σ) (input : τ × χ) : ο × (μ × σ) :=
  let result := (program input.1 state.1).run (handler input.2) state.2
  (result.1.1, (result.1.2, result.2))

/-- The state before the task that a party is at, from which its program has come
to where it is. -/
inductive Explained (program : τ → μ → Program Op Reply (ο × μ)) (handler : χ → Handler Op Reply σ) (i : ι)
    (pool : Pool ι Op Reply τ ο μ σ) : μ × σ → Prop where
  | idle {memory : μ} (h : pool.party i = ⟨memory, none⟩) : Explained program handler i pool (memory, pool.shared)
  | running {memory : μ} {task : τ} {rest : Program Op Reply (ο × μ)} {shared : σ}
      (h : pool.party i = ⟨memory, some (task, rest)⟩)
      (hreaches : Program.Reaches (Program.chosen handler) (program task memory, shared) (rest, pool.shared)) :
      Explained program handler i pool (memory, shared)

variable {program : τ → μ → Program Op Reply (ο × μ)} {handler : χ → Handler Op Reply σ} {blind : Op → Bool}
  {i : ι} {pool : Pool ι Op Reply τ ο μ σ} {state : μ × σ}

theorem Explained.of_idle (h : Explained program handler i pool state) {memory : μ}
    (hparty : pool.party i = ⟨memory, none⟩) : state = (memory, pool.shared) := by
  cases h with
  | idle hidle =>
    obtain ⟨rfl, -⟩ := Party.mk.inj (hidle.symm.trans hparty)
    rfl
  | running hrunning _ => cases hrunning.symm.trans hparty

theorem Explained.of_running (h : Explained program handler i pool state) {memory : μ} {task : τ}
    {rest : Program Op Reply (ο × μ)} (hparty : pool.party i = ⟨memory, some (task, rest)⟩) :
    state.1 = memory ∧ Program.Reaches (Program.chosen handler) (program task memory, state.2) (rest, pool.shared) := by
  cases h with
  | idle hidle => cases hidle.symm.trans hparty
  | running hrunning hreaches =>
    cases hrunning.symm.trans hparty
    exact ⟨rfl, hreaches⟩

section Step

variable [DecidableEq ι]

/-- A move of the party shows nothing and stays explained, or hands over what its
whole program gives in one step. -/
theorem Explained.step [Inhabited χ]
    (hblind : ∀ op, blind op → ∀ first second state, handler first op state = handler second op state)
    (honce : ∀ task memory, (program task memory).Once blind)
    {move : Move ι τ χ} (hmove : move.party = i) (h : Explained program handler i pool state) :
    (handedBy i (pool.step program handler move).1 = none ∧
        Explained program handler i (pool.step program handler move).2 state) ∨
      ∃ input, handedBy i (pool.step program handler move).1 = some (input.1, (atomic program handler state input).1) ∧
        Explained program handler i (pool.step program handler move).2 (atomic program handler state input).2 := by
  rcases hstep : pool.step program handler move with ⟨output, after⟩
  cases step_transition hstep with
  | skipped hidle => exact .inl ⟨rfl, h⟩
  | @started j task memory hparty =>
    obtain rfl : j = i := hmove
    refine .inl ⟨rfl, ?_⟩
    rw [h.of_idle hparty]
    exact .running (Function.update_self j _ pool.party) .refl
  | @performed j choice memory task op next hparty =>
    obtain rfl : j = i := hmove
    obtain ⟨rfl, hreaches⟩ := h.of_running hparty
    exact .inl ⟨rfl, .running (Function.update_self j _ pool.party) (hreaches.tail (.perform ⟨choice, rfl⟩))⟩
  | @finished j before task result memory hparty =>
    obtain rfl : j = i := hmove
    obtain ⟨rfl, hreaches⟩ := h.of_running hparty
    obtain ⟨choice, hrun⟩ := ((honce task state.1).safe hblind state.2).of_reaches hreaches
    have hatomic : atomic program handler state (task, choice) = (result, (memory, pool.shared)) := by
      rw [atomic, hrun]
    refine .inr ⟨(task, choice), ?_, ?_⟩
    · rw [hatomic]
      exact if_pos rfl
    · rw [hatomic]
      exact .idle (Function.update_self j _ pool.party)

variable (pool) in
/-- Alone on the shared state, a party hands over what some run of its programs as
single steps hands over, whatever choices its operations meet. -/
theorem exists_atomic [Inhabited χ]
    (hblind : ∀ op, blind op → ∀ first second state, handler first op state = handler second op state)
    (honce : ∀ task memory, (program task memory).Once blind)
    {memory : μ} (hidle : pool.party i = ⟨memory, none⟩) {moves : List (Move ι τ χ)}
    (halone : ∀ move ∈ moves, move.party = i) :
    ∃ inputs, handed i (trace (Pool.step program handler) pool moves) =
        (trace (atomic program handler) (memory, pool.shared) inputs).map (fun st => (st.input.1, st.output)) ∧
      Explained program handler i (final (Pool.step program handler) pool moves)
        (final (atomic program handler) (memory, pool.shared) inputs) := by
  apply exists_simulated (Explained program handler i) _ _ _ (.idle hidle) moves halone
  intro before state move hmove h
  exact h.step hblind honce hmove

end Step

end Pool

end effect
