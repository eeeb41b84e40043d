import Mathlib.Data.List.Induction
import Mathlib.Tactic.Common

namespace machine

/-- One transition of a run: the state before, what came in, what went out and
the state after. -/
structure Step (σ ι ο : Type) where
  pre : σ
  input : ι
  output : ο
  post : σ

section Run

variable {σ ι ο : Type} (step : σ → ι → ο × σ)

def stepOf (state : σ) (input : ι) : Step σ ι ο :=
  ⟨state, input, (step state input).1, (step state input).2⟩

/-- The transitions of the run that feeds `inputs` to `step` one by one. -/
def trace : σ → List ι → List (Step σ ι ο)
  | _, [] => []
  | state, input :: inputs => stepOf step state input :: trace (step state input).2 inputs

/-- The state the run ends in. -/
def final : σ → List ι → σ
  | state, [] => state
  | state, input :: inputs => final (step state input).2 inputs

theorem trace_append (state : σ) (first second : List ι) :
    trace step state (first ++ second) =
      trace step state first ++ trace step (final step state first) second := by
  induction first generalizing state with
  | nil => rfl
  | cons input inputs ih => simp only [List.cons_append, trace, final, ih]

theorem final_append (state : σ) (first second : List ι) :
    final step state (first ++ second) = final step (final step state first) second := by
  induction first generalizing state with
  | nil => rfl
  | cons input inputs ih => simp only [List.cons_append, final, ih]

/-- A step of a run starts in the state that the inputs before it lead to. -/
theorem split_of_mem_trace {state : σ} {inputs : List ι} {st : Step σ ι ο} (h : st ∈ trace step state inputs) :
    ∃ first input rest, inputs = first ++ input :: rest ∧ st = stepOf step (final step state first) input := by
  induction inputs generalizing state with
  | nil => cases h
  | cons input inputs ih =>
    obtain rfl | hrest := List.mem_cons.1 h
    · exact ⟨[], input, inputs, rfl, rfl⟩
    · obtain ⟨first, later, rest, rfl, hst⟩ := ih hrest
      exact ⟨input :: first, later, rest, rfl, hst⟩

@[simp] theorem trace_map_input (state : σ) (inputs : List ι) :
    (trace step state inputs).map (·.input) = inputs := by
  induction inputs generalizing state with
  | nil => rfl
  | cons input inputs ih => simp only [trace, stepOf, List.map_cons, ih]

/-- Feeding translated inputs to a step is running the translated step. -/
theorem final_map {κ : Type} (f : κ → ι) (state : σ) (inputs : List κ) :
    final step state (inputs.map f) = final (fun s i => step s (f i)) state inputs := by
  induction inputs generalizing state with
  | nil => rfl
  | cons input inputs ih => exact ih _

theorem trace_map {κ : Type} (f : κ → ι) (state : σ) (inputs : List κ) :
    trace step state (inputs.map f) =
      (trace (fun s i => step s (f i)) state inputs).map fun st => ⟨st.pre, f st.input, st.output, st.post⟩ := by
  induction inputs generalizing state with
  | nil => rfl
  | cons input inputs ih => exact congrArg (_ :: ·) (ih _)

end Run

section Everywhere

variable {α : Type}

/-- `P` holds at every position of a list, given what stands before it. -/
def EverywhereAfter (P : List α → α → Prop) : List α → List α → Prop
  | _, [] => True
  | before, a :: rest => P before a ∧ EverywhereAfter P (before ++ [a]) rest

/-- `P` holds at every step of a run, given the history up to that step. -/
def Everywhere (P : List α → α → Prop) (steps : List α) : Prop :=
  EverywhereAfter P [] steps

instance EverywhereAfter.decidable (P : List α → α → Prop) [∀ before a, Decidable (P before a)] :
    ∀ before steps, Decidable (EverywhereAfter P before steps)
  | _, [] => .isTrue trivial
  | before, a :: rest =>
    have := EverywhereAfter.decidable P (before ++ [a]) rest
    inferInstanceAs (Decidable (P before a ∧ EverywhereAfter P (before ++ [a]) rest))

instance (P : List α → α → Prop) [∀ before a, Decidable (P before a)] (steps : List α) :
    Decidable (Everywhere P steps) :=
  inferInstanceAs (Decidable (EverywhereAfter P [] steps))

private theorem everywhereAfter_iff {P : List α → α → Prop} (before steps : List α) :
    EverywhereAfter P before steps ↔
      ∀ earlier a later, steps = earlier ++ a :: later → P (before ++ earlier) a := by
  induction steps generalizing before with
  | nil => simp [EverywhereAfter]
  | cons a rest ih =>
    rw [EverywhereAfter, ih]
    constructor
    · rintro ⟨hhead, htail⟩ earlier b later heq
      cases earlier with
      | nil =>
        obtain ⟨rfl, rfl⟩ := List.cons.inj heq
        simpa using hhead
      | cons c earlier =>
        obtain ⟨rfl, rfl⟩ := List.cons.inj heq
        simpa using htail earlier b later rfl
    · intro h
      refine ⟨by simpa using h [] a rest rfl, ?_⟩
      rintro earlier b later rfl
      simpa using h (a :: earlier) b later rfl

theorem everywhere_iff {P : List α → α → Prop} {steps : List α} :
    Everywhere P steps ↔ ∀ before a after, steps = before ++ a :: after → P before a := by
  simpa [Everywhere] using everywhereAfter_iff (P := P) [] steps

@[simp] theorem everywhere_nil (P : List α → α → Prop) : Everywhere P [] := trivial

private theorem everywhereAfter_append {P : List α → α → Prop} (before first second : List α) :
    EverywhereAfter P before (first ++ second) ↔
      EverywhereAfter P before first ∧ EverywhereAfter P (before ++ first) second := by
  induction first generalizing before with
  | nil => simp [EverywhereAfter]
  | cons a rest ih => simp [EverywhereAfter, ih, and_assoc]

@[simp] theorem everywhere_snoc {P : List α → α → Prop} {steps : List α} {a : α} :
    Everywhere P (steps ++ [a]) ↔ Everywhere P steps ∧ P steps a := by
  simp [Everywhere, everywhereAfter_append, EverywhereAfter]

theorem Everywhere.mono {P Q : List α → α → Prop} {steps : List α}
    (himp : ∀ before a, P before a → Q before a) (h : Everywhere P steps) : Everywhere Q steps := by
  rw [everywhere_iff] at h ⊢
  exact fun before a after heq => himp before a (h before a after heq)

end Everywhere

section Occurred

variable {α : Type} {P : α → Prop}

/-- Some element of the history satisfies `P`. -/
def Occurred (P : α → Prop) (history : List α) : Prop :=
  ∃ a ∈ history, P a

instance [DecidablePred P] (history : List α) : Decidable (Occurred P history) :=
  inferInstanceAs (Decidable (∃ a ∈ history, P a))

@[simp] theorem not_occurred_nil : ¬ Occurred P [] := by
  simp [Occurred]

@[simp] theorem occurred_snoc {history : List α} {a : α} :
    Occurred P (history ++ [a]) ↔ Occurred P history ∨ P a := by
  simp [Occurred, or_and_right, exists_or]

end Occurred

section Since

variable {α : Type} {P Q : α → Prop}

def SinceAfter (P Q : α → Prop) : Prop → List α → Prop
  | held, [] => held
  | held, a :: rest => SinceAfter P Q (Q a ∨ held ∧ P a) rest

/-- `Q` happened, and `P` has held of everything after that. -/
def Since (P Q : α → Prop) (history : List α) : Prop :=
  SinceAfter P Q False history

instance SinceAfter.decidable (P Q : α → Prop) [DecidablePred P] [DecidablePred Q] :
    ∀ (held : Prop) [Decidable held] history, Decidable (SinceAfter P Q held history)
  | held, _, [] => inferInstanceAs (Decidable held)
  | held, _, a :: rest => SinceAfter.decidable P Q (Q a ∨ held ∧ P a) rest

instance [DecidablePred P] [DecidablePred Q] (history : List α) : Decidable (Since P Q history) :=
  inferInstanceAs (Decidable (SinceAfter P Q False history))

@[simp] theorem not_since_nil : ¬ Since P Q [] := id

private theorem sinceAfter_snoc (held : Prop) (history : List α) (a : α) :
    SinceAfter P Q held (history ++ [a]) ↔ Q a ∨ SinceAfter P Q held history ∧ P a := by
  induction history generalizing held with
  | nil => exact Iff.rfl
  | cons b rest ih => exact ih _

@[simp] theorem since_snoc {history : List α} {a : α} :
    Since P Q (history ++ [a]) ↔ Q a ∨ Since P Q history ∧ P a :=
  sinceAfter_snoc False history a

theorem Since.occurred {history : List α} (h : Since P Q history) : Occurred Q history := by
  induction history using List.reverseRecOn with
  | nil => exact absurd h not_since_nil
  | append_singleton history a ih =>
    obtain hnow | ⟨hearlier, -⟩ := since_snoc.1 h
    · exact occurred_snoc.2 (.inr hnow)
    · exact occurred_snoc.2 (.inl (ih hearlier))

end Since

section Invariant

variable {σ ι ο : Type} {step : σ → ι → ο × σ}

/-- A condition on single inputs holds at every step of a run that is fed only
such inputs. -/
theorem everywhere_input {P : ι → Prop} {start : σ} {inputs : List ι} (h : ∀ input ∈ inputs, P input) :
    Everywhere (fun _ st => P st.input) (trace step start inputs) := by
  rw [everywhere_iff]
  intro before st after heq
  have hmem : st.input ∈ (trace step start inputs).map (·.input) := by
    rw [heq]
    simp
  rw [trace_map_input] at hmem
  exact h st.input hmem

theorem everywhere_trivial {start : σ} (inputs : List ι) :
    Everywhere (fun _ _ => True) (trace step start inputs) :=
  everywhere_iff.2 fun _ _ _ _ => trivial

/-- The run rule: an assertion on history and state that holds at the start and
that every step preserves holds at the end of every run. -/
theorem invariant_of_step (Inv : List (Step σ ι ο) → σ → Prop) {start : σ} (hinit : Inv [] start)
    (hstep : ∀ before pre input output post, step pre input = (output, post) →
      Inv before pre → Inv (before ++ [⟨pre, input, output, post⟩]) post)
    (inputs : List ι) : Inv (trace step start inputs) (final step start inputs) := by
  induction inputs using List.reverseRecOn with
  | nil => exact hinit
  | append_singleton inputs input ih =>
    rw [trace_append, final_append]
    exact hstep _ _ _ _ _ rfl ih

/-- The run rule under a condition on the steps: an assertion on history and
state that holds at the start and that every admissible step preserves holds at
the end of every run of admissible steps. -/
theorem invariant_of_everywhere {Ok : List (Step σ ι ο) → Step σ ι ο → Prop}
    (Inv : List (Step σ ι ο) → σ → Prop) {start : σ} (hinit : Inv [] start)
    (hstep : ∀ before pre input output post, step pre input = (output, post) →
      Inv before pre → Ok before ⟨pre, input, output, post⟩ →
      Inv (before ++ [⟨pre, input, output, post⟩]) post)
    (inputs : List ι) (hok : Everywhere Ok (trace step start inputs)) :
    Inv (trace step start inputs) (final step start inputs) := by
  induction inputs using List.reverseRecOn with
  | nil => exact hinit
  | append_singleton inputs input ih =>
    rw [trace_append] at hok ⊢
    rw [final_append]
    simp only [trace, final, everywhere_snoc] at hok ⊢
    exact hstep _ _ _ _ _ rfl (ih hok.1) hok.2

/-- A safety property that the invariant guarantees at each admissible step
holds at every step of every run of admissible steps. -/
theorem everywhere_of_admissible {Ok P : List (Step σ ι ο) → Step σ ι ο → Prop}
    (Inv : List (Step σ ι ο) → σ → Prop) {start : σ} (hinit : Inv [] start)
    (hstep : ∀ before pre input output post, step pre input = (output, post) →
      Inv before pre → Ok before ⟨pre, input, output, post⟩ →
      Inv (before ++ [⟨pre, input, output, post⟩]) post)
    (hsafe : ∀ before pre input output post, step pre input = (output, post) →
      Inv before pre → Ok before ⟨pre, input, output, post⟩ → P before ⟨pre, input, output, post⟩)
    (inputs : List ι) (hok : Everywhere Ok (trace step start inputs)) :
    Everywhere P (trace step start inputs) := by
  refine (invariant_of_everywhere (fun before state => Inv before state ∧ Everywhere P before)
    ⟨hinit, everywhere_nil P⟩ ?_ inputs hok).2
  rintro before pre input output post heq ⟨hinv, hP⟩ hadmissible
  exact ⟨hstep before pre input output post heq hinv hadmissible,
    everywhere_snoc.2 ⟨hP, hsafe before pre input output post heq hinv hadmissible⟩⟩

/-- The run rule for safety when every step is admissible. -/
theorem everywhere_of_invariant {P : List (Step σ ι ο) → Step σ ι ο → Prop}
    (Inv : List (Step σ ι ο) → σ → Prop) {start : σ} (hinit : Inv [] start)
    (hstep : ∀ before pre input output post, step pre input = (output, post) →
      Inv before pre → Inv (before ++ [⟨pre, input, output, post⟩]) post)
    (hsafe : ∀ before pre input output post, step pre input = (output, post) →
      Inv before pre → P before ⟨pre, input, output, post⟩)
    (inputs : List ι) : Everywhere P (trace step start inputs) := by
  refine everywhere_of_admissible Inv hinit ?_ ?_ inputs (everywhere_trivial inputs)
  · intro before pre input output post heq hinv _
    exact hstep before pre input output post heq hinv
  · intro before pre input output post heq hinv _
    exact hsafe before pre input output post heq hinv

/-- The rule for an exact condition: where every admissible step that the
invariant allows is safe exactly when it meets the condition, and keeps the
invariant if it does, a run is safe exactly when all its steps meet it. -/
theorem everywhere_iff_of_admissible {Ok P Q : List (Step σ ι ο) → Step σ ι ο → Prop}
    (Inv : List (Step σ ι ο) → σ → Prop) {start : σ} (hinit : Inv [] start)
    (hstep : ∀ before pre input output post, step pre input = (output, post) →
      Inv before pre → Ok before ⟨pre, input, output, post⟩ →
      (P before ⟨pre, input, output, post⟩ ↔ Q before ⟨pre, input, output, post⟩) ∧
        (Q before ⟨pre, input, output, post⟩ → Inv (before ++ [⟨pre, input, output, post⟩]) post))
    (inputs : List ι) (hok : Everywhere Ok (trace step start inputs)) :
    Everywhere P (trace step start inputs) ↔ Everywhere Q (trace step start inputs) := by
  refine (invariant_of_everywhere (fun before state => (Everywhere P before ↔ Everywhere Q before) ∧
    (Everywhere Q before → Inv before state)) ⟨by simp, fun _ => hinit⟩ ?_ inputs hok).1
  rintro before pre input output post heq ⟨hiff, hinv⟩ hadmissible
  rw [everywhere_snoc, everywhere_snoc, hiff]
  constructor
  · exact and_congr_right fun hQ => (hstep before pre input output post heq (hinv hQ) hadmissible).1
  · exact fun hboth => (hstep before pre input output post heq (hinv hboth.1) hadmissible).2 hboth.2

/-- The conservation rule: when every step hands on, in order, what its state holds
and what it takes, a run hands on, in order, what it took but for what its last
state still holds. -/
theorem conservation {β : Type} (Inv : σ → Prop) (contents : σ → List β)
    (taken given : Step σ ι ο → List β) {start : σ} (hinit : Inv start)
    (hinv : ∀ pre input output post, step pre input = (output, post) → Inv pre → Inv post)
    (hstep : ∀ pre input output post, step pre input = (output, post) → Inv pre →
      contents pre ++ taken ⟨pre, input, output, post⟩ = given ⟨pre, input, output, post⟩ ++ contents post)
    (inputs : List ι) :
    contents start ++ (trace step start inputs).flatMap taken =
      (trace step start inputs).flatMap given ++ contents (final step start inputs) := by
  suffices hrun : Inv (final step start inputs) ∧
      contents start ++ (trace step start inputs).flatMap taken =
        (trace step start inputs).flatMap given ++ contents (final step start inputs) from hrun.2
  refine invariant_of_step (fun before state => Inv state ∧
    contents start ++ before.flatMap taken = before.flatMap given ++ contents state) ?_ ?_ inputs
  · exact ⟨hinit, by simp⟩
  · rintro before pre input output post heq ⟨hpre, hbooks⟩
    refine ⟨hinv pre input output post heq hpre, ?_⟩
    rw [List.flatMap_append, List.flatMap_append, List.flatMap_singleton, List.flatMap_singleton,
      ← List.append_assoc, hbooks, List.append_assoc, hstep pre input output post heq hpre, List.append_assoc]

end Invariant

end machine
