import Mathlib.Logic.Function.Basic
import CyphalService.Lib.Protocol
import CyphalService.Lib.Trace

open machine

namespace effect

/-- One of several parties that share a state: its own memory, and the task it
is at with what is left of its program. -/
structure Party (Op : Type) (Reply : Op → Type) (τ ο μ : Type) where
  memory : μ
  running : Option (τ × Program Op Reply (ο × μ))

/-- The parties and the state they share. -/
structure Pool (ι Op : Type) (Reply : Op → Type) (τ ο μ σ : Type) where
  shared : σ
  party : ι → Party Op Reply τ ο μ

/-- What the scheduler picks next: an idle party starts a task, a party performs
the next operation of its program, or one whose program is done hands over the
result. -/
inductive Move (ι τ χ : Type) where
  | start (i : ι) (task : τ)
  | perform (i : ι) (choice : χ)
  | finish (i : ι)

/-- Whose move it is. -/
def Move.party {ι τ χ : Type} : Move ι τ χ → ι
  | .start i _ => i
  | .perform i _ => i
  | .finish i => i

namespace Pool

variable {ι Op : Type} {Reply : Op → Type} {τ ο μ σ χ : Type}

/-- All parties are idle. -/
def idle (shared : σ) (memory : μ) : Pool ι Op Reply τ ο μ σ where
  shared
  party _ := ⟨memory, none⟩

/-- The operation that a move performs, and whose it is. -/
def performs (pool : Pool ι Op Reply τ ο μ σ) : Move ι τ χ → Option (ι × Op)
  | .perform i _ =>
    match (pool.party i).running with
    | some (_, .perform op _) => some (i, op)
    | _ => none
  | _ => none

/-- What a party hands over, when it is its turn. -/
def handedBy [DecidableEq ι] (i : ι) (output : Option (ι × τ × ο)) : Option (τ × ο) :=
  output.bind fun result => if result.1 = i then some result.2 else none

/-- What a party hands over in the steps of a run, in order. -/
def handed [DecidableEq ι] (i : ι) {υ κ : Type} (steps : List (machine.Step υ κ (Option (ι × τ × ο)))) : List (τ × ο) :=
  steps.filterMap fun st => handedBy i st.output

theorem handed_cons [DecidableEq ι] (i : ι) {υ κ : Type} (st : machine.Step υ κ (Option (ι × τ × ο)))
    (steps : List (machine.Step υ κ (Option (ι × τ × ο)))) :
    handed i (st :: steps) = (handedBy i st.output).toList ++ handed i steps := by
  simp only [handed, List.filterMap_cons]
  cases handedBy i st.output <;> rfl

/-- The moves of a run so far. -/
abbrev History (ι Op : Type) (Reply : Op → Type) (τ ο μ σ χ : Type) : Type :=
  List (machine.Step (Pool ι Op Reply τ ο μ σ) (Move ι τ χ) (Option (ι × τ × ο)))

section Backed

variable {γ : Type} (protocol : Protocol Op Reply γ) (post : τ → ο → γ → Prop)
  (Holds : ι → γ → History ι Op Reply τ ο μ σ χ → σ → Prop)

/-- Every program that is running obeys the protocol from knowledge for which
its party's assertion holds. -/
def Backed (history : History ι Op Reply τ ο μ σ χ) (pool : Pool ι Op Reply τ ο μ σ) : Prop :=
  ∀ i task rest, (pool.party i).running = some (task, rest) →
    ∃ known, rest.Obeys protocol (fun result => post task result.1) known ∧ Holds i known history pool.shared

variable {protocol post Holds} {before : History ι Op Reply τ ο μ σ χ} {pool : Pool ι Op Reply τ ο μ σ}

theorem backed_idle (history : History ι Op Reply τ ο μ σ χ) (shared : σ) (memory : μ) :
    Backed protocol post Holds history (idle shared memory) := by
  intro i task rest hrunning
  cases hrunning

/-- What is performed next is allowed by what its party knows. -/
theorem Backed.performs (hbacked : Backed protocol post Holds before pool) {move : Move ι τ χ} {i : ι} {op : Op}
    (h : pool.performs move = some (i, op)) : ∃ known, protocol.may known op ∧ Holds i known before pool.shared := by
  cases move with
  | start j task => cases h
  | finish j => cases h
  | perform j choice =>
    rcases hj : pool.party j with ⟨memory, _ | ⟨task, value | ⟨next_op, next⟩⟩⟩ <;>
      simp only [Pool.performs, hj, Option.some.injEq, Prod.mk.injEq, reduceCtorEq] at h
    obtain ⟨rfl, rfl⟩ := h
    obtain ⟨known, hobeys, hholds⟩ := hbacked j task _ (by rw [hj])
    exact ⟨known, hobeys.1, hholds⟩

end Backed

section Step

variable [DecidableEq ι]

def set (pool : Pool ι Op Reply τ ο μ σ) (i : ι) (party : Party Op Reply τ ο μ) : Pool ι Op Reply τ ο μ σ :=
  { pool with party := Function.update pool.party i party }

/-- One move; only an operation touches the shared state, and it does so
atomically. A move that its party is not ready for does nothing. -/
def step (program : τ → μ → Program Op Reply (ο × μ)) (handler : χ → Handler Op Reply σ)
    (pool : Pool ι Op Reply τ ο μ σ) : Move ι τ χ → Option (ι × τ × ο) × Pool ι Op Reply τ ο μ σ
  | .start i task =>
    match pool.party i with
    | ⟨memory, none⟩ => (none, pool.set i ⟨memory, some (task, program task memory)⟩)
    | ⟨_, some _⟩ => (none, pool)
  | .perform i choice =>
    match pool.party i with
    | ⟨memory, some (task, .perform op next)⟩ =>
      let result := handler choice op pool.shared
      (none, { pool.set i ⟨memory, some (task, next result.1)⟩ with shared := result.2 })
    | _ => (none, pool)
  | .finish i =>
    match pool.party i with
    | ⟨_, some (task, .pure (output, memory))⟩ => (some (i, task, output), pool.set i ⟨memory, none⟩)
    | _ => (none, pool)

/-- Everything one move can do. -/
inductive Transition (program : τ → μ → Program Op Reply (ο × μ)) (handler : χ → Handler Op Reply σ)
    (pool : Pool ι Op Reply τ ο μ σ) :
    Move ι τ χ → Option (ι × τ × ο) → Pool ι Op Reply τ ο μ σ → Prop where
  | skipped {move : Move ι τ χ} (h : pool.performs move = none) :
      Transition program handler pool move none pool
  | started {i : ι} {task : τ} {memory : μ} (h : pool.party i = ⟨memory, none⟩) :
      Transition program handler pool (.start i task) none
        (pool.set i ⟨memory, some (task, program task memory)⟩)
  | performed {i : ι} {choice : χ} {memory : μ} {task : τ} {op : Op}
      {next : Reply op → Program Op Reply (ο × μ)}
      (h : pool.party i = ⟨memory, some (task, .perform op next)⟩) :
      Transition program handler pool (.perform i choice) none
        { pool.set i ⟨memory, some (task, next (handler choice op pool.shared).1)⟩ with
          shared := (handler choice op pool.shared).2 }
  | finished {i : ι} {before : μ} {task : τ} {output : ο} {memory : μ}
      (h : pool.party i = ⟨before, some (task, .pure (output, memory))⟩) :
      Transition program handler pool (.finish i) (some (i, task, output)) (pool.set i ⟨memory, none⟩)

variable {program : τ → μ → Program Op Reply (ο × μ)} {handler : χ → Handler Op Reply σ}
  {pool after : Pool ι Op Reply τ ο μ σ} {move : Move ι τ χ} {output : Option (ι × τ × ο)}

theorem step_transition (h : pool.step program handler move = (output, after)) :
    Transition program handler pool move output after := by
  cases move with
  | start i task =>
    simp only [step] at h
    split at h
    · rename_i hparty
      obtain ⟨rfl, rfl⟩ := Prod.mk.inj h
      exact .started hparty
    · obtain ⟨rfl, rfl⟩ := Prod.mk.inj h
      exact .skipped rfl
  | perform i choice =>
    simp only [step] at h
    split at h
    · rename_i hparty
      obtain ⟨rfl, rfl⟩ := Prod.mk.inj h
      exact .performed hparty
    · rename_i hparty
      obtain ⟨rfl, rfl⟩ := Prod.mk.inj h
      refine .skipped ?_
      rcases hi : pool.party i with ⟨memory, _ | ⟨task, value | ⟨op, next⟩⟩⟩
      · simp only [performs, hi]
      · simp only [performs, hi]
      · exact absurd hi (hparty memory task op next)
  | finish i =>
    simp only [step] at h
    split at h
    · rename_i hparty
      obtain ⟨rfl, rfl⟩ := Prod.mk.inj h
      exact .finished hparty
    · obtain ⟨rfl, rfl⟩ := Prod.mk.inj h
      exact .skipped rfl

/-- Only the operation that is performed changes the shared state. -/
theorem shared_of_step (h : pool.step program handler move = (output, after)) :
    (pool.performs move = none ∧ after.shared = pool.shared) ∨
      ∃ i choice op, move = .perform i choice ∧ pool.performs move = some (i, op) ∧ output = none ∧
        after.shared = (handler choice op pool.shared).2 := by
  cases step_transition h with
  | skipped hidle => exact .inl ⟨hidle, rfl⟩
  | started hparty => exact .inl ⟨rfl, rfl⟩
  | performed hparty => exact .inr ⟨_, _, _, rfl, by simp only [performs, hparty], rfl, rfl⟩
  | finished hparty => exact .inl ⟨rfl, rfl⟩

variable (program handler pool) in
/-- A move leaves the other parties as they are. -/
theorem party_of_step {j : ι} (hj : j ≠ move.party) : (pool.step program handler move).2.party j = pool.party j := by
  rcases hstep : pool.step program handler move with ⟨output, after⟩
  cases step_transition hstep with
  | skipped hidle => rfl
  | started hparty => exact Function.update_of_ne hj _ _
  | performed hparty => exact Function.update_of_ne hj _ _
  | finished hparty => exact Function.update_of_ne hj _ _

variable (program handler pool) in
/-- In a move only its own party hands over a result. -/
theorem handedBy_step {i : ι} (hi : i ≠ move.party) : handedBy i (pool.step program handler move).1 = none := by
  rcases hstep : pool.step program handler move with ⟨output, after⟩
  cases step_transition hstep with
  | skipped hidle => rfl
  | started hparty => rfl
  | performed hparty => rfl
  | finished hparty => exact if_neg (Ne.symm hi)

variable (program handler pool move) in
/-- What a move does is decided by its party and the shared state. -/
theorem step_congr (other : Pool ι Op Reply τ ο μ σ) (hshared : pool.shared = other.shared)
    (hparty : pool.party move.party = other.party move.party) :
    (pool.step program handler move).1 = (other.step program handler move).1 ∧
      (pool.step program handler move).2.shared = (other.step program handler move).2.shared ∧
      (pool.step program handler move).2.party move.party = (other.step program handler move).2.party move.party := by
  cases move with
  | start i task =>
    simp only [Move.party] at hparty ⊢
    rcases hother : other.party i with ⟨memory, _ | running⟩ <;> rw [hother] at hparty <;>
      simp [step, set, hparty, hother, hshared]
  | perform i choice =>
    simp only [Move.party] at hparty ⊢
    rcases hother : other.party i with ⟨memory, _ | ⟨task, value | ⟨op, next⟩⟩⟩ <;> rw [hother] at hparty <;>
      simp [step, set, hparty, hother, hshared]
  | finish i =>
    simp only [Move.party] at hparty ⊢
    rcases hother : other.party i with ⟨memory, _ | ⟨task, ⟨value, kept⟩ | ⟨op, next⟩⟩⟩ <;> rw [hother] at hparty <;>
      simp [step, set, hparty, hother, hshared]

private theorem set_set (i : ι) (first second : Party Op Reply τ ο μ) (shared : σ) :
    ({ pool.set i first with shared } : Pool ι Op Reply τ ο μ σ).set i second = { pool.set i second with shared } := by
  simp [set]

/-- Scheduled alone, a party goes through its program as a solo run does. -/
theorem exists_solo (program : τ → μ → Program Op Reply (ο × μ)) (handler : χ → Handler Op Reply σ) (i : ι)
    (choice : χ) {memory : μ} {task : τ} (rest : Program Op Reply (ο × μ)) (pool : Pool ι Op Reply τ ο μ σ)
    (hparty : pool.party i = ⟨memory, some (task, rest)⟩) :
    ∃ k, final (step program handler) pool (List.replicate k (.perform i choice)) =
      { pool.set i ⟨memory, some (task, .pure (rest.run (handler choice) pool.shared).1)⟩ with
        shared := (rest.run (handler choice) pool.shared).2 } := by
  induction rest generalizing pool with
  | pure value =>
    refine ⟨0, ?_⟩
    simp only [List.replicate, final, Program.run, set, ← hparty, Function.update_eq_self]
  | perform op next ih =>
    have hstep : (pool.step program handler (.perform i choice)).2 =
        { pool.set i ⟨memory, some (task, next (handler choice op pool.shared).1)⟩ with
          shared := (handler choice op pool.shared).2 } := by
      simp only [step, hparty]
    obtain ⟨k, hk⟩ := ih (handler choice op pool.shared).1 (pool.step program handler (.perform i choice)).2
      (by simp [hstep, set])
    refine ⟨k + 1, ?_⟩
    rw [List.replicate_succ, final, hk, hstep, set_set]
    rfl

variable {γ : Type} {protocol : Protocol Op Reply γ} {post : τ → ο → γ → Prop}
  {Holds : ι → γ → History ι Op Reply τ ο μ σ χ → σ → Prop} {before : History ι Op Reply τ ο μ σ χ}

/-- A result is handed over with its postcondition. -/
theorem Backed.finished (hbacked : Backed protocol post Holds before pool) {i : ι} {task : τ} {result : ο}
    (h : pool.step program handler move = (some (i, task, result), after)) :
    pool.performs move = none ∧ ∃ known, post task result known ∧ Holds i known before pool.shared := by
  cases step_transition h with
  | finished hparty =>
    obtain ⟨known, hpost, hholds⟩ := hbacked i task _ (by rw [hparty])
    exact ⟨rfl, known, hpost, hholds⟩

/-- The interleaving rule: running programs stay backed when their own
operations and nothing else teach them, and no other party's operation breaks
an assertion. -/
theorem Backed.step (h : pool.step program handler move = (output, after))
    (hbacked : Backed protocol post Holds before pool)
    (hstart : ∀ i task memory, move = .start i task → ∃ known,
      (program task memory).Obeys protocol (fun result => post task result.1) known ∧
        Holds i known (before ++ [⟨pool, move, output, after⟩]) pool.shared)
    (hquiet : pool.performs move = none → ∀ i known, Holds i known before pool.shared →
      Holds i known (before ++ [⟨pool, move, output, after⟩]) pool.shared)
    (hown : ∀ i choice op known, move = .perform i choice → pool.performs move = some (i, op) →
      protocol.may known op → Holds i known before pool.shared →
      Holds i (protocol.learn known op (handler choice op pool.shared).1)
        (before ++ [⟨pool, move, output, after⟩]) (handler choice op pool.shared).2)
    (hother : ∀ i j choice op known other, move = .perform i choice → pool.performs move = some (i, op) →
      protocol.may known op → j ≠ i → Holds j other before pool.shared →
      Holds j other (before ++ [⟨pool, move, output, after⟩]) (handler choice op pool.shared).2) :
    Backed protocol post Holds (before ++ [⟨pool, move, output, after⟩]) after := by
  intro j task rest hrunning
  cases step_transition h with
  | skipped hidle =>
    obtain ⟨known, hobeys, hholds⟩ := hbacked j task rest hrunning
    exact ⟨known, hobeys, hquiet hidle j known hholds⟩
  | @started i started_task memory hparty =>
    by_cases hij : j = i
    · subst hij
      simp only [set, Function.update_self, Option.some.injEq, Prod.mk.injEq] at hrunning
      obtain ⟨rfl, rfl⟩ := hrunning
      exact hstart j started_task memory rfl
    · simp only [set, Function.update_of_ne hij] at hrunning
      obtain ⟨known, hobeys, hholds⟩ := hbacked j task rest hrunning
      exact ⟨known, hobeys, hquiet rfl j known hholds⟩
  | @performed i choice memory running op next hparty =>
    have hperforms : pool.performs (.perform i choice : Move ι τ χ) = some (i, op) := by
      simp only [Pool.performs, hparty]
    obtain ⟨own, hown_obeys, hown_holds⟩ := hbacked i running _ (by rw [hparty])
    -- The party that performs the operation learns from it; the others must bear it.
    by_cases hij : j = i
    · subst hij
      simp only [set, Function.update_self, Option.some.injEq, Prod.mk.injEq] at hrunning
      obtain ⟨rfl, rfl⟩ := hrunning
      exact ⟨_, hown_obeys.2 _, hown j choice op own rfl hperforms hown_obeys.1 hown_holds⟩
    · simp only [set, Function.update_of_ne hij] at hrunning
      obtain ⟨known, hobeys, hholds⟩ := hbacked j task rest hrunning
      exact ⟨known, hobeys, hother i j choice op own known rfl hperforms hown_obeys.1 hij hholds⟩
  | @finished i memory_before finished_task result memory hparty =>
    by_cases hij : j = i
    · subst hij
      simp only [set, Function.update_self, reduceCtorEq] at hrunning
    · simp only [set, Function.update_of_ne hij] at hrunning
      obtain ⟨known, hobeys, hholds⟩ := hbacked j task rest hrunning
      exact ⟨known, hobeys, hquiet rfl j known hholds⟩

end Step

end Pool

end effect
