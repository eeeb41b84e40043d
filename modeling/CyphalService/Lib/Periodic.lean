import Mathlib.Tactic.Common

namespace periodic

/-- A look at whether a task is due, and when the task is marked as run if it is. -/
structure Look where
  tested_at : Nat
  marked_at : Nat

/-- A task that is run once a period has passed since its mark. -/
structure Task where
  marked_at : Nat
  runs : Nat

def Task.look (period : Nat) (self : Task) (look : Look) : Task :=
  if look.tested_at - self.marked_at ≥ period then ⟨look.marked_at, self.runs + 1⟩ else self

/-- From a look on, the clock does not go back, and each look is over within `gap` of the
start of the one before. -/
def Regular (gap : Nat) : Look → List Look → Prop
  | _, [] => True
  | before, look :: looks =>
    before.marked_at ≤ look.tested_at ∧ look.tested_at ≤ look.marked_at ∧
      look.marked_at ≤ before.tested_at + gap ∧ Regular gap look looks

instance Regular.decidable (gap : Nat) : ∀ before looks, Decidable (Regular gap before looks)
  | _, [] => .isTrue trivial
  | before, look :: looks =>
    have := Regular.decidable gap look looks
    inferInstanceAs (Decidable (before.marked_at ≤ look.tested_at ∧ look.tested_at ≤ look.marked_at ∧
      look.marked_at ≤ before.tested_at + gap ∧ Regular gap look looks))

/-- After a look, a task has run once in every period since the start, give or take the
time between two looks. -/
structure Paced (start period gap : Nat) (last : Look) (task : Task) : Prop where
  marked : task.marked_at ≤ last.marked_at
  ran : start + task.runs * period ≤ task.marked_at
  kept : task.marked_at ≤ start + task.runs * (period + gap)
  due : last.tested_at < task.marked_at + period

variable {start period gap : Nat} {last : Look} {task : Task}

theorem Paced.init (hperiod : 0 < period) : Paced start period gap ⟨start, start⟩ ⟨start, 0⟩ := by
  constructor
  · exact Nat.le_refl _
  · exact Nat.le_of_eq (by rw [Nat.zero_mul, Nat.add_zero])
  · exact Nat.le_of_eq (by rw [Nat.zero_mul, Nat.add_zero])
  · exact Nat.lt_add_of_pos_right hperiod

theorem Paced.look {look : Look} (h : Paced start period gap last task) (hperiod : 0 < period)
    (hafter : last.marked_at ≤ look.tested_at) (hmark : look.tested_at ≤ look.marked_at)
    (hgap : look.marked_at ≤ last.tested_at + gap) : Paced start period gap look (task.look period look) := by
  have hmarked := h.marked
  have hran := h.ran
  have hkept := h.kept
  have hdue := h.due
  unfold Task.look
  split
  · next hperiodic =>
    constructor
    · exact Nat.le_refl _
    · rw [Nat.succ_mul]
      dsimp only
      omega
    · rw [Nat.succ_mul]
      dsimp only
      omega
    · dsimp only
      omega
  · next hearly =>
    refine ⟨?_, hran, hkept, ?_⟩
    · omega
    · omega

/-- The rule for a run of regular looks. -/
theorem Paced.looks {looks : List Look} (h : Paced start period gap last task) (hperiod : 0 < period)
    (hregular : Regular gap last looks) :
    Paced start period gap ((last :: looks).getLast (List.cons_ne_nil _ _)) (looks.foldl (Task.look period) task) := by
  induction looks generalizing last task with
  | nil => exact h
  | cons look looks ih =>
    obtain ⟨hafter, hmark, hgap, hrest⟩ := hregular
    exact ih (h.look hperiod hafter hmark hgap) hrest

/-- A task does not run ahead of the clock, and falls behind by no more than one time
between two looks for each run. -/
theorem Paced.bounds (h : Paced start period gap last task) :
    start + task.runs * period ≤ last.marked_at ∧
      last.tested_at < start + task.runs * (period + gap) + period := by
  have hmarked := h.marked
  have hran := h.ran
  have hkept := h.kept
  have hdue := h.due
  omega

end periodic
