import Mathlib.Data.List.DropRight
import Mathlib.Tactic.Common

namespace machine

variable {α β : Type}

/-- What `f` takes from the last element of the history that it takes anything from. -/
def latest (f : α → Option β) (history : List α) : Option β :=
  (history.filterMap f).getLast?

/-- How many elements that `p` counts came after the last one that `mark` marks. -/
def count_since (mark p : α → Bool) (history : List α) : Nat :=
  (history.rtakeWhile fun a => !mark a).countP p

@[simp] theorem latest_nil (f : α → Option β) : latest f [] = none := rfl

theorem latest_append (f : α → Option β) (first second : List α) :
    latest f (first ++ second) = (latest f second).or (latest f first) := by
  rw [latest, List.filterMap_append, List.getLast?_append]
  rfl

theorem latest_snoc (f : α → Option β) (history : List α) (a : α) :
    latest f (history ++ [a]) = (f a).or (latest f history) := by
  rw [latest_append]
  congr 1
  cases hf : f a with
  | none => simp [latest, hf]
  | some b => simp [latest, hf]

theorem latest_eq_none {f : α → Option β} {history : List α} :
    latest f history = none ↔ ∀ a ∈ history, f a = none := by
  rw [latest, List.getLast?_eq_none_iff, List.filterMap_eq_nil_iff]

@[simp] theorem count_since_nil (mark p : α → Bool) : count_since mark p [] = 0 := rfl

theorem count_since_snoc (mark p : α → Bool) (history : List α) (a : α) :
    count_since mark p (history ++ [a]) = if mark a then 0 else count_since mark p history + (p a).toNat := by
  cases hmark : mark a with
  | true =>
    rw [count_since, List.rtakeWhile_concat_neg]
    · rfl
    · simp [hmark]
  | false =>
    rw [count_since, List.rtakeWhile_concat_pos]
    · rw [List.countP_append, List.countP_singleton]
      cases p a <;> rfl
    · simp [hmark]

/-- The last `n` of a list grown by one are the last `n` of what was kept, grown by one. -/
theorem rtake_snoc_rtake (n : Nat) (kept : List α) (a : α) :
    (kept.rtake n ++ [a]).rtake n = (kept ++ [a]).rtake n := by
  cases n with
  | zero => rw [List.rtake_zero, List.rtake_zero]
  | succ n =>
    rw [List.rtake_concat_succ, List.rtake_concat_succ]
    congr 1
    rw [List.rtake_eq_reverse_take_reverse, List.rtake_eq_reverse_take_reverse,
      List.rtake_eq_reverse_take_reverse, List.reverse_reverse, List.take_take]
    rw [Nat.min_eq_left (Nat.le_succ n)]

theorem rtake_min_length (n : Nat) (history : List α) : history.rtake (min n history.length) = history.rtake n := by
  unfold List.rtake
  congr 1
  omega

end machine
