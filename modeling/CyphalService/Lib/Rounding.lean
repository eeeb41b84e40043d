import Mathlib.Tactic.Common

namespace checked

/-- The multiple of `inc` next to `x`, the higher one in the middle between two. -/
def round_to (inc x : Nat) : Nat := (x + inc / 2) / inc * inc

theorem dvd_round_to (inc x : Nat) : inc ∣ round_to inc x := Nat.dvd_mul_left inc _

theorem round_to_le (inc x : Nat) : round_to inc x ≤ x + inc / 2 := Nat.div_mul_le_self _ inc

theorem round_to_eq_zero_iff {inc : Nat} (hinc : 0 < inc) (x : Nat) : round_to inc x = 0 ↔ x + inc / 2 < inc := by
  rw [round_to, Nat.mul_eq_zero, Nat.div_eq_zero_iff]
  omega

/-- A multiple is rounded to itself. -/
theorem round_to_of_dvd {inc x : Nat} (hinc : 0 < inc) (h : inc ∣ x) : round_to inc x = x := by
  obtain ⟨k, rfl⟩ := h
  have hhalf : inc / 2 < inc := Nat.div_lt_self hinc (by decide)
  rw [round_to, Nat.mul_add_div hinc, Nat.div_eq_of_lt hhalf, Nat.add_zero, Nat.mul_comm]

/-- Dividing twice is dividing by the product, rounded down. -/
theorem div_div_eq_iff {x a b c : Nat} (ha : 0 < a) (hb : 0 < b) :
    x / a / b = c ↔ c * a * b ≤ x ∧ x < (c + 1) * a * b := by
  have hab : 0 < a * b := Nat.mul_pos ha hb
  rw [Nat.div_div_eq_div_mul, Nat.mul_assoc, Nat.mul_assoc]
  constructor
  · rintro rfl
    exact ⟨Nat.div_mul_le_self x (a * b), (Nat.div_lt_iff_lt_mul hab).1 (Nat.lt_succ_self _)⟩
  · rintro ⟨hle, hlt⟩
    exact Nat.div_eq_of_lt_le hle hlt

end checked
