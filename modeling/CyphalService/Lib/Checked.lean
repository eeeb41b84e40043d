import Mathlib.Data.UInt
import Mathlib.Tactic.Common

namespace checked

/-- Why an operation has no result. -/
inductive Fault where
  | Overflow
  | DivisionByZero
  | OutOfBounds
  | LengthMismatch
  deriving DecidableEq

/-- A computation that gives a value or faults. An overflow is a fault, as where
overflow checks are on. -/
abbrev Checked := Except Fault

section Bind

variable {α β : Type} {p : Checked α} {f : α → Checked β}

@[simp] theorem ok_bind (a : α) : ((.ok a : Checked α) >>= f) = f a := rfl

@[simp] theorem error_bind (fault : Fault) : ((.error fault : Checked α) >>= f) = .error fault := rfl

@[simp] theorem pure_eq_ok (a : α) : (pure a : Checked α) = .ok a := rfl

end Bind

namespace u32

def add (a b : UInt32) : Checked UInt32 :=
  if a.toNat + b.toNat < UInt32.size then .ok (a + b) else .error .Overflow

def sub (a b : UInt32) : Checked UInt32 :=
  if b.toNat ≤ a.toNat then .ok (a - b) else .error .Overflow

def mul (a b : UInt32) : Checked UInt32 :=
  if a.toNat * b.toNat < UInt32.size then .ok (a * b) else .error .Overflow

def div (a b : UInt32) : Checked UInt32 :=
  if b = 0 then .error .DivisionByZero else .ok (a / b)

variable {a b : UInt32}

theorem add_spec (h : a.toNat + b.toNat < UInt32.size) :
    ∃ c, add a b = .ok c ∧ c.toNat = a.toNat + b.toNat := by
  refine ⟨a + b, if_pos h, ?_⟩
  rw [UInt32.toNat_add, Nat.mod_eq_of_lt h]

theorem add_overflow (h : UInt32.size ≤ a.toNat + b.toNat) : add a b = .error .Overflow :=
  if_neg (Nat.not_lt.2 h)

theorem sub_spec (h : b.toNat ≤ a.toNat) : ∃ c, sub a b = .ok c ∧ c.toNat + b.toNat = a.toNat := by
  refine ⟨a - b, if_pos h, ?_⟩
  rw [UInt32.toNat_sub_of_le a b (UInt32.le_iff_toNat_le.2 h)]
  omega

theorem mul_spec (h : a.toNat * b.toNat < UInt32.size) :
    ∃ c, mul a b = .ok c ∧ c.toNat = a.toNat * b.toNat := by
  refine ⟨a * b, if_pos h, ?_⟩
  rw [UInt32.toNat_mul, Nat.mod_eq_of_lt h]

theorem div_spec (h : 0 < b.toNat) : ∃ c, div a b = .ok c ∧ c.toNat = a.toNat / b.toNat := by
  refine ⟨a / b, if_neg ?_, UInt32.toNat_div a b⟩
  rintro rfl
  exact absurd h (Nat.lt_irrefl 0)

theorem div_zero (h : b.toNat = 0) : div a b = .error .DivisionByZero :=
  if_pos (UInt32.toNat_inj.1 h)

end u32

section Slice

variable {α : Type}

/-- `&buf[lo..hi]` -/
def slice (buf : List α) (lo hi : Nat) : Checked (List α) :=
  if lo ≤ hi ∧ hi ≤ buf.length then .ok ((buf.drop lo).take (hi - lo)) else .error .OutOfBounds

/-- `buf[i]` -/
def index (buf : List α) (i : Nat) : Checked α :=
  match buf[i]? with
  | some a => .ok a
  | none => .error .OutOfBounds

/-- `buf[i] = a` -/
def set (buf : List α) (i : Nat) (a : α) : Checked (List α) :=
  if i < buf.length then .ok (buf.set i a) else .error .OutOfBounds

/-- `buf[lo..hi].copy_from_slice(src)` -/
def copy_from_slice (buf : List α) (lo hi : Nat) (src : List α) : Checked (List α) :=
  if lo ≤ hi ∧ hi ≤ buf.length then
    if src.length = hi - lo then .ok (buf.take lo ++ src ++ buf.drop hi) else .error .LengthMismatch
  else .error .OutOfBounds

variable {buf before gap after src : List α}

theorem slice_of_le {lo hi : Nat} (hlo : lo ≤ hi) (hhi : hi ≤ buf.length) :
    slice buf lo hi = .ok ((buf.drop lo).take (hi - lo)) :=
  if_pos ⟨hlo, hhi⟩

theorem index_of_lt {i : Nat} (h : i < buf.length) : index buf i = .ok buf[i] := by
  rw [index, List.getElem?_eq_getElem h]

theorem set_append {i : Nat} {x : α} (a : α) (hi : before.length = i) :
    set (before ++ x :: after) i a = .ok (before ++ a :: after) := by
  subst hi
  simp [set]

/-- Writing what is there already changes nothing. -/
theorem set_self {i : Nat} {a : α} (h : buf[i]? = some a) : set buf i a = .ok buf := by
  obtain ⟨hi, rfl⟩ := List.getElem?_eq_some_iff.1 h
  rw [set, if_pos hi, List.set_getElem_self]

/-- What is copied replaces as many elements as it has. -/
theorem copy_from_slice_append {lo hi : Nat} (hlo : before.length = lo) (hhi : lo + gap.length = hi)
    (hsrc : src.length = gap.length) :
    copy_from_slice (before ++ gap ++ after) lo hi src = .ok (before ++ src ++ after) := by
  subst hlo hhi
  have hdrop : (before ++ gap ++ after).drop (before.length + gap.length) = after := by
    rw [← List.length_append, List.drop_left]
  have htake : (before ++ gap ++ after).take before.length = before := by
    rw [List.append_assoc, List.take_left]
  rw [copy_from_slice, if_pos, if_pos, htake, hdrop]
  · omega
  · simp

end Slice

end checked
