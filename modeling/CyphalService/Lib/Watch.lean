import Mathlib.Data.List.Basic

namespace watch

/-- The channel is closed. -/
structure RecvError where
  deriving DecidableEq

/-- The value that no receiver is left for. -/
structure SendError (α : Type) where
  value : α
  deriving DecidableEq

/-- A channel that holds one value, with a sender and numbered receivers: of each
the version that it has seen, until it is dropped. -/
structure Channel (α : Type) where
  value : α
  version : Nat
  closed : Bool
  receivers : List (Option Nat)

variable {α : Type}

/-- A new channel; its receiver has number 0. -/
def channel (init : α) : Channel α where
  value := init
  version := 0
  closed := false
  receivers := [some 0]

namespace Channel

/-- Receiver `i` exists and has seen this version. -/
def Live (c : Channel α) (i seen : Nat) : Prop :=
  c.receivers[i]? = some (some seen)

def receiver_count (c : Channel α) : Nat :=
  c.receivers.countP Option.isSome

/-- A clone of a receiver has seen what the receiver has. -/
def clone (c : Channel α) (i : Nat) : Channel α :=
  { c with receivers := c.receivers ++ [c.receivers[i]?.join] }

def drop_receiver (c : Channel α) (i : Nat) : Channel α :=
  { c with receivers := c.receivers.set i none }

/-- The channel is closed when its sender is dropped. -/
def drop_sender (c : Channel α) : Channel α :=
  { c with closed := true }

/-- Nothing is stored when no receiver is left. -/
def send (c : Channel α) (value : α) : Except (SendError α) Unit × Channel α :=
  if c.receiver_count = 0 then (.error ⟨value⟩, c)
  else (.ok (), { c with value, version := c.version + 1 })

def has_changed (c : Channel α) (seen : Nat) : Except RecvError Bool :=
  if c.closed then .error ⟨⟩ else .ok (c.version != seen)

/-- What `changed` answers, once it is ready. -/
def changed (c : Channel α) (seen : Nat) : Option (Except RecvError Unit) :=
  if c.version ≠ seen then some (.ok ())
  else if c.closed then some (.error ⟨⟩)
  else none

variable {c : Channel α} {i j seen : Nat}

theorem send_of_live (h : c.Live i seen) (value : α) :
    c.send value = (.ok (), { c with value, version := c.version + 1 }) := by
  apply if_neg
  have hpos : 0 < c.receiver_count := List.countP_pos_iff.2 ⟨some seen, List.mem_of_getElem? h, rfl⟩
  omega

theorem live_drop_sender : c.drop_sender.Live i seen ↔ c.Live i seen := Iff.rfl

theorem live_send (value : α) : (c.send value).2.Live i seen ↔ c.Live i seen := by
  rw [send]
  split
  · rfl
  · rfl

theorem live_drop_receiver : (c.drop_receiver j).Live i seen ↔ j ≠ i ∧ c.Live i seen := by
  rw [Live, Live, drop_receiver, List.getElem?_set]
  by_cases hij : j = i
  · rw [if_pos hij]
    split
    · simp [hij]
    · simp [hij]
  · rw [if_neg hij]
    exact (and_iff_right hij).symm

theorem live_clone_of_live (h : c.Live i seen) : (c.clone j).Live i seen := by
  have hlt : i < c.receivers.length := (List.getElem?_eq_some_iff.1 h).1
  rw [Live, clone, List.getElem?_append_left hlt]
  exact h

/-- A receiver of the channel after a clone is one of before, or has seen what one of before has. -/
theorem exists_live_of_clone (h : (c.clone j).Live i seen) : ∃ k, c.Live k seen := by
  obtain hmem | hmem := List.mem_append.1 (List.mem_of_getElem? h)
  · exact List.mem_iff_getElem?.1 hmem
  · exact ⟨j, Option.join_eq_some_iff.1 (List.mem_singleton.1 hmem).symm⟩

end Channel

end watch
