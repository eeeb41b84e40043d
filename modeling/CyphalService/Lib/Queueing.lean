import Mathlib.Logic.Relation
import Mathlib.Tactic.Common

namespace queueing

/-- A server at the end of a round, until when it may be busy with a customer, and how
many customers wait, from the first to some one of them. -/
structure Server where
  now : Nat
  busy : Option Nat
  waiting : Nat

/-- A server is not overdue, and is busy no longer than its patience. -/
def Server.Punctual (patience : Nat) (self : Server) : Prop :=
  ∀ deadline ∈ self.busy, self.now ≤ deadline ∧ deadline ≤ self.now + patience

/-- A round of a server takes at most `gap`; in it the server takes the next customer, or
goes on with the one that it has, or is done with it. -/
inductive Round (patience gap : Nat) : Server → Server → Prop where
  | takes {now later waiting : Nat} {before after : Option Nat} (hgap : later ≤ now + gap)
      (hafter : Server.Punctual patience ⟨later, after, waiting⟩) :
      Round patience gap ⟨now, before, waiting + 1⟩ ⟨later, after, waiting⟩
  | goes_on {now later deadline waiting : Nat} (hgap : later ≤ now + gap)
      (hafter : Server.Punctual patience ⟨later, some deadline, waiting⟩) :
      Round patience gap ⟨now, some deadline, waiting⟩ ⟨later, some deadline, waiting⟩
  | done {now later deadline waiting : Nat} (hgap : later ≤ now + gap) :
      Round patience gap ⟨now, some deadline, waiting⟩ ⟨later, none, waiting⟩

/-- When the server takes the next customer at the latest. -/
def Server.free (gap : Nat) (self : Server) : Nat :=
  self.busy.elim (self.now + gap) fun deadline => deadline + 2 * gap

variable {patience gap : Nat} {server after : Server}

theorem Server.Punctual.le_free (gap : Nat) (h : server.Punctual patience) : server.now + gap ≤ server.free gap := by
  unfold Server.free
  cases hbusy : server.busy with
  | none => exact Nat.le_refl _
  | some deadline =>
    obtain ⟨hin, -⟩ := h deadline hbusy
    dsimp only [Option.elim_some]
    omega

theorem Server.Punctual.free_le (gap : Nat) (h : server.Punctual patience) :
    server.free gap ≤ server.now + (patience + 2 * gap) := by
  unfold Server.free
  cases hbusy : server.busy with
  | none =>
    dsimp only [Option.elim_none]
    omega
  | some deadline =>
    obtain ⟨-, hpatience⟩ := h deadline hbusy
    dsimp only [Option.elim_some]
    omega

theorem Round.punctual (h : Round patience gap server after) : after.Punctual patience := by
  cases h with
  | takes hgap hafter => exact hafter
  | goes_on hgap hafter => exact hafter
  | done hgap => exact nofun

/-- A round brings the last of the customers no later. -/
theorem Round.latest_le (h : Round patience gap server after) (hserver : server.Punctual patience) :
    after.waiting * (patience + 2 * gap) + after.free gap ≤
      server.waiting * (patience + 2 * gap) + server.free gap := by
  have hfree := hserver.le_free gap
  cases h with
  | @takes now later waiting before after hgap hafter =>
    have hafter_free := hafter.free_le gap
    have hone : (waiting + 1) * (patience + 2 * gap) = waiting * (patience + 2 * gap) + (patience + 2 * gap) :=
      Nat.succ_mul _ _
    dsimp only at hfree hafter_free ⊢
    omega
  | goes_on hgap hafter => exact Nat.le_refl _
  | @done now later deadline waiting hgap =>
    obtain ⟨hin, -⟩ := hserver deadline rfl
    simp only [Server.free, Option.elim_none, Option.elim_some] at hin ⊢
    omega

theorem rounds_latest_le (h : Relation.ReflTransGen (Round patience gap) server after)
    (hserver : server.Punctual patience) :
    after.Punctual patience ∧ after.waiting * (patience + 2 * gap) + after.free gap ≤
      server.waiting * (patience + 2 * gap) + server.free gap := by
  induction h with
  | refl => exact ⟨hserver, Nat.le_refl _⟩
  | tail _ hround ih => exact ⟨hround.punctual, Nat.le_trans (hround.latest_le ih.1) ih.2⟩

/-- While some of the customers wait, no more time has passed than the patience of the
server and two rounds for each of them. -/
theorem now_le_of_waiting (h : Relation.ReflTransGen (Round patience gap) server after)
    (hserver : server.Punctual patience) (hwaiting : 0 < after.waiting) :
    after.now ≤ server.now + server.waiting * (patience + 2 * gap) := by
  obtain ⟨hafter, hlatest⟩ := rounds_latest_le h hserver
  have hfrom := hserver.free_le gap
  have hto := hafter.le_free gap
  have hone := Nat.mul_le_mul_right (patience + 2 * gap) hwaiting
  omega

end queueing
