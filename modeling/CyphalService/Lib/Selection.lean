import Mathlib.Data.List.Basic

namespace selection

variable {α : Type} {p q : α → Bool} {l : List α} {k : Nat}

/-- `a` is listed after exactly `k` elements that satisfy `p`. -/
def ListedAfter (p : α → Bool) (k : Nat) (l : List α) (a : α) : Prop :=
  ∃ before after, l = before ++ a :: after ∧ before.countP p = k

theorem listedAfter_cons {a b : α} (h : ListedAfter p k l a) :
    ListedAfter p (k + if p b then 1 else 0) (b :: l) a := by
  obtain ⟨before, after, rfl, rfl⟩ := h
  exact ⟨b :: before, after, rfl, List.countP_cons⟩

/-- The element at position `k` of those that satisfy `p` is listed after `k` of them. -/
theorem getElem?_filter_eq_some_iff {a : α} :
    (l.filter p)[k]? = some a ↔ p a ∧ ListedAfter p k l a := by
  constructor
  · intro h
    have hp : p a := List.of_mem_filter (List.mem_of_getElem? h)
    refine ⟨hp, ?_⟩
    induction l generalizing k with
    | nil => cases h
    | cons b rest ih =>
      cases hb : p b with
      | false =>
        rw [List.filter_cons_of_neg (by simp [hb])] at h
        simpa [hb] using listedAfter_cons (b := b) (ih h)
      | true =>
        rw [List.filter_cons_of_pos hb] at h
        cases k with
        | zero =>
          obtain rfl : b = a := Option.some.inj h
          exact ⟨[], rest, rfl, rfl⟩
        | succ k => simpa [hb] using listedAfter_cons (b := b) (ih h)
  · rintro ⟨hp, before, after, rfl, rfl⟩
    rw [List.filter_append, List.filter_cons_of_pos hp, List.countP_eq_length_filter,
      List.getElem?_append_right (Nat.le_refl _), Nat.sub_self, List.getElem?_cons_zero]

theorem getElem?_filter_eq_none_iff : (l.filter p)[k]? = none ↔ l.countP p ≤ k := by
  rw [List.getElem?_eq_none_iff, List.countP_eq_length_filter]

/-- Two filters agree at position `k` when the same element is there in both, or both are too short. -/
theorem getElem?_filter_eq_iff :
    (l.filter p)[k]? = (l.filter q)[k]? ↔
      (∃ a, p a ∧ q a ∧ ListedAfter p k l a ∧ ListedAfter q k l a) ∨ (l.countP p ≤ k ∧ l.countP q ≤ k) := by
  rw [← getElem?_filter_eq_none_iff, ← getElem?_filter_eq_none_iff]
  constructor
  · intro h
    cases ha : (l.filter p)[k]? with
    | none => exact .inr ⟨rfl, h ▸ ha⟩
    | some a =>
      obtain ⟨hp, hpk⟩ := getElem?_filter_eq_some_iff.1 ha
      obtain ⟨hq, hqk⟩ := getElem?_filter_eq_some_iff.1 (h ▸ ha)
      exact .inl ⟨a, hp, hq, hpk, hqk⟩
  · rintro (⟨a, hp, hq, hpk, hqk⟩ | ⟨hp, hq⟩)
    · rw [getElem?_filter_eq_some_iff.2 ⟨hp, hpk⟩, getElem?_filter_eq_some_iff.2 ⟨hq, hqk⟩]
    · rw [hp, hq]

/-- `a` is the first element with the property. -/
def First (P : α → Prop) (l : List α) (a : α) : Prop :=
  ∃ before after, l = before ++ a :: after ∧ P a ∧ ∀ b ∈ before, ¬ P b

/-- `a` is the last element with the property. -/
def Last (P : α → Prop) (l : List α) (a : α) : Prop :=
  ∃ before after, l = before ++ a :: after ∧ P a ∧ ∀ b ∈ after, ¬ P b

section Ends

variable {β : Type} {P : α → Prop} {a b : α}

theorem findSome?_eq_some_iff_first {f : α → Option β} {x : β} :
    l.findSome? f = some x ↔ ∃ a, First (fun a => ∃ x, f a = some x) l a ∧ f a = some x := by
  have hnone : ∀ a, f a = none ↔ ¬ ∃ x, f a = some x := by
    intro a
    rw [← Option.isSome_iff_exists, Option.not_isSome_iff_eq_none]
  rw [List.findSome?_eq_some_iff]
  constructor
  · rintro ⟨before, a, after, rfl, ha, hbefore⟩
    exact ⟨a, ⟨before, after, rfl, ⟨x, ha⟩, fun b hb => (hnone b).1 (hbefore b hb)⟩, ha⟩
  · rintro ⟨a, ⟨before, after, rfl, -, hbefore⟩, ha⟩
    exact ⟨before, a, after, rfl, ha, fun b hb => (hnone b).2 (hbefore b hb)⟩

theorem Last.mem (h : Last P l a) : a ∈ l := by
  obtain ⟨before, after, rfl, -⟩ := h
  exact List.mem_append_right _ List.mem_cons_self

theorem Last.holds (h : Last P l a) : P a := by
  obtain ⟨before, after, -, ha, -⟩ := h
  exact ha

theorem not_last_nil : ¬ Last P [] a := fun h => nomatch h.mem

/-- The last of a list and one element more is that element, if it has the property. -/
theorem last_concat_of_holds (hb : P b) : Last P (l ++ [b]) a ↔ a = b := by
  constructor
  · rintro ⟨before, after, happend, ha, hafter⟩
    obtain rfl | ⟨after, c, rfl⟩ := after.eq_nil_or_concat'
    · exact (List.singleton_inj.1 (List.append_inj' happend rfl).2).symm
    · rw [← List.cons_append, ← List.append_assoc] at happend
      obtain rfl := List.singleton_inj.1 (List.append_inj' happend rfl).2
      exact absurd hb (hafter b (List.mem_append_right _ (List.mem_singleton_self b)))
  · rintro rfl
    exact ⟨l, [], rfl, hb, fun c hc => nomatch hc⟩

theorem last_concat_of_not (hb : ¬ P b) : Last P (l ++ [b]) a ↔ Last P l a := by
  constructor
  · rintro ⟨before, after, happend, ha, hafter⟩
    obtain rfl | ⟨after, c, rfl⟩ := after.eq_nil_or_concat'
    · obtain rfl := List.singleton_inj.1 (List.append_inj' happend rfl).2
      exact absurd ha hb
    · rw [← List.cons_append, ← List.append_assoc] at happend
      obtain rfl := (List.append_inj' happend rfl).1
      exact ⟨before, after, rfl, ha, fun d hd => hafter d (List.mem_append_left _ hd)⟩
  · rintro ⟨before, after, rfl, ha, hafter⟩
    refine ⟨before, after ++ [b], by rw [List.append_assoc, List.cons_append], ha, ?_⟩
    intro c hc
    rw [List.mem_append, List.mem_singleton] at hc
    obtain hc | rfl := hc
    · exact hafter c hc
    · exact hb

end Ends

end selection
