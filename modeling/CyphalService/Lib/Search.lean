import Mathlib.Data.List.ProdSigma
import CyphalService.Lib.Checked

namespace checked

variable {α β γ : Type}

/-- Go on with the next search where this one finds nothing. -/
def or_else : Checked (Option β) → Checked (Option β) → Checked (Option β)
  | .ok none, next => next
  | .ok (some b), _ => .ok (some b)
  | .error fault, _ => .error fault

/-- A loop over the elements that returns the first result of its body; a fault
of the body ends it. -/
def first_some (body : α → Checked (Option β)) : List α → Checked (Option β)
  | [] => .ok none
  | a :: rest => or_else (body a) (first_some body rest)

theorem or_else_assoc (p q r : Checked (Option β)) : or_else (or_else p q) r = or_else p (or_else q r) := by
  cases p with
  | error fault => rfl
  | ok found =>
    cases found with
    | none => rfl
    | some b => rfl

section Search

variable {body : α → Checked (Option β)} {l : List α}

theorem first_some_append (xs ys : List α) :
    first_some body (xs ++ ys) = or_else (first_some body xs) (first_some body ys) := by
  induction xs with
  | nil => rfl
  | cons x xs ih => rw [List.cons_append, first_some, first_some, ih, or_else_assoc]

theorem first_some_map (f : γ → α) (xs : List γ) :
    first_some body (xs.map f) = first_some (fun x => body (f x)) xs := by
  induction xs with
  | nil => rfl
  | cons x xs ih => rw [List.map_cons, first_some, first_some, ih]

/-- Two nested loops search the pairs, those of the first outer element first. -/
theorem first_some_product (body : α → γ → Checked (Option β)) (outer : List α) (inner : List γ) :
    first_some (fun a => first_some (body a) inner) outer =
      first_some (fun pair => body pair.1 pair.2) (outer ×ˢ inner) := by
  induction outer with
  | nil => rfl
  | cons a rest ih =>
    rw [first_some, ih, List.product_cons, first_some_append, first_some_map]

theorem mem_of_first_some {b : β} (h : first_some body l = .ok (some b)) : ∃ a ∈ l, body a = .ok (some b) := by
  induction l with
  | nil => cases h
  | cons a rest ih =>
    rw [first_some] at h
    cases ha : body a with
    | error fault =>
      rw [ha] at h
      cases h
    | ok found =>
      rw [ha] at h
      cases found with
      | some b' =>
        cases h
        exact ⟨a, List.mem_cons_self, ha⟩
      | none =>
        obtain ⟨a', hmem, ha'⟩ := ih h
        exact ⟨a', List.mem_cons_of_mem a hmem, ha'⟩

/-- A search in order meets no fault exactly if it finds something before each
element on which its body faults. -/
theorem first_some_ok_iff {R : α → α → Prop} (hasymm : ∀ a b, R a b → ¬ R b a) (hsorted : l.Pairwise R) :
    (∃ found, first_some body l = .ok found) ↔
      ∀ a ∈ l, (∃ fault, body a = .error fault) → ∃ a' ∈ l, R a' a ∧ ∃ b, body a' = .ok (some b) := by
  induction hsorted with
  | nil => simp [first_some]
  | @cons a rest hfirst hrest ih =>
    rw [first_some]
    cases ha : body a with
    | error fault =>
      refine iff_of_false ?_ fun hall => ?_
      · rintro ⟨found, h⟩
        cases h
      · obtain ⟨a', hmem, hbefore, b, ha'⟩ := hall a List.mem_cons_self ⟨fault, ha⟩
        obtain rfl | hlater := List.mem_cons.1 hmem
        · rw [ha] at ha'
          cases ha'
        · exact hasymm a a' (hfirst a' hlater) hbefore
    | ok found =>
      cases found with
      | some b =>
        refine iff_of_true ⟨some b, rfl⟩ ?_
        rintro a' hmem ⟨fault, ha'⟩
        obtain rfl | hlater := List.mem_cons.1 hmem
        · rw [ha] at ha'
          cases ha'
        · exact ⟨a, List.mem_cons_self, hfirst a' hlater, b, ha⟩
      | none =>
        rw [or_else, ih]
        constructor
        · rintro hall a' hmem ⟨fault, ha'⟩
          obtain rfl | hlater := List.mem_cons.1 hmem
          · rw [ha] at ha'
            cases ha'
          · obtain ⟨a'', hmem', hfound⟩ := hall a' hlater ⟨fault, ha'⟩
            exact ⟨a'', List.mem_cons_of_mem a hmem', hfound⟩
        · rintro hall a' hmem ⟨fault, ha'⟩
          obtain ⟨a'', hmem', hbefore, b, ha''⟩ := hall a' (List.mem_cons_of_mem a hmem) ⟨fault, ha'⟩
          obtain rfl | hlater := List.mem_cons.1 hmem'
          · rw [ha] at ha''
            cases ha''
          · exact ⟨a'', hlater, hbefore, b, ha''⟩

end Search

section Range

/-- `(lo..=hi).rev()` -/
def u32.rev_range (lo hi : UInt32) : List UInt32 :=
  (List.range' lo.toNat (hi.toNat + 1 - lo.toNat)).reverse.map UInt32.ofNat

theorem u32.mem_rev_range {lo hi x : UInt32} :
    x ∈ u32.rev_range lo hi ↔ lo.toNat ≤ x.toNat ∧ x.toNat ≤ hi.toNat := by
  have hhi := hi.toNat_lt
  rw [u32.rev_range, List.mem_map]
  constructor
  · rintro ⟨n, hmem, rfl⟩
    rw [List.mem_reverse, List.mem_range'_1] at hmem
    rw [UInt32.toNat_ofNat_of_lt' (by simp only [UInt32.size]; omega)]
    omega
  · rintro ⟨hlo, hle⟩
    refine ⟨x.toNat, ?_, UInt32.ofNat_toNat⟩
    rw [List.mem_reverse, List.mem_range'_1]
    omega

theorem u32.pairwise_rev_range (lo hi : UInt32) : (u32.rev_range lo hi).Pairwise fun a b => b.toNat < a.toNat := by
  have hhi := hi.toNat_lt
  rw [u32.rev_range, List.pairwise_map, List.pairwise_reverse]
  refine List.Pairwise.imp_of_mem ?_ List.pairwise_lt_range'
  intro m n hm hn hlt
  rw [List.mem_range'_1] at hm hn
  rw [UInt32.toNat_ofNat_of_lt' (by simp only [UInt32.size]; omega),
    UInt32.toNat_ofNat_of_lt' (by simp only [UInt32.size]; omega)]
  exact hlt

/-- The pairs of two sorted lists are sorted by their first elements, then by
their second ones. -/
theorem pairwise_product {R : α → α → Prop} {S : γ → γ → Prop} {outer : List α} {inner : List γ}
    (houter : outer.Pairwise R) (hinner : inner.Pairwise S) :
    (outer ×ˢ inner).Pairwise fun p q => R p.1 q.1 ∨ p.1 = q.1 ∧ S p.2 q.2 := by
  change (outer.flatMap fun a => inner.map (Prod.mk a)).Pairwise _
  rw [List.pairwise_flatMap]
  constructor
  · intro a ha
    rw [List.pairwise_map]
    exact hinner.imp fun hS => .inr ⟨rfl, hS⟩
  · refine houter.imp fun hR => ?_
    intro p hp q hq
    obtain ⟨c, -, rfl⟩ := List.mem_map.1 hp
    obtain ⟨d, -, rfl⟩ := List.mem_map.1 hq
    exact .inl hR

end Range

end checked
