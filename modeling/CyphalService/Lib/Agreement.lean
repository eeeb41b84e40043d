import CyphalService.Lib.Logged

namespace effect.Logged

variable {ε σ α β υ : Type} (view : σ → υ) (seen : ε → Bool)

/-- Whatever the state, the computation changes nothing that can be viewed and
logs nothing that is seen. -/
def Silent (p : Logged ε σ α) : Prop :=
  ∀ s, view (p.run s).state = view s ∧ (p.run s).log.filter seen = []

/-- From states that look the same, the computations yield one value, log the
same seen entries and leave states that look the same. -/
def Agree (p q : Logged ε σ α) : Prop :=
  ∀ s t, view s = view t → (p.run s).value = (q.run t).value ∧
    (p.run s).log.filter seen = (q.run t).log.filter seen ∧ view (p.run s).state = view (q.run t).state

variable {view seen}

namespace Silent

theorem pure (a : α) : Silent view seen (Pure.pure a : Logged ε σ α) :=
  fun _ => ⟨rfl, rfl⟩

theorem get : Silent view seen (Logged.get : Logged ε σ σ) :=
  fun _ => ⟨rfl, rfl⟩

theorem emit {entry : ε} (h : seen entry = false) : Silent view seen (Logged.emit entry : Logged ε σ Unit) :=
  fun _ => ⟨rfl, List.filter_cons_of_neg (by simp [h])⟩

theorem modify {f : σ → σ} (h : ∀ s, view (f s) = view s) :
    Silent view seen (Logged.modify f : Logged ε σ Unit) :=
  fun s => ⟨h s, rfl⟩

theorem bind {p : Logged ε σ α} {f : α → Logged ε σ β} (hp : Silent view seen p)
    (hf : ∀ a, Silent view seen (f a)) : Silent view seen (p >>= f) := by
  intro s
  obtain ⟨hview, hlog⟩ := hp s
  obtain ⟨hview', hlog'⟩ := hf (p.run s).value (p.run s).state
  rw [run_bind]
  exact ⟨hview'.trans hview, by rw [List.filter_append, hlog, hlog', List.append_nil]⟩

/-- A computation on the state read may rely on its being the current one. -/
theorem get_bind {f : σ → Logged ε σ β}
    (h : ∀ s, view ((f s).run s).state = view s ∧ ((f s).run s).log.filter seen = []) :
    Silent view seen (Logged.get >>= f) := by
  intro s
  rw [run_bind]
  exact h s

/-- A computation is silent to whoever views less and sees less. -/
theorem part {ν : Type} {fewer : ε → Bool} {p : Logged ε σ α} (hp : Silent view seen p) (f : υ → ν)
    (hfewer : ∀ entry, fewer entry = true → seen entry = true) : Silent (fun s => f (view s)) fewer p := by
  intro s
  obtain ⟨hview, hlog⟩ := hp s
  refine ⟨congrArg f hview, List.filter_eq_nil_iff.2 fun entry hmem hseen => ?_⟩
  exact List.filter_eq_nil_iff.1 hlog entry hmem (hfewer entry hseen)

theorem agree {p q : Logged ε σ Unit} (hp : Silent view seen p) (hq : Silent view seen q) :
    Agree view seen p q := by
  intro s t hview
  obtain ⟨hkept, hlog⟩ := hp s
  obtain ⟨hkept', hlog'⟩ := hq t
  exact ⟨rfl, hlog.trans hlog'.symm, hkept.trans (hview.trans hkept'.symm)⟩

end Silent

namespace Agree

theorem pure (a : α) : Agree view seen (Pure.pure a : Logged ε σ α) (Pure.pure a) :=
  fun _ _ hview => ⟨rfl, rfl, hview⟩

theorem emit (entry : ε) : Agree view seen (Logged.emit entry : Logged ε σ Unit) (Logged.emit entry) :=
  fun _ _ hview => ⟨rfl, rfl, hview⟩

theorem modify {f g : σ → σ} (h : ∀ s t, view s = view t → view (f s) = view (g t)) :
    Agree view seen (Logged.modify f : Logged ε σ Unit) (Logged.modify g) :=
  fun s t hview => ⟨rfl, rfl, h s t hview⟩

theorem bind {p q : Logged ε σ α} {f g : α → Logged ε σ β} (hp : Agree view seen p q)
    (hf : ∀ a, Agree view seen (f a) (g a)) : Agree view seen (p >>= f) (q >>= g) := by
  intro s t hview
  obtain ⟨hvalue, hlog, hstate⟩ := hp s t hview
  obtain ⟨hvalue', hlog', hstate'⟩ := hf (p.run s).value (p.run s).state (q.run t).state hstate
  rw [run_bind, run_bind, ← hvalue]
  exact ⟨hvalue', by rw [List.filter_append, List.filter_append, hlog, hlog'], hstate'⟩

/-- Two computations on the states read may rely on these looking the same. -/
theorem get_bind {f g : σ → Logged ε σ β} (h : ∀ s t, view s = view t → Agree view seen (f s) (g t)) :
    Agree view seen (Logged.get >>= f) (Logged.get >>= g) := by
  intro s t hview
  rw [run_bind, run_bind]
  exact h s t hview s t hview

end Agree

end effect.Logged
