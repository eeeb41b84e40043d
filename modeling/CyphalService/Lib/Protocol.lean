import CyphalService.Lib.Program

namespace effect

/-- An order on the operations of a program: what it may perform given what it
knows, and what it learns from each reply. -/
structure Protocol (Op : Type) (Reply : Op → Type) (γ : Type) where
  may : γ → Op → Prop
  learn : γ → (op : Op) → Reply op → γ

namespace Program

variable {Op : Type} {Reply : Op → Type} {α β γ : Type}

/-- Started with some knowledge and whatever the replies are, the program
performs only what the protocol allows, and ends in the postcondition. -/
def Obeys (protocol : Protocol Op Reply γ) (P : α → γ → Prop) : Program Op Reply α → γ → Prop
  | .pure value, known => P value known
  | .perform op next, known =>
    protocol.may known op ∧ ∀ reply, (next reply).Obeys protocol P (protocol.learn known op reply)

variable {protocol : Protocol Op Reply γ} {P : α → γ → Prop} {known : γ}

theorem Obeys.pure {value : α} (h : P value known) :
    (Pure.pure value : Program Op Reply α).Obeys protocol P known := h

theorem Obeys.ask {op : Op} {P : Reply op → γ → Prop} (hmay : protocol.may known op)
    (hpost : ∀ reply, P reply (protocol.learn known op reply)) :
    (Program.ask op : Program Op Reply (Reply op)).Obeys protocol P known :=
  ⟨hmay, hpost⟩

theorem Obeys.bind {Q : β → γ → Prop} {program : Program Op Reply α} {f : α → Program Op Reply β}
    (h : program.Obeys protocol P known)
    (hf : ∀ value known, P value known → (f value).Obeys protocol Q known) :
    (program >>= f).Obeys protocol Q known := by
  change (program.bind f).Obeys protocol Q known
  induction program generalizing known with
  | pure value => exact hf _ _ h
  | perform op next ih => exact ⟨h.1, fun reply => ih reply (h.2 reply)⟩

theorem Obeys.mono {Q : α → γ → Prop} {program : Program Op Reply α} (h : program.Obeys protocol P known)
    (hpost : ∀ value known, P value known → Q value known) : program.Obeys protocol Q known := by
  induction program generalizing known with
  | pure value => exact hpost _ _ h
  | perform op next ih => exact ⟨h.1, fun reply => ih reply (h.2 reply)⟩

end Program

end effect
