import CyphalService.Cli.Foreground

open machine watch

namespace cyphal_service.cli

open commands

/-- No signal yet; the REPL is still to send it. -/
structure Foreground.Waiting (s : Foreground) : Prop where
  value : s.shutdown.value = false
  version : s.shutdown.version = 0
  is_open : s.shutdown.closed = false
  run_tasks : s.shutdown.Live 0 0
  repl : Unsignalled s.repl

/-- The signal is sent, and the REPL has nothing left to do but to return. -/
structure Foreground.Signalled (s : Foreground) : Prop where
  value : s.shutdown.value = true
  version : s.shutdown.version = 1
  repl : ∀ effect ∈ s.repl, effect = .returns

/-- No receiver has seen the signal, which comes before the return. -/
structure Foreground.Informed (s : Foreground) : Prop where
  unseen : ∀ i seen, s.shutdown.Live i seen → seen = 0
  phase : s.Waiting ∨ s.Signalled

section Step

variable {s after : Foreground} {move : Move} {output : Option Effect} {effect : Effect}

theorem Effect.live_apply {shutdown : Channel Bool} {i seen : Nat} :
    (effect.apply shutdown).Live i seen ↔ shutdown.Live i seen := by
  cases effect with
  | println line => rfl
  | eprintln context e => rfl
  | add_history_entry entry => rfl
  | send value => exact Channel.live_send value
  | returns => exact Channel.live_drop_sender

theorem Effect.Quiet.apply_eq (h : effect.Quiet) (shutdown : Channel Bool) : effect.apply shutdown = shutdown := by
  cases effect with
  | println line => rfl
  | eprintln context e => rfl
  | add_history_entry entry => rfl
  | send value => exact h.elim
  | returns => exact h.elim

/-- No step makes a receiver or changes what one has seen. -/
theorem live_of_step (h : step s move = (output, after)) {i seen : Nat} (hlive : after.shutdown.Live i seen) :
    s.shutdown.Live i seen := by
  cases step_transition h with
  | idle => exact hlive
  | effect hrepl => exact Effect.live_apply.1 hlive
  | tasks_end htasks hchanged => exact (Channel.live_drop_receiver.1 hlive).2
  | worker_ends hrunning hstop => exact (Channel.live_drop_receiver.1 hlive).2
  | worker_fails => exact (Channel.live_drop_receiver.1 hlive).2

theorem Foreground.Waiting.perform {rest : List Effect} (h : s.Waiting) (hrepl : s.repl = effect :: rest) :
    Foreground.Waiting ⟨effect.apply s.shutdown, rest⟩ ∨ Foreground.Signalled ⟨effect.apply s.shutdown, rest⟩ := by
  have hunsignalled := hrepl ▸ h.repl
  cases hunsignalled with
  | goes_on hquiet hrest =>
    rw [hquiet.apply_eq]
    exact .inl ⟨h.value, h.version, h.is_open, h.run_tasks, hrest⟩
  | leaves =>
    -- `run_tasks` still holds its receiver, so that the value is stored.
    have hsend : (Effect.send true).apply s.shutdown =
        { s.shutdown with value := true, version := s.shutdown.version + 1 } :=
      congrArg Prod.snd (Channel.send_of_live h.run_tasks true)
    rw [hsend]
    refine .inr ⟨rfl, congrArg (· + 1) h.version, ?_⟩
    intro effect heffect
    exact List.mem_singleton.1 heffect

theorem Foreground.Waiting.unchanged (h : s.Waiting) : s.shutdown.changed 0 = none := by
  rw [Channel.changed, h.version, h.is_open]
  rfl

theorem Foreground.Waiting.stop (h : s.Waiting) (i : Nat) : (s.stop (i + 1)).Waiting where
  value := h.value
  version := h.version
  is_open := h.is_open
  run_tasks := Channel.live_drop_receiver.2 ⟨Nat.succ_ne_zero i, h.run_tasks⟩
  repl := h.repl

theorem Foreground.Signalled.perform {rest : List Effect} (h : s.Signalled) (hrepl : s.repl = effect :: rest) :
    Foreground.Signalled ⟨effect.apply s.shutdown, rest⟩ := by
  have hreturns := hrepl ▸ h.repl
  obtain rfl := hreturns effect (List.mem_cons_self ..)
  exact ⟨h.value, h.version, fun later hlater => hreturns later (List.mem_cons_of_mem _ hlater)⟩

theorem Foreground.Signalled.stop (h : s.Signalled) (i : Nat) : (s.stop i).Signalled :=
  ⟨h.value, h.version, h.repl⟩

theorem Foreground.Signalled.of_step (h : s.Signalled) (hstep : step s move = (output, after)) : after.Signalled := by
  cases step_transition hstep with
  | idle => exact h
  | effect hrepl => exact h.perform hrepl
  | tasks_end htasks hchanged => exact h.stop 0
  | worker_ends hrunning hstop => exact h.stop _
  | worker_fails => exact h.stop _

theorem Foreground.Informed.of_step (h : s.Informed) (hstep : step s move = (output, after)) : after.Informed := by
  refine ⟨fun i seen hlive => h.unseen i seen (live_of_step hstep hlive), ?_⟩
  obtain hwaiting | hsignalled := h.phase
  · cases step_transition hstep with
    | idle => exact .inl hwaiting
    | effect hrepl => exact hwaiting.perform hrepl
    | tasks_end htasks hchanged =>
      obtain rfl := h.unseen 0 _ htasks
      rw [hwaiting.unchanged] at hchanged
      cases hchanged
    | worker_ends hrunning hstop => exact .inl (hwaiting.stop _)
    | worker_fails => exact .inl (hwaiting.stop _)
  · exact .inr (hsignalled.of_step hstep)

/-- Open or closed, the channel passes the test of a worker that has not seen the signal. -/
theorem Foreground.Signalled.stop_requested (h : s.Signalled) : stop_requested s.shutdown 0 = true := by
  rw [cli.stop_requested, h.value, Channel.has_changed, h.version]
  cases s.shutdown.closed with
  | false => rfl
  | true => rfl

theorem Foreground.Signalled.not_running (h : s.Signalled) (hinformed : s.Informed) (i seen : Nat) :
    ¬ (step s (.worker i)).2.Running i seen := by
  rw [step]
  split
  · next found hlive =>
    obtain rfl := hinformed.unseen (i + 1) found hlive
    rw [h.stop_requested]
    intro hrunning
    exact (Channel.live_drop_receiver.1 hrunning).1 rfl
  · next hnone => exact hnone seen

theorem running_of_final (moves : List Move) {i seen : Nat} (h : (final step s moves).Running i seen) :
    s.Running i seen := by
  induction moves generalizing s with
  | nil => exact h
  | cons move moves ih => exact live_of_step rfl (ih h)

/-- After the signal, a worker that comes to its test ends. -/
theorem Foreground.Signalled.stops (h : s.Signalled) (hinformed : s.Informed) (later : List Move) {i : Nat}
    (hmem : Move.worker i ∈ later) (seen : Nat) : ¬ (final step s later).Running i seen := by
  induction later generalizing s with
  | nil => cases hmem
  | cons move later ih =>
    obtain rfl | hlater := List.mem_cons.1 hmem
    · intro hrunning
      exact h.not_running hinformed i seen (running_of_final later hrunning)
    · exact ih (h.of_step rfl) (hinformed.of_step rfl) hlater

theorem Foreground.Signalled.stopping (h : s.Signalled) (hinformed : s.Informed) : s.Stopping where
  value := h.value
  told i seen hrunning := by
    obtain rfl := hinformed.unseen (i + 1) seen hrunning
    exact h.stop_requested
  stops later _ hmem seen := h.stops hinformed later hmem seen

end Step

section Run

variable (transports : Nat) (registry : CommandRegistry) (outcomes : List (Except ReadlineError String))

/-- The clones have seen no more than the first receiver. -/
theorem start_all_unseen {shutdown : Channel Bool} (hfirst : shutdown.Live 0 0)
    (h : ∀ i seen, shutdown.Live i seen → seen = 0) :
    (start_all transports shutdown).Live 0 0 ∧
      ∀ i seen, (start_all transports shutdown).Live i seen → seen = 0 := by
  induction transports generalizing shutdown with
  | zero => exact ⟨hfirst, h⟩
  | succ transports ih =>
    apply ih
    · exact Channel.live_clone_of_live hfirst
    · intro i seen hlive
      obtain ⟨k, hk⟩ := Channel.exists_live_of_clone hlive
      exact h k seen hk

theorem start_all_frame (shutdown : Channel Bool) :
    (start_all transports shutdown).value = shutdown.value ∧
      (start_all transports shutdown).version = shutdown.version ∧
      (start_all transports shutdown).closed = shutdown.closed := by
  induction transports generalizing shutdown with
  | zero => exact ⟨rfl, rfl, rfl⟩
  | succ transports ih => exact ih (shutdown.clone 0)

theorem informed_run : (run transports (repl_turns registry outcomes)).Informed := by
  have hchannel : ∀ i seen, (channel false).Live i seen → seen = 0 := by
    intro i seen hlive
    have hmem := List.mem_singleton.1 (List.mem_of_getElem? hlive)
    exact Option.some.inj hmem
  obtain ⟨hfirst, hunseen⟩ := start_all_unseen transports (show (channel false).Live 0 0 from rfl) hchannel
  obtain ⟨hvalue, hversion, hclosed⟩ := start_all_frame transports (channel false)
  exact ⟨hunseen, .inl ⟨hvalue, hversion, hclosed, hfirst, unsignalled_repl_turns registry outcomes⟩⟩

/-- Whenever the REPL has returned, the workers are told to stop, exactly when the
line editor was created. -/
theorem repl_loop_stops_workers_iff (editor : Except ReadlineError Unit) :
    (∀ moves, let s := final step (run transports (repl_loop registry editor outcomes)) moves
      s.Returned → s.Stopping) ↔ editor = .ok () := by
  cases editor with
  | ok created =>
    refine iff_of_true ?_ rfl
    intro moves s hreturned
    have hinformed : s.Informed := invariant_of_step (fun _ (s : Foreground) => s.Informed)
      (informed_run transports registry outcomes) (fun _ _ _ _ _ hstep hpre => hpre.of_step hstep) moves
    obtain hwaiting | hsignalled := hinformed.phase
    · have hclosed : s.shutdown.closed = true := hreturned
      rw [hwaiting.is_open] at hclosed
      cases hclosed
    · exact hsignalled.stopping hinformed
  | error e =>
    refine iff_of_false ?_ fun h => nomatch h
    intro h
    -- The message and the return are all that the REPL does.
    have hvalue := (h [.repl, .repl] rfl).value
    obtain ⟨hfalse, -, -⟩ := start_all_frame transports (channel false)
    have hkept : (start_all transports (channel false)).value = true := hvalue
    rw [hfalse] at hkept
    cases hkept

end Run

/-- Without a line editor, a worker is left running on a channel that is closed
and still holds `false`. -/
theorem repl_loop_stops_workers_fails :
    ¬ ∀ moves, let s := final step (run 1 (repl_loop .new (.error (.Other "no terminal")) [])) moves
      s.Returned → s.Stopping := by
  intro h
  have hstopping := h [.repl, .repl, .worker 0] rfl
  exact absurd (hstopping.told 0 0 rfl) (by decide)

end cyphal_service.cli
