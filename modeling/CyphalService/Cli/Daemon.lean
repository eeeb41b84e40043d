import CyphalService.Cli.Shutdown

open machine watch

namespace cyphal_service.daemon

open cli

/-- What `run` waits for: a signal, or the end of `run_tasks`. -/
inductive Awaiting where
  | shutdown_signal
  | tasks
  | returned
  deriving DecidableEq

/-- The shutdown channel in daemon mode, with the receivers of `run_tasks` (number
0) and of the transport workers, and where `run` is. -/
structure Daemon where
  shutdown : Channel Bool
  run : Awaiting

def run (transports : Nat) : Daemon where
  shutdown := start_all transports (channel false)
  run := .shutdown_signal

/-- Which thread goes on: `run` on a SIGTERM or SIGINT, `run` to look whether
`run_tasks` has ended, `run_tasks` to look at the channel, a worker to the head of
its loop, or a worker that ends early. -/
inductive Move where
  | signal
  | run
  | run_tasks
  | worker (i : Nat)
  | fails (i : Nat)
  deriving DecidableEq

def Daemon.stop (s : Daemon) (i : Nat) : Daemon :=
  { s with shutdown := s.shutdown.drop_receiver i }

/-- `run_tasks` holds its receiver until it ends. -/
def Daemon.tasks_running (s : Daemon) : Bool := s.shutdown.receivers[0]?.join.isSome

def step (s : Daemon) : Move → Unit × Daemon
  | .signal =>
    match s.run with
    | .shutdown_signal => ((), { shutdown := (s.shutdown.send true).2, run := .tasks })
    | _ => ((), s)
  | .run =>
    match s.run with
    | .tasks =>
      ((), if s.tasks_running then s else { shutdown := s.shutdown.drop_sender, run := .returned })
    | _ => ((), s)
  | .run_tasks =>
    match s.shutdown.receivers[0]? with
    | some (some seen) => ((), if (s.shutdown.changed seen).isSome then s.stop 0 else s)
    | _ => ((), s)
  | .worker i =>
    match s.shutdown.receivers[i + 1]? with
    | some (some seen) => ((), if stop_requested s.shutdown seen then s.stop (i + 1) else s)
    | _ => ((), s)
  | .fails i => ((), s.stop (i + 1))

/-- Daemon mode as foreground mode with a REPL that has only the effects after its
loop left to do. -/
def Daemon.foreground (s : Daemon) : Foreground where
  shutdown := s.shutdown
  repl :=
    match s.run with
    | .shutdown_signal => after_loop
    | .tasks => [.returns]
    | .returned => []

/-- A move in daemon mode is one in foreground mode or none. -/
theorem step_foreground (s : Daemon) (move : Move) :
    (step s move).2.foreground = s.foreground ∨
      ∃ simulated, (step s move).2.foreground = (cli.step s.foreground simulated).2 := by
  cases move with
  | signal =>
    rw [step]
    split
    · next hrun =>
      refine .inr ⟨.repl, ?_⟩
      rw [Daemon.foreground, Daemon.foreground, hrun]
      rfl
    · exact .inl rfl
  | run =>
    rw [step]
    split
    · next hrun =>
      dsimp only
      split
      · exact .inl rfl
      · refine .inr ⟨.repl, ?_⟩
        rw [Daemon.foreground, Daemon.foreground, hrun]
        rfl
    · exact .inl rfl
  | run_tasks =>
    refine .inr ⟨.run_tasks, ?_⟩
    have hshutdown : s.foreground.shutdown.receivers[0]? = s.shutdown.receivers[0]? := rfl
    simp only [step, cli.step, hshutdown]
    rcases s.shutdown.receivers[0]? with _ | _ | seen
    · rfl
    · rfl
    · exact apply_ite Daemon.foreground ((s.shutdown.changed seen).isSome = true) _ _
  | worker i =>
    refine .inr ⟨.worker i, ?_⟩
    have hshutdown : s.foreground.shutdown.receivers[i + 1]? = s.shutdown.receivers[i + 1]? := rfl
    simp only [step, cli.step, hshutdown]
    rcases s.shutdown.receivers[i + 1]? with _ | _ | seen
    · rfl
    · rfl
    · exact apply_ite Daemon.foreground (stop_requested s.shutdown seen = true) _ _
  | fails i => exact .inr ⟨.fails i, rfl⟩

section Step

variable {s after : Daemon} {move : Move}

/-- What a move does to where `run` is. -/
inductive Progress (s : Daemon) : Move → Daemon → Prop where
  | signalled (hrun : s.run = .shutdown_signal) :
      Progress s .signal { shutdown := (s.shutdown.send true).2, run := .tasks }
  | returns (hrun : s.run = .tasks) (hended : s.tasks_running = false) :
      Progress s .run { shutdown := s.shutdown.drop_sender, run := .returned }
  | stays {move : Move} {shutdown : Channel Bool} (hsignal : move = .signal → s.run ≠ .shutdown_signal)
      (hvalue : shutdown.value = s.shutdown.value)
      (hlive : ∀ i seen, shutdown.Live i seen → s.shutdown.Live i seen) :
      Progress s move { s with shutdown }

theorem step_progress (s : Daemon) (move : Move) : Progress s move (step s move).2 := by
  have hkept : ∀ move : Move, (move = .signal → s.run ≠ .shutdown_signal) → Progress s move s :=
    fun move hsignal => .stays hsignal rfl fun _ _ hlive => hlive
  have hstopped : ∀ (move : Move) i, move ≠ .signal → Progress s move (s.stop i) := by
    intro move i hmove
    refine .stays (fun hsignal => absurd hsignal hmove) rfl ?_
    exact fun _ _ hlive => (Channel.live_drop_receiver.1 hlive).2
  cases move with
  | signal =>
    rw [step]
    split
    · next hrun => exact .signalled hrun
    · next hrun => exact hkept _ fun _ => hrun
  | run =>
    rw [step]
    split
    · next hrun =>
      dsimp only
      split
      · exact hkept _ nofun
      · next hended => exact .returns hrun (eq_false_of_ne_true hended)
    · exact hkept _ nofun
  | run_tasks =>
    rw [step]
    split
    · dsimp only
      split
      · exact hstopped _ 0 nofun
      · exact hkept _ nofun
    · exact hkept _ nofun
  | worker i =>
    rw [step]
    split
    · dsimp only
      split
      · exact hstopped _ _ nofun
      · exact hkept _ nofun
    · exact hkept _ nofun
  | fails i => exact hstopped _ _ nofun

theorem tasks_running_eq_false_iff : s.tasks_running = false ↔ ∀ seen, ¬ s.shutdown.Live 0 seen := by
  rw [Daemon.tasks_running, Option.isSome_eq_false_iff, Option.isNone_iff_eq_none, Option.eq_none_iff_forall_ne_some]
  refine forall_congr' fun seen => not_congr ?_
  rw [Option.join_eq_some_iff]
  rfl

end Step

/-- No move makes a receiver or changes what one has seen. -/
theorem live_of_move (s : Daemon) (move : Move) {i seen : Nat} (hlive : (step s move).2.shutdown.Live i seen) :
    s.shutdown.Live i seen := by
  have hprogress := step_progress s move
  generalize (step s move).2 = after at hprogress hlive
  cases hprogress with
  | signalled hrun => exact (Channel.live_send true).1 hlive
  | returns hrun hended => exact Channel.live_drop_sender.1 hlive
  | stays hsignal hvalue hkept => exact hkept i seen hlive

theorem live_of_moves (s : Daemon) (moves : List Move) {i seen : Nat}
    (hlive : (final step s moves).shutdown.Live i seen) : s.shutdown.Live i seen := by
  induction moves generalizing s with
  | nil => exact hlive
  | cons move moves ih => exact live_of_move s move (ih _ hlive)

theorem informed_of_move (s : Daemon) (move : Move) (h : s.foreground.Informed) :
    (step s move).2.foreground.Informed := by
  obtain hsame | ⟨simulated, hstep⟩ := step_foreground s move
  · rw [hsame]
    exact h
  · rw [hstep]
    exact h.of_step rfl

/-- The signal is sent, and no thread has seen it that still runs. -/
structure Daemon.Told (s : Daemon) : Prop where
  informed : s.foreground.Informed
  signalled : s.foreground.Signalled
  run : s.run ≠ .shutdown_signal

theorem Daemon.Told.of_move {s : Daemon} (h : s.Told) (move : Move) : (step s move).2.Told := by
  refine ⟨informed_of_move s move h.informed, ?_, ?_⟩
  · obtain hsame | ⟨simulated, hstep⟩ := step_foreground s move
    · rw [hsame]
      exact h.signalled
    · rw [hstep]
      exact h.signalled.of_step rfl
  · have hprogress := step_progress s move
    generalize (step s move).2 = after at hprogress
    cases hprogress with
    | signalled hrun => exact absurd hrun h.run
    | returns hrun hended => exact nofun
    | stays hsignal hvalue hlive => exact h.run

theorem Daemon.Told.of_moves {s : Daemon} (h : s.Told) (moves : List Move) : (final step s moves).Told := by
  induction moves generalizing s with
  | nil => exact h
  | cons move moves ih => exact ih (h.of_move move)

/-- A worker that comes to its test ends. -/
theorem Daemon.Told.worker_ends {s : Daemon} (h : s.Told) (i seen : Nat) :
    ¬ (step s (.worker i)).2.shutdown.Live (i + 1) seen := by
  rw [step]
  split
  · next found hlive =>
    obtain rfl := h.informed.unseen (i + 1) found hlive
    have hstop : stop_requested s.shutdown 0 = true := h.signalled.stop_requested
    rw [if_pos hstop]
    intro hrunning
    exact (Channel.live_drop_receiver.1 hrunning).1 rfl
  · next hnone => exact hnone seen

/-- `run_tasks` ends when it looks at the channel. -/
theorem Daemon.Told.tasks_end {s : Daemon} (h : s.Told) (seen : Nat) :
    ¬ (step s .run_tasks).2.shutdown.Live 0 seen := by
  rw [step]
  split
  · next found hlive =>
    obtain rfl := h.informed.unseen 0 found hlive
    have hversion : s.shutdown.version = 1 := h.signalled.version
    have hchanged : (s.shutdown.changed 0).isSome = true := by
      rw [Channel.changed, hversion]
      rfl
    rw [if_pos hchanged]
    intro hrunning
    exact (Channel.live_drop_receiver.1 hrunning).1 rfl
  · next hnone => exact hnone seen

/-- A worker that comes to its test at any later move has ended. -/
theorem Daemon.Told.stops {s : Daemon} (h : s.Told) {later : List Move} {i : Nat} (hmem : .worker i ∈ later)
    (seen : Nat) : ¬ (final step s later).shutdown.Live (i + 1) seen := by
  obtain ⟨first, second, rfl⟩ := List.append_of_mem hmem
  rw [final_append]
  intro hlive
  exact (h.of_moves first).worker_ends i seen (live_of_moves _ second hlive)

abbrev DaemonStep := machine.Step Daemon Move Unit

/-- The state of a daemon on its history: what foreground mode guarantees, whether
the signal has come, and that `run` returns after `run_tasks`. -/
structure DaemonInv (before : List DaemonStep) (s : Daemon) : Prop where
  informed : s.foreground.Informed
  signalled : s.run ≠ .shutdown_signal ↔ Occurred (·.input = .signal) before
  value : s.shutdown.value = true ↔ s.run ≠ .shutdown_signal
  ended : s.run = .returned → s.tasks_running = false

theorem DaemonInv.step {before : List DaemonStep} {pre post : Daemon} {move : Move} {output : Unit}
    (h : step pre move = (output, post)) (hinv : DaemonInv before pre) :
    DaemonInv (before ++ [⟨pre, move, output, post⟩]) post := by
  have hpost : (daemon.step pre move).2 = post := congrArg Prod.snd h
  have hinformed := informed_of_move pre move hinv.informed
  have hprogress := step_progress pre move
  rw [hpost] at hinformed hprogress
  refine ⟨hinformed, ?_, ?_, ?_⟩
  · rw [occurred_snoc, ← hinv.signalled]
    cases hprogress with
    | signalled hrun => simp
    | returns hrun hended => simp [hrun]
    | stays hsignal hvalue hlive => exact (or_iff_left_of_imp hsignal).symm
  · cases hprogress with
    | signalled hrun =>
      -- `run_tasks` still holds its receiver, so that the value is stored
      have hlive : pre.shutdown.Live 0 0 := by
        obtain hwaiting | hsignalled := hinv.informed.phase
        · exact hwaiting.run_tasks
        · rw [Daemon.foreground, hrun] at hsignalled
          cases hsignalled.repl (.send true) (List.mem_cons_self ..)
      rw [Channel.send_of_live hlive]
      simp
    | returns hrun hended =>
      have hvalue : pre.shutdown.value = true := hinv.value.2 (by simp [hrun])
      simpa [Channel.drop_sender] using hvalue
    | stays hsignal hvalue hlive =>
      rw [hvalue]
      exact hinv.value
  · intro hreturned
    cases hprogress with
    | signalled hrun => cases hreturned
    | returns hrun hended => exact hended
    | stays hsignal hvalue hlive =>
      have hended := tasks_running_eq_false_iff.1 (hinv.ended hreturned)
      exact tasks_running_eq_false_iff.2 fun seen hrunning => hended seen (hlive 0 seen hrunning)

theorem DaemonInv.told {before : List DaemonStep} {s : Daemon} (hinv : DaemonInv before s)
    (hrun : s.run ≠ .shutdown_signal) : s.Told := by
  refine ⟨hinv.informed, ?_, hrun⟩
  obtain hwaiting | hsignalled := hinv.informed.phase
  · have hfalse : s.shutdown.value = false := hwaiting.value
    rw [hinv.value.2 hrun] at hfalse
    cases hfalse
  · exact hsignalled

/-- Before its first move a daemon is foreground mode after a loop that is over. -/
theorem DaemonInv.init (transports : Nat) : DaemonInv [] (run transports) := by
  obtain ⟨hvalue, -, -⟩ := start_all_frame transports (channel false)
  have hfalse : (run transports).shutdown.value = false := hvalue
  obtain ⟨hunseen, hphase⟩ := informed_run transports .new []
  refine ⟨⟨hunseen, .inl ?_⟩, ?_, ?_, ?_⟩
  · obtain hwaiting | hsignalled := hphase
    · exact ⟨hwaiting.value, hwaiting.version, hwaiting.is_open, hwaiting.run_tasks, .leaves⟩
    · have htrue : (run transports).shutdown.value = true := hsignalled.value
      rw [hfalse] at htrue
      cases htrue
  · refine iff_of_false (fun hrun => hrun rfl) not_occurred_nil
  · rw [hfalse]
    exact iff_of_false nofun fun hrun => hrun rfl
  · exact nofun

end cyphal_service.daemon

namespace cyphal_service.cli

open commands

/-- What holds in foreground mode whether or not the line editor was created: no
receiver has seen the signal, and it is `true` that is sent. -/
structure Foreground.Unseen (s : Foreground) : Prop where
  unseen : ∀ i seen, s.shutdown.Live i seen → seen = 0
  version : s.shutdown.version ≠ 0 ↔ s.shutdown.value = true
  sends : ∀ value, .send value ∈ s.repl → value = true

theorem Unsignalled.sends {effects : List Effect} (h : Unsignalled effects) :
    ∀ value, .send value ∈ effects → value = true := by
  induction h with
  | waits => exact nofun
  | leaves => simp [after_loop]
  | goes_on hquiet hrest ih =>
    intro value hmem
    obtain rfl | hlater := List.mem_cons.1 hmem
    · exact hquiet.elim
    · exact ih value hlater

/-- The effects of the REPL send no other value than `true`, however it starts. -/
theorem sends_of_repl_loop (registry : CommandRegistry) (editor : Except ReadlineError Unit)
    (outcomes : List (Except ReadlineError String)) :
    ∀ value, .send value ∈ repl_loop registry editor outcomes → value = true := by
  cases editor with
  | error e => simp [repl_loop]
  | ok created => exact (unsignalled_repl_turns registry outcomes).sends

section Step

variable {s after : Foreground} {move : Move} {output : Option Effect}

theorem Foreground.Unseen.of_step (h : s.Unseen) (hstep : step s move = (output, after)) : after.Unseen := by
  have hunseen : ∀ i seen, after.shutdown.Live i seen → seen = 0 :=
    fun i seen hlive => h.unseen i seen (live_of_step hstep hlive)
  cases step_transition hstep with
  | idle => exact h
  | tasks_end hlive hchanged => exact ⟨hunseen, h.version, h.sends⟩
  | worker_ends hlive hstop => exact ⟨hunseen, h.version, h.sends⟩
  | worker_fails => exact ⟨hunseen, h.version, h.sends⟩
  | @effect effect rest hrepl =>
    have hsends : ∀ value, .send value ∈ rest → value = true := by
      intro value hmem
      exact h.sends value (hrepl ▸ List.mem_cons_of_mem effect hmem)
    refine ⟨hunseen, ?_, hsends⟩
    cases effect with
    | println line => exact h.version
    | eprintln context e => exact h.version
    | add_history_entry entry => exact h.version
    | returns => exact h.version
    | send value =>
      have hvalue := h.sends value (hrepl ▸ List.mem_cons_self ..)
      rw [Effect.apply, Channel.send]
      split
      · exact h.version
      · exact iff_of_true (Nat.succ_ne_zero _) hvalue

/-- `run_tasks` has something to see exactly when the signal is sent or the REPL has
returned. -/
theorem Foreground.Unseen.changed_iff (h : s.Unseen) :
    (s.shutdown.changed 0).isSome = true ↔ s.shutdown.value = true ∨ s.Returned := by
  rw [← h.version, Channel.changed, Foreground.Returned]
  split
  · next hversion => exact iff_of_true rfl (.inl hversion)
  · next hversion =>
    split
    · next hclosed => exact iff_of_true rfl (.inr hclosed)
    · next hopen => exact iff_of_false Bool.false_ne_true fun hor => hor.elim hversion hopen

theorem Foreground.Unseen.of_moves (h : s.Unseen) (moves : List Move) : (final step s moves).Unseen := by
  induction moves generalizing s with
  | nil => exact h
  | cons move moves ih => exact ih (h.of_step rfl)

theorem live_of_moves (moves : List Move) {i seen : Nat} (h : (final step s moves).shutdown.Live i seen) :
    s.shutdown.Live i seen := by
  induction moves generalizing s with
  | nil => exact h
  | cons move moves ih => exact live_of_step rfl (ih h)

theorem returned_of_moves (h : s.Returned) (moves : List Move) : (final step s moves).Returned := by
  induction moves generalizing s with
  | nil => exact h
  | cons move moves ih =>
    refine ih ?_
    have hstep : Transition s move (step s move).2 := step_transition rfl
    generalize (step s move).2 = after at hstep
    cases hstep with
    | idle => exact h
    | tasks_end hlive hchanged => exact h
    | worker_ends hlive hstop => exact h
    | worker_fails => exact h
    | @effect effect rest hrepl =>
      cases effect with
      | println line => exact h
      | eprintln context e => exact h
      | add_history_entry entry => exact h
      | returns => rfl
      | send value =>
        have hclosed : s.shutdown.closed = true := h
        rw [Foreground.Returned, Effect.apply, Channel.send]
        split
        · exact hclosed
        · exact hclosed

end Step

/-- However the REPL starts and ends, `run_tasks` ends at a look at the channel
exactly after the signal or the return of the REPL: so that `run` comes to its end
even without a line editor, for which no signal is sent. -/
theorem run_tasks_ends (transports : Nat) (registry : CommandRegistry) (editor : Except ReadlineError Unit)
    (outcomes : List (Except ReadlineError String)) (moves : List Move) :
    let s := final step (run transports (repl_loop registry editor outcomes)) moves
    (∀ seen, s.shutdown.Live 0 seen →
      ((∀ later, ¬ (step s .run_tasks).2.shutdown.Live 0 later) ↔ s.shutdown.value = true ∨ s.Returned)) ∧
    (s.Returned → ∀ later, .run_tasks ∈ later → ∀ seen, ¬ (final step s later).shutdown.Live 0 seen) := by
  have hstart : (run transports (repl_loop registry editor outcomes)).Unseen := by
    obtain ⟨hvalue, hversion, -⟩ := start_all_frame transports (channel false)
    refine ⟨(informed_run transports registry []).unseen, ?_, sends_of_repl_loop registry editor outcomes⟩
    rw [run, hvalue, hversion]
    exact iff_of_false (fun h => h rfl) nofun
  have hunseen := hstart.of_moves moves
  generalize final step (run transports (repl_loop registry editor outcomes)) moves = s at hunseen
  have hlook : ∀ s : Foreground, s.Unseen → ∀ seen, s.shutdown.Live 0 seen →
      ((∀ later, ¬ (step s .run_tasks).2.shutdown.Live 0 later) ↔ s.shutdown.value = true ∨ s.Returned) := by
    intro s hs seen hlive
    obtain rfl := hs.unseen 0 seen hlive
    have hreceiver : s.shutdown.receivers[0]? = some (some 0) := hlive
    rw [← hs.changed_iff, step]
    simp only [hreceiver]
    split
    · next hchanged =>
      exact iff_of_true (fun later hrunning => (Channel.live_drop_receiver.1 hrunning).1 rfl) hchanged
    · next hchanged => exact iff_of_false (fun hall => hall 0 hlive) hchanged
  refine ⟨hlook s hunseen, ?_⟩
  intro hreturned later hmem seen hlive
  obtain ⟨first, second, rfl⟩ := List.append_of_mem hmem
  rw [final_append, final] at hlive
  have hended := live_of_moves second hlive
  have hbefore := live_of_moves (.run_tasks :: second) hlive
  have hlooked := (hlook _ (hunseen.of_moves first) seen hbefore).2 (.inr (returned_of_moves hreturned first))
  exact hlooked seen hended

end cyphal_service.cli
