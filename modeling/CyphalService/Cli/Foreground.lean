import CyphalService.Lib.Trace
import CyphalService.Lib.Watch
import CyphalService.Cli.Repl

open machine watch

namespace cyphal_service.cli

open commands

/-- The test at the head of every transport worker's loop. -/
def stop_requested (shutdown : Channel Bool) (seen : Nat) : Bool :=
  (shutdown.has_changed seen).toOption.getD true && shutdown.value

/-- The shutdown channel in foreground mode, with the receivers of `run_tasks`
(number 0) and of the transport workers, each held until its thread ends, and
what is left to the REPL. -/
structure Foreground where
  shutdown : Channel Bool
  repl : List Effect

/-- Every transport worker gets a clone of the first receiver. -/
def start_all : Nat → Channel Bool → Channel Bool
  | 0, shutdown => shutdown
  | transports + 1, shutdown => start_all transports (shutdown.clone 0)

def run (transports : Nat) (repl : List Effect) : Foreground where
  shutdown := start_all transports (channel false)
  repl

/-- Which thread goes on: the REPL with its next effect, `run_tasks` to look at
the channel, a worker to the head of its loop, or a worker that ends early. -/
inductive Move where
  | repl
  | run_tasks
  | worker (i : Nat)
  | fails (i : Nat)

def Effect.apply (shutdown : Channel Bool) : Effect → Channel Bool
  | .println _ => shutdown
  | .eprintln _ _ => shutdown
  | .add_history_entry _ => shutdown
  | .send value => (shutdown.send value).2
  | .returns => shutdown.drop_sender

/-- The end of a thread drops its receiver. -/
def Foreground.stop (s : Foreground) (i : Nat) : Foreground :=
  { s with shutdown := s.shutdown.drop_receiver i }

def step (s : Foreground) : Move → Option Effect × Foreground
  | .repl =>
    match s.repl with
    | [] => (none, s)
    | effect :: rest => (some effect, { shutdown := effect.apply s.shutdown, repl := rest })
  | .run_tasks =>
    match s.shutdown.receivers[0]? with
    | some (some seen) => (none, if (s.shutdown.changed seen).isSome then s.stop 0 else s)
    | _ => (none, s)
  | .worker i =>
    match s.shutdown.receivers[i + 1]? with
    | some (some seen) => (none, if stop_requested s.shutdown seen then s.stop (i + 1) else s)
    | _ => (none, s)
  | .fails i => (none, s.stop (i + 1))

/-- `repl_loop` has returned. -/
def Foreground.Returned (s : Foreground) : Prop :=
  s.shutdown.closed = true

/-- Worker `i` runs and has seen this version of the channel. -/
def Foreground.Running (s : Foreground) (i seen : Nat) : Prop :=
  s.shutdown.Live (i + 1) seen

/-- The workers are told to stop: the test of every worker that runs holds, and
one that comes to it from now on no longer runs. -/
structure Foreground.Stopping (s : Foreground) : Prop where
  value : s.shutdown.value = true
  told : ∀ i seen, s.Running i seen → stop_requested s.shutdown seen = true
  stops : ∀ later i, Move.worker i ∈ later → ∀ seen, ¬ (final step s later).Running i seen

/-- Everything one move can do. -/
inductive Transition (s : Foreground) : Move → Foreground → Prop where
  | idle {move : Move} : Transition s move s
  | effect {effect : Effect} {rest : List Effect} (h : s.repl = effect :: rest) :
      Transition s .repl { shutdown := effect.apply s.shutdown, repl := rest }
  | tasks_end {seen : Nat} (hlive : s.shutdown.Live 0 seen) (h : (s.shutdown.changed seen).isSome) :
      Transition s .run_tasks (s.stop 0)
  | worker_ends {i seen : Nat} (hlive : s.Running i seen) (h : stop_requested s.shutdown seen = true) :
      Transition s (.worker i) (s.stop (i + 1))
  | worker_fails {i : Nat} : Transition s (.fails i) (s.stop (i + 1))

theorem step_transition {s after : Foreground} {move : Move} {output : Option Effect}
    (h : step s move = (output, after)) : Transition s move after := by
  cases move with
  | repl =>
    rw [step] at h
    split at h
    · obtain ⟨-, rfl⟩ := Prod.mk.inj h
      exact .idle
    · next hrepl =>
      obtain ⟨-, rfl⟩ := Prod.mk.inj h
      exact .effect hrepl
  | run_tasks =>
    rw [step] at h
    split at h
    · next seen hlive =>
      obtain ⟨-, rfl⟩ := Prod.mk.inj h
      split
      · next hchanged => exact .tasks_end hlive hchanged
      · exact .idle
    · obtain ⟨-, rfl⟩ := Prod.mk.inj h
      exact .idle
  | worker i =>
    rw [step] at h
    split at h
    · next seen hlive =>
      obtain ⟨-, rfl⟩ := Prod.mk.inj h
      split
      · next hstop => exact .worker_ends hlive hstop
      · exact .idle
    · obtain ⟨-, rfl⟩ := Prod.mk.inj h
      exact .idle
  | fails i =>
    obtain ⟨-, rfl⟩ := Prod.mk.inj h
    exact .worker_fails

end cyphal_service.cli
