import CyphalService.Cli.Commands

open text

namespace cyphal_service.cli

open commands

/-- The errors of the line editor. -/
inductive ReadlineError where
  | Interrupted
  | Eof
  | Other (description : String)
  deriving DecidableEq

/-- What the REPL does outside of its own state; when it returns, its end of the
shutdown channel is dropped. -/
inductive Effect where
  | println (line : String)
  | eprintln (context : String) (e : ReadlineError)
  | add_history_entry (entry : String)
  | send (value : Bool)
  | returns
  deriving DecidableEq

/-- The effects after the loop. -/
def after_loop : List Effect :=
  [.send true, .returns]

/-- The effects of the loop on the lines and errors that `readline` gives. Where
these end inside the loop, the REPL waits for the next one. -/
def repl_turns (registry : CommandRegistry) : List (Except ReadlineError String) → List Effect
  | [] => []
  | .ok line :: outcomes =>
    let trimmed := String.ofList (trim line.toList)
    if trimmed = "" then repl_turns registry outcomes
    else
      .add_history_entry trimmed ::
        if trimmed = "quit" ∨ trimmed = "exit" then .println "Goodbye." :: after_loop
        else if trimmed = "help" then
          .println (format_help registry.list) :: repl_turns registry outcomes
        else
          match registry.dispatch trimmed with
          | some output => .println output :: repl_turns registry outcomes
          | none => repl_turns registry outcomes
  | .error .Interrupted :: _ => .println "Goodbye." :: after_loop
  | .error .Eof :: _ => .println "Goodbye." :: after_loop
  | .error e :: _ => .eprintln "REPL error: " e :: after_loop

/-- The effects of the REPL, in order, for the outcomes of creating the line
editor and of reading lines. -/
def repl_loop (registry : CommandRegistry) (editor : Except ReadlineError Unit)
    (outcomes : List (Except ReadlineError String)) : List Effect :=
  match editor with
  | .error e => [.eprintln "REPL initialisation error: " e, .returns]
  | .ok () => repl_turns registry outcomes

/-- The registry answers every line that the loop hands to it. -/
theorem dispatch_trimmed_ne_none (registry : CommandRegistry) {line : String}
    (h : String.ofList (trim line.toList) ≠ "") : registry.dispatch (String.ofList (trim line.toList)) ≠ none := by
  intro hnone
  rw [CommandRegistry.dispatch_eq_none_iff, String.toList_ofList] at hnone
  have hne : trim line.toList ≠ [] := fun hnil => h (congrArg String.ofList hnil)
  obtain ⟨c, hc, hword⟩ := exists_not_whitespace_of_trim hne
  rw [hnone c hc] at hword
  cases hword

/-- Effects on the terminal only. -/
def Effect.Quiet : Effect → Prop
  | .println _ => True
  | .eprintln _ _ => True
  | .add_history_entry _ => True
  | .send _ => False
  | .returns => False

/-- The effects that are left to a REPL that has not signalled the shutdown yet
and does so before it returns. -/
inductive Unsignalled : List Effect → Prop where
  | waits : Unsignalled []
  | leaves : Unsignalled after_loop
  | goes_on {effect : Effect} {rest : List Effect} (quiet : effect.Quiet) (h : Unsignalled rest) :
      Unsignalled (effect :: rest)

theorem unsignalled_goodbye (effect : Effect) (quiet : effect.Quiet) : Unsignalled (effect :: after_loop) :=
  .goes_on quiet .leaves

/-- However the loop ends, the signal comes before the return. -/
theorem unsignalled_repl_turns (registry : CommandRegistry) (outcomes : List (Except ReadlineError String)) :
    Unsignalled (repl_turns registry outcomes) := by
  induction outcomes with
  | nil => exact .waits
  | cons outcome outcomes ih =>
    cases outcome with
    | error e =>
      cases e with
      | Interrupted => exact unsignalled_goodbye _ trivial
      | Eof => exact unsignalled_goodbye _ trivial
      | Other description => exact unsignalled_goodbye _ trivial
    | ok line =>
      rw [repl_turns]
      split
      · exact ih
      apply Unsignalled.goes_on
      · trivial
      split
      · exact unsignalled_goodbye _ trivial
      split
      · exact .goes_on trivial ih
      cases registry.dispatch (String.ofList (trim line.toList)) with
      | none => exact ih
      | some output => exact .goes_on trivial ih

end cyphal_service.cli
