import Mathlib.Data.List.Sort
import Mathlib.Data.String.Basic
import CyphalService.Lib.Text

open text

namespace cyphal_service.commands

/-- A command that can be registered with and executed via the registry. -/
structure Command where
  name : String
  description : String
  execute : List String → String

set_option linter.dupNamespace false in
/-- Holds all registered commands, one for each name. -/
structure CommandRegistry where
  commands : List Command
  names_nodup : (commands.map (·.name)).Nodup

namespace CommandRegistry

def new : CommandRegistry where
  commands := []
  names_nodup := List.nodup_nil

/-- The command is keyed by its name. -/
def register (registry : CommandRegistry) (cmd : Command) : CommandRegistry where
  commands := cmd :: registry.commands.filter fun other => other.name != cmd.name
  names_nodup := by
    rw [List.map_cons, List.nodup_cons]
    constructor
    · simp
    · exact registry.names_nodup.sublist (List.filter_sublist.map _)

def get (registry : CommandRegistry) (cmd_name : String) : Option Command :=
  registry.commands.find? fun cmd => cmd.name == cmd_name

/-- Answer a raw input line, unless it is empty. -/
def dispatch (registry : CommandRegistry) (line : String) : Option String :=
  match (split_whitespace line.toList).map String.ofList with
  | [] => none
  | cmd_name :: args =>
    match registry.get cmd_name with
    | some cmd => some (cmd.execute args)
    | none => some ("Unknown command: '" ++ cmd_name ++ "'.  Type 'help' for available commands.")

/-- A sorted list of (name, description) pairs for every registered command. -/
def list (registry : CommandRegistry) : List (String × String) :=
  (registry.commands.map fun cmd => (cmd.name, cmd.description)).insertionSort fun a b => a.1 ≤ b.1

theorem get_register (registry : CommandRegistry) (cmd : Command) (cmd_name : String) :
    (registry.register cmd).get cmd_name = if cmd.name = cmd_name then some cmd else registry.get cmd_name := by
  rw [get, register, List.find?_cons]
  by_cases hname : cmd.name = cmd_name
  · simp [hname]
  · have hkept : ∀ other : Command,
        decide ((other.name != cmd.name) = true ∧ (other.name == cmd_name) = true) = (other.name == cmd_name) := by
      intro other
      by_cases hother : other.name = cmd_name
      · simp [hother, Ne.symm hname]
      · simp [hother]
    rw [if_neg hname, beq_false_of_ne hname, List.find?_filter]
    exact congrArg (fun p => registry.commands.find? p) (funext hkept)

theorem dispatch_eq_none_iff (registry : CommandRegistry) (line : String) :
    registry.dispatch line = none ↔ ∀ c ∈ line.toList, is_whitespace c := by
  rw [← split_whitespace_eq_nil_iff, dispatch]
  cases split_whitespace line.toList with
  | nil => exact iff_of_true rfl rfl
  | cons cmd_name args =>
    rw [List.map_cons]
    dsimp only
    cases registry.get (String.ofList cmd_name) with
    | none => simp
    | some cmd => simp

theorem list_sorted (registry : CommandRegistry) : registry.list.Pairwise fun a b => a.1 ≤ b.1 := by
  have htotal : Std.Total fun a b : String × String => a.1 ≤ b.1 := ⟨fun a b => le_total a.1 b.1⟩
  have htrans : IsTrans (String × String) fun a b => a.1 ≤ b.1 := ⟨fun _ _ _ => le_trans⟩
  exact List.pairwise_insertionSort _ _

theorem mem_list_iff (registry : CommandRegistry) (entry : String × String) :
    entry ∈ registry.list ↔ ∃ cmd ∈ registry.commands, (cmd.name, cmd.description) = entry := by
  rw [list, List.mem_insertionSort, List.mem_map]

end CommandRegistry

/-- Generate the help text from a registry listing. -/
def format_help (entries : List (String × String)) : String :=
  let lines := entries.flatMap fun entry =>
    "  ".toList ++ pad_end 16 entry.1.toList ++ " ".toList ++ entry.2.toList ++ "\n".toList
  String.ofList (trim_end ("Available commands:\n".toList ++ lines))

end cyphal_service.commands
