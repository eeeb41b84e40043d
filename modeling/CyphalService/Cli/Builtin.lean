import CyphalService.Cli.Repl
import CyphalService.Lib.Script
import CyphalService.Transport.State

open effect text
open cyphal_service.pnp.db cyphal_service.pnp.allocator cyphal_service.transport

namespace cyphal_service.commands

/-- What a command asks of the transport handle at some position, and how long it waits
for the reply. -/
inductive Ask where
  | list_nodes (handle : Nat) (timeout : Duration)
  | get_info (handle : Nat) (node_id : UInt16) (timeout : Duration)
  | diagnostics (handle : Nat) (timeout : Duration)
  | list_allocations (handle : Nat) (timeout : Duration)

/-- What the method of the handle returns. -/
def Answer : Ask → Type
  | .list_nodes .. => List NodeEntry
  | .get_info .. => Except String GetInfoResult
  | .diagnostics .. => Except String TransportDiagnostics
  | .list_allocations .. => List AllocationEntry

def ask (op : Ask) : Program Ask Answer (Answer op) := Program.ask op

/-- A command that asks the handles before it answers. -/
structure Builtin where
  name : String
  description : String
  execute : List String → Program Ask Answer String

/-- The command while the handles give these answers. -/
def Builtin.command (answers : (op : Ask) → Answer op) (self : Builtin) : Command where
  name := self.name
  description := self.description
  execute args := ((self.execute args).run (fun op state => (answers op, state)) ()).1

/-- A value in a column, filled up with blanks. -/
def column (width : Nat) (value : String) : String := String.ofList (pad_end width value.toList)

def unknown_transport (handles : List String) (name : String) : String :=
  "Unknown transport '" ++ name ++ "'. Available: " ++ ", ".intercalate handles

/-- The handles that a command is for, with their positions: those of the name that it
is given, or all of them. -/
def selection (handles : List String) (args : List String) : List (String × Nat) :=
  match args.head? with
  | some name => handles.zipIdx.filter (·.1 = name)
  | none => handles.zipIdx

/-- One section for each handle. -/
def sections (show_handle : String → Nat → Program Ask Answer String) :
    List (String × Nat) → Program Ask Answer (List String)
  | [] => pure []
  | (name, handle) :: rest => do
    let text ← show_handle name handle
    let texts ← sections show_handle rest
    return text :: texts

/-- The commands that show all handles or the ones of a name. -/
def listing (handles : List String) (show_handle : String → Nat → Program Ask Answer String)
    (join : List String → String) (args : List String) : Program Ask Answer String :=
  if handles = [] then pure "No transports configured."
  else
    match args.head?, selection handles args with
    | some name, [] => pure (unknown_transport handles name)
    | _, selected => do
      let texts ← sections show_handle selected
      return join texts

/-- The sections one after the other, without white space at the end. -/
def join_lines (texts : List String) : String := String.ofList (trim_end (String.join texts).toList)

def nodes_row (node_id uptime health mode : String) : String :=
  "  " ++ column 8 node_id ++ " " ++ column 10 uptime ++ " " ++ column 10 health ++ " " ++ column 8 mode ++ "\n"

def nodes_section (name : String) (nodes : List NodeEntry) : String :=
  "Transport: " ++ name ++ "\n" ++
    if nodes = [] then "  (no nodes observed)\n"
    else
      let sorted := nodes.insertionSort fun a b => a.node_id ≤ b.node_id
      nodes_row "Node ID" "Uptime(s)" "Health" "Mode" ++ String.join (sorted.map fun node =>
        nodes_row (toString node.node_id) (toString node.uptime) (toString node.health) (toString node.mode))

/-- Lists Cyphal nodes observed on one or all transports. -/
def NodesCommand (handles : List String) : Builtin where
  name := "nodes"
  description := "List Cyphal nodes observed on transports. Usage: nodes [<transport>]"
  execute := listing handles (fun name handle => do
    let nodes ← ask (.list_nodes handle (Duration.from_secs 2))
    return nodes_section name nodes) join_lines

def format_duration : Option Duration → String
  | none => "none"
  | some duration =>
    if duration / Duration.from_secs 1 > 0 then toString (duration / Duration.from_secs 1) ++ "s"
    else toString (duration / 1000000) ++ "ms"

def format_diagnostics (name : String) (diagnostics : TransportDiagnostics) : String :=
  let recent_heartbeats :=
    if diagnostics.recent_heartbeat_sources = [] then "none"
    else ", ".intercalate (diagnostics.recent_heartbeat_sources.map fun node_id => toString node_id)
  "Transport: " ++ name ++
    "\n  Local node ID        " ++ (diagnostics.local_node_id.elim "unknown" fun node_id => toString node_id) ++
    "\n  Observed nodes        " ++ toString diagnostics.observed_node_count ++
    "\n  Messages received     " ++ toString diagnostics.total_messages_received ++
    "\n  Heartbeats received   " ++ toString diagnostics.heartbeat_messages_received ++
    "\n  GetInfo req/res       " ++ toString diagnostics.get_info_requests_sent ++ " / " ++
      toString diagnostics.get_info_responses_received ++
    "\n  Last message age      " ++ format_duration diagnostics.last_message_age ++
    "\n  Last heartbeat age    " ++ format_duration diagnostics.last_heartbeat_age ++
    "\n  Recent heartbeat IDs  " ++ recent_heartbeats ++
    "\n  Last error            " ++ diagnostics.last_error.getD "none"

/-- Displays transport diagnostics for one or all configured transports. -/
def DiagCommand (handles : List String) : Builtin where
  name := "diag"
  description := "Show transport diagnostics. Usage: diag [<transport>]"
  execute := listing handles (fun name handle => do
    let diagnostics ← ask (.diagnostics handle (Duration.from_secs 2))
    return match (diagnostics : Except String TransportDiagnostics) with
      | .ok diagnostics => format_diagnostics name diagnostics
      | .error error => "Transport: " ++ name ++ "\n  Diagnostics error: " ++ error) ("\n\n".intercalate ·)

def allocations_row (node_id unique_id pseudo ts : String) : String :=
  "  " ++ column 8 node_id ++ " " ++ column 34 unique_id ++ " " ++ column 20 pseudo ++ " " ++ ts ++ "\n"

def allocations_section (name : String) (entries : List AllocationEntry) : String :=
  "Transport: " ++ name ++ "\n" ++
    if entries = [] then "  (no allocations)\n"
    else
      allocations_row "Node ID" "Unique ID (hex)" "Pseudo UID" "Timestamp" ++ String.join (entries.map fun entry =>
        allocations_row (toString entry.node_id) entry.unique_id_hex
          (entry.pseudo_unique_id.elim "NULL" fun v => toString v) entry.ts)

/-- Lists PNP node-ID allocations for one or all configured transports. -/
def PnpListCommand (handles : List String) : Builtin where
  name := "pnp-list"
  description := "List PNP node-ID allocations. Usage: pnp-list [<transport>]"
  execute := listing handles (fun name handle => do
    let entries ← ask (.list_allocations handle (Duration.from_secs 2))
    return allocations_section name entries) join_lines

def format_info (info : GetInfoResult) : String :=
  let uid_hex := ":".intercalate (info.unique_id.toList.map fun b => bytes_to_hex [b])
  "Node " ++ toString info.node_id ++ "  (" ++ info.name ++ ")\nHardware : " ++
    toString info.hardware_version.1 ++ "." ++ toString info.hardware_version.2 ++ "\nSoftware : " ++
    toString info.software_version.1 ++ "." ++ toString info.software_version.2 ++ "\nUnique ID: " ++ uid_hex

/-- Issues a `uavcan.node.GetInfo` request to a specific node. -/
def GetInfoCommand (handles : List String) : Builtin where
  name := "get-info"
  description := "Query a node's GetInfo. Usage: get-info <transport> <node-id>"
  execute
    | transport_name :: node_id_str :: _ =>
      match u16.from_str_radix node_id_str.toList 10 with
      | .error _ => pure ("Invalid node ID '" ++ node_id_str ++ "': must be a number")
      | .ok node_id =>
        match handles.findIdx? (· = transport_name) with
        | none => pure (unknown_transport handles transport_name)
        | some handle => do
          let info ← ask (.get_info handle node_id (Duration.from_secs 5))
          return match (info : Except String GetInfoResult) with
            | .ok info => format_info info
            | .error e => "GetInfo failed: " ++ e
    | _ => pure "Usage: get-info <transport> <node-id>"

/-- Prints a friendly "hello" message. -/
def HelloCommand : Builtin where
  name := "hello"
  description := "Print a greeting"
  execute _ := pure "hello"

/-- Displays the list of available commands. -/
def HelpCommand : Builtin where
  name := "help"
  description := "List available commands"
  execute _ := pure "Use the REPL to see available commands."

/-- The built-in commands in the order of their registration. -/
def builtins (handles : List String) : List Builtin :=
  [DiagCommand handles, HelloCommand, HelpCommand, NodesCommand handles, GetInfoCommand handles,
    PnpListCommand handles]

/-- Register all built-in commands into the registry. -/
def register_defaults (registry : CommandRegistry) (handles : List String) (answers : (op : Ask) → Answer op) :
    CommandRegistry :=
  (builtins handles).foldl (fun registry cmd => registry.register (cmd.command answers)) registry

/-- `CommandRegistry::dispatch` on the built-in commands. -/
def dispatch (handles : List String) (line : String) : Program Ask Answer (Option String) :=
  match (split_whitespace line.toList).map String.ofList with
  | [] => pure none
  | cmd_name :: args =>
    match (builtins handles).find? fun cmd => cmd.name == cmd_name with
    | some cmd => do
      let output ← cmd.execute args
      return some output
    | none => pure (some ("Unknown command: '" ++ cmd_name ++ "'.  Type 'help' for available commands."))

/-- `CommandRegistry::list` on the built-in commands. -/
def help_entries (handles : List String) : List (String × String) :=
  ((builtins handles).map fun cmd => (cmd.name, cmd.description)).insertionSort fun a b => a.1 ≤ b.1

section Registry

variable (handles : List String) (answers : (op : Ask) → Answer op)

theorem get_foldl_register {cmds : List Builtin} (hnodup : (cmds.map (·.name)).Nodup) (registry : CommandRegistry)
    (cmd_name : String) :
    (cmds.foldl (fun registry cmd => registry.register (cmd.command answers)) registry).get cmd_name =
      ((cmds.find? fun cmd => cmd.name == cmd_name).map (·.command answers)).or (registry.get cmd_name) := by
  induction cmds generalizing registry with
  | nil => rfl
  | cons cmd cmds ih =>
    obtain ⟨hfresh, hrest⟩ := List.nodup_cons.1 hnodup
    rw [List.foldl_cons, ih hrest, CommandRegistry.get_register, List.find?_cons]
    by_cases hname : cmd.name = cmd_name
    · have hnone : (cmds.find? fun cmd => cmd.name == cmd_name) = none := by
        rw [List.find?_eq_none]
        intro other hmem hother
        exact hfresh (List.mem_map.2 ⟨other, hmem, (beq_iff_eq.1 hother).trans hname.symm⟩)
      have hcommand : (cmd.command answers).name = cmd_name := hname
      rw [hnone, if_pos hcommand, beq_iff_eq.2 hname]
      rfl
    · have hcommand : ¬ (cmd.command answers).name = cmd_name := hname
      rw [if_neg hcommand, beq_false_of_ne hname]

theorem builtin_names_nodup : ((builtins handles).map (·.name)).Nodup := by
  change ["diag", "hello", "help", "nodes", "get-info", "pnp-list"].Nodup
  decide

/-- While the handles give the answers, the registry dispatches as the commands do. -/
theorem run_dispatch (line : String) :
    (dispatch handles line).run (fun op state => (answers op, state)) () =
      ((register_defaults .new handles answers).dispatch line, ()) := by
  rw [dispatch, CommandRegistry.dispatch]
  cases (split_whitespace line.toList).map String.ofList with
  | nil => rfl
  | cons cmd_name args =>
    rw [register_defaults]
    dsimp only
    rw [get_foldl_register answers (builtin_names_nodup handles)]
    cases (builtins handles).find? fun cmd => cmd.name == cmd_name with
    | none => rfl
    | some cmd =>
      dsimp only
      rw [Program.run_bind]
      rfl

/-- Entries with different names are sorted in one way. -/
theorem insertionSort_of_perm {first second : List (String × String)} (hperm : first.Perm second)
    (hnodup : (first.map (·.1)).Nodup) :
    first.insertionSort (fun a b => a.1 ≤ b.1) = second.insertionSort (fun a b => a.1 ≤ b.1) := by
  have htotal : Std.Total fun a b : String × String => a.1 ≤ b.1 := ⟨fun a b => le_total a.1 b.1⟩
  have htrans : IsTrans (String × String) fun a b => a.1 ≤ b.1 := ⟨fun _ _ _ => le_trans⟩
  refine List.Perm.eq_of_pairwise ?_ (List.pairwise_insertionSort _ first) (List.pairwise_insertionSort _ second) ?_
  · intro a b ha hb hab hba
    rw [List.mem_insertionSort] at ha hb
    exact List.inj_on_of_nodup_map hnodup ha (hperm.mem_iff.2 hb) (le_antisymm hab hba)
  · exact ((List.perm_insertionSort _ first).trans hperm).trans (List.perm_insertionSort _ second).symm

theorem list_register_defaults : (register_defaults .new handles answers).list = help_entries handles := by
  have hentries : (register_defaults .new handles answers).commands.map (fun cmd => (cmd.name, cmd.description)) =
      ((builtins handles).map fun cmd => (cmd.name, cmd.description)).reverse := rfl
  rw [CommandRegistry.list, hentries]
  refine insertionSort_of_perm (List.reverse_perm _) ?_
  rw [List.map_reverse, List.nodup_reverse, List.map_map]
  exact builtin_names_nodup handles

end Registry

end cyphal_service.commands
