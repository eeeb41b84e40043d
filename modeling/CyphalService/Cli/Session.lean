import CyphalService.Cli.Builtin

open effect text
open cyphal_service.pnp.allocator

namespace cyphal_service.commands

section Line

variable {handles : List String}

/-- What a command asks of each handle that it is for. -/
def listing_asks (op : Nat → Ask) (handles args : List String) : List Ask :=
  (selection handles args).map fun entry => op entry.2

/-- What `get-info` asks. -/
def get_info_asks (handles : List String) : List String → List Ask
  | transport_name :: node_id_str :: _ =>
    match u16.from_str_radix node_id_str.toList 10 with
    | .error _ => []
    | .ok node_id =>
      ((handles.findIdx? (· = transport_name)).map (Ask.get_info · node_id (Duration.from_secs 5))).toList
  | _ => []

/-- The words of a line. -/
def words (line : String) : List String := (split_whitespace line.toList).map String.ofList

/-- What the command of a line asks. -/
def line_asks (handles : List String) (line : String) : List Ask :=
  match words line with
  | [] => []
  | cmd_name :: args =>
    if cmd_name = "nodes" then listing_asks (.list_nodes · (Duration.from_secs 2)) handles args
    else if cmd_name = "diag" then listing_asks (.diagnostics · (Duration.from_secs 2)) handles args
    else if cmd_name = "pnp-list" then listing_asks (.list_allocations · (Duration.from_secs 2)) handles args
    else if cmd_name = "get-info" then get_info_asks handles args
    else []

theorem performs_sections {show_handle : String → Nat → Program Ask Answer String} {op : Nat → Ask}
    (h : ∀ name handle, (show_handle name handle).Performs [op handle]) (selected : List (String × Nat)) :
    (sections show_handle selected).Performs (selected.map fun entry => op entry.2) := by
  induction selected with
  | nil => exact .pure
  | cons entry rest ih => exact (h entry.1 entry.2).bind fun _ => ih.bind_pure

/-- A listing asks each handle that it is for, in order. -/
theorem performs_listing {show_handle : String → Nat → Program Ask Answer String} {op : Nat → Ask}
    (h : ∀ name handle, (show_handle name handle).Performs [op handle]) (join : List String → String)
    (args : List String) : (listing handles show_handle join args).Performs (listing_asks op handles args) := by
  unfold listing listing_asks
  split
  · next hempty =>
    subst hempty
    cases args with
    | nil => exact .pure
    | cons name args => exact .pure
  · split
    · next hnone =>
      rw [hnone]
      exact .pure
    · exact (performs_sections h _).bind_pure

theorem performs_get_info (args : List String) :
    ((GetInfoCommand handles).execute args).Performs (get_info_asks handles args) := by
  match args with
  | [] => exact .pure
  | [name] => exact .pure
  | name :: node_id_str :: rest =>
    simp only [GetInfoCommand, get_info_asks]
    cases u16.from_str_radix node_id_str.toList 10 with
    | error kind => exact .pure
    | ok node_id =>
      dsimp only
      cases handles.findIdx? (· = name) with
      | none => exact .pure
      | some handle => exact Program.Performs.ask.bind_pure

theorem performs_nodes (args : List String) :
    ((NodesCommand handles).execute args).Performs
      (listing_asks (.list_nodes · (Duration.from_secs 2)) handles args) := by
  simp only [NodesCommand]
  refine performs_listing ?_ join_lines args
  exact fun name handle => Program.Performs.ask.bind_pure

theorem performs_diag (args : List String) :
    ((DiagCommand handles).execute args).Performs
      (listing_asks (.diagnostics · (Duration.from_secs 2)) handles args) := by
  simp only [DiagCommand]
  refine performs_listing ?_ _ args
  exact fun name handle => Program.Performs.ask.bind_pure

theorem performs_pnp_list (args : List String) :
    ((PnpListCommand handles).execute args).Performs
      (listing_asks (.list_allocations · (Duration.from_secs 2)) handles args) := by
  simp only [PnpListCommand]
  refine performs_listing ?_ join_lines args
  exact fun name handle => Program.Performs.ask.bind_pure

/-- Whatever the handles answer, a line asks what its command asks. -/
theorem performs_dispatch (line : String) : (dispatch handles line).Performs (line_asks handles line) := by
  rw [dispatch, line_asks, words]
  cases (split_whitespace line.toList).map String.ofList with
  | nil => exact .pure
  | cons cmd_name args =>
    dsimp only
    cases hfind : (builtins handles).find? fun cmd => cmd.name == cmd_name with
    | none =>
      rw [List.find?_eq_none] at hfind
      have hunknown : ∀ cmd ∈ builtins handles, cmd_name ≠ cmd.name := fun cmd hmem hname =>
        hfind cmd hmem (beq_iff_eq.2 hname.symm)
      have hnodes : cmd_name ≠ "nodes" := hunknown (NodesCommand handles) (by simp [builtins])
      have hdiag : cmd_name ≠ "diag" := hunknown (DiagCommand handles) (by simp [builtins])
      have hpnp : cmd_name ≠ "pnp-list" := hunknown (PnpListCommand handles) (by simp [builtins])
      have hinfo : cmd_name ≠ "get-info" := hunknown (GetInfoCommand handles) (by simp [builtins])
      rw [if_neg hnodes, if_neg hdiag, if_neg hpnp, if_neg hinfo]
      exact .pure
    | some cmd =>
      obtain rfl : cmd.name = cmd_name :=
        beq_iff_eq.1 (List.find?_some (p := fun cmd : Builtin => cmd.name == cmd_name) hfind)
      have hmem := List.mem_of_find?_eq_some hfind
      simp only [builtins, List.mem_cons, List.not_mem_nil, or_false] at hmem
      obtain rfl | rfl | rfl | rfl | rfl | rfl := hmem
      · exact (performs_diag args).bind_pure
      · exact .pure
      · exact .pure
      · exact (performs_nodes args).bind_pure
      · exact (performs_get_info args).bind_pure
      · exact (performs_pnp_list args).bind_pure

def Ask.handle : Ask → Nat
  | .list_nodes handle _ => handle
  | .get_info handle _ _ => handle
  | .diagnostics handle _ => handle
  | .list_allocations handle _ => handle

/-- The line is the command, and for the handle: it names the transport or none. -/
def Selects (cmd_name : String) (handles : List String) (line : String) (handle : Nat) : Prop :=
  ∃ args name, words line = cmd_name :: args ∧ handles[handle]? = some name ∧ ∀ wanted ∈ args.head?, name = wanted

/-- The line is `get-info` with the name of a transport, of which the handle is the first, and
the number of the node in decimal digits, after a plus sign at most. -/
def Queries (handles : List String) (line : String) (handle : Nat) (node_id : UInt16) : Prop :=
  ∃ name node_id_str rest sign digits, words line = "get-info" :: name :: node_id_str :: rest ∧
    handles[handle]? = some name ∧ (∀ earlier < handle, handles[earlier]? ≠ some name) ∧
      node_id_str.toList = sign ++ digits ∧ sign ∈ [[], ['+']] ∧ Numeral 10 digits node_id.toNat

/-- What a line asks: for every handle at most one thing, and that when the line is a
command for it, with the time to wait that the command gives. -/
structure LineAsks (handles : List String) (line : String) (asks : List Ask) : Prop where
  in_order : (asks.map (·.handle)).Pairwise (· < ·)
  list_nodes : ∀ handle timeout, .list_nodes handle timeout ∈ asks ↔
    Selects "nodes" handles line handle ∧ timeout = Duration.from_secs 2
  diagnostics : ∀ handle timeout, .diagnostics handle timeout ∈ asks ↔
    Selects "diag" handles line handle ∧ timeout = Duration.from_secs 2
  list_allocations : ∀ handle timeout, .list_allocations handle timeout ∈ asks ↔
    Selects "pnp-list" handles line handle ∧ timeout = Duration.from_secs 2
  get_info : ∀ handle node_id timeout, .get_info handle node_id timeout ∈ asks ↔
    Queries handles line handle node_id ∧ timeout = Duration.from_secs 5

theorem mem_selection {args : List String} {entry : String × Nat} :
    entry ∈ selection handles args ↔ handles[entry.2]? = some entry.1 ∧ ∀ wanted ∈ args.head?, entry.1 = wanted := by
  cases args with
  | nil => simp [selection, List.mem_zipIdx_iff_getElem?]
  | cons name args => simp [selection, List.mem_zipIdx_iff_getElem?]

theorem selection_sorted (args : List String) : ((selection handles args).map (·.2)).Pairwise (· < ·) := by
  have hall : (handles.zipIdx.map (·.2)).Pairwise (· < ·) := by
    rw [List.zipIdx_map_snd]
    exact List.pairwise_lt_range'
  cases args with
  | nil => exact hall
  | cons name args => exact hall.sublist (List.filter_sublist.map _)

theorem mem_listing_asks {op : Nat → Ask} {args : List String} {asked : Ask} :
    asked ∈ listing_asks op handles args ↔ ∃ handle name, asked = op handle ∧ handles[handle]? = some name ∧
      ∀ wanted ∈ args.head?, name = wanted := by
  rw [listing_asks, List.mem_map]
  constructor
  · rintro ⟨⟨name, handle⟩, hmem, rfl⟩
    exact ⟨handle, name, rfl, mem_selection.1 hmem⟩
  · rintro ⟨handle, name, rfl, hname⟩
    exact ⟨(name, handle), mem_selection.2 hname, rfl⟩

theorem mem_get_info_asks {args : List String} {asked : Ask} :
    asked ∈ get_info_asks handles args ↔ ∃ name node_id_str rest handle node_id,
      asked = .get_info handle node_id (Duration.from_secs 5) ∧ args = name :: node_id_str :: rest ∧
        u16.from_str_radix node_id_str.toList 10 = .ok node_id ∧ handles.findIdx? (· = name) = some handle := by
  constructor
  · intro h
    unfold get_info_asks at h
    split at h
    · next name node_id_str rest =>
      split at h
      · cases h
      · next node_id hid =>
        rw [Option.mem_toList, Option.map_eq_some_iff] at h
        obtain ⟨handle, hhandle, rfl⟩ := h
        exact ⟨name, node_id_str, rest, handle, node_id, rfl, rfl, hid, hhandle⟩
    · cases h
  · rintro ⟨name, node_id_str, rest, handle, node_id, rfl, rfl, hid, hhandle⟩
    simp [get_info_asks, hid, hhandle]

theorem findIdx?_name {name : String} {handle : Nat} : handles.findIdx? (· = name) = some handle ↔
    handles[handle]? = some name ∧ ∀ earlier < handle, handles[earlier]? ≠ some name := by
  rw [List.findIdx?_eq_some_iff_getElem]
  constructor
  · rintro ⟨hlt, hname, hearlier⟩
    refine ⟨List.getElem?_eq_some_iff.2 ⟨hlt, of_decide_eq_true hname⟩, ?_⟩
    intro earlier hless hother
    obtain ⟨hother_lt, hsame⟩ := List.getElem?_eq_some_iff.1 hother
    exact hearlier earlier hless (decide_eq_true hsame)
  · rintro ⟨hhandle, hearlier⟩
    obtain ⟨hlt, hname⟩ := List.getElem?_eq_some_iff.1 hhandle
    refine ⟨hlt, decide_eq_true hname, ?_⟩
    intro earlier hless hother
    exact hearlier earlier hless (List.getElem?_eq_some_iff.2 ⟨hless.trans hlt, of_decide_eq_true hother⟩)

/-- The commands that ask the handles are four. -/
theorem mem_line_asks {line : String} {asked : Ask} : asked ∈ line_asks handles line ↔
    ∃ cmd_name args, words line = cmd_name :: args ∧
      (cmd_name = "nodes" ∧ asked ∈ listing_asks (.list_nodes · (Duration.from_secs 2)) handles args ∨
        cmd_name = "diag" ∧ asked ∈ listing_asks (.diagnostics · (Duration.from_secs 2)) handles args ∨
        cmd_name = "pnp-list" ∧ asked ∈ listing_asks (.list_allocations · (Duration.from_secs 2)) handles args ∨
        cmd_name = "get-info" ∧ asked ∈ get_info_asks handles args) := by
  rw [line_asks]
  cases words line with
  | nil => simp
  | cons cmd_name args =>
    dsimp only
    split
    · next hname => simp [hname]
    split
    · next hname => simp [hname]
    split
    · next hname => simp [hname]
    split
    · next hname => simp [hname]
    · next hnodes hdiag hpnp hinfo => simp [hnodes, hdiag, hpnp, hinfo]

theorem listing_asks_in_order {op : Nat → Ask} (hop : ∀ handle, (op handle).handle = handle) (args : List String) :
    ((listing_asks op handles args).map (·.handle)).Pairwise (· < ·) := by
  have hhandles : (listing_asks op handles args).map (·.handle) = (selection handles args).map (·.2) := by
    rw [listing_asks, List.map_map]
    exact List.map_congr_left fun entry _ => hop entry.2
  rw [hhandles]
  exact selection_sorted args

theorem get_info_asks_in_order (args : List String) :
    ((get_info_asks handles args).map (·.handle)).Pairwise (· < ·) := by
  unfold get_info_asks
  split
  · split
    · exact .nil
    · cases handles.findIdx? _ with
      | none => exact .nil
      | some handle => exact List.pairwise_singleton _ _
  · exact .nil

theorem line_asks_in_order (line : String) : ((line_asks handles line).map (·.handle)).Pairwise (· < ·) := by
  rw [line_asks]
  split
  · exact .nil
  split
  · exact listing_asks_in_order (fun _ => rfl) _
  split
  · exact listing_asks_in_order (fun _ => rfl) _
  split
  · exact listing_asks_in_order (fun _ => rfl) _
  split
  · exact get_info_asks_in_order _
  · exact .nil

theorem get_info_mem_line_asks {line : String} {handle : Nat} {node_id : UInt16} {timeout : Duration} :
    .get_info handle node_id timeout ∈ line_asks handles line ↔
      Queries handles line handle node_id ∧ timeout = Duration.from_secs 5 := by
  rw [mem_line_asks]
  constructor
  · rintro ⟨cmd_name, args, hwords, ⟨-, hmem⟩ | ⟨-, hmem⟩ | ⟨-, hmem⟩ | ⟨rfl, hmem⟩⟩
    · obtain ⟨_, _, heq, -⟩ := mem_listing_asks.1 hmem
      cases heq
    · obtain ⟨_, _, heq, -⟩ := mem_listing_asks.1 hmem
      cases heq
    · obtain ⟨_, _, heq, -⟩ := mem_listing_asks.1 hmem
      cases heq
    · obtain ⟨name, node_id_str, rest, _, _, heq, rfl, hid, hhandle⟩ := mem_get_info_asks.1 hmem
      cases heq
      obtain ⟨sign, digits, hnumeral⟩ := (u16.from_str_radix_eq_ok_iff (by decide)).1 hid
      obtain ⟨hname, hfirst⟩ := findIdx?_name.1 hhandle
      exact ⟨⟨name, node_id_str, rest, sign, digits, hwords, hname, hfirst, hnumeral⟩, rfl⟩
  · rintro ⟨⟨name, node_id_str, rest, sign, digits, hwords, hname, hfirst, hnumeral⟩, rfl⟩
    have hradix : 0 < 10 := by decide
    have hid := (u16.from_str_radix_eq_ok_iff hradix).2 ⟨sign, digits, hnumeral⟩
    have hfind := findIdx?_name.2 ⟨hname, hfirst⟩
    have hmem := mem_get_info_asks.2 ⟨name, node_id_str, rest, handle, node_id, rfl, rfl, hid, hfind⟩
    exact ⟨"get-info", _, hwords, .inr (.inr (.inr ⟨rfl, hmem⟩))⟩

theorem selects_and {line cmd_name : String} {handle : Nat} {timeout wait : Duration} :
    (∃ args, words line = cmd_name :: args ∧ timeout = wait ∧
      ∃ name, handles[handle]? = some name ∧ ∀ wanted, args.head? = some wanted → name = wanted) ↔
        Selects cmd_name handles line handle ∧ timeout = wait := by
  constructor
  · rintro ⟨args, hwords, rfl, name, hname⟩
    exact ⟨⟨args, name, hwords, hname⟩, rfl⟩
  · rintro ⟨⟨args, name, hwords, hname⟩, rfl⟩
    exact ⟨args, hwords, rfl, name, hname⟩

theorem lineAsks (handles : List String) (line : String) : LineAsks handles line (line_asks handles line) where
  in_order := line_asks_in_order line
  list_nodes handle timeout := by
    simpa [mem_line_asks, mem_listing_asks, mem_get_info_asks] using selects_and
  diagnostics handle timeout := by
    simpa [mem_line_asks, mem_listing_asks, mem_get_info_asks] using selects_and
  list_allocations handle timeout := by
    simpa [mem_line_asks, mem_listing_asks, mem_get_info_asks] using selects_and
  get_info handle node_id timeout := get_info_mem_line_asks

end Line

end cyphal_service.commands

namespace cyphal_service.cli

open commands

/-- The loop does not end at this outcome of `readline`. -/
def goes_on : Except ReadlineError String → Bool
  | .ok line => String.ofList (trim line.toList) ∉ ["quit", "exit"]
  | .error _ => false

/-- The line that the loop hands to the registry. -/
def submitted : Except ReadlineError String → Option String
  | .ok line =>
    let trimmed := String.ofList (trim line.toList)
    if trimmed ∈ ["", "help"] then none else some trimmed
  | .error _ => none

/-- The lines for the registry before the loop ends. -/
def typed (outcomes : List (Except ReadlineError String)) : List String :=
  (outcomes.takeWhile goes_on).filterMap submitted

/-- `repl_loop` with the commands that ask the handles. -/
def repl_session (handles : List String) :
    List (Except ReadlineError String) → Program Ask Answer (List Effect)
  | [] => pure []
  | .ok line :: outcomes => do
    let trimmed := String.ofList (trim line.toList)
    if trimmed = "" then repl_session handles outcomes
    else if trimmed = "quit" ∨ trimmed = "exit" then
      return .add_history_entry trimmed :: .println "Goodbye." :: after_loop
    else if trimmed = "help" then do
      let rest ← repl_session handles outcomes
      return .add_history_entry trimmed :: .println (format_help (help_entries handles)) :: rest
    else do
      let output ← dispatch handles trimmed
      let rest ← repl_session handles outcomes
      return .add_history_entry trimmed :: ((output : Option String).map Effect.println).toList ++ rest
  | .error .Interrupted :: _ => return .println "Goodbye." :: after_loop
  | .error .Eof :: _ => return .println "Goodbye." :: after_loop
  | .error e :: _ => return .eprintln "REPL error: " e :: after_loop

section Session

variable {handles : List String}

/-- While the handles give the answers, the session has the effects of the loop. -/
theorem run_repl_session (answers : (op : Ask) → Answer op) (outcomes : List (Except ReadlineError String)) :
    ((repl_session handles outcomes).run (fun op state => (answers op, state)) ()).1 =
      repl_turns (register_defaults .new handles answers) outcomes := by
  induction outcomes with
  | nil => rfl
  | cons outcome outcomes ih =>
    match outcome with
    | .error .Interrupted => rfl
    | .error .Eof => rfl
    | .error (.Other description) => rfl
    | .ok line =>
      rw [repl_session, repl_turns]
      split
      · exact ih
      split
      · rfl
      split
      · rw [Program.run_bind, Program.run_pure, ih, list_register_defaults]
      · rw [Program.run_bind, run_dispatch]
        dsimp only
        rw [Program.run_bind, Program.run_pure, ih]
        cases (register_defaults .new handles answers).dispatch (String.ofList (trim line.toList)) with
        | none => rfl
        | some output => rfl

/-- Whatever the handles answer, a session asks what its lines ask. -/
theorem performs_repl_session (outcomes : List (Except ReadlineError String)) :
    (repl_session handles outcomes).Performs ((typed outcomes).flatMap (line_asks handles)) := by
  induction outcomes with
  | nil => exact .pure
  | cons outcome outcomes ih =>
    match outcome with
    | .error .Interrupted => exact .pure
    | .error .Eof => exact .pure
    | .error (.Other description) => exact .pure
    | .ok line =>
      rw [repl_session]
      split
      · next hempty =>
        have htyped : typed (.ok line :: outcomes) = typed outcomes := by simp [typed, goes_on, submitted, hempty]
        rw [htyped]
        exact ih
      split
      · next hquit =>
        have htyped : typed (.ok line :: outcomes) = [] := by simp [typed, goes_on, hquit]
        rw [htyped]
        exact .pure
      split
      · next hempty hquit hhelp =>
        have htyped : typed (.ok line :: outcomes) = typed outcomes := by simp [typed, goes_on, submitted, hhelp]
        rw [htyped]
        exact ih.bind_pure
      · next hempty hquit hhelp =>
        have htyped : typed (.ok line :: outcomes) = String.ofList (trim line.toList) :: typed outcomes := by
          simp [typed, goes_on, submitted, hempty, hquit, hhelp]
        rw [htyped, List.flatMap_cons]
        refine (performs_dispatch _).bind ?_
        intro output
        exact ih.bind_pure

/-- Whatever the handles answer and however their states change, a session asks them
in the order of the lines, and for each line only what its command is for; a session
whose answers stay the same has the effects of `repl_turns`. -/
theorem session_asks (handles : List String) (outcomes : List (Except ReadlineError String)) :
    (∀ line ∈ typed outcomes, LineAsks handles line (line_asks handles line)) ∧
      (∀ {σ : Type} (handler : Handler Ask Answer σ) (state : σ),
        ((repl_session handles outcomes).run (Program.record handler) (state, [])).2.2 =
          (typed outcomes).flatMap (line_asks handles)) ∧
      ∀ answers : (op : Ask) → Answer op,
        ((repl_session handles outcomes).run (fun op state => (answers op, state)) ()).1 =
          repl_turns (register_defaults .new handles answers) outcomes := by
  refine ⟨fun line _ => lineAsks handles line, ?_, fun answers => run_repl_session answers outcomes⟩
  exact fun handler state => (performs_repl_session outcomes).recorded handler state []

end Session

end cyphal_service.cli
