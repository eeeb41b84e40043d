import CyphalService.Lib.Sites
import CyphalService.Pnp.Shared

open effect machine
open cyphal_service.pnp.db cyphal_service.pnp.allocator cyphal_service.pnp.system

namespace cyphal_service.config

/-- Resolve the effective PNP database path for a transport. -/
def effective_pnp_db_path (name : String) (override_path : Option String) : String :=
  match override_path with
  | some p => p
  | none => "/var/lib/cyphal_service/" ++ name ++ "-allocations.db"

/-- Different transports have different default paths. -/
theorem effective_pnp_db_path_injective : Function.Injective (effective_pnp_db_path · none) := by
  intro first second h
  exact (String.append_right_inj _).1 ((String.append_left_inj _).1 h)

end cyphal_service.config

namespace cyphal_service.pnp.files

open shared config

/-- What the configuration of a transport says about its database. -/
structure PnpConfig where
  name : String
  pnp_db_path : Option String

def PnpConfig.db_path (cfg : PnpConfig) : String :=
  effective_pnp_db_path cfg.name cfg.pnp_db_path

/-- What a worker does with its database: a task of its allocator, or the listing
for an operator. -/
inductive Use where
  | allocator (task : Task)
  | list_allocations
  deriving DecidableEq

inductive Outcome where
  | returned (output : Return)
  | listed (entries : List AllocationEntry)
  deriving DecidableEq

def Use.program : Use → Option PnpAllocator → Sql (Outcome × Option PnpAllocator)
  | .allocator task, self => do
    let (output, self) ← task.program self
    return (.returned output, self)
  | .list_allocations, none => return (.listed [], none)
  | .list_allocations, some self => do
    return (.listed (← PnpAllocator.list_allocations), some self)

/-- The transports with their allocators, and the database files. -/
abbrev Transports (ι κ : Type) : Type :=
  Sites ι κ Statement Statement.Reply Use Outcome (Option PnpAllocator) Table

/-- The files are there and no allocator is yet. -/
def opened {ι κ : Type} (tables : κ → Table) : Transports ι κ := Sites.idle tables none

/-- A move of some transport, on the file that its path leads to. Each statement
runs atomically, and anything can come between two of them. -/
def step {ι κ : Type} [DecidableEq ι] [DecidableEq κ] (configs : ι → PnpConfig) (file : String → κ) :
    Transports ι κ → Move ι Use String → Option (ι × Use × Outcome) × Transports ι κ :=
  Sites.step (fun i => file (configs i).db_path) Use.program exec

/-- One use of a database after the other: the allocator and its table. -/
def serve (state : Option PnpAllocator × Table) : Use × String → Outcome × (Option PnpAllocator × Table)
  | (.allocator (.new local_node_id max_node_id), ts) =>
    let s := connect local_node_id max_node_id ts state.2
    (.returned .unit, (some s.self, s.table))
  | (.allocator (.call call), ts) =>
    match state.1 with
    | none => (.returned .unit, state)
    | some self =>
      let result := system.step ⟨self, state.2⟩ ⟨call, ts⟩
      (.returned result.1, (some result.2.self, result.2.table))
  | (.list_allocations, _) =>
    match state.1 with
    | none => (.listed [], state)
    | some _ => (.listed (state.2.rows.mergeSort fun a b => a.node_id ≤ b.node_id), state)

theorem atomic_eq_serve : Pool.atomic Use.program exec = serve := by
  funext ⟨memory, table⟩ ⟨use, ts⟩
  cases use with
  | list_allocations => cases memory <;> rfl
  | allocator task =>
    cases task with
    | new local_node_id max_node_id =>
      simp [Pool.atomic, Use.program, Task.program, serve, connect]
    | call call =>
      cases memory with
      | none => rfl
      | some self => simp [Pool.atomic, Use.program, Task.program, serve, system.step]

/-- A statement that inserts no row takes no timestamp. -/
def timeless : Statement → Bool
  | .insert _ _ _ => false
  | .insert_or_ignore _ _ _ => false
  | _ => true

theorem exec_of_timeless {s : Statement} (h : timeless s) (ts ts' : String) (t : Table) :
    exec ts s t = exec ts' s t := by
  cases s with
  | insert node_id hex hash => cases h
  | insert_or_ignore node_id hex hash => cases h
  | _ => rfl

section Once

theorem blind_find_by_unique_id (uid : UniqueId) : (AllocationDb.find_by_unique_id uid).Blind timeless :=
  (Program.Blind.ask rfl).bind fun _ => .pure _

theorem blind_find_by_hash (hash : UInt64) : (AllocationDb.find_by_hash hash).Blind timeless :=
  (Program.Blind.ask rfl).bind fun _ => .pure _

theorem blind_find_by_node_id (node_id : UInt16) : (AllocationDb.find_by_node_id node_id).Blind timeless :=
  (Program.Blind.ask rfl).bind fun _ => .pure _

theorem blind_update_unique_id (node_id : UInt16) (uid : UniqueId) :
    (AllocationDb.update_unique_id node_id uid).Blind timeless :=
  (Program.Blind.ask rfl).bind fun _ => .pure _

theorem blind_list_all : AllocationDb.list_all.Blind timeless :=
  (Program.Blind.ask rfl).bind fun _ => .pure _

/-- However many candidates are probed, no timestamp is taken. -/
theorem blind_next_free_id (reserved : List UInt16) (max_id : UInt16) :
    (AllocationDb.next_free_id reserved max_id).Blind timeless := by
  unfold AllocationDb.next_free_id
  induction AllocationDb.candidates max_id with
  | nil => exact .pure none
  | cons candidate rest ih =>
    rw [AllocationDb.next_free_id.probe]
    split
    · exact ih
    · refine (Program.Blind.ask rfl).bind fun reply => ?_
      dsimp only
      split
      · exact .pure (some candidate)
      · exact ih

theorem once_insert_v2 (node_id : UInt16) (uid : UniqueId) : (AllocationDb.insert_v2 node_id uid).Once timeless :=
  (Program.Once.ask _).bind fun _ => .pure _

theorem once_insert_v1 (node_id : UInt16) (hash : UInt64) : (AllocationDb.insert_v1 node_id hash).Once timeless :=
  (Program.Once.ask _).bind fun _ => .pure _

theorem once_record_static_node (node_id : UInt16) : (AllocationDb.record_static_node node_id).Once timeless :=
  (Program.Once.ask _).bind fun _ => .pure _

/-- To go on after a search, there are the two ways it can end. -/
theorem once_search {α β : Type} {search : Sql (Option α)} {f : Option α → Sql β} (h : search.Blind timeless)
    (hnone : (f none).Once timeless) (hsome : ∀ value, (f (some value)).Once timeless) :
    (search >>= f).Once timeless := by
  refine h.bind_once fun found => ?_
  cases found with
  | none => exact hnone
  | some value => exact hsome value

variable (self : PnpAllocator)

theorem once_on_allocation_v2 (msg : AllocationDataV2) (source : Option UInt16) :
    (self.on_allocation_v2 msg source).Once timeless := by
  unfold PnpAllocator.on_allocation_v2
  split
  · exact .pure none
  · refine once_search (blind_find_by_unique_id _) ?_ fun existing => .pure _
    refine once_search (blind_next_free_id _ _) (.pure none) fun new_id => ?_
    refine (once_insert_v2 new_id _).bind fun result => ?_
    cases result <;> exact .pure _

theorem once_on_allocation_v1 (msg : AllocationDataV1) (source : Option UInt16) :
    (self.on_allocation_v1 msg source).Once timeless := by
  unfold PnpAllocator.on_allocation_v1
  split
  · exact .pure none
  split
  · exact .pure none
  · refine once_search (blind_find_by_hash _) ?_ fun existing => .pure _
    refine once_search (blind_next_free_id _ _) (.pure none) fun new_id => ?_
    refine (once_insert_v1 new_id _).bind fun result => ?_
    cases result <;> exact .pure _

theorem once_on_heartbeat (node_id : UInt16) (tested_at queued_at : Instant) :
    (self.on_heartbeat node_id tested_at queued_at).Once timeless := by
  unfold PnpAllocator.on_heartbeat
  refine (once_record_static_node node_id).bind fun _ => ?_
  refine (blind_find_by_node_id node_id).bind fun entry => ?_
  dsimp only
  split
  · split
    · exact .pure _
    · exact .pure _
  · exact .pure _

theorem once_on_get_info_result (node_id : UInt16) (uid : Option UniqueId) :
    (self.on_get_info_result node_id uid).Once timeless := by
  cases uid with
  | none => exact .pure _
  | some uid => exact ((blind_update_unique_id node_id uid).bind fun _ => .pure _).once

theorem once_call (call : Call) : (call.run self).Once timeless := by
  cases call with
  | on_allocation_v1 msg source => exact (once_on_allocation_v1 self msg source).bind fun _ => .pure _
  | on_allocation_v2 msg source => exact (once_on_allocation_v2 self msg source).bind fun _ => .pure _
  | on_heartbeat node_id tested_at queued_at =>
    exact (once_on_heartbeat self node_id tested_at queued_at).bind fun _ => .pure _
  | pop_get_info_request => exact .pure _
  | on_get_info_result node_id uid => exact (once_on_get_info_result self node_id uid).bind fun _ => .pure _

theorem once_task (task : Task) (memory : Option PnpAllocator) : (task.program memory).Once timeless := by
  cases task with
  | new local_node_id max_node_id =>
    refine Program.Once.bind ?_ fun self => .pure _
    exact (once_record_static_node local_node_id).bind fun _ => .pure _
  | call call =>
    cases memory with
    | none => exact .pure _
    | some self => exact (once_call self call).bind fun result => .pure _

/-- No use of the database takes two timestamps. -/
theorem once_program (use : Use) (memory : Option PnpAllocator) : (use.program memory).Once timeless := by
  cases use with
  | allocator task => exact (once_task task memory).bind fun result => .pure _
  | list_allocations =>
    cases memory with
    | none => exact .pure _
    | some self => exact (blind_list_all.bind fun entries => .pure _).once

end Once

/-- A transport alone on its database file is an allocator that does each thing in
one step: whatever the other transports do between its statements, it answers as some
run of such steps from the content of the file does, and between two of its uses its
memory and the file are as that run leaves them. -/
theorem transport_refines_allocator {ι κ : Type} [DecidableEq ι] [DecidableEq κ] (configs : ι → PnpConfig)
    (file : String → κ) (tables : κ → Table) (i : ι)
    (halone : ∀ j, file (configs j).db_path = file (configs i).db_path → j = i) (moves : List (Move ι Use String)) :
    ∃ uses, Pool.handed i (trace (step configs file) (opened tables) moves) =
        (trace serve (none, tables (file (configs i).db_path)) uses).map (fun st => (st.input.1, st.output)) ∧
      ∀ memory, (final (step configs file) (opened tables) moves).party i = ⟨memory, none⟩ →
        final serve (none, tables (file (configs i).db_path)) uses =
          (memory, (final (step configs file) (opened tables) moves).store (file (configs i).db_path)) := by
  obtain ⟨uses, hhanded, hend⟩ := Sites.exists_atomic (opened tables)
    (fun _ h => exec_of_timeless h) once_program rfl halone moves
  rw [atomic_eq_serve] at hhanded hend
  exact ⟨uses, hhanded, fun _ hidle => hend.of_idle hidle⟩

/-- A UDP and a CAN transport, with default paths. -/
def udp_and_can : Bool → PnpConfig
  | false => ⟨"udp0", none⟩
  | true => ⟨"can0", none⟩

/-- Both start up and are asked for a node ID by the same node; their statements alternate. -/
def both_asked : List (Move Bool Use String) :=
  let asked : Use := .allocator (.call (.on_allocation_v1 ⟨7, []⟩ none))
  [.start false (.allocator (.new 1 65534)), .start true (.allocator (.new 2 127)),
    .perform true "12:00:00", .perform false "12:00:01", .finish true, .finish false,
    .start false asked, .start true asked, .perform false "12:00:02", .perform true "12:00:03",
    .perform false "12:00:04", .perform true "12:00:05", .perform false "12:00:06", .finish false]

theorem transport_refines_allocator_both_asked :
    Pool.handed false (trace (step udp_and_can id) (opened fun _ => .empty) both_asked) =
        [(.allocator (.new 1 65534), .returned .unit),
          (.allocator (.call (.on_allocation_v1 ⟨7, []⟩ none)), .returned (.allocation_v1 (some ⟨7, [⟨2⟩]⟩)))] ∧
      ∃ uses, Pool.handed false (trace (step udp_and_can id) (opened fun _ => .empty) both_asked) =
          (trace serve (none, .empty) uses).map (fun st => (st.input.1, st.output)) ∧
        ∀ memory, (final (step udp_and_can id) (opened fun _ => .empty) both_asked).party false = ⟨memory, none⟩ →
          final serve (none, .empty) uses =
            (memory, (final (step udp_and_can id) (opened fun _ => .empty) both_asked).store
              (udp_and_can false).db_path) := by
  refine ⟨by decide, transport_refines_allocator udp_and_can id (fun _ => .empty) false ?_ both_asked⟩
  intro j h
  cases j with
  | false => rfl
  | true => exact absurd (effective_pnp_db_path_injective h) (by decide)

end cyphal_service.pnp.files
