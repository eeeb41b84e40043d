import Mathlib.Data.List.Nodup
import CyphalService.Lib.Bytes
import CyphalService.Lib.Program

open bytes effect

namespace cyphal_service.pnp.db

/-- A 128-bit unique ID, `[u8; 16]`. -/
abbrev UniqueId := Vector UInt8 16

def bytes_to_hex (bytes : List UInt8) : String :=
  String.ofList (bytes.flatMap hex_digits)

/-- `"0".repeat(32)`, the unique ID column of a node known only by heartbeat. -/
def zero_hex : String :=
  String.ofList (List.replicate 32 '0')

/-- The sixteen bytes `insert_v1` and `needs_get_info` both build: zeros, with
bytes 2 to 7 of the big-endian hash copied over positions 10 to 15. -/
def padded (hash : UInt64) : List UInt8 :=
  List.replicate 10 0 ++ (to_be_bytes hash).drop 2

/-- A single row from the allocation table. The node ID column is an SQLite
integer; every statement below writes a `u16` to it. -/
structure AllocationEntry where
  node_id : UInt16
  unique_id_hex : String
  pseudo_unique_id : Option Int64
  ts : String
  deriving DecidableEq, Repr

def AllocationEntry.needs_get_info (self : AllocationEntry) : Bool :=
  match self.pseudo_unique_id with
  | none => self.unique_id_hex == zero_hex
  | some hash => self.unique_id_hex == bytes_to_hex (padded hash.toUInt64)

/-- The allocation table: its rows in insertion order, under the uniqueness
constraint that SQLite enforces on `node_id`. -/
structure Table where
  rows : List AllocationEntry
  unique : (rows.map (·.node_id)).Nodup

namespace Table

def empty : Table := ⟨[], List.nodup_nil⟩

/-- The node IDs that have a row. -/
def ids (t : Table) : List UInt16 :=
  t.rows.map (·.node_id)

/-- The first row with the given unique ID column. -/
def byHex (t : Table) (hex : String) : Option AllocationEntry :=
  t.rows.find? (·.unique_id_hex == hex)

/-- The first row with the given hash column; a row without a hash matches
none. -/
def byHash (t : Table) (hash : Int64) : Option AllocationEntry :=
  t.rows.find? (·.pseudo_unique_id == some hash)

/-- The row of a node. -/
def byNode (t : Table) (node_id : UInt16) : Option AllocationEntry :=
  t.rows.find? (·.node_id == node_id)

def push (t : Table) (row : AllocationEntry) (hfresh : row.node_id ∉ t.ids) : Table where
  rows := t.rows ++ [row]
  unique := by
    rw [List.map_append]
    exact t.unique.append (List.nodup_singleton _) (by simpa [ids] using hfresh)

/-- Overwrite the unique ID column of one node. -/
def setHex (t : Table) (node_id : UInt16) (hex : String) : Table where
  rows := t.rows.map fun row => if row.node_id = node_id then { row with unique_id_hex := hex } else row
  unique := by
    have hids : ∀ row : AllocationEntry,
        (if row.node_id = node_id then { row with unique_id_hex := hex } else row).node_id = row.node_id := by
      intro row
      split <;> rfl
    simpa [Function.comp_def, hids] using t.unique

end Table

/-- The SQL statements of `AllocationDb`, with their parameters. -/
inductive Statement where
  | select_by_unique_id_hex (hex : String)
  | select_by_pseudo_unique_id (hash_signed : Int64)
  | count_by_node_id (candidate : UInt16)
  | insert (node_id : UInt16) (hex : String) (pseudo_unique_id : Option Int64)
  | insert_or_ignore (node_id : UInt16) (hex : String) (pseudo_unique_id : Option Int64)
  | select_by_node_id (node_id : UInt16)
  | update_unique_id_hex (hex : String) (node_id : UInt16)
  | select_all

/-- What a statement yields when it succeeds. -/
abbrev Statement.Row : Statement → Type
  | .select_by_unique_id_hex _ => UInt16
  | .select_by_pseudo_unique_id _ => UInt16
  | .count_by_node_id _ => Nat
  | .insert _ _ _ => Unit
  | .insert_or_ignore _ _ _ => Unit
  | .select_by_node_id _ => AllocationEntry
  | .update_unique_id_hex _ _ => Unit
  | .select_all => List AllocationEntry

inductive SqlError where
  | QueryReturnedNoRows
  | SqliteFailure (message : String)
  deriving DecidableEq, Repr

def SqlError.display : SqlError → String
  | .QueryReturnedNoRows => "Query returned no rows"
  | .SqliteFailure message => message

abbrev Statement.Reply (s : Statement) : Type :=
  Except SqlError s.Row

def firstRow {α : Type} : Option α → Except SqlError α
  | some row => .ok row
  | none => .error .QueryReturnedNoRows

/-- Atomic execution of one statement. An inserted row takes `ts` from
SQLite's `current_timestamp`. -/
def exec (current_timestamp : String) : Handler Statement Statement.Reply Table
  | .select_by_unique_id_hex hex, t => (firstRow ((t.byHex hex).map (·.node_id)), t)
  | .select_by_pseudo_unique_id hash, t => (firstRow ((t.byHash hash).map (·.node_id)), t)
  | .count_by_node_id candidate, t => (.ok (t.ids.count candidate), t)
  | .insert node_id hex hash, t =>
    if h : node_id ∈ t.ids then
      (.error (.SqliteFailure "UNIQUE constraint failed: allocation.node_id"), t)
    else
      (.ok (), t.push ⟨node_id, hex, hash, current_timestamp⟩ h)
  | .insert_or_ignore node_id hex hash, t =>
    if h : node_id ∈ t.ids then (.ok (), t)
    else (.ok (), t.push ⟨node_id, hex, hash, current_timestamp⟩ h)
  | .select_by_node_id node_id, t => (firstRow (t.byNode node_id), t)
  | .update_unique_id_hex hex node_id, t => (.ok (), t.setHex node_id hex)
  | .select_all, t => (.ok (t.rows.mergeSort fun a b => a.node_id ≤ b.node_id), t)

/-- A computation over one connection to the allocation database. -/
abbrev Sql (α : Type) := Program Statement Statement.Reply α

def query (s : Statement) : Sql s.Reply := Program.ask s

def mapErr {α : Type} (label : String) : Except SqlError α → Except String Unit
  | .ok _ => .ok ()
  | .error e => .error (label ++ e.display)

namespace AllocationDb

def find_by_unique_id (uid : UniqueId) : Sql (Option UInt16) := do
  let hex := bytes_to_hex uid.toList
  return (← query (.select_by_unique_id_hex hex)).toOption

def find_by_hash (hash : UInt64) : Sql (Option UInt16) := do
  let hash_signed := hash.toInt64
  return (← query (.select_by_pseudo_unique_id hash_signed)).toOption

/-- The candidates `1..=max_id` in order. -/
def candidates (max_id : UInt16) : List UInt16 :=
  (List.range' 1 max_id.toNat).map UInt16.ofNat

/-- The probing loop of `next_free_id`; a failed `COUNT` counts as taken. -/
def next_free_id.probe (reserved : List UInt16) : List UInt16 → Sql (Option UInt16)
  | [] => return none
  | candidate :: rest => do
    if reserved.contains candidate then
      next_free_id.probe reserved rest
    else
      let count : Nat := (← query (.count_by_node_id candidate)).toOption.getD 1
      if count == 0 then
        return some candidate
      else
        next_free_id.probe reserved rest

def next_free_id (reserved : List UInt16) (max_id : UInt16) : Sql (Option UInt16) :=
  next_free_id.probe reserved (candidates max_id)

def insert_v2 (node_id : UInt16) (uid : UniqueId) : Sql (Except String Unit) := do
  let hex := bytes_to_hex uid.toList
  return mapErr "DB insert_v2 failed: " (← query (.insert node_id hex none))

def insert_v1 (node_id : UInt16) (hash : UInt64) : Sql (Except String Unit) := do
  let hex := bytes_to_hex (padded hash)
  let hash_signed := hash.toInt64
  return mapErr "DB insert_v1 failed: " (← query (.insert node_id hex (some hash_signed)))

def record_static_node (node_id : UInt16) : Sql (Except String Unit) := do
  return mapErr "DB record_static_node failed: " (← query (.insert_or_ignore node_id zero_hex none))

def find_by_node_id (node_id : UInt16) : Sql (Option AllocationEntry) := do
  return (← query (.select_by_node_id node_id)).toOption

def update_unique_id (node_id : UInt16) (uid : UniqueId) : Sql (Except String Unit) := do
  let hex := bytes_to_hex uid.toList
  return mapErr "DB update_unique_id failed: " (← query (.update_unique_id_hex hex node_id))

def list_all : Sql (List AllocationEntry) := do
  return (← query .select_all).toOption.getD []

end AllocationDb

end cyphal_service.pnp.db
