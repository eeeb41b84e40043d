import CyphalService.Lib.Utf8
import CyphalService.Pnp.Allocator

open cyphal_service.pnp.db cyphal_service.pnp.allocator

namespace cyphal_service.transport

def u64.saturating_add (a b : UInt64) : UInt64 := UInt64.ofNat (min (a.toNat + b.toNat) (UInt64.size - 1))

def u32.saturating_add (a b : UInt32) : UInt32 := UInt32.ofNat (min (a.toNat + b.toNat) (UInt32.size - 1))

theorem u64.toNat_saturating_add (a b : UInt64) :
    (u64.saturating_add a b).toNat = min (a.toNat + b.toNat) (UInt64.size - 1) := by
  rw [u64.saturating_add, UInt64.toNat_ofNat_of_lt']
  exact Nat.lt_of_le_of_lt (Nat.min_le_right _ _) (by decide)

theorem u32.toNat_saturating_add (a b : UInt32) :
    (u32.saturating_add a b).toNat = min (a.toNat + b.toNat) (UInt32.size - 1) := by
  rw [u32.saturating_add, UInt32.toNat_ofNat_of_lt']
  exact Nat.lt_of_le_of_lt (Nat.min_le_right _ _) (by decide)

/-- A node observed on the network via heartbeat. -/
structure NodeEntry where
  node_id : UInt16
  uptime : UInt32
  health : UInt8
  mode : UInt8
  deriving DecidableEq, Repr

/-- Information returned by a successful GetInfo request. -/
structure GetInfoResult where
  node_id : UInt16
  name : String
  hardware_version : UInt8 × UInt8
  software_version : UInt8 × UInt8
  unique_id : UniqueId
  deriving DecidableEq, Repr

structure TransportDiagnostics where
  local_node_id : Option UInt16
  observed_node_count : Nat
  total_messages_received : UInt64
  heartbeat_messages_received : UInt64
  get_info_requests_sent : UInt64
  get_info_responses_received : UInt64
  recent_heartbeat_sources : List UInt16
  last_message_age : Option Duration
  last_heartbeat_age : Option Duration
  last_error : Option String
  pnp_enabled : Bool
  pnp_allocations_served : UInt64
  deriving DecidableEq

/-- The sending end of a `sync_channel(1)` that a caller made for one reply. -/
abbrev ReplyChannel := Nat

/-- Commands sent from the REPL to a transport worker thread. -/
inductive TransportCommand where
  | ListNodes (reply : ReplyChannel)
  | GetInfo (node_id : UInt16) (reply : ReplyChannel)
  | Diagnostics (reply : ReplyChannel)
  | ListAllocations (reply : ReplyChannel)
  deriving DecidableEq

/-- What goes over a reply channel. -/
inductive Reply where
  | nodes (nodes : List NodeEntry)
  | get_info (result : Except String GetInfoResult)
  | diagnostics (diagnostics : TransportDiagnostics)
  | allocations (entries : List AllocationEntry)
  deriving DecidableEq

structure PnpGetInfoPending where
  node_id : UInt16
  deadline : Instant
  deriving DecidableEq

structure PendingGetInfo where
  node_id : UInt16
  reply : ReplyChannel
  deadline : Instant
  deriving DecidableEq

/-- The result that a method sends on the reply channel of a GetInfo command. -/
structure GetInfoReply where
  channel : ReplyChannel
  result : Except String GetInfoResult

/-- Per-transport state shared between the poll loop and the command handler. -/
structure WorkerState where
  observed_nodes : AList fun _ : UInt16 => NodeEntry
  pending_get_info : Option PendingGetInfo
  pnp_pending_get_info : Option PnpGetInfoPending
  total_messages_received : UInt64
  heartbeat_messages_received : UInt64
  get_info_requests_sent : UInt64
  get_info_responses_received : UInt64
  recent_heartbeat_sources : List UInt16
  last_message_at : Option Instant
  last_heartbeat_at : Option Instant
  last_error : Option String
  pnp_allocations_served : UInt64

namespace WorkerState

def default : WorkerState where
  observed_nodes := ∅
  pending_get_info := none
  pnp_pending_get_info := none
  total_messages_received := 0
  heartbeat_messages_received := 0
  get_info_requests_sent := 0
  get_info_responses_received := 0
  recent_heartbeat_sources := []
  last_message_at := none
  last_heartbeat_at := none
  last_error := none
  pnp_allocations_served := 0

def register_local_node (self : WorkerState) (node_id : UInt16) : WorkerState :=
  if node_id ∈ self.observed_nodes then self
  else { self with observed_nodes := self.observed_nodes.insert node_id ⟨node_id, 0, 0, 0⟩ }

def tick_local_node (self : WorkerState) (node_id : UInt16) : WorkerState :=
  let self := self.register_local_node node_id
  match self.observed_nodes.lookup node_id with
  | some node =>
    let ticked := { node with uptime := u32.saturating_add node.uptime 1 }
    { self with observed_nodes := self.observed_nodes.insert node_id ticked }
  | none => self

/-- `while sources.len() > 8 { sources.pop_front(); }` -/
def trim : List UInt16 → List UInt16
  | [] => []
  | source :: rest => if rest.length + 1 > 8 then trim rest else source :: rest

def on_heartbeat (self : WorkerState) (node_id : UInt16) (uptime : UInt32) (health mode : UInt8)
    (now : Instant) : WorkerState :=
  { self with
    total_messages_received := u64.saturating_add self.total_messages_received 1
    heartbeat_messages_received := u64.saturating_add self.heartbeat_messages_received 1
    last_message_at := some now
    last_heartbeat_at := some now
    recent_heartbeat_sources := trim (self.recent_heartbeat_sources ++ [node_id])
    observed_nodes := self.observed_nodes.insert node_id ⟨node_id, uptime, health, mode⟩ }

/-- Take the pending request; the result goes to its caller. -/
def on_get_info_response (self : WorkerState) (result : Except String GetInfoResult) :
    Option GetInfoReply × WorkerState :=
  let self := { self with
    get_info_responses_received := u64.saturating_add self.get_info_responses_received 1 }
  match self.pending_get_info with
  | some pending => (some ⟨pending.reply, result⟩, { self with pending_get_info := none })
  | none => (none, self)

def on_get_info_request_sent (self : WorkerState) : WorkerState :=
  { self with get_info_requests_sent := u64.saturating_add self.get_info_requests_sent 1 }

def on_message_received (self : WorkerState) (now : Instant) : WorkerState :=
  { self with
    total_messages_received := u64.saturating_add self.total_messages_received 1
    last_message_at := some now }

def record_error (self : WorkerState) (error : String) : WorkerState :=
  { self with last_error := some error }

def on_pnp_allocated (self : WorkerState) : WorkerState :=
  { self with pnp_allocations_served := u64.saturating_add self.pnp_allocations_served 1 }

def check_get_info_timeout (self : WorkerState) (now : Instant) : Option GetInfoReply × WorkerState :=
  match self.pending_get_info with
  | some pending =>
    if now > pending.deadline then
      (some ⟨pending.reply, .error "GetInfo request timed out"⟩, { self with pending_get_info := none })
    else
      (none, self)
  | none => (none, self)

def check_pnp_get_info_timeout (self : WorkerState) (now : Instant) : Option UInt16 × WorkerState :=
  match self.pnp_pending_get_info with
  | some pending =>
    if now > pending.deadline then
      (some pending.node_id, { self with pnp_pending_get_info := none })
    else
      (none, self)
  | none => (none, self)

/-- The order in which a hash map yields its values is not specified; here it is
that of the association list. -/
def node_list (self : WorkerState) : List NodeEntry :=
  self.observed_nodes.entries.map (·.2)

/-- Each age takes its own clock reading. -/
def diagnostics (self : WorkerState) (local_node_id : Option UInt16) (message_read heartbeat_read : Instant) :
    TransportDiagnostics where
  local_node_id := local_node_id
  observed_node_count := self.observed_nodes.entries.length
  total_messages_received := self.total_messages_received
  heartbeat_messages_received := self.heartbeat_messages_received
  get_info_requests_sent := self.get_info_requests_sent
  get_info_responses_received := self.get_info_responses_received
  recent_heartbeat_sources := self.recent_heartbeat_sources
  last_message_age := self.last_message_at.map (elapsed · message_read)
  last_heartbeat_age := self.last_heartbeat_at.map (elapsed · heartbeat_read)
  last_error := self.last_error
  pnp_enabled := false
  pnp_allocations_served := self.pnp_allocations_served

end WorkerState

end cyphal_service.transport
