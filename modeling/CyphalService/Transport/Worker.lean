import CyphalService.Lib.Logged
import CyphalService.Transport.State
import CyphalService.Pnp.System

open effect machine
open cyphal_service.pnp
open cyphal_service.pnp.db cyphal_service.pnp.allocator

namespace cyphal_service.transport

/-- `Heartbeat.1.0`, as far as the worker reads it. -/
structure Heartbeat where
  uptime : UInt32
  health : UInt8
  mode : UInt8

structure Version where
  major : UInt8
  minor : UInt8

/-- The response of `GetInfo.1.0`, as far as the worker reads it. -/
structure GetInfoResponse where
  hardware_version : Version
  software_version : Version
  unique_id : UniqueId
  name : List UInt8

/-- The deserializers of the Cyphal library; none stands for a malformed payload. -/
structure Codec where
  heartbeat : List UInt8 → Option Heartbeat
  allocation_v1 : List UInt8 → Option AllocationDataV1
  allocation_v2 : List UInt8 → Option AllocationDataV2
  get_info_response : List UInt8 → Option GetInfoResponse

def HEARTBEAT_SUBJECT : UInt16 := 7509

def PNP_V2_SUBJECT : UInt16 := 8165

def PNP_V1_SUBJECT : UInt16 := 8166

def GET_INFO_SERVICE : UInt16 := 430

structure MessageTransfer where
  subject : UInt16
  source : Option UInt16
  payload : List UInt8

structure ServiceTransfer where
  service : UInt16
  source : UInt16
  payload : List UInt8

/-- The driver errors that some worker passes over in silence, and the rest. -/
inductive ErrorKind where
  | WouldBlock
  | TimedOut
  | UsbTimeout
  | UsbNoDevice
  | Other
  deriving DecidableEq

structure ReceiveError where
  kind : ErrorKind
  debug : String

/-- The `try_from` of the library's node-ID types. -/
structure NodeIds where
  can : UInt8 → Bool
  udp : UInt16 → Bool
  serial : UInt16 → Bool

/-- Where the workers of the transports differ: the target of a GetInfo command
or the error its caller gets, the target of a PNP GetInfo, the receive errors
that are not recorded, and the highest node ID of the allocator. -/
structure Transport where
  command_target : UInt16 → Except String UInt16
  dispatch_target : UInt16 → Option UInt16
  ignored : List ErrorKind
  max_node_id : UInt16

/-- A CAN worker tests the range of a `u16` before it narrows it. -/
def can (ids : NodeIds) (ignored : List ErrorKind) : Transport where
  command_target node_id :=
    if node_id > 127 then .error s!"CAN node ID {node_id} is out of range (0–127)"
    else if ids.can node_id.toUInt8 then .ok node_id
    else .error "Invalid node ID"
  dispatch_target node_id := if node_id ≤ 127 ∧ ids.can node_id.toUInt8 then some node_id else none
  ignored := ignored
  max_node_id := 127

def addressed (try_from : UInt16 → Bool) (label : String) (ignored : List ErrorKind) : Transport where
  command_target node_id := if try_from node_id then .ok node_id else .error s!"Invalid {label} node ID: {node_id}"
  dispatch_target node_id := if try_from node_id then some node_id else none
  ignored := ignored
  max_node_id := 65534

def can_gsusb (ids : NodeIds) : Transport := can ids [.UsbTimeout, .UsbNoDevice]

def can_socketcan (ids : NodeIds) : Transport := can ids [.WouldBlock, .TimedOut]

def udp (ids : NodeIds) : Transport := addressed ids.udp "UDP" []

def serial (ids : NodeIds) : Transport := addressed ids.serial "Serial" [.WouldBlock, .TimedOut]

/-- What stays fixed over the life of a worker. The token tells whether the
library granted the GetInfo requester. -/
structure Setup where
  kind : Transport
  codec : Codec
  local_node_id : UInt16
  get_info_token : Bool

/-- The clock readings that one event of the worker takes, in order, and the
timestamp SQLite gives to a row inserted in it. -/
structure Readings where
  first : Instant
  second : Instant
  third : Instant
  current_timestamp : String

/-- The variables of the worker loop. The allocator stands with its database. -/
structure Worker where
  state : WorkerState
  pnp_allocator : Option system.State
  last_second : Instant

/-- What a worker does besides changing its variables. -/
inductive Effect where
  | reply (channel : ReplyChannel) (message : Reply)
  | send_request (target : UInt16)
  | call (input : system.Input) (output : system.Return)
  | publish_v1 (msg : AllocationDataV1)
  | publish_v2 (msg : AllocationDataV2)

/-- What `send_request` returned, with the debug text of its error. -/
abbrev SendOutcome := Except String Unit

abbrev Work := Logged Effect Worker

namespace Worker

def update (f : WorkerState → WorkerState) : Work Unit :=
  .modify fun self => { self with state := f self.state }

def send_reply (channel : ReplyChannel) (message : Reply) : Work Unit :=
  .emit (.reply channel message)

/-- Call the allocator `pnp` of the worker. -/
def call (pnp : system.State) (call : system.Call) (now : Readings) : Work system.Return := do
  let input := ⟨call, now.current_timestamp⟩
  let result := system.step pnp input
  .modify fun self => { self with pnp_allocator := some result.2 }
  .emit (.call input result.1)
  return result.1

/-- `if let Some(pnp) = pnp_allocator { pnp.on_get_info_result(node_id, uid) }` -/
def on_get_info_result (node_id : UInt16) (uid : Option UniqueId) (now : Readings) : Work Unit := do
  match (← .get).pnp_allocator with
  | some pnp =>
    let _ ← call pnp (.on_get_info_result node_id uid) now
  | none => return

def handle_command (setup : Setup) (cmd : TransportCommand) (sent : SendOutcome) (now : Readings) :
    Work Unit := do
  match cmd with
  | .ListNodes reply => send_reply reply (.nodes (← .get).state.node_list)
  | .Diagnostics reply =>
    let self ← .get
    let diag := self.state.diagnostics (some setup.local_node_id) now.first now.second
    send_reply reply (.diagnostics { diag with pnp_enabled := self.pnp_allocator.isSome })
  | .GetInfo node_id reply =>
    match setup.kind.command_target node_id with
    | .error message => send_reply reply (.get_info (.error message))
    | .ok target =>
      if setup.get_info_token then
        .emit (.send_request target)
        match sent with
        | .ok () =>
          update (·.on_get_info_request_sent)
          update ({ · with pending_get_info := some ⟨node_id, reply, now.first + Duration.from_secs 3⟩ })
        | .error e =>
          update (·.record_error s!"GetInfo request send failed: {e}")
          send_reply reply (.get_info (.error s!"Failed to send GetInfo request: {e}"))
      else
        update (·.record_error "GetInfo requester not available")
        send_reply reply (.get_info (.error "GetInfo requester not available"))
  | .ListAllocations reply =>
    match (← .get).pnp_allocator with
    | some pnp =>
      let entries := (PnpAllocator.list_allocations.run (exec now.current_timestamp) pnp.table).1
      send_reply reply (.allocations entries)
    | none => send_reply reply (.allocations [])

/-- Run a method of the worker state that may send a GetInfo result. -/
def replying (method : WorkerState → Option GetInfoReply × WorkerState) : Work Unit := do
  let (reply, state) := method (← .get).state
  update fun _ => state
  match reply with
  | some reply => send_reply reply.channel (.get_info reply.result)
  | none => return

def check_get_info_timeout (now : Instant) : Work Unit :=
  replying (·.check_get_info_timeout now)

/-- Send the GetInfo of a popped node ID, or report at once that it failed. -/
def send_pnp_get_info (setup : Setup) (node_id : UInt16) (sent : SendOutcome) (now : Readings) :
    Work Unit := do
  match setup.get_info_token, setup.kind.dispatch_target node_id with
  | true, some target =>
    .emit (.send_request target)
    match sent with
    | .ok () =>
      update (·.on_get_info_request_sent)
      update ({ · with pnp_pending_get_info := some ⟨node_id, now.first + Duration.from_secs 5⟩ })
    | .error _ => on_get_info_result node_id none now
  | _, _ => on_get_info_result node_id none now

def dispatch_pnp_get_info (setup : Setup) (sent : SendOutcome) (now : Readings) : Work Unit := do
  let self ← .get
  match self.state.pnp_pending_get_info, self.pnp_allocator with
  | none, some pnp =>
    match ← call pnp .pop_get_info_request now with
    | .popped (some node_id) => send_pnp_get_info setup node_id sent now
    | _ => return
  | _, _ => return

/-- Report a PNP GetInfo that timed out back to the allocator. -/
def check_pnp_get_info_timeout (now : Readings) : Work Unit := do
  let (timed_out, state) := (← .get).state.check_pnp_get_info_timeout now.first
  update fun _ => state
  match timed_out with
  | some node_id => on_get_info_result node_id none now
  | none => return

/-- Pass a decoded allocation message to the allocator and publish its answer,
if it gives one. -/
def answer_allocation (pnp : system.State) (request : system.Call) (now : Readings) : Work Unit := do
  match ← call pnp request now with
  | .allocation_v1 (some response) =>
    .emit (.publish_v1 response)
    update (·.on_pnp_allocated)
  | .allocation_v2 (some response) =>
    .emit (.publish_v2 response)
    update (·.on_pnp_allocated)
  | _ => return

/-- The handler tells the library whether it took the transfer. -/
def handle_message (setup : Setup) (transfer : MessageTransfer) (now : Readings) : Work Bool := do
  let pnp_allocator := (← .get).pnp_allocator
  if transfer.subject = HEARTBEAT_SUBJECT then
    match setup.codec.heartbeat transfer.payload with
    | none => return false
    | some hb =>
      let node_id := transfer.source.getD 0xFFFF
      if let some pnp := pnp_allocator then
        let _ ← call pnp (.on_heartbeat node_id now.first now.second) now
      update (·.on_heartbeat node_id hb.uptime hb.health hb.mode now.third)
      return true
  else
    match pnp_allocator with
    | none => return false
    | some pnp =>
      if transfer.subject = PNP_V2_SUBJECT then
        match setup.codec.allocation_v2 transfer.payload with
        | none => return true
        | some msg =>
          answer_allocation pnp (.on_allocation_v2 msg transfer.source) now
          return true
      else if transfer.subject = PNP_V1_SUBJECT then
        match setup.codec.allocation_v1 transfer.payload with
        | none => return true
        | some msg =>
          answer_allocation pnp (.on_allocation_v1 msg transfer.source) now
          return true
      else
        return false

/-- What the caller of a GetInfo command gets for a response. -/
def get_info_result (source_node_id : UInt16) : Option GetInfoResponse → Except String GetInfoResult
  | some resp => .ok {
      node_id := source_node_id
      name := utf8.from_utf8_lossy resp.name
      hardware_version := (resp.hardware_version.major, resp.hardware_version.minor)
      software_version := (resp.software_version.major, resp.software_version.minor)
      unique_id := resp.unique_id }
  | none => .error "Failed to parse GetInfo response"

/-- `if matches_cli { .. }` -/
def answer_cli (matches_cli : Bool) (source_node_id : UInt16) (parsed : Option GetInfoResponse) : Work Unit := do
  if matches_cli then
    replying (·.on_get_info_response (get_info_result source_node_id parsed))

/-- `if matches_pnp { .. }` -/
def answer_pnp (matches_pnp : Bool) (source_node_id : UInt16) (parsed : Option GetInfoResponse)
    (now : Readings) : Work Unit := do
  if matches_pnp then
    update fun state => { state with
      pnp_pending_get_info := none
      get_info_responses_received := u64.saturating_add state.get_info_responses_received 1 }
    on_get_info_result source_node_id (parsed.map (·.unique_id)) now

def handle_response (setup : Setup) (transfer : ServiceTransfer) (now : Readings) : Work Bool := do
  if transfer.service ≠ GET_INFO_SERVICE then
    return false
  let source_node_id := transfer.source
  let self ← .get
  let matches_cli := self.state.pending_get_info.any (·.node_id = source_node_id)
  let matches_pnp := self.state.pnp_pending_get_info.any (·.node_id = source_node_id)
  if !matches_cli && !matches_pnp then
    return false
  let parsed := setup.codec.get_info_response transfer.payload
  answer_cli matches_cli source_node_id parsed
  answer_pnp matches_pnp source_node_id parsed now
  update (·.on_message_received now.first)
  return true

/-- Only an error the transport does not ignore is recorded. -/
def on_receive_error (setup : Setup) (e : ReceiveError) : Work Unit := do
  if e.kind ∈ setup.kind.ignored then
    return
  else
    update (·.record_error s!"Receive error: {e.debug}")

def per_second (setup : Setup) (tested_at ticked_at : Instant) : Work Unit := do
  if elapsed (← .get).last_second tested_at ≥ Duration.from_secs 1 then
    .modify fun self => { self with last_second := ticked_at }
    update (·.tick_local_node setup.local_node_id)

/-- A worker as its loop starts; `pnp` is the content of the allocation database
with SQLite's clock, when PNP is enabled and the database opens. -/
def start (setup : Setup) (pnp : Option (Table × String)) (now : Instant) : Worker where
  state := WorkerState.default.register_local_node setup.local_node_id
  pnp_allocator := pnp.map fun (table, ts) =>
    system.connect setup.local_node_id setup.kind.max_node_id ts table
  last_second := now

end Worker

/-- One thing the worker loop does, with what it reads from outside. -/
inductive Event where
  | command (cmd : TransportCommand) (sent : SendOutcome) (now : Readings)
  | check_get_info_timeout (now : Instant)
  | dispatch_pnp_get_info (sent : SendOutcome) (now : Readings)
  | check_pnp_get_info_timeout (now : Readings)
  | message (transfer : MessageTransfer) (now : Readings)
  | response (transfer : ServiceTransfer) (now : Readings)
  | receive_error (e : ReceiveError)
  | per_second (tested_at ticked_at : Instant)

def Event.perform (setup : Setup) : Event → Work Unit
  | .command cmd sent now => Worker.handle_command setup cmd sent now
  | .check_get_info_timeout now => Worker.check_get_info_timeout now
  | .dispatch_pnp_get_info sent now => Worker.dispatch_pnp_get_info setup sent now
  | .check_pnp_get_info_timeout now => Worker.check_pnp_get_info_timeout now
  | .message transfer now => do let _ ← Worker.handle_message setup transfer now
  | .response transfer now => do let _ ← Worker.handle_response setup transfer now
  | .receive_error e => Worker.on_receive_error setup e
  | .per_second tested_at ticked_at => Worker.per_second setup tested_at ticked_at

def step (setup : Setup) (self : Worker) (event : Event) : List Effect × Worker :=
  let outcome := (event.perform setup).run self
  (outcome.log, outcome.state)

abbrev History := List (machine.Step Worker Event (List Effect))

/-- One iteration of the worker loop: what it takes from the command channel,
what `receive` passes to the handler and every reading in between. -/
structure Iteration where
  commands : List (TransportCommand × SendOutcome × Readings)
  get_info_read : Instant
  dispatched : SendOutcome × Readings
  pnp_get_info_read : Readings
  received : List ((MessageTransfer ⊕ ServiceTransfer) × Readings)
  receive_error : Option ReceiveError
  second_read : Instant
  ticked_at : Instant

/-- The events of an iteration in the order of the loop's body. -/
def Iteration.events (iteration : Iteration) : List Event :=
  iteration.commands.map (fun (cmd, sent, now) => .command cmd sent now) ++
    [.check_get_info_timeout iteration.get_info_read,
      .dispatch_pnp_get_info iteration.dispatched.1 iteration.dispatched.2,
      .check_pnp_get_info_timeout iteration.pnp_get_info_read] ++
    iteration.received.map (fun
      | (.inl transfer, now) => .message transfer now
      | (.inr transfer, now) => .response transfer now) ++
    (iteration.receive_error.map Event.receive_error).toList ++
    [.per_second iteration.second_read iteration.ticked_at]

/-- The steps of the worker loop over its iterations. -/
def run_worker (setup : Setup) (self : Worker) (iterations : List Iteration) : History :=
  trace (step setup) self (iterations.flatMap Iteration.events)

/-- The worker at the end of its iterations. -/
def worker_after (setup : Setup) (self : Worker) (iterations : List Iteration) : Worker :=
  final (step setup) self (iterations.flatMap Iteration.events)

end cyphal_service.transport
