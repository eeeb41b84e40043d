import CyphalService.Transport.Hearing
import CyphalService.Transport.Replies

open effect effect.Logged machine
open cyphal_service.pnp
open cyphal_service.pnp.db cyphal_service.pnp.allocator

namespace cyphal_service.transport

/-- What an effect sends on a reply channel. -/
def Effect.message : Effect → Option (ReplyChannel × Reply)
  | .reply channel message => some (channel, message)
  | _ => none

/-- The messages sent on reply channels by a list of effects. -/
def messages (effects : List Effect) : List (ReplyChannel × Reply) := effects.filterMap (·.message)

def GetInfoReply.message (self : GetInfoReply) : ReplyChannel × Reply :=
  (self.channel, .get_info self.result)

/-- The reply to a command that is answered from what the worker knows. -/
def Worker.listing (setup : Setup) (self : Worker) (now : Readings) : Request → Option Reply
  | .list_nodes => some (.nodes self.state.node_list)
  | .get_info _ => none
  | .diagnostics =>
    let diag := self.state.diagnostics (some setup.local_node_id) now.first now.second
    some (.diagnostics { diag with pnp_enabled := self.pnp_allocator.isSome })
  | .list_allocations =>
    some (.allocations (self.pnp_allocator.elim [] fun pnp =>
      (PnpAllocator.list_allocations.run (exec now.current_timestamp) pnp.table).1))

def TransportCommand.reply : TransportCommand → ReplyChannel
  | .ListNodes reply => reply
  | .GetInfo _ reply => reply
  | .Diagnostics reply => reply
  | .ListAllocations reply => reply

theorem Request.reply_command (request : Request) (reply : ReplyChannel) : (request.command reply).reply = reply := by
  cases request with
  | list_nodes => rfl
  | get_info node_id => rfl
  | diagnostics => rfl
  | list_allocations => rfl

/-- Every command is the one of some call. -/
theorem TransportCommand.exists_request (cmd : TransportCommand) :
    ∃ (request : Request) (reply : ReplyChannel), cmd = request.command reply := by
  cases cmd with
  | ListNodes reply => exact ⟨.list_nodes, reply, rfl⟩
  | GetInfo node_id reply => exact ⟨.get_info node_id, reply, rfl⟩
  | Diagnostics reply => exact ⟨.diagnostics, reply, rfl⟩
  | ListAllocations reply => exact ⟨.list_allocations, reply, rfl⟩

/-- What an event sends on reply channels, and the GetInfo command that waits
after it: a listing is sent by the command that asks for it and by nothing else. -/
inductive Replies (setup : Setup) (self : Worker) :
    Event → List (ReplyChannel × Reply) → Option PendingGetInfo → Prop where
  | listed {request : Request} {reply : ReplyChannel} {sent : SendOutcome} {now : Readings} {message : Reply}
      (h : self.listing setup now request = some message) :
      Replies setup self (.command (request.command reply) sent now) [(reply, message)] self.state.pending_get_info
  | served {event : Event} {sent : List GetInfoReply} {pending : Option PendingGetInfo}
      (hunlisted : ∀ request reply outcome now, event = .command (request.command reply) outcome now →
        self.listing setup now request = none)
      (h : Served setup self.state.pending_get_info event sent pending) :
      Replies setup self event (sent.map (·.message)) pending

theorem messages_of_unlisted {effects : List Effect} (h : effects.filter (·.isListing) = []) :
    messages effects = (results effects).map (·.message) := by
  rw [List.filter_eq_nil_iff] at h
  rw [messages, results, List.map_filterMap]
  refine List.filterMap_congr fun effect hmem => ?_
  cases effect with
  | reply channel message =>
    cases message with
    | get_info result => rfl
    | nodes nodes => exact absurd rfl (h _ hmem)
    | diagnostics diagnostics => exact absurd rfl (h _ hmem)
    | allocations entries => exact absurd rfl (h _ hmem)
  | send_request target => rfl
  | call input output => rfl
  | publish_v1 msg => rfl
  | publish_v2 msg => rfl

namespace Worker

theorem run_handle_command_of_listing {setup : Setup} {self : Worker} {now : Readings} {request : Request}
    {message : Reply} (h : self.listing setup now request = some message) (reply : ReplyChannel)
    (sent : SendOutcome) :
    (handle_command setup (request.command reply) sent now).run self = ⟨(), [.reply reply message], self⟩ := by
  cases request with
  | list_nodes =>
    obtain rfl := Option.some.inj h
    rfl
  | get_info node_id => cases h
  | diagnostics =>
    obtain rfl := Option.some.inj h
    rfl
  | list_allocations =>
    obtain rfl := Option.some.inj h
    cases hpnp : self.pnp_allocator with
    | none => simp [Request.command, handle_command, hpnp]
    | some pnp => simp [Request.command, handle_command, hpnp]

end Worker

/-- A step of the worker replies in one of the ways above. -/
theorem replies_of_step {setup : Setup} {self post : Worker} {event : Event} {effects : List Effect}
    (h : step setup self event = (effects, post)) :
    Replies setup self event (messages effects) post.state.pending_get_info := by
  have hserved := served_of_step h
  cases hcommand : event.isCommand with
  | false =>
    obtain ⟨rfl, -⟩ := Prod.mk.inj h
    rw [messages_of_unlisted (unlisted_of_perform setup self hcommand)]
    refine .served ?_ hserved
    intro request reply outcome now heq
    rw [heq] at hcommand
    cases hcommand
  | true =>
    cases event with
    | command cmd sent now =>
      obtain ⟨request, reply, rfl⟩ := cmd.exists_request
      cases hlisting : self.listing setup now request with
      | some message =>
        obtain ⟨rfl, rfl⟩ := Prod.mk.inj h
        rw [Event.perform, Worker.run_handle_command_of_listing hlisting]
        exact .listed hlisting
      | none =>
        cases request with
        | get_info node_id =>
          obtain ⟨rfl, -⟩ := Prod.mk.inj h
          have hunlisted := unlisted_of_unshown (Worker.unhearing_get_info setup node_id reply sent now self).2
          refine (messages_of_unlisted hunlisted).symm ▸ .served ?_ hserved
          intro other channel outcome read heq
          cases other with
          | get_info node_id => rfl
          | list_nodes => cases heq
          | diagnostics => cases heq
          | list_allocations => cases heq
        | list_nodes => cases hlisting
        | diagnostics => cases hlisting
        | list_allocations => cases hlisting
    | _ => cases hcommand

/-- The reply channel of the command that an event takes. -/
def Event.channel : Event → List ReplyChannel
  | .command cmd _ _ => [cmd.reply]
  | _ => []

/-- A message goes to the command that is taken or to the one that waited, and
neither is answered and kept. -/
theorem Replies.count_le {setup : Setup} {self : Worker} {event : Event} {sent : List (ReplyChannel × Reply)}
    {pending : Option PendingGetInfo} (h : Replies setup self event sent pending) (channel : ReplyChannel) :
    (sent.map (·.1)).count channel + (PendingGetInfo.waiting pending).count channel ≤
      (PendingGetInfo.waiting self.state.pending_get_info).count channel + event.channel.count channel := by
  cases h with
  | @listed request reply outcome now message hlisting =>
    rw [Event.channel, request.reply_command]
    simp only [List.map_cons, List.map_nil]
    omega
  | served hunlisted hserved =>
    cases hserved with
    | accepted haccepted =>
      simp only [List.map_nil, List.count_nil, PendingGetInfo.waiting, Option.map_some, Option.toList_some,
        Event.channel, TransportCommand.reply]
      omega
    | refused message hrefused =>
      simp only [List.map_cons, List.map_nil, GetInfoReply.message, Event.channel, TransportCommand.reply]
      omega
    | answered hpending hservice hsource =>
      rw [hpending]
      simp only [List.map_cons, List.map_nil, GetInfoReply.message, PendingGetInfo.waiting, Option.map_some,
        Option.toList_some, Option.map_none, Option.toList_none, List.count_nil]
      omega
    | expired hpending hlate =>
      rw [hpending]
      simp only [List.map_cons, List.map_nil, GetInfoReply.message, PendingGetInfo.waiting, Option.map_some,
        Option.toList_some, Option.map_none, Option.toList_none, List.count_nil]
      omega
    | idle hevent =>
      simp only [List.map_nil, List.count_nil]
      omega

end cyphal_service.transport
