import CyphalService.Transport.Messages

open effect machine
open cyphal_service.pnp
open cyphal_service.pnp.db cyphal_service.pnp.allocator

namespace cyphal_service.transport

/-- The command of a call enters the command channel, with this reply channel. -/
def Calls (channel : ReplyChannel) (request : Request) (st : ServiceStep) : Prop :=
  st.input = .send request ∧ st.pre.next_reply = channel ∧ st.pre.cmd_rx.length < COMMAND_CHANNEL_BOUND

/-- The command that a step puts into the command channel. -/
def sent_command (st : ServiceStep) : List TransportCommand :=
  match st.input with
  | .send request =>
    if st.pre.cmd_rx.length < COMMAND_CHANNEL_BOUND then [request.command st.pre.next_reply] else []
  | _ => []

/-- The command that a step takes from the command channel. -/
def taken_command (st : ServiceStep) : List TransportCommand :=
  match st.input with
  | .try_recv _ _ => st.pre.cmd_rx.head?.toList
  | _ => []

/-- The reply channels on which a message was sent, in order. -/
def replied (run : List ServiceStep) : List ReplyChannel :=
  run.flatMap fun st => (messages st.output).map (·.1)

/-- A message that a call can get: what the worker knows as it sends a listing,
or a GetInfo result. -/
inductive Answers (setup : Setup) (self : Worker) : Request → Reply → Prop where
  | listing {request : Request} {now : Readings} {message : Reply}
      (h : self.listing setup now request = some message) : Answers setup self request message
  | get_info {node_id : UInt16} {result : Except String GetInfoResult} :
      Answers setup self (.get_info node_id) (.get_info result)

/-- A listing is sent by the step that takes its command. -/
def ListsAtOnce (st : ServiceStep) : Prop :=
  ∀ (request : Request) channel, taken_command st = [request.command channel] →
    (∃ message, (channel, message) ∈ messages st.output) ∨ ∃ node_id, request = .get_info node_id

/-- The commands of a run are taken in the order of their calls, no reply channel
gets two messages, every message answers the call that made its channel, and a
listing is sent by the step that takes its command. -/
structure Delivered (setup : Setup) (run : List ServiceStep) (service : Service) : Prop where
  in_order : run.flatMap sent_command = run.flatMap taken_command ++ service.cmd_rx
  once : (replied run).Nodup
  awaited : ∀ before st after, run = before ++ st :: after → ∀ channel message,
    (channel, message) ∈ messages st.output →
      ∃ request, Occurred (Calls channel request) before ∧ Answers setup st.pre.worker request message
  at_once : ∀ st ∈ run, ListsAtOnce st

/-- The reply channels of the commands that wait: for a response or in the
command channel. -/
def Service.outstanding (self : Service) : List ReplyChannel :=
  PendingGetInfo.waiting self.worker.state.pending_get_info ++ self.cmd_rx.map (·.reply)

/-- What the delivery depends on: a channel that was made is answered or waits at
most once, and what waits was called for. -/
structure CallsInv (before : List ServiceStep) (service : Service) : Prop where
  once : ∀ channel, (replied before).count channel + service.outstanding.count channel ≤
    (decide (channel < service.next_reply)).toNat
  queued : ∀ (request : Request) channel, request.command channel ∈ service.cmd_rx →
    Occurred (Calls channel request) before
  pending : ∀ p, service.worker.state.pending_get_info = some p →
    Occurred (Calls p.reply (.get_info p.node_id)) before

theorem replied_snoc (before : List ServiceStep) (st : ServiceStep) :
    replied (before ++ [st]) = replied before ++ (messages st.output).map (·.1) := by
  rw [replied, List.flatMap_append, List.flatMap_singleton]
  rfl

/-- A command tells its call. -/
theorem Request.command_inj {request other : Request} {channel reply : ReplyChannel}
    (h : request.command channel = other.command reply) : request = other ∧ channel = reply := by
  have hreply := congrArg TransportCommand.reply h
  rw [request.reply_command, other.reply_command] at hreply
  refine ⟨?_, hreply⟩
  cases request <;> cases other <;> cases h <;> rfl

theorem Replies.snd_answers {setup : Setup} {self : Worker} {event : Event} {sent : List (ReplyChannel × Reply)}
    {pending : Option PendingGetInfo} (h : Replies setup self event sent pending) {channel : ReplyChannel}
    {message : Reply} (hsent : (channel, message) ∈ sent) :
    (∃ p, self.state.pending_get_info = some p ∧ p.reply = channel ∧
        Answers setup self (.get_info p.node_id) message) ∨
      ∃ request outcome now, event = .command (request.command channel) outcome now ∧
        Answers setup self request message := by
  cases h with
  | @listed request reply outcome now _ hlisting =>
    obtain ⟨rfl, rfl⟩ := Prod.mk.inj (List.mem_singleton.1 hsent)
    exact .inr ⟨request, outcome, now, rfl, .listing hlisting⟩
  | served hunlisted hserved =>
    obtain ⟨reply, hreply, heq⟩ := List.mem_map.1 hsent
    obtain ⟨rfl, rfl⟩ := Prod.mk.inj heq
    cases hserved with
    | accepted haccepted => cases hreply
    | @refused node_id reply outcome now error hrefused =>
      obtain rfl := List.mem_singleton.1 hreply
      exact .inr ⟨.get_info node_id, outcome, now, rfl, .get_info⟩
    | @answered p transfer now hpending hservice hsource =>
      obtain rfl := List.mem_singleton.1 hreply
      exact .inl ⟨p, hpending, rfl, .get_info⟩
    | @expired p now hpending hlate =>
      obtain rfl := List.mem_singleton.1 hreply
      exact .inl ⟨p, hpending, rfl, .get_info⟩
    | idle hevent => cases hreply

/-- A message that is no GetInfo result lists what the worker knows as it takes the
command. -/
theorem Replies.listing_of {setup : Setup} {self : Worker} {event : Event} {sent : List (ReplyChannel × Reply)}
    {pending : Option PendingGetInfo} (h : Replies setup self event sent pending) {channel : ReplyChannel}
    {message : Reply} (hsent : (channel, message) ∈ sent) (hmessage : ∀ result, message ≠ .get_info result) :
    ∃ request outcome now, event = .command (request.command channel) outcome now ∧
      self.listing setup now request = some message := by
  cases h with
  | @listed request reply outcome now _ hlisting =>
    obtain ⟨rfl, rfl⟩ := Prod.mk.inj (List.mem_singleton.1 hsent)
    exact ⟨request, outcome, now, rfl, hlisting⟩
  | served hunlisted hserved =>
    obtain ⟨reply, -, heq⟩ := List.mem_map.1 hsent
    obtain ⟨-, rfl⟩ := Prod.mk.inj heq
    exact absurd rfl (hmessage reply.result)

/-- The command that waits after an event is the one taken or waited before. -/
theorem Replies.pending_of {setup : Setup} {self : Worker} {event : Event} {sent : List (ReplyChannel × Reply)}
    {pending : Option PendingGetInfo} (h : Replies setup self event sent pending) {p : PendingGetInfo}
    (hpending : pending = some p) :
    self.state.pending_get_info = some p ∨
      ∃ outcome now, event = .command (Request.command (.get_info p.node_id) p.reply) outcome now := by
  cases h with
  | listed hlisting => exact .inl hpending
  | served hunlisted hserved =>
    cases hserved with
    | accepted haccepted =>
      obtain rfl := Option.some.inj hpending
      exact .inr ⟨_, _, rfl⟩
    | refused message hrefused => exact .inl hpending
    | answered hwaited hservice hsource => cases hpending
    | expired hwaited hlate => cases hpending
    | idle hevent => exact .inl hpending

section Step

variable {setup : Setup} {before : List ServiceStep} {pre post : Service} {action : Action} {effects : List Effect}

/-- The commands that a step leaves in the channel. -/
theorem Service.step_cmd_rx (h : Service.step setup pre action = (effects, post)) :
    pre.cmd_rx ++ sent_command ⟨pre, action, effects, post⟩ =
      taken_command ⟨pre, action, effects, post⟩ ++ post.cmd_rx := by
  cases action with
  | send request =>
    rw [Service.step] at h
    simp only [sent_command, taken_command, List.nil_append]
    split at h
    · next hroom =>
      obtain ⟨-, rfl⟩ := Prod.mk.inj h
      rw [if_pos hroom]
    · next hfull =>
      obtain ⟨-, rfl⟩ := Prod.mk.inj h
      rw [if_neg hfull, List.append_nil]
  | try_recv sent now =>
    rw [Service.step] at h
    simp only [sent_command, taken_command, List.append_nil]
    cases hqueue : pre.cmd_rx with
    | nil =>
      rw [hqueue] at h
      obtain ⟨-, rfl⟩ := Prod.mk.inj h
      exact hqueue.symm
    | cons cmd rest =>
      rw [hqueue] at h
      obtain ⟨-, rfl⟩ := Prod.mk.inj h
      rfl
  | work event =>
    rw [Service.step] at h
    simp only [sent_command, taken_command, List.append_nil, List.nil_append]
    split at h
    · obtain ⟨-, rfl⟩ := Prod.mk.inj h
      rfl
    · obtain ⟨-, rfl⟩ := Prod.mk.inj h
      rfl

/-- A step of the worker moves reply channels from those that wait to those that
are answered. -/
private theorem CallsInv.once_of_replies {worker : Worker} {rest : List TransportCommand} {event : Event}
    (hinv : CallsInv before pre)
    (hreplies : Replies setup pre.worker event (messages effects) worker.state.pending_get_info)
    (hqueue : pre.cmd_rx.map (·.reply) = event.channel ++ rest.map (·.reply)) (channel : ReplyChannel) :
    (replied (before ++ [⟨pre, action, effects, post⟩])).count channel +
        ({ pre with worker, cmd_rx := rest } : Service).outstanding.count channel ≤
      (decide (channel < pre.next_reply)).toNat := by
  have hbefore := hinv.once channel
  have hmoved := hreplies.count_le channel
  rw [Service.outstanding, List.count_append, hqueue, List.count_append] at hbefore
  rw [replied_snoc, List.count_append, Service.outstanding, List.count_append]
  dsimp only
  omega

private theorem CallsInv.of_replies {worker : Worker} {rest : List TransportCommand} {event : Event}
    (hinv : CallsInv before pre)
    (hreplies : Replies setup pre.worker event (messages effects) worker.state.pending_get_info)
    (hqueue : pre.cmd_rx.map (·.reply) = event.channel ++ rest.map (·.reply))
    (hkept : ∀ cmd ∈ rest, cmd ∈ pre.cmd_rx)
    (htaken : ∀ cmd sent now, event = .command cmd sent now → cmd ∈ pre.cmd_rx) :
    CallsInv (before ++ [⟨pre, action, effects, post⟩]) { pre with worker, cmd_rx := rest } := by
  refine ⟨hinv.once_of_replies hreplies hqueue, ?_, ?_⟩
  · intro request channel hmem
    exact occurred_snoc.2 (.inl (hinv.queued request channel (hkept _ hmem)))
  · intro p hpending
    apply occurred_snoc.2
    left
    obtain hwaited | ⟨sent, now, hevent⟩ := hreplies.pending_of hpending
    · exact hinv.pending p hwaited
    · exact hinv.queued _ _ (htaken _ _ _ hevent)

private theorem CallsInv.of_sent {request : Request} (hinv : CallsInv before pre)
    (hroom : pre.cmd_rx.length < COMMAND_CHANNEL_BOUND) :
    CallsInv (before ++ [⟨pre, .send request, [], post⟩])
      { pre with
        cmd_rx := pre.cmd_rx ++ [request.command pre.next_reply]
        next_reply := pre.next_reply + 1 } := by
  refine ⟨?_, ?_, ?_⟩
  · intro channel
    have hbefore := hinv.once channel
    rw [Service.outstanding, List.count_append] at hbefore
    rw [replied_snoc, Service.outstanding, List.map_append]
    simp only [messages, List.filterMap_nil, List.map_nil, List.append_nil, List.map_singleton,
      request.reply_command, List.count_append]
    -- the new channel was neither answered nor waited on
    obtain hlt | rfl | hgt := Nat.lt_trichotomy channel pre.next_reply
    · rw [List.count_singleton, if_neg (by simpa using Nat.ne_of_gt hlt)]
      simp only [hlt, decide_true, Bool.toNat_true, Nat.lt_succ_of_lt hlt] at hbefore ⊢
      omega
    · rw [List.count_singleton_self]
      simp only [Nat.lt_irrefl, decide_false, Bool.toNat_false, Nat.lt_succ_self, decide_true,
        Bool.toNat_true] at hbefore ⊢
      omega
    · rw [List.count_singleton, if_neg (by simpa using Nat.ne_of_lt hgt)]
      simp only [Nat.not_lt_of_gt hgt, decide_false, Bool.toNat_false] at hbefore
      omega
  · intro other channel hmem
    apply occurred_snoc.2
    obtain hearlier | hnow := List.mem_append.1 hmem
    · exact .inl (hinv.queued other channel hearlier)
    · obtain ⟨rfl, rfl⟩ := Request.command_inj (List.mem_singleton.1 hnow)
      exact .inr ⟨rfl, rfl, hroom⟩
  · intro p hpending
    exact occurred_snoc.2 (.inl (hinv.pending p hpending))

theorem CallsInv.step (h : Service.step setup pre action = (effects, post)) (hinv : CallsInv before pre) :
    CallsInv (before ++ [⟨pre, action, effects, post⟩]) post := by
  cases Service.step_transition h with
  | sent hroom => exact hinv.of_sent hroom
  | taken hqueue hstep =>
    refine hinv.of_replies (replies_of_step hstep) ?_ ?_ ?_
    · rw [hqueue]
      rfl
    · intro cmd hmem
      rw [hqueue]
      exact List.mem_cons_of_mem _ hmem
    · intro cmd sent now hevent
      obtain ⟨rfl, -, -⟩ := Event.command.inj hevent
      rw [hqueue]
      exact List.mem_cons_self ..
  | @worked event _ worker hcommand hstep =>
    have hchannel : event.channel = [] := by
      cases event with
      | command cmd sent now => cases hcommand
      | _ => rfl
    refine hinv.of_replies (replies_of_step hstep) ?_ ?_ ?_
    · rw [hchannel]
      rfl
    · exact fun cmd hmem => hmem
    · intro cmd sent now hevent
      rw [hevent] at hcommand
      cases hcommand
  | idle hroom =>
    refine ⟨?_, ?_, ?_⟩
    · intro channel
      rw [replied_snoc]
      exact (List.append_nil (replied before)).symm ▸ hinv.once channel
    · intro request channel hmem
      exact occurred_snoc.2 (.inl (hinv.queued request channel hmem))
    · intro p hpending
      exact occurred_snoc.2 (.inl (hinv.pending p hpending))

/-- Every message answers a call that was made before. -/
theorem CallsInv.awaited (h : Service.step setup pre action = (effects, post)) (hinv : CallsInv before pre)
    {channel : ReplyChannel} {message : Reply} (hsent : (channel, message) ∈ messages effects) :
    ∃ request, Occurred (Calls channel request) before ∧ Answers setup pre.worker request message := by
  cases Service.step_transition h with
  | sent hroom => cases hsent
  | taken hqueue hstep =>
    obtain ⟨p, hpending, rfl, hanswers⟩ | ⟨request, outcome, now, hevent, hanswers⟩ :=
      (replies_of_step hstep).snd_answers hsent
    · exact ⟨_, hinv.pending p hpending, hanswers⟩
    · obtain ⟨rfl, -, -⟩ := Event.command.inj hevent
      refine ⟨request, hinv.queued request channel ?_, hanswers⟩
      rw [hqueue]
      exact List.mem_cons_self ..
  | worked hcommand hstep =>
    obtain ⟨p, hpending, rfl, hanswers⟩ | ⟨request, outcome, now, hevent, hanswers⟩ :=
      (replies_of_step hstep).snd_answers hsent
    · exact ⟨_, hinv.pending p hpending, hanswers⟩
    · rw [hevent] at hcommand
      cases hcommand
  | idle hroom => cases hsent

/-- Every listing answers a call that was made before, at the readings of the step
that takes its command. -/
theorem CallsInv.listed (h : Service.step setup pre action = (effects, post)) (hinv : CallsInv before pre)
    {channel : ReplyChannel} {message : Reply} (hsent : (channel, message) ∈ messages effects)
    (hmessage : ∀ result, message ≠ .get_info result) :
    ∃ request outcome now, action = .try_recv outcome now ∧ Occurred (Calls channel request) before ∧
      pre.worker.listing setup now request = some message := by
  cases Service.step_transition h with
  | sent hroom => cases hsent
  | @taken cmd rest outcome now _ worker hqueue hstep =>
    obtain ⟨request, outcome, now, hevent, hlisting⟩ := (replies_of_step hstep).listing_of hsent hmessage
    obtain ⟨rfl, rfl, rfl⟩ := Event.command.inj hevent
    refine ⟨request, _, _, rfl, hinv.queued request channel ?_, hlisting⟩
    rw [hqueue]
    exact List.mem_cons_self ..
  | worked hcommand hstep =>
    obtain ⟨request, outcome, now, hevent, -⟩ := (replies_of_step hstep).listing_of hsent hmessage
    rw [hevent] at hcommand
    cases hcommand
  | idle hroom => cases hsent

/-- The step that takes the command of a listing sends the listing. -/
theorem Service.step_listing (h : Service.step setup pre action = (effects, post)) :
    ListsAtOnce ⟨pre, action, effects, post⟩ := by
  intro request channel htaken
  cases action with
  | send other => cases htaken
  | work event => cases htaken
  | try_recv sent now =>
    rw [taken_command] at htaken
    cases hqueue : pre.cmd_rx with
    | nil =>
      simp only [hqueue] at htaken
      cases htaken
    | cons cmd rest =>
      simp only [hqueue, List.head?_cons, Option.toList_some, List.cons.injEq, and_true] at htaken
      rw [Service.step, hqueue] at h
      obtain ⟨rfl, -⟩ := Prod.mk.inj h
      cases hlisting : pre.worker.listing setup now request with
      | some message =>
        refine .inl ⟨message, ?_⟩
        rw [htaken, transport.step, Event.perform, Worker.run_handle_command_of_listing hlisting]
        exact List.mem_singleton.2 rfl
      | none =>
        cases request with
        | get_info node_id => exact .inr ⟨node_id, rfl⟩
        | list_nodes => cases hlisting
        | diagnostics => cases hlisting
        | list_allocations => cases hlisting

end Step

theorem CallsInv.init (setup : Setup) (pnp : Option (Table × String)) (now : Instant) :
    CallsInv [] (Service.start setup pnp now) := by
  refine ⟨?_, ?_, ?_⟩
  · intro channel
    rw [Service.outstanding, Service.start, Worker.start_pending_get_info]
    exact Nat.zero_le _
  · intro request channel hmem
    cases hmem
  · intro p hpending
    rw [Service.start, Worker.start_pending_get_info] at hpending
    cases hpending

/-- Whatever callers, transfers and timeouts come in between, the calls on a
worker are delivered: in order, none twice, each to its own caller. -/
theorem calls_delivered (setup : Setup) (pnp : Option (Table × String)) (now : Instant) (actions : List Action) :
    Delivered setup (trace (Service.step setup) (Service.start setup pnp now) actions)
      (final (Service.step setup) (Service.start setup pnp now) actions) := by
  have hinv : CallsInv (trace (Service.step setup) (Service.start setup pnp now) actions)
      (final (Service.step setup) (Service.start setup pnp now) actions) :=
    invariant_of_step CallsInv (CallsInv.init setup pnp now) (fun _ _ _ _ _ h hinv => hinv.step h) actions
  refine ⟨?_, ?_, ?_, ?_⟩
  · have hempty : (Service.start setup pnp now).cmd_rx = [] := rfl
    rw [← List.nil_append (List.flatMap sent_command _), ← hempty]
    refine conservation (fun _ => True) Service.cmd_rx sent_command taken_command trivial ?_ ?_ actions
    · exact fun _ _ _ _ _ _ => trivial
    · exact fun _ _ _ _ h _ => Service.step_cmd_rx h
  · apply List.nodup_iff_count_le_one.2
    intro channel
    have honce := hinv.once channel
    have hone := Bool.toNat_le (decide (channel < (final (Service.step setup)
      (Service.start setup pnp now) actions).next_reply))
    omega
  · refine everywhere_iff.1 (everywhere_of_invariant CallsInv (CallsInv.init setup pnp now) ?_ ?_ actions)
    · exact fun _ _ _ _ _ h hinv => hinv.step h
    · exact fun _ _ _ _ _ h hinv channel message hsent => hinv.awaited h hsent
  · intro st hmem
    have hsteps : Everywhere (fun _ st => ListsAtOnce st)
        (trace (Service.step setup) (Service.start setup pnp now) actions) := by
      refine everywhere_of_invariant CallsInv (CallsInv.init setup pnp now) ?_ ?_ actions
      · exact fun _ _ _ _ _ h hinv => hinv.step h
      · exact fun _ _ _ _ _ h _ => Service.step_listing h
    obtain ⟨before, after, hrun⟩ := List.append_of_mem hmem
    exact everywhere_iff.1 hsteps before st after hrun

end cyphal_service.transport
