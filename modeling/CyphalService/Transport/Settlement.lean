import CyphalService.Lib.Waiting
import CyphalService.Transport.Calls

open effect machine
open cyphal_service.pnp
open cyphal_service.pnp.db cyphal_service.pnp.allocator

namespace cyphal_service.transport

/-- Why a GetInfo command is answered at once, if it is. -/
def Setup.refusal (setup : Setup) (node_id : UInt16) (sent : SendOutcome) : Option String :=
  match setup.kind.command_target node_id with
  | .error message => some message
  | .ok _ =>
    if setup.get_info_token then
      match sent with
      | .ok () => none
      | .error e => some s!"Failed to send GetInfo request: {e}"
    else some "GetInfo requester not available"

/-- How an event ends the wait of a GetInfo command: with a result, or with none
when a later request takes its place. -/
def Event.ending (setup : Setup) (p : PendingGetInfo) : Event → Option (Option (Except String GetInfoResult))
  | .response transfer _ =>
    if transfer.service = GET_INFO_SERVICE ∧ p.node_id = transfer.source then
      some (some (Worker.get_info_result transfer.source (setup.codec.get_info_response transfer.payload)))
    else none
  | .check_get_info_timeout now =>
    if p.deadline < now then some (some (.error "GetInfo request timed out")) else none
  | .command (.GetInfo node_id _) sent _ => if setup.refusal node_id sent = none then some none else none
  | _ => none

/-- The event that the worker performs in a step. -/
def performed (st : ServiceStep) : Option Event :=
  match st.input with
  | .send _ => none
  | .try_recv sent now => st.pre.cmd_rx.head?.map (.command · sent now)
  | .work event => if event.isCommand then none else some event

def ending (setup : Setup) (p : PendingGetInfo) (st : ServiceStep) : Option (Option (Except String GetInfoResult)) :=
  (performed st).bind (·.ending setup p)

/-- The messages that a step sends on a reply channel. -/
def messages_on (channel : ReplyChannel) (st : ServiceStep) : List Reply :=
  ((messages st.output).filter (·.1 = channel)).map (·.2)

/-- The result that the caller of a GetInfo command gets when the worker takes the
command, from what follows: the reason why it is refused, or else what the first
event that ends its wait gives. -/
def get_info_outcome (setup : Setup) (node_id : UInt16) (channel : ReplyChannel) (sent : SendOutcome)
    (now : Readings) (later : List ServiceStep) : Option (Except String GetInfoResult) :=
  match setup.refusal node_id sent with
  | some message => some (.error message)
  | none => (later.findSome? (ending setup ⟨node_id, channel, now.first + Duration.from_secs 3⟩)).join

theorem Setup.refusal_eq_none_iff {setup : Setup} {node_id : UInt16} {sent : SendOutcome} :
    setup.refusal node_id sent = none ↔
      (setup.kind.command_target node_id).toBool ∧ setup.get_info_token ∧ sent.toBool := by
  unfold refusal
  cases setup.kind.command_target node_id with
  | error message => simp [Except.toBool]
  | ok target =>
    cases setup.get_info_token with
    | false => simp
    | true =>
      cases sent with
      | error e => simp [Except.toBool]
      | ok sent => simp [Except.toBool]

/-- A refused command is answered with the reason. -/
theorem messages_of_refused {setup : Setup} {node_id : UInt16} {sent : SendOutcome} {message : String}
    (hrefused : setup.refusal node_id sent = some message) (reply : ReplyChannel) (now : Readings) (self : Worker) :
    messages (step setup self (.command (.GetInfo node_id reply) sent now)).1 =
        [(reply, .get_info (.error message))] ∧
      (step setup self (.command (.GetInfo node_id reply) sent now)).2.state.pending_get_info =
        self.state.pending_get_info := by
  unfold Setup.refusal at hrefused
  rw [step, Event.perform]
  cases htarget : setup.kind.command_target node_id with
  | error reason =>
    rw [htarget] at hrefused
    obtain rfl := Option.some.inj hrefused
    simp [Worker.handle_command, htarget, messages, Effect.message]
  | ok target =>
    simp only [htarget] at hrefused
    cases htoken : setup.get_info_token with
    | false =>
      simp only [htoken, Bool.false_eq_true, ↓reduceIte] at hrefused
      obtain rfl := Option.some.inj hrefused
      simp [Worker.handle_command, htarget, htoken, messages, Effect.message, WorkerState.record_error]
    | true =>
      simp only [htoken, ↓reduceIte] at hrefused
      cases sent with
      | ok sent => cases hrefused
      | error e =>
        obtain rfl := Option.some.inj hrefused
        simp [Worker.handle_command, htarget, htoken, messages, Effect.message, WorkerState.record_error]

/-- An accepted command waits for the node, for at most three seconds. -/
theorem messages_of_accepted {setup : Setup} {node_id : UInt16} {sent : SendOutcome}
    (haccepted : setup.refusal node_id sent = none) (reply : ReplyChannel) (now : Readings) (self : Worker) :
    messages (step setup self (.command (.GetInfo node_id reply) sent now)).1 = [] ∧
      (step setup self (.command (.GetInfo node_id reply) sent now)).2.state.pending_get_info =
        some ⟨node_id, reply, now.first + Duration.from_secs 3⟩ := by
  obtain ⟨target, hrun⟩ := Worker.run_get_info_of_accepted reply now self (Setup.refusal_eq_none_iff.1 haccepted)
  rw [step, Event.perform, hrun]
  exact ⟨rfl, rfl⟩

section Wait

variable {setup : Setup} {self post : Worker} {event : Event} {effects : List Effect} {p : PendingGetInfo}

/-- The command that waits is kept by an event that does not end its wait, and such
an event sends messages for the command it takes alone. -/
theorem waits_of_step (h : step setup self event = (effects, post)) (hpending : self.state.pending_get_info = some p)
    (hending : event.ending setup p = none) :
    post.state.pending_get_info = some p ∧ ∀ channel message, (channel, message) ∈ messages effects →
      channel ∈ event.channel := by
  have hreplies := replies_of_step h
  generalize messages effects = sent at hreplies
  generalize post.state.pending_get_info = pending at hreplies
  cases hreplies with
  | @listed request reply outcome now message hlisting =>
    refine ⟨hpending, fun channel other hsent => ?_⟩
    obtain ⟨rfl, -⟩ := Prod.mk.inj (List.mem_singleton.1 hsent)
    rw [Event.channel, request.reply_command]
    exact List.mem_singleton.2 rfl
  | served hunlisted hserved =>
    cases hserved with
    | accepted haccepted =>
      have haccepts := Setup.refusal_eq_none_iff.2 haccepted
      rw [Event.ending, if_pos haccepts] at hending
      cases hending
    | refused message hrefused =>
      refine ⟨hpending, fun channel other hsent => ?_⟩
      obtain ⟨rfl, -⟩ := Prod.mk.inj (List.mem_singleton.1 hsent)
      exact List.mem_singleton.2 rfl
    | answered hwaited hservice hsource =>
      obtain rfl := Option.some.inj (hpending.symm.trans hwaited)
      rw [Event.ending, if_pos ⟨hservice, hsource⟩] at hending
      cases hending
    | expired hwaited hlate =>
      obtain rfl := Option.some.inj (hpending.symm.trans hwaited)
      rw [Event.ending, if_pos hlate] at hending
      cases hending
    | idle hevent => exact ⟨hpending, fun channel other hsent => absurd hsent List.not_mem_nil⟩

/-- The response of the node that was asked is the result of the command that waits. -/
theorem messages_of_answered {transfer : ServiceTransfer} {now : Readings}
    (h : step setup self (.response transfer now) = (effects, post))
    (hpending : self.state.pending_get_info = some p) (hservice : transfer.service = GET_INFO_SERVICE)
    (hsource : p.node_id = transfer.source) :
    messages effects = [(p.reply, .get_info (Worker.get_info_result transfer.source
        (setup.codec.get_info_response transfer.payload)))] ∧
      post.state.pending_get_info = none := by
  have hcli : self.state.pending_get_info.any (·.node_id = transfer.source) = true :=
    Worker.any_of_matches.2 ⟨p, hpending, hsource⟩
  obtain ⟨hresults, hnone⟩ :=
    Worker.run_answer_cli hpending transfer.source (setup.codec.get_info_response transfer.payload)
  obtain ⟨rfl, rfl⟩ := Prod.mk.inj h
  rw [messages_of_unlisted (unlisted_of_perform setup self rfl), Event.perform]
  simp only [Logged.run_bind, Logged.run_pure, Worker.run_handle_response hservice hcli rfl rfl]
  simp [hresults, Worker.answer_pnp_frame, WorkerState.on_message_received, hnone, GetInfoReply.message]

/-- A command whose deadline has passed is answered by the check. -/
theorem messages_of_expired {now : Instant} (h : step setup self (.check_get_info_timeout now) = (effects, post))
    (hpending : self.state.pending_get_info = some p) (hlate : p.deadline < now) :
    messages effects = [(p.reply, .get_info (.error "GetInfo request timed out"))] ∧
      post.state.pending_get_info = none := by
  rw [step, Event.perform, Worker.run_check_get_info_of_expired hpending hlate] at h
  obtain ⟨rfl, rfl⟩ := Prod.mk.inj h
  exact ⟨rfl, rfl⟩

/-- The event that ends the wait sends the result that it ends it with. -/
theorem ends_of_step (h : step setup self event = (effects, post)) (hpending : self.state.pending_get_info = some p)
    {result : Option (Except String GetInfoResult)} (hending : event.ending setup p = some result)
    (hother : p.reply ∉ event.channel) :
    messages effects = result.toList.map (fun result => (p.reply, .get_info result)) ∧
      p.reply ∉ PendingGetInfo.waiting post.state.pending_get_info := by
  cases event with
  | response transfer now =>
    rw [Event.ending] at hending
    split at hending
    · next hmatches =>
      obtain rfl := Option.some.inj hending
      obtain ⟨hsent, hnone⟩ := messages_of_answered h hpending hmatches.1 hmatches.2
      rw [hsent, hnone]
      exact ⟨rfl, List.not_mem_nil⟩
    · cases hending
  | check_get_info_timeout now =>
    rw [Event.ending] at hending
    split at hending
    · next hlate =>
      obtain rfl := Option.some.inj hending
      obtain ⟨hsent, hnone⟩ := messages_of_expired h hpending hlate
      rw [hsent, hnone]
      exact ⟨rfl, List.not_mem_nil⟩
    · cases hending
  | command cmd sent now =>
    cases cmd with
    | GetInfo node_id reply =>
      rw [Event.ending] at hending
      split at hending
      · next haccepted =>
        obtain rfl := Option.some.inj hending
        obtain ⟨hsent, hwaits⟩ := messages_of_accepted haccepted reply now self
        rw [h] at hsent hwaits
        rw [hsent, hwaits]
        exact ⟨rfl, hother⟩
      · cases hending
    | ListNodes reply => cases hending
    | Diagnostics reply => cases hending
    | ListAllocations reply => cases hending
  | dispatch_pnp_get_info sent now => cases hending
  | check_pnp_get_info_timeout now => cases hending
  | message transfer now => cases hending
  | receive_error e => cases hending
  | per_second tested_at ticked_at => cases hending

end Wait

/-- The command with the pending request waits, and no other has its reply channel. -/
def Service.Waiting (p : PendingGetInfo) (self : Service) : Prop :=
  self.worker.state.pending_get_info = some p ∧ p.reply ∉ self.cmd_rx.map (·.reply) ∧ p.reply < self.next_reply

/-- The reply channel was made, and no command waits with it any more. -/
def Service.Over (channel : ReplyChannel) (self : Service) : Prop :=
  channel ∉ self.outstanding ∧ channel < self.next_reply

theorem messages_on_eq_nil {channel : ReplyChannel} {st : ServiceStep}
    (h : ∀ message, (channel, message) ∉ messages st.output) : messages_on channel st = [] := by
  rw [messages_on, List.map_eq_nil_iff, List.filter_eq_nil_iff]
  rintro ⟨other, message⟩ hmem hchannel
  rw [decide_eq_true_eq] at hchannel
  subst hchannel
  exact h message hmem

section Step

variable {setup : Setup} {pre post : Service} {action : Action} {effects : List Effect} {p : PendingGetInfo}

/-- What a step of the worker does to the commands. -/
inductive Works (setup : Setup) (pre : Service) (action : Action) (effects : List Effect) (post : Service) : Prop where
  | performed {event : Event} {worker : Worker} {rest : List TransportCommand}
      (hperformed : performed ⟨pre, action, effects, post⟩ = some event)
      (hstep : transport.step setup pre.worker event = (effects, worker))
      (hqueue : pre.cmd_rx.map (·.reply) = event.channel ++ rest.map (·.reply))
      (hpost : post = { pre with worker, cmd_rx := rest })
  | unworked (hperformed : performed ⟨pre, action, effects, post⟩ = none) (heffects : effects = [])
      (hworker : post.worker = pre.worker) (hnext : pre.next_reply ≤ post.next_reply)
      (hqueue : ∀ channel < pre.next_reply, channel ∈ post.cmd_rx.map (·.reply) → channel ∈ pre.cmd_rx.map (·.reply))

theorem works_of_step (h : Service.step setup pre action = (effects, post)) :
    Works setup pre action effects post := by
  cases action with
  | send request =>
    rw [Service.step] at h
    split at h
    · obtain ⟨rfl, rfl⟩ := Prod.mk.inj h
      refine .unworked rfl rfl rfl (Nat.le_succ _) ?_
      intro channel hlt hmem
      rw [List.map_append, List.map_singleton, request.reply_command] at hmem
      obtain hearlier | hnow := List.mem_append.1 hmem
      · exact hearlier
      · exact absurd (List.mem_singleton.1 hnow) (Nat.ne_of_lt hlt)
    · obtain ⟨rfl, rfl⟩ := Prod.mk.inj h
      exact .unworked rfl rfl rfl (Nat.le_refl _) fun _ _ hmem => hmem
  | try_recv sent now =>
    cases hqueue : pre.cmd_rx with
    | nil =>
      rw [Service.step, hqueue] at h
      obtain ⟨rfl, rfl⟩ := Prod.mk.inj h
      refine .unworked ?_ rfl rfl (Nat.le_refl _) fun _ _ hmem => hmem
      simp only [performed, hqueue, List.head?_nil, Option.map_none]
    | cons cmd rest =>
      rw [Service.step, hqueue] at h
      obtain ⟨rfl, rfl⟩ := Prod.mk.inj h
      refine .performed ?_ rfl ?_ rfl
      · simp only [performed, hqueue, List.head?_cons, Option.map_some]
      · rw [hqueue]
        rfl
  | work event =>
    rw [Service.step] at h
    split at h
    · next hcommand =>
      obtain ⟨rfl, rfl⟩ := Prod.mk.inj h
      refine .unworked ?_ rfl rfl (Nat.le_refl _) fun _ _ hmem => hmem
      simp only [performed, hcommand, ↓reduceIte]
    · next hcommand =>
      obtain ⟨rfl, rfl⟩ := Prod.mk.inj h
      refine .performed ?_ rfl ?_ rfl
      · exact if_neg hcommand
      · cases event with
        | command cmd sent now => exact absurd rfl hcommand
        | _ => rfl

/-- A channel without a command gets no message and no command. -/
theorem Service.Over.step {channel : ReplyChannel} (h : Service.step setup pre action = (effects, post))
    (hover : pre.Over channel) :
    post.Over channel ∧ messages_on channel ⟨pre, action, effects, post⟩ = [] := by
  obtain ⟨hnone, hlt⟩ := hover
  rw [Service.outstanding, List.mem_append, not_or] at hnone
  cases works_of_step h with
  | @performed event worker rest hperformed hstep hqueue hpost =>
    subst hpost
    have hcount := (replies_of_step hstep).count_le channel
    rw [hqueue, List.mem_append, not_or] at hnone
    obtain ⟨hidle, hevent, hrest⟩ := hnone
    rw [List.count_eq_zero_of_not_mem hidle, List.count_eq_zero_of_not_mem hevent, Nat.add_zero,
      Nat.le_zero, Nat.add_eq_zero_iff, List.count_eq_zero, List.count_eq_zero] at hcount
    refine ⟨⟨?_, hlt⟩, messages_on_eq_nil fun message hsent => hcount.1 (List.mem_map_of_mem hsent)⟩
    rw [Service.outstanding, List.mem_append, not_or]
    exact ⟨hcount.2, hrest⟩
  | unworked hperformed heffects hworker hnext hqueue =>
    subst heffects
    refine ⟨⟨?_, Nat.lt_of_lt_of_le hlt hnext⟩, rfl⟩
    rw [Service.outstanding, hworker, List.mem_append, not_or]
    exact ⟨hnone.1, fun hmem => hnone.2 (hqueue channel hlt hmem)⟩

theorem Service.Waiting.step (h : Service.step setup pre action = (effects, post)) (hwaiting : pre.Waiting p)
    (hending : ending setup p ⟨pre, action, effects, post⟩ = none) :
    post.Waiting p ∧ messages_on p.reply ⟨pre, action, effects, post⟩ = [] := by
  obtain ⟨hpending, hunqueued, hlt⟩ := hwaiting
  cases works_of_step h with
  | @performed event worker rest hperformed hstep hqueue hpost =>
    subst hpost
    rw [ending, hperformed, Option.bind_some] at hending
    rw [hqueue, List.mem_append, not_or] at hunqueued
    obtain ⟨hkept, hsent⟩ := waits_of_step hstep hpending hending
    exact ⟨⟨hkept, hunqueued.2, hlt⟩, messages_on_eq_nil fun message hmem => hunqueued.1 (hsent _ _ hmem)⟩
  | unworked hperformed heffects hworker hnext hqueue =>
    subst heffects
    refine ⟨⟨?_, fun hmem => hunqueued (hqueue _ hlt hmem), Nat.lt_of_lt_of_le hlt hnext⟩, rfl⟩
    rw [hworker, hpending]

theorem Service.Waiting.end_step {result : Option (Except String GetInfoResult)}
    (h : Service.step setup pre action = (effects, post)) (hwaiting : pre.Waiting p)
    (hending : ending setup p ⟨pre, action, effects, post⟩ = some result) :
    post.Over p.reply ∧ messages_on p.reply ⟨pre, action, effects, post⟩ = result.toList.map .get_info := by
  obtain ⟨hpending, hunqueued, hlt⟩ := hwaiting
  cases works_of_step h with
  | @performed event worker rest hperformed hstep hqueue hpost =>
    subst hpost
    rw [ending, hperformed, Option.bind_some] at hending
    rw [hqueue, List.mem_append, not_or] at hunqueued
    obtain ⟨hsent, hover⟩ := ends_of_step hstep hpending hending hunqueued.1
    refine ⟨⟨?_, hlt⟩, ?_⟩
    · rw [Service.outstanding, List.mem_append, not_or]
      exact ⟨hover, hunqueued.2⟩
    · rw [messages_on, hsent]
      cases result with
      | none => rfl
      | some result => simp
  | unworked hperformed heffects hworker hnext hqueue =>
    rw [ending, hperformed] at hending
    cases hending

/-- A GetInfo command that waits is settled by the first event that ends its wait. -/
theorem waits (setup : Setup) (p : PendingGetInfo) :
    WaitsOnce (Service.step setup) (Service.Waiting p) (Service.Over p.reply) (ending setup p) (messages_on p.reply)
      (fun result => result.toList.map .get_info) where
  waits _ _ hwaiting hending := hwaiting.step rfl hending
  ends _ _ _ hwaiting hending := hwaiting.end_step rfl hending
  silent _ _ hover := hover.step rfl

end Step

/-- No message went out on the reply channel of a command that is still in the channel. -/
theorem CallsInv.unanswered {before : List ServiceStep} {service : Service} {cmd : TransportCommand}
    {rest : List TransportCommand} (hinv : CallsInv before service) (hqueue : service.cmd_rx = cmd :: rest) :
    before.flatMap (messages_on cmd.reply) = [] ∧ cmd.reply < service.next_reply ∧
      cmd.reply ∉ PendingGetInfo.waiting service.worker.state.pending_get_info ∧
      cmd.reply ∉ rest.map (·.reply) := by
  have honce := hinv.once cmd.reply
  rw [Service.outstanding, hqueue, List.map_cons, List.count_append, List.count_cons_self] at honce
  have hlt : cmd.reply < service.next_reply := by
    by_contra hge
    rw [decide_eq_false hge, Bool.toNat_false] at honce
    omega
  rw [decide_eq_true hlt, Bool.toNat_true] at honce
  have hreplied : (replied before).count cmd.reply = 0 := by omega
  have hwaiting : (PendingGetInfo.waiting service.worker.state.pending_get_info).count cmd.reply = 0 := by omega
  have hrest : (rest.map (·.reply)).count cmd.reply = 0 := by omega
  refine ⟨?_, hlt, List.count_eq_zero.1 hwaiting, List.count_eq_zero.1 hrest⟩
  rw [List.flatMap_eq_nil_iff]
  intro st hmem
  refine messages_on_eq_nil fun message hsent => List.count_eq_zero.1 hreplied ?_
  exact List.mem_flatMap.2 ⟨st, hmem, List.mem_map_of_mem hsent⟩

/-- From the step that takes a GetInfo command its caller gets the outcome and
nothing else. -/
private theorem settled_from {setup : Setup} {before : List ServiceStep} {service : Service} {node_id : UInt16}
    {channel : ReplyChannel} {rest : List TransportCommand} (hinv : CallsInv before service)
    (hqueue : service.cmd_rx = .GetInfo node_id channel :: rest) (sent : SendOutcome) (now : Readings)
    (later : List Action) :
    (trace (Service.step setup) service (.try_recv sent now :: later)).flatMap (messages_on channel) =
      ((get_info_outcome setup node_id channel sent now (trace (Service.step setup)
        (Service.step setup service (.try_recv sent now)).2 later)).map .get_info).toList := by
  obtain ⟨-, hlt, hidle, hrest⟩ := hinv.unanswered hqueue
  rw [trace, List.flatMap_cons, messages_on, stepOf, Service.step, hqueue, get_info_outcome]
  dsimp only
  cases hrefusal : setup.refusal node_id sent with
  | some message =>
    obtain ⟨hsent, hpending⟩ := messages_of_refused hrefusal channel now service.worker
    have hover : ({ service with
        worker := (step setup service.worker (.command (.GetInfo node_id channel) sent now)).2
        cmd_rx := rest } : Service).Over channel := by
      refine ⟨?_, hlt⟩
      rw [Service.outstanding, hpending, List.mem_append, not_or]
      exact ⟨hidle, hrest⟩
    rw [hsent, (waits setup ⟨node_id, channel, 0⟩).sends_of_ended hover]
    simp
  | none =>
    obtain ⟨hsent, hpending⟩ := messages_of_accepted hrefusal channel now service.worker
    have hwaiting : ({ service with
        worker := (step setup service.worker (.command (.GetInfo node_id channel) sent now)).2
        cmd_rx := rest } : Service).Waiting ⟨node_id, channel, now.first + Duration.from_secs 3⟩ :=
      ⟨hpending, hrest, hlt⟩
    rw [hsent, (waits setup _).sends_of_waiting hwaiting]
    cases List.findSome? (ending setup _) _ with
    | none => rfl
    | some result => cases result <;> rfl

/-- Whatever happens before and after a worker takes a GetInfo command, its caller gets
one result, or none: the reason why it is refused, or else what the first event gives that
ends its wait. -/
theorem get_info_settled (setup : Setup) (pnp : Option (Table × String)) (start : Instant) (earlier : List Action)
    (sent : SendOutcome) (now : Readings) (later : List Action) (node_id : UInt16) (channel : ReplyChannel)
    (htaken : (final (Service.step setup) (Service.start setup pnp start) earlier).cmd_rx.head? =
      some (.GetInfo node_id channel)) :
    let service := final (Service.step setup) (Service.start setup pnp start) earlier
    (trace (Service.step setup) (Service.start setup pnp start)
        (earlier ++ .try_recv sent now :: later)).flatMap (messages_on channel) =
      ((get_info_outcome setup node_id channel sent now (trace (Service.step setup)
        (Service.step setup service (.try_recv sent now)).2 later)).map .get_info).toList := by
  intro service
  have hinv : CallsInv (trace (Service.step setup) (Service.start setup pnp start) earlier) service :=
    invariant_of_step CallsInv (CallsInv.init setup pnp start) (fun _ _ _ _ _ h hinv => hinv.step h) earlier
  obtain ⟨rest, hqueue⟩ := List.head?_eq_some_iff.1 htaken
  obtain ⟨hbefore, -⟩ := hinv.unanswered hqueue
  rw [trace_append, List.flatMap_append]
  exact (congrArg₂ (· ++ ·) hbefore (settled_from hinv hqueue sent now later)).trans (List.nil_append _)

/-- A response after the check at the deadline and before the one past it. -/
theorem get_info_settled_quiet :
    (trace (Service.step quiet_udp) (Service.start quiet_udp none 0)
        [.send (.get_info 5), .try_recv (.ok ()) ⟨0, 0, 0, ""⟩,
          .work (.check_get_info_timeout (Duration.from_secs 3)),
          .work (.response ⟨GET_INFO_SERVICE, 5, []⟩ ⟨0, 0, 0, ""⟩),
          .work (.check_get_info_timeout (Duration.from_secs 4))]).flatMap (messages_on 0) =
      [.get_info (.error "Failed to parse GetInfo response")] :=
  get_info_settled quiet_udp none 0 [.send (.get_info 5)] (.ok ()) ⟨0, 0, 0, ""⟩
    [.work (.check_get_info_timeout (Duration.from_secs 3)),
      .work (.response ⟨GET_INFO_SERVICE, 5, []⟩ ⟨0, 0, 0, ""⟩),
      .work (.check_get_info_timeout (Duration.from_secs 4))] 5 0 rfl

end cyphal_service.transport
