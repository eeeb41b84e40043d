import CyphalService.Transport.Served

open effect machine
open cyphal_service.pnp
open cyphal_service.pnp.db cyphal_service.pnp.allocator

namespace cyphal_service.transport

/-- What the holder of a `TransportHandle` asks; every call makes a reply channel of
its own. -/
inductive Request where
  | list_nodes
  | get_info (node_id : UInt16)
  | diagnostics
  | list_allocations

def Request.command : Request → ReplyChannel → TransportCommand
  | .list_nodes, reply => .ListNodes reply
  | .get_info node_id, reply => .GetInfo node_id reply
  | .diagnostics, reply => .Diagnostics reply
  | .list_allocations, reply => .ListAllocations reply

/-- The bound of the command channel that all clones of a handle share. -/
def COMMAND_CHANNEL_BOUND : Nat := 16

/-- A worker, the commands in its channel and the next reply channel to be made. -/
structure Service where
  worker : Worker
  cmd_rx : List TransportCommand
  next_reply : ReplyChannel

/-- A caller sends a command, the worker takes the next one, or the worker does
anything else in its loop. -/
inductive Action where
  | send (request : Request)
  | try_recv (sent : SendOutcome) (now : Readings)
  | work (event : Event)

def Event.isCommand : Event → Bool
  | .command _ _ _ => true
  | _ => false

namespace Service

def start (setup : Setup) (pnp : Option (Table × String)) (now : Instant) : Service where
  worker := Worker.start setup pnp now
  cmd_rx := []
  next_reply := 0

/-- A caller whose command does not fit into the channel is blocked, so its step
does not happen yet. -/
def step (setup : Setup) (self : Service) : Action → List Effect × Service
  | .send request =>
    if self.cmd_rx.length < COMMAND_CHANNEL_BOUND then
      ([], { self with
        cmd_rx := self.cmd_rx ++ [request.command self.next_reply]
        next_reply := self.next_reply + 1 })
    else ([], self)
  | .try_recv sent now =>
    match self.cmd_rx with
    | [] => ([], self)
    | cmd :: rest =>
      let served := transport.step setup self.worker (.command cmd sent now)
      (served.1, { self with worker := served.2, cmd_rx := rest })
  | .work event =>
    if event.isCommand then ([], self)
    else
      let worked := transport.step setup self.worker event
      (worked.1, { self with worker := worked.2 })

/-- Everything a step can do: a command enters the channel, the worker takes the
first one, the worker does something else, or nothing happens. -/
inductive Transition (setup : Setup) (self : Service) : Action → List Effect → Service → Prop where
  | sent {request : Request} (hroom : self.cmd_rx.length < COMMAND_CHANNEL_BOUND) :
      Transition setup self (.send request) []
        { self with
          cmd_rx := self.cmd_rx ++ [request.command self.next_reply]
          next_reply := self.next_reply + 1 }
  | taken {cmd : TransportCommand} {rest : List TransportCommand} {sent : SendOutcome} {now : Readings}
      {effects : List Effect} {worker : Worker} (hqueue : self.cmd_rx = cmd :: rest)
      (hstep : transport.step setup self.worker (.command cmd sent now) = (effects, worker)) :
      Transition setup self (.try_recv sent now) effects { self with worker, cmd_rx := rest }
  | worked {event : Event} {effects : List Effect} {worker : Worker} (hcommand : event.isCommand = false)
      (hstep : transport.step setup self.worker event = (effects, worker)) :
      Transition setup self (.work event) effects { self with worker }
  | idle {action : Action}
      (hroom : ∀ request, action = .send request → ¬ self.cmd_rx.length < COMMAND_CHANNEL_BOUND) :
      Transition setup self action [] self

theorem step_transition {setup : Setup} {self post : Service} {action : Action} {effects : List Effect}
    (h : step setup self action = (effects, post)) : Transition setup self action effects post := by
  cases action with
  | send request =>
    by_cases hroom : self.cmd_rx.length < COMMAND_CHANNEL_BOUND
    · simp only [step, if_pos hroom, Prod.mk.injEq] at h
      obtain ⟨rfl, rfl⟩ := h
      exact .sent hroom
    · simp only [step, if_neg hroom, Prod.mk.injEq] at h
      obtain ⟨rfl, rfl⟩ := h
      exact .idle fun _ _ => hroom
  | try_recv sent now =>
    cases hqueue : self.cmd_rx with
    | nil =>
      simp only [step, hqueue, Prod.mk.injEq] at h
      obtain ⟨rfl, rfl⟩ := h
      exact .idle nofun
    | cons cmd rest =>
      simp only [step, hqueue, Prod.mk.injEq] at h
      obtain ⟨rfl, rfl⟩ := h
      exact .taken hqueue rfl
  | work event =>
    cases hcommand : event.isCommand with
    | true =>
      simp only [step, hcommand, ↓reduceIte, Prod.mk.injEq] at h
      obtain ⟨rfl, rfl⟩ := h
      exact .idle nofun
    | false =>
      simp only [step, hcommand, Bool.false_eq_true, ↓reduceIte, Prod.mk.injEq] at h
      obtain ⟨rfl, rfl⟩ := h
      exact .worked hcommand rfl

end Service

/-- `TransportHandle::get_info`, from whether the command could be sent and what came
over the reply channel before the timeout. -/
def TransportHandle.get_info (sent : Bool) (received : Option (Except String GetInfoResult)) :
    Except String GetInfoResult :=
  if sent then received.getD (.error "timed out waiting for GetInfo response")
  else .error "transport worker has stopped"

abbrev ServiceStep := machine.Step Service Action (List Effect)

/-- The step sends a GetInfo command for the node with the reply channel. -/
def Asks (channel : ReplyChannel) (node_id : UInt16) (st : ServiceStep) : Prop :=
  st.input = .send (.get_info node_id) ∧ st.pre.next_reply = channel ∧
    st.pre.cmd_rx.length < COMMAND_CHANNEL_BOUND

/-- The worker accepts the GetInfo command with the reply channel: it sends the
request to the node and waits for the response. -/
def Accepts (setup : Setup) (channel : ReplyChannel) (node_id : UInt16) (st : ServiceStep) : Prop :=
  ∃ sent now, st.input = .try_recv sent now ∧ st.pre.cmd_rx.head? = some (.GetInfo node_id channel) ∧
    (Event.command (.GetInfo node_id channel) sent now).Accepted setup

/-- The step handles a response from the node that decodes to the result. -/
def RespondsWith (setup : Setup) (node_id : UInt16) (result : GetInfoResult) (st : ServiceStep) : Prop :=
  ∃ transfer now resp, st.input = .work (.response transfer now) ∧ transfer.service = GET_INFO_SERVICE ∧
    transfer.source = node_id ∧ setup.codec.get_info_response transfer.payload = some resp ∧
    Worker.get_info_result node_id (some resp) = .ok result

/-- What the answers depend on: a reply channel belongs to one command, and the
waiting request carries the node and the channel of an accepted command. -/
structure HandleInv (setup : Setup) (before : List ServiceStep) (service : Service) : Prop where
  fresh : ∀ channel node_id, Occurred (Asks channel node_id) before → channel < service.next_reply
  unique : ∀ channel node_id other, Occurred (Asks channel node_id) before →
    Occurred (Asks channel other) before → node_id = other
  queued : ∀ channel node_id, .GetInfo node_id channel ∈ service.cmd_rx → Occurred (Asks channel node_id) before
  pending : ∀ p, service.worker.state.pending_get_info = some p →
    Occurred (Asks p.reply p.node_id) before ∧ Occurred (Accepts setup p.reply p.node_id) before

theorem HandleInv.init (setup : Setup) (pnp : Option (Table × String)) (now : Instant) :
    HandleInv setup [] (Service.start setup pnp now) := by
  constructor
  · intro channel node_id hasked
    exact absurd hasked not_occurred_nil
  · intro channel node_id other hasked
    exact absurd hasked not_occurred_nil
  · intro channel node_id hmem
    exact absurd hmem List.not_mem_nil
  · intro p hpending
    rw [Service.start, Worker.start_pending_get_info] at hpending
    cases hpending

private theorem occurred_asks_snoc {before : List ServiceStep} {st : ServiceStep} {channel : ReplyChannel}
    {node_id : UInt16} (hquiet : ¬ Asks channel node_id st) :
    Occurred (Asks channel node_id) (before ++ [st]) ↔ Occurred (Asks channel node_id) before := by
  rw [occurred_snoc]
  exact or_iff_left hquiet

private theorem HandleInv.of_idle {setup : Setup} {before : List ServiceStep} {service : Service}
    (hinv : HandleInv setup before service) {st : ServiceStep}
    (hquiet : ∀ channel node_id, ¬ Asks channel node_id st) : HandleInv setup (before ++ [st]) service := by
  constructor
  · intro channel node_id hasked
    exact hinv.fresh channel node_id ((occurred_asks_snoc (hquiet _ _)).1 hasked)
  · intro channel node_id other hasked hother
    exact hinv.unique channel node_id other ((occurred_asks_snoc (hquiet _ _)).1 hasked)
      ((occurred_asks_snoc (hquiet _ _)).1 hother)
  · intro channel node_id hmem
    exact occurred_snoc.2 (.inl (hinv.queued channel node_id hmem))
  · intro p hpending
    obtain ⟨hasked, haccepted⟩ := hinv.pending p hpending
    exact ⟨occurred_snoc.2 (.inl hasked), occurred_snoc.2 (.inl haccepted)⟩

/-- A step of the worker, which may take the first command from the channel. -/
private theorem HandleInv.of_served {setup : Setup} {before : List ServiceStep} {pre : Service} {st : ServiceStep}
    {rest : List TransportCommand} {worker : Worker} {event : Event} {sent : List GetInfoReply}
    (hinv : HandleInv setup before pre) (hquiet : ∀ channel node_id, ¬ Asks channel node_id st)
    (hqueue : ∀ cmd ∈ rest, cmd ∈ pre.cmd_rx)
    (hserved : Served setup pre.worker.state.pending_get_info event sent worker.state.pending_get_info)
    (haccepts : ∀ node_id channel sent now, event = .command (.GetInfo node_id channel) sent now →
      event.Accepted setup → .GetInfo node_id channel ∈ pre.cmd_rx ∧ Accepts setup channel node_id st) :
    HandleInv setup (before ++ [st]) { pre with worker, cmd_rx := rest } := by
  have hinv' := hinv.of_idle hquiet
  refine ⟨hinv'.fresh, hinv'.unique, fun channel node_id hmem => hinv'.queued channel node_id (hqueue _ hmem), ?_⟩
  intro p hpending
  simp only at hpending
  rw [hpending] at hserved
  generalize hold : pre.worker.state.pending_get_info = old at hserved
  cases hserved with
  | accepted haccepted =>
    obtain ⟨hmem, hnow⟩ := haccepts _ _ _ _ rfl haccepted
    exact ⟨hinv'.queued _ _ hmem, occurred_snoc.2 (.inr hnow)⟩
  | refused message hrefused => exact hinv'.pending p hold
  | idle hevent => exact hinv'.pending p hold

private theorem HandleInv.of_sent {setup : Setup} {before : List ServiceStep} {pre : Service} {request : Request}
    {effects : List Effect} {post : Service} (hinv : HandleInv setup before pre)
    (hroom : pre.cmd_rx.length < COMMAND_CHANNEL_BOUND) :
    HandleInv setup (before ++ [⟨pre, .send request, effects, post⟩])
      { pre with
        cmd_rx := pre.cmd_rx ++ [request.command pre.next_reply]
        next_reply := pre.next_reply + 1 } := by
  constructor
  · intro channel node_id hasked
    obtain hearlier | ⟨-, hnow, -⟩ := occurred_snoc.1 hasked
    · exact Nat.lt_succ_of_lt (hinv.fresh channel node_id hearlier)
    · exact hnow ▸ Nat.lt_succ_self _
  · -- a channel made now was never asked on before, and this call asks only once
    intro channel node_id other hasked hother
    obtain hearlier | ⟨hnode, hnow, -⟩ := occurred_snoc.1 hasked
    · obtain hearlier' | ⟨-, hnow, -⟩ := occurred_snoc.1 hother
      · exact hinv.unique channel node_id other hearlier hearlier'
      · exact absurd (hinv.fresh channel node_id hearlier) (hnow ▸ Nat.lt_irrefl _)
    · obtain hearlier | ⟨hother, -, -⟩ := occurred_snoc.1 hother
      · exact absurd (hinv.fresh channel other hearlier) (hnow ▸ Nat.lt_irrefl _)
      · cases hnode.symm.trans hother
        rfl
  · intro channel node_id hmem
    obtain hearlier | hnow := List.mem_append.1 hmem
    · exact occurred_snoc.2 (.inl (hinv.queued channel node_id hearlier))
    · rw [List.mem_singleton] at hnow
      cases request with
      | get_info node =>
        cases hnow
        exact occurred_snoc.2 (.inr ⟨rfl, rfl, hroom⟩)
      | list_nodes => cases hnow
      | diagnostics => cases hnow
      | list_allocations => cases hnow
  · intro p hpending
    obtain ⟨hasked, haccepted⟩ := hinv.pending p hpending
    exact ⟨occurred_snoc.2 (.inl hasked), occurred_snoc.2 (.inl haccepted)⟩

theorem HandleInv.step {setup : Setup} {before : List ServiceStep} {pre post : Service} {action : Action}
    {effects : List Effect} (h : Service.step setup pre action = (effects, post))
    (hinv : HandleInv setup before pre) : HandleInv setup (before ++ [⟨pre, action, effects, post⟩]) post := by
  cases Service.step_transition h with
  | sent hroom => exact hinv.of_sent hroom
  | @taken cmd rest sent now _ worker hqueue hstep =>
    refine hinv.of_served ?_ ?_ (served_of_step hstep) ?_
    · intro channel node_id hasks
      cases hasks.1
    · intro other hmem
      rw [hqueue]
      exact List.mem_cons_of_mem cmd hmem
    · intro node_id channel sent now heq haccepted
      cases heq
      exact ⟨by simp [hqueue], _, _, rfl, by simp [hqueue], haccepted⟩
  | worked hcommand hstep =>
    refine hinv.of_served ?_ (fun _ hmem => hmem) (served_of_step hstep) ?_
    · intro channel node_id hasks
      cases hasks.1
    · intro node_id channel sent now heq haccepted
      rw [heq] at hcommand
      cases hcommand
  | idle hroom => exact hinv.of_idle fun channel node_id hasks => hroom _ hasks.1 hasks.2.2

/-- Every `Ok` on a reply channel is the answer of the node the command asked. -/
private theorem HandleInv.answer {setup : Setup} {before : List ServiceStep} {pre post : Service} {action : Action}
    {effects : List Effect} (h : Service.step setup pre action = (effects, post))
    (hinv : HandleInv setup before pre) {channel : ReplyChannel} {result : GetInfoResult}
    (hsent : ⟨channel, .ok result⟩ ∈ results effects) :
    Occurred (Asks channel result.node_id) before ∧ Occurred (Accepts setup channel result.node_id) before ∧
      RespondsWith setup result.node_id result ⟨pre, action, effects, post⟩ := by
  cases Service.step_transition h with
  | sent hroom => cases hsent
  | taken hqueue hstep =>
    obtain ⟨p, transfer, now, resp, -, -, -, hevent, -⟩ := (served_of_step hstep).of_ok hsent
    cases hevent
  | worked hcommand hstep =>
    obtain ⟨p, transfer, now, resp, hpending, rfl, hnode, rfl, hservice, hsource, hdecoded, hresult⟩ :=
      (served_of_step hstep).of_ok hsent
    obtain ⟨hasked, haccepted⟩ := hinv.pending p hpending
    rw [hnode] at hasked haccepted
    exact ⟨hasked, haccepted, transfer, now, resp, rfl, hservice, hsource, hdecoded, hresult⟩
  | idle hroom => cases hsent

private theorem handleInv_run (setup : Setup) (pnp : Option (Table × String)) (now : Instant)
    (actions : List Action) :
    HandleInv setup (trace (Service.step setup) (Service.start setup pnp now) actions)
      (final (Service.step setup) (Service.start setup pnp now) actions) :=
  invariant_of_step (HandleInv setup) (HandleInv.init setup pnp now)
    (fun _ _ _ _ _ h hinv => hinv.step h) actions

/-- A GetInfo answer always comes from the node that was asked, whatever callers,
transfers, replacements and timeouts come in between; hence `get_info` returns
`Ok` only with the node ID it was called with. -/
theorem get_info_answered_by_asked (setup : Setup) (pnp : Option (Table × String)) (now : Instant)
    (actions : List Action) :
    let run := trace (Service.step setup) (Service.start setup pnp now) actions
    (∀ before st after, run = before ++ st :: after → ∀ channel node_id result,
      Occurred (Asks channel node_id) run → ⟨channel, .ok result⟩ ∈ results st.output →
        result.node_id = node_id ∧ RespondsWith setup node_id result st ∧
          Occurred (Accepts setup channel node_id) before) ∧
    ∀ channel node_id, Occurred (Asks channel node_id) run →
      ∀ sent received result,
        (∀ message ∈ received, ∃ st ∈ run, ⟨channel, message⟩ ∈ results st.output) →
        TransportHandle.get_info sent received = .ok result → result.node_id = node_id := by
  intro run
  have hunique := (handleInv_run setup pnp now actions).unique
  have hanswers : Everywhere (fun before st => ∀ channel result, ⟨channel, .ok result⟩ ∈ results st.output →
      Occurred (Asks channel result.node_id) before ∧ Occurred (Accepts setup channel result.node_id) before ∧
        RespondsWith setup result.node_id result st) run := by
    refine everywhere_of_invariant (HandleInv setup) (HandleInv.init setup pnp now) ?_ ?_ actions
    · intro before pre action effects post h hinv
      exact hinv.step h
    · intro before pre action effects post h hinv channel result hsent
      exact hinv.answer h hsent
  rw [everywhere_iff] at hanswers
  have hstep : ∀ before st after, run = before ++ st :: after → ∀ channel node_id result,
      Occurred (Asks channel node_id) run → ⟨channel, .ok result⟩ ∈ results st.output →
        result.node_id = node_id ∧ RespondsWith setup node_id result st ∧
          Occurred (Accepts setup channel node_id) before := by
    intro before st after hrun channel node_id result hasked hsent
    obtain ⟨⟨asking, hmem, hasks⟩, haccepted, hresponds⟩ := hanswers before st after hrun channel result hsent
    have hnode : result.node_id = node_id := by
      refine hunique channel result.node_id node_id ⟨asking, ?_, hasks⟩ hasked
      change asking ∈ run
      rw [hrun]
      exact List.mem_append_left _ hmem
    exact ⟨hnode, hnode ▸ hresponds, hnode ▸ haccepted⟩
  refine ⟨hstep, ?_⟩
  intro channel node_id hasked sent received result hreceived hreturned
  cases sent with
  | false => cases hreturned
  | true =>
    cases received with
    | none => cases hreturned
    | some message =>
      obtain ⟨st, hmem, hsent⟩ := hreceived message rfl
      obtain ⟨before, after, hrun⟩ := List.append_of_mem hmem
      simp only [TransportHandle.get_info, ↓reduceIte, Option.getD_some] at hreturned
      rw [hreturned] at hsent
      exact (hstep before st after hrun channel node_id result hasked hsent).1

end cyphal_service.transport
