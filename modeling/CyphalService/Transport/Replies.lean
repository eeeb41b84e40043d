import CyphalService.Transport.Served

open effect machine
open cyphal_service.pnp
open cyphal_service.pnp.db cyphal_service.pnp.allocator

namespace cyphal_service.transport

/-- The reply channel of the GetInfo command that an event takes. -/
def Event.taken (event : Event) : List ReplyChannel :=
  (event.get_info.map (·.2)).toList

/-- The reply channels of the GetInfo commands taken, in order. -/
def taken (history : History) : List ReplyChannel :=
  history.flatMap (·.input.taken)

/-- The reply channels on which a GetInfo result was sent, in order. -/
def answered (history : History) : List ReplyChannel :=
  history.flatMap fun st => (results st.output).map (·.channel)

/-- The reply channel of the GetInfo command that waits. -/
def PendingGetInfo.waiting (pending : Option PendingGetInfo) : List ReplyChannel :=
  (pending.map (·.reply)).toList

/-- After the step, every GetInfo command taken has its one result or waits. -/
def Accounted (before : History) (st : machine.Step Worker Event (List Effect)) : Prop :=
  (taken (before ++ [st])).length =
    (answered (before ++ [st])).length + (PendingGetInfo.waiting st.post.state.pending_get_info).length

instance (before : History) (st : machine.Step Worker Event (List Effect)) : Decidable (Accounted before st) :=
  inferInstanceAs (Decidable (_ = _))

/-- The step sends the request of a GetInfo command while another one waits: the
pending request is overwritten and its caller is forgotten. -/
def Replaces (setup : Setup) (st : machine.Step Worker Event (List Effect)) : Prop :=
  st.input.Accepted setup ∧ st.pre.state.pending_get_info.isSome

theorem Event.get_info_of_accepted {setup : Setup} {event : Event} (h : event.Accepted setup) :
    event.get_info.isSome := by
  unfold Event.Accepted at h
  split at h
  · rfl
  · exact absurd h id

/-- Unless it replaces a waiting command, an event serves the callers of GetInfo
one for one. -/
theorem Served.balances {setup : Setup} {pending pending' : Option PendingGetInfo} {event : Event}
    {sent : List GetInfoReply} (h : Served setup pending event sent pending')
    (hkeeps : ¬ (event.Accepted setup ∧ pending.isSome)) :
    (PendingGetInfo.waiting pending ++ event.taken).Perm
      (sent.map (·.channel) ++ PendingGetInfo.waiting pending') := by
  cases h with
  | accepted haccepted =>
    have hnone : pending = none := by
      cases pending with
      | none => rfl
      | some p => exact absurd ⟨haccepted, rfl⟩ hkeeps
    rw [hnone]
    exact .refl _
  | refused message hrefused => exact List.perm_append_comm
  | answered hpending hservice hsource =>
    rw [hpending]
    exact .refl _
  | expired hpending hlate =>
    rw [hpending]
    exact .refl _
  | idle hevent =>
    simp only [Event.taken, hevent]
    exact List.perm_append_comm

/-- A replaced command costs one result. -/
theorem Served.loses {setup : Setup} {pending pending' : Option PendingGetInfo} {event : Event}
    {sent : List GetInfoReply} (h : Served setup pending event sent pending')
    (haccepted : event.Accepted setup) (hsome : pending.isSome) :
    (PendingGetInfo.waiting pending ++ event.taken).length =
      (sent.map (·.channel) ++ PendingGetInfo.waiting pending').length + 1 := by
  obtain ⟨p, rfl⟩ := Option.isSome_iff_exists.1 hsome
  cases h with
  | accepted => rfl
  | refused message hrefused => exact absurd haccepted hrefused
  | answered hpending hservice hsource => exact absurd haccepted id
  | expired hpending hlate => exact absurd haccepted id
  | idle hevent =>
    have hgetinfo := Event.get_info_of_accepted haccepted
    rw [hevent] at hgetinfo
    cases hgetinfo

section Run

variable {setup : Setup} {before : History} {pre post : Worker} {event : Event} {effects : List Effect}

private theorem taken_snoc : taken (before ++ [⟨pre, event, effects, post⟩]) = taken before ++ event.taken := by
  simp [taken]

private theorem answered_snoc : answered (before ++ [⟨pre, event, effects, post⟩]) =
    answered before ++ (results effects).map (·.channel) := by
  simp [answered]

private theorem balanced_step (h : step setup pre event = (effects, post))
    (hkeeps : ¬ Replaces setup ⟨pre, event, effects, post⟩)
    (hbefore : (taken before).Perm (answered before ++ PendingGetInfo.waiting pre.state.pending_get_info)) :
    (taken (before ++ [⟨pre, event, effects, post⟩])).Perm
      (answered (before ++ [⟨pre, event, effects, post⟩]) ++
        PendingGetInfo.waiting post.state.pending_get_info) := by
  rw [taken_snoc, answered_snoc, List.append_assoc]
  calc
    (taken before ++ event.taken).Perm
        (answered before ++ PendingGetInfo.waiting pre.state.pending_get_info ++ event.taken) :=
      hbefore.append_right _
    _ = answered before ++ (PendingGetInfo.waiting pre.state.pending_get_info ++ event.taken) :=
      List.append_assoc _ _ _
    List.Perm _ (answered before ++ ((results effects).map (·.channel) ++
        PendingGetInfo.waiting post.state.pending_get_info)) :=
      ((served_of_step h).balances hkeeps).append_left _

private theorem replaces_of_step (h : step setup pre event = (effects, post))
    (hreplaces : Replaces setup ⟨pre, event, effects, post⟩)
    (hbefore : (taken before).length =
      (answered before).length + (PendingGetInfo.waiting pre.state.pending_get_info).length) :
    ¬ Accounted before ⟨pre, event, effects, post⟩ := by
  have hloses := (served_of_step h).loses hreplaces.1 hreplaces.2
  rw [List.length_append, List.length_append] at hloses
  intro haccounted
  rw [Accounted, taken_snoc, answered_snoc, List.length_append, List.length_append] at haccounted
  simp only at haccounted
  omega

end Run

/-- Every GetInfo command is answered in exactly the runs in which no command is
sent while another one waits; in such a run each reply channel gets one result. -/
theorem get_info_accounted_iff (setup : Setup) (pnp : Option (Table × String)) (now : Instant)
    (events : List Event) :
    let run := trace (step setup) (Worker.start setup pnp now) events
    (Everywhere Accounted run ↔ Everywhere (fun _ st => ¬ Replaces setup st) run) ∧
      (Everywhere (fun _ st => ¬ Replaces setup st) run →
        (taken run).Perm (answered run ++ PendingGetInfo.waiting
          (final (step setup) (Worker.start setup pnp now) events).state.pending_get_info)) := by
  have hstart : PendingGetInfo.waiting (Worker.start setup pnp now).state.pending_get_info = [] := by
    rw [Worker.start_pending_get_info]
    rfl
  have hinit : (taken []).Perm (answered [] ++
      PendingGetInfo.waiting (Worker.start setup pnp now).state.pending_get_info) := by
    rw [hstart]
    exact .refl _
  constructor
  · refine everywhere_iff_of_admissible (fun before self => (taken before).Perm
      (answered before ++ PendingGetInfo.waiting self.state.pending_get_info)) hinit ?_ events
      (everywhere_trivial events)
    intro before pre event effects post h hbefore _
    refine ⟨⟨fun haccounted hreplaces => ?_, fun hkeeps => ?_⟩, fun hkeeps => balanced_step h hkeeps hbefore⟩
    · exact replaces_of_step h hreplaces (by simpa using hbefore.length_eq) haccounted
    · simpa [Accounted] using (balanced_step h hkeeps hbefore).length_eq
  · intro hkeeps
    refine invariant_of_everywhere (fun before self => (taken before).Perm
      (answered before ++ PendingGetInfo.waiting self.state.pending_get_info)) hinit ?_ events hkeeps
    intro before pre event effects post h hbefore hstep
    exact balanced_step h hstep hbefore

/-- A UDP worker whose peers send nothing it can decode. -/
def quiet_udp : Setup where
  kind := udp ⟨fun _ => true, fun _ => true, fun _ => true⟩
  codec := ⟨fun _ => none, fun _ => none, fun _ => none, fun _ => none⟩
  local_node_id := 1
  get_info_token := true

/-- A second caller asks before the first has its result, which is then lost. -/
theorem get_info_accounted_fails :
    ¬ Everywhere Accounted (trace (step quiet_udp) (Worker.start quiet_udp none 0)
      [.command (.GetInfo 5 0) (.ok ()) ⟨0, 0, 0, ""⟩,
        .command (.GetInfo 6 1) (.ok ()) ⟨1000000, 0, 0, ""⟩]) := by
  decide

end cyphal_service.transport
