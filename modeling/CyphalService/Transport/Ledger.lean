import CyphalService.Transport.Reception

open effect machine
open cyphal_service.pnp
open cyphal_service.pnp.db cyphal_service.pnp.allocator

namespace cyphal_service.transport

/-- A heartbeat that the handler decodes. -/
def CountsHeartbeat (setup : Setup) (st : machine.Step Worker Event (List Effect)) : Bool :=
  match st.input with
  | .message transfer _ => (setup.heartbeat transfer).isSome
  | _ => false

/-- A PNP allocation message that the handler decodes. -/
def CountsAllocation (setup : Setup) (st : machine.Step Worker Event (List Effect)) : Bool :=
  match st.input with
  | .message transfer now => (setup.message_call transfer now).any (·.isAllocation)
  | _ => false

/-- A GetInfo response that matches a pending request; if `strict`, only one
whose payload is well formed. -/
def CountsResponse (setup : Setup) (strict : Bool) (st : machine.Step Worker Event (List Effect)) : Bool :=
  match st.input with
  | .response transfer _ =>
    ((st.pre.state.matched transfer).1 || (st.pre.state.matched transfer).2) &&
      (!strict || (setup.codec.get_info_response transfer.payload).isSome)
  | _ => false

/-- The counters are the numbers of transfers decoded and handled so far. -/
structure ExactLedger (setup : Setup) (strict : Bool) (history : History) (received : Reception) : Prop where
  total : received.total_messages_received.toNat = history.countP (CountsHeartbeat setup) +
    history.countP (CountsAllocation setup) + history.countP (CountsResponse setup strict)
  heartbeats : received.heartbeat_messages_received.toNat = history.countP (CountsHeartbeat setup)
  responses : received.get_info_responses_received.toNat = history.countP (CountsResponse setup strict)

/-- No counter has reached the end of its range. -/
def Reception.BelowSaturation (self : Reception) : Prop :=
  self.total_messages_received.toNat < UInt64.size - 1 ∧
    self.heartbeat_messages_received.toNat < UInt64.size - 1 ∧
    self.get_info_responses_received.toNat < UInt64.size - 1

instance (self : Reception) : Decidable self.BelowSaturation :=
  inferInstanceAs (Decidable (_ ∧ _ ∧ _))

/-- The step decodes an allocation message, takes a response that answers both a
command and the allocator, or, if `strict`, takes a malformed response. -/
def Miscounts (setup : Setup) (strict : Bool) (st : machine.Step Worker Event (List Effect)) : Prop :=
  CountsAllocation setup st = true ∨
    ∃ transfer now, st.input = .response transfer now ∧
      (st.pre.state.matched transfer = (true, true) ∨
        (strict = true ∧ st.pre.state.matched transfer ≠ (false, false) ∧
          setup.codec.get_info_response transfer.payload = none))

/-- Below saturation an increment is exact. -/
theorem toNat_counted_of_lt {counts : Bool} {n : UInt64} (h : (counted counts n).toNat < UInt64.size - 1) :
    (counted counts n).toNat = n.toNat + counts.toNat := by
  rw [toNat_counted] at h ⊢
  omega

private theorem countP_snoc (p : machine.Step Worker Event (List Effect) → Bool) (history : History)
    (st : machine.Step Worker Event (List Effect)) :
    (history ++ [st]).countP p = history.countP p + (p st).toNat := by
  rw [List.countP_append, List.countP_singleton]
  cases p st <;> rfl

/-- What the ledger gains by a step. -/
private theorem exactLedger_snoc {setup : Setup} {strict : Bool} {before : History}
    {st : machine.Step Worker Event (List Effect)} {received : Reception} :
    ExactLedger setup strict (before ++ [st]) received ↔
      received.total_messages_received.toNat = before.countP (CountsHeartbeat setup) +
          before.countP (CountsAllocation setup) + before.countP (CountsResponse setup strict) +
          ((CountsHeartbeat setup st).toNat + (CountsAllocation setup st).toNat +
            (CountsResponse setup strict st).toNat) ∧
        received.heartbeat_messages_received.toNat =
          before.countP (CountsHeartbeat setup) + (CountsHeartbeat setup st).toNat ∧
        received.get_info_responses_received.toNat =
          before.countP (CountsResponse setup strict) + (CountsResponse setup strict st).toNat := by
  constructor
  · rintro ⟨htotal, hheartbeats, hresponses⟩
    simp only [countP_snoc] at htotal hheartbeats hresponses
    exact ⟨by omega, hheartbeats, hresponses⟩
  · rintro ⟨htotal, hheartbeats, hresponses⟩
    constructor
    · simp only [countP_snoc]
      omega
    · rw [countP_snoc]
      exact hheartbeats
    · rw [countP_snoc]
      exact hresponses

section Step

variable {setup : Setup} {strict : Bool} {before : History} {pre post : Worker} {event : Event}
  {effects : List Effect}

/-- A heartbeat is no allocation message. -/
private theorem not_allocation_of_heartbeat {transfer : MessageTransfer} {now : Readings} {hb : Heartbeat}
    (hmessage : setup.heartbeat transfer = some hb) :
    (setup.message_call transfer now).any (·.isAllocation) = false := by
  by_cases hheartbeat : transfer.subject = HEARTBEAT_SUBJECT
  · rw [Setup.heartbeat, if_pos hheartbeat] at hmessage
    simp [Setup.message_call, hheartbeat, hmessage, system.Call.isAllocation]
  · rw [Setup.heartbeat, if_neg hheartbeat] at hmessage
    cases hmessage

/-- A step that receives nothing breaks the ledger only by an allocation
message. -/
private theorem exactLedger_idle {received : Reception} (hledger : ExactLedger setup strict before pre.reception)
    (hmessage : ∀ transfer now, event = .message transfer now → setup.heartbeat transfer = none)
    (hresponse : ∀ transfer now, event = .response transfer now → pre.state.matched transfer = (false, false))
    (htotal' : received.total_messages_received = pre.reception.total_messages_received)
    (hheartbeats' : received.heartbeat_messages_received = pre.reception.heartbeat_messages_received)
    (hresponses' : received.get_info_responses_received = pre.reception.get_info_responses_received) :
    ExactLedger setup strict (before ++ [⟨pre, event, effects, post⟩]) received ↔
      ¬ Miscounts setup strict ⟨pre, event, effects, post⟩ := by
  obtain ⟨htotal, hheartbeats, hresponses⟩ := hledger
  have hno_heartbeat : CountsHeartbeat setup ⟨pre, event, effects, post⟩ = false := by
    cases event with
    | message transfer now => simp [CountsHeartbeat, hmessage transfer now rfl]
    | _ => rfl
  have hno_response : CountsResponse setup strict ⟨pre, event, effects, post⟩ = false := by
    cases event with
    | response transfer now => simp [CountsResponse, hresponse transfer now rfl]
    | _ => rfl
  have hmiscounts : Miscounts setup strict ⟨pre, event, effects, post⟩ ↔
      CountsAllocation setup ⟨pre, event, effects, post⟩ = true := by
    refine or_iff_left ?_
    rintro ⟨transfer, now, heq, hboth | ⟨-, hmatched, -⟩⟩
    · simp [hresponse transfer now heq] at hboth
    · exact hmatched (hresponse transfer now heq)
  rw [exactLedger_snoc, hmiscounts, hno_heartbeat, hno_response, htotal', hheartbeats', hresponses', htotal,
    hheartbeats, hresponses]
  cases CountsAllocation setup ⟨pre, event, effects, post⟩ <;> simp

private theorem exactLedger_heartbeat {transfer : MessageTransfer} {now : Readings} {hb : Heartbeat}
    {received : Reception} (hledger : ExactLedger setup strict before pre.reception)
    (hmessage : setup.heartbeat transfer = some hb)
    (htotal' : received.total_messages_received.toNat = pre.reception.total_messages_received.toNat + 1)
    (hheartbeats' : received.heartbeat_messages_received.toNat =
      pre.reception.heartbeat_messages_received.toNat + 1)
    (hresponses' : received.get_info_responses_received = pre.reception.get_info_responses_received) :
    ExactLedger setup strict (before ++ [⟨pre, .message transfer now, effects, post⟩]) received ↔
      ¬ Miscounts setup strict ⟨pre, .message transfer now, effects, post⟩ := by
  obtain ⟨htotal, hheartbeats, hresponses⟩ := hledger
  have hcounts : CountsHeartbeat setup ⟨pre, .message transfer now, effects, post⟩ = true := by
    simp [CountsHeartbeat, hmessage]
  have hno_allocation : CountsAllocation setup ⟨pre, .message transfer now, effects, post⟩ = false :=
    not_allocation_of_heartbeat hmessage
  have hno_response : CountsResponse setup strict ⟨pre, .message transfer now, effects, post⟩ = false := rfl
  refine iff_of_true ?_ ?_
  · rw [exactLedger_snoc, hcounts, hno_allocation, hno_response, htotal', hheartbeats', hresponses', htotal,
      hheartbeats, hresponses]
    simp
  · rintro (hallocation | ⟨other, now', heq, -⟩)
    · rw [hno_allocation] at hallocation
      cases hallocation
    · cases heq

private theorem exactLedger_response {transfer : ServiceTransfer} {now : Readings} {cli pnp : Bool}
    {received : Reception} (hledger : ExactLedger setup strict before pre.reception)
    (hresponse : pre.state.matched transfer = (cli, pnp)) (hmatched : (cli || pnp) = true)
    (htotal' : received.total_messages_received.toNat = pre.reception.total_messages_received.toNat + 1)
    (hheartbeats' : received.heartbeat_messages_received = pre.reception.heartbeat_messages_received)
    (hresponses' : received.get_info_responses_received.toNat =
      pre.reception.get_info_responses_received.toNat + cli.toNat + pnp.toNat) :
    ExactLedger setup strict (before ++ [⟨pre, .response transfer now, effects, post⟩]) received ↔
      ¬ Miscounts setup strict ⟨pre, .response transfer now, effects, post⟩ := by
  obtain ⟨htotal, hheartbeats, hresponses⟩ := hledger
  have hcounts : CountsResponse setup strict ⟨pre, .response transfer now, effects, post⟩ =
      (!strict || (setup.codec.get_info_response transfer.payload).isSome) := by
    simp only [CountsResponse, hresponse, hmatched, Bool.true_and]
  have hmiscounts : Miscounts setup strict ⟨pre, .response transfer now, effects, post⟩ ↔
      (cli = true ∧ pnp = true) ∨ (!strict || (setup.codec.get_info_response transfer.payload).isSome) = false := by
    have hsome : (cli, pnp) ≠ (false, false) := by
      intro hnone
      obtain ⟨rfl, rfl⟩ := Prod.mk.inj hnone
      cases hmatched
    constructor
    · rintro (hallocation | ⟨other, now', heq, hboth | ⟨hstrict, -, hmalformed⟩⟩)
      · cases hallocation
      · cases heq
        exact .inl (Prod.mk.inj (hresponse.symm.trans hboth))
      · cases heq
        exact .inr (by simp [hstrict, hmalformed])
    · rintro (⟨rfl, rfl⟩ | hmalformed)
      · exact .inr ⟨transfer, now, rfl, .inl hresponse⟩
      · simp only [Bool.or_eq_false_iff, Bool.not_eq_false', Option.isSome_eq_false_iff,
          Option.isNone_iff_eq_none] at hmalformed
        exact .inr ⟨transfer, now, rfl, .inr ⟨hmalformed.1, hresponse ▸ hsome, hmalformed.2⟩⟩
  have hno_heartbeat : CountsHeartbeat setup ⟨pre, .response transfer now, effects, post⟩ = false := rfl
  have hno_allocation : CountsAllocation setup ⟨pre, .response transfer now, effects, post⟩ = false := rfl
  rw [exactLedger_snoc, hmiscounts, hcounts, hno_heartbeat, hno_allocation, htotal', hheartbeats', hresponses',
    htotal, hheartbeats, hresponses]
  cases (!strict || (setup.codec.get_info_response transfer.payload).isSome) <;> cases cli <;> cases pnp <;>
    simp at hmatched ⊢

/-- An exact ledger stays exact unless the step miscounts. -/
private theorem exactLedger_step (h : step setup pre event = (effects, post))
    (hledger : ExactLedger setup strict before pre.reception) (hbelow : post.reception.BelowSaturation) :
    ExactLedger setup strict (before ++ [⟨pre, event, effects, post⟩]) post.reception ↔
      ¬ Miscounts setup strict ⟨pre, event, effects, post⟩ := by
  have hreceives := receives_of_step h
  generalize post.reception = received at hreceives hbelow ⊢
  obtain ⟨htotal, hheartbeats, hresponses⟩ := hbelow
  cases hreceives with
  | idle hmessage hresponse => exact exactLedger_idle hledger hmessage hresponse rfl rfl rfl
  | ticked =>
    refine exactLedger_idle hledger ?_ ?_ rfl rfl rfl
    · intro transfer now heq
      cases heq
    · intro transfer now heq
      cases heq
  | heartbeat hmessage =>
    refine exactLedger_heartbeat hledger hmessage ?_ ?_ rfl
    · exact @toNat_counted_of_lt true _ htotal
    · exact @toNat_counted_of_lt true _ hheartbeats
  | @response transfer now cli pnp hresponse hmatched =>
    refine exactLedger_response hledger hresponse hmatched ?_ rfl ?_
    · exact @toNat_counted_of_lt true _ htotal
    · have hpnp : (counted pnp (counted cli pre.state.get_info_responses_received)).toNat =
          (counted cli pre.state.get_info_responses_received).toNat + pnp.toNat := toNat_counted_of_lt hresponses
      have hle : (counted cli pre.state.get_info_responses_received).toNat ≤
          (counted pnp (counted cli pre.state.get_info_responses_received)).toNat := by omega
      have hcli := toNat_counted_of_lt (Nat.lt_of_le_of_lt hle hresponses)
      exact hpnp.trans (congrArg (· + _) hcli)

end Step

theorem exactLedger_start (setup : Setup) (strict : Bool) (pnp : Option (Table × String)) (now : Instant) :
    ExactLedger setup strict [] (Worker.start setup pnp now).reception := by
  rw [Worker.reception, Worker.start, WorkerState.register_local_node_reception]
  constructor <;> rfl

/-- Below saturation, and whether malformed responses count or not, the
diagnostics counters are the exact numbers of transfers decoded and handled in
exactly those runs in which no allocation message is decoded, no response
answers a command and the allocator at once and, if malformed ones do not count,
none is taken. -/
theorem ledger_exact_iff (setup : Setup) (strict : Bool) (table : Table) (ts : String) (now : Instant)
    (events : List Event)
    (hbelow : Everywhere (fun _ st => st.post.reception.BelowSaturation)
      (trace (step setup) (Worker.start setup (some (table, ts)) now) events)) :
    Everywhere (fun before st => ExactLedger setup strict (before ++ [st]) st.post.reception)
        (trace (step setup) (Worker.start setup (some (table, ts)) now) events) ↔
      Everywhere (fun _ st => ¬ Miscounts setup strict st)
        (trace (step setup) (Worker.start setup (some (table, ts)) now) events) := by
  refine everywhere_iff_of_admissible (fun history self => ExactLedger setup strict history self.reception)
    (exactLedger_start setup strict _ now) ?_ events hbelow
  intro before pre event effects post h hledger hbelow
  have hiff := exactLedger_step h hledger hbelow
  exact ⟨hiff, hiff.2⟩

theorem ledger_exact_heard :
    Everywhere (fun before st => ExactLedger beating_udp true (before ++ [st]) st.post.reception)
        (trace (step beating_udp) (Worker.start beating_udp (some (Table.empty, "")) 0)
          [.message ⟨HEARTBEAT_SUBJECT, some 5, []⟩ ⟨0, 0, 0, ""⟩]) ↔
      Everywhere (fun _ st => ¬ Miscounts beating_udp true st)
        (trace (step beating_udp) (Worker.start beating_udp (some (Table.empty, "")) 0)
          [.message ⟨HEARTBEAT_SUBJECT, some 5, []⟩ ⟨0, 0, 0, ""⟩]) :=
  ledger_exact_iff beating_udp true Table.empty "" 0 _ (by decide)

/-- A decoded v1 allocation request leaves the number of received messages at
zero. -/
theorem ledger_exact_fails :
    ¬ ∀ (setup : Setup) (table : Table) (ts : String) (now : Instant) (events : List Event),
      Everywhere (fun _ st => st.post.reception.BelowSaturation)
        (trace (step setup) (Worker.start setup (some (table, ts)) now) events) →
      Everywhere (fun before st => ExactLedger setup false (before ++ [st]) st.post.reception)
        (trace (step setup) (Worker.start setup (some (table, ts)) now) events) := by
  intro hall
  have hrun := hall { beating_udp with codec := { beating_udp.codec with allocation_v1 := fun _ => some ⟨7, []⟩ } }
    Table.empty "" 0 [.message ⟨PNP_V1_SUBJECT, none, []⟩ ⟨0, 0, 0, ""⟩] (by decide)
  have hlast := (everywhere_iff.1 hrun [] _ [] rfl).total
  exact absurd hlast (by decide)

end cyphal_service.transport
