import CyphalService.Pnp.Queue

open effect machine
open cyphal_service.pnp.db cyphal_service.pnp.allocator

namespace cyphal_service.pnp.system

/-- The step is a heartbeat that puts its node on the GetInfo queue. -/
def Enqueues (st : machine.Step State Input Return) (node_id : UInt16) (queued_at : Instant) : Prop :=
  (∃ tested_at, st.input.call = .on_heartbeat node_id tested_at queued_at) ∧
    st.post.self.get_info_queue = st.pre.self.get_info_queue ++ [node_id]

/-- The step reports that the GetInfo request to the node failed. -/
def Fails (st : machine.Step State Input Return) (node_id : UInt16) : Prop :=
  st.input.call = .on_get_info_result node_id none

/-- The node was put on the queue at that time, and no failure followed. -/
def Standing (history : History) (node_id : UInt16) (queued_at : Instant) : Prop :=
  ∃ earlier st later, history = earlier ++ st :: later ∧ Enqueues st node_id queued_at ∧
    ¬ Occurred (Fails · node_id) later

/-- A heartbeat puts its node on the queue exactly when the recorded row is
unresolved and no standing enqueue is less than a cooldown old; so the standing
ones lie a whole cooldown back. -/
def RateLimited (before : History) (st : machine.Step State Input Return) : Prop :=
  ∀ node_id tested_at queued_at, st.input.call = .on_heartbeat node_id tested_at queued_at →
    (Enqueues st node_id queued_at ↔
      (∃ row, st.post.table.byNode node_id = some row ∧ row.needs_get_info) ∧
        ¬ ∃ earlier, Standing before node_id earlier ∧ tested_at < earlier + GET_INFO_RETRY_COOLDOWN) ∧
    (Enqueues st node_id queued_at →
      ∀ earlier, Standing before node_id earlier → earlier + GET_INFO_RETRY_COOLDOWN ≤ queued_at)

/-- The readings of a step are ordered, and none is older than one before. -/
def OnTime (before : History) (st : machine.Step State Input Return) : Prop :=
  st.input.call.readings.Pairwise (· ≤ ·) ∧
    ∀ earlier ∈ before, ∀ t ∈ earlier.input.call.readings, ∀ now ∈ st.input.call.readings, t ≤ now

theorem onTime_of_clockAdvances {start : State} {inputs : List Input} (hclock : ClockAdvances inputs) :
    Everywhere OnTime (trace step start inputs) := by
  induction inputs using List.reverseRecOn with
  | nil => exact everywhere_nil _
  | append_singleton inputs input ih =>
    rw [ClockAdvances, List.flatMap_append, List.flatMap_singleton] at hclock
    obtain ⟨hbefore, hstep, horder⟩ := List.pairwise_append.1 hclock
    rw [trace_append]
    refine everywhere_snoc.2 ⟨ih hbefore, hstep, ?_⟩
    intro earlier hearlier t ht now hnow
    have hinput : earlier.input ∈ inputs := by
      have hmem := List.mem_map_of_mem (f := (·.input)) hearlier
      rwa [trace_map_input] at hmem
    exact horder t (List.mem_flatMap.2 ⟨earlier.input, hinput, ht⟩) now hnow

/-- A step ends the standing of a node's enqueues by a failure, and adds one by
an enqueue. -/
theorem standing_snoc {history : History} {st : machine.Step State Input Return} {node_id : UInt16}
    {queued_at : Instant} :
    Standing (history ++ [st]) node_id queued_at ↔
      (Standing history node_id queued_at ∧ ¬ Fails st node_id) ∨ Enqueues st node_id queued_at := by
  constructor
  · rintro ⟨earlier, a, later, hsplit, henqueues, hnofail⟩
    obtain rfl | ⟨rest, last, rfl⟩ := later.eq_nil_or_concat
    · obtain ⟨-, hlast⟩ := List.append_inj' hsplit rfl
      rw [List.singleton_inj.1 hlast]
      exact .inr henqueues
    · rw [List.concat_eq_append, ← List.cons_append, ← List.append_assoc] at hsplit
      obtain ⟨hfront, hlast⟩ := List.append_inj' hsplit rfl
      rw [List.concat_eq_append, occurred_snoc, not_or] at hnofail
      rw [List.singleton_inj.1 hlast]
      exact .inl ⟨⟨earlier, a, rest, hfront, henqueues, hnofail.1⟩, hnofail.2⟩
  · rintro (⟨⟨earlier, a, later, rfl, henqueues, hnofail⟩, hstep⟩ | henqueues)
    · refine ⟨earlier, a, later ++ [st], by simp, henqueues, ?_⟩
      rw [occurred_snoc, not_or]
      exact ⟨hnofail, hstep⟩
    · exact ⟨history, st, [], rfl, henqueues, not_occurred_nil⟩

/-- The cooldown map holds the youngest standing enqueue of each node. -/
structure CooldownInv (history : History) (s : State) : Prop where
  standing : ∀ node_id queried_at, s.self.recently_queried.lookup node_id = some queried_at →
    Standing history node_id queried_at
  queried : ∀ node_id queued_at, Standing history node_id queued_at →
    ∃ queried_at, s.self.recently_queried.lookup node_id = some queried_at ∧ queued_at ≤ queried_at

/-- A standing enqueue took its time from a reading of the clock. -/
theorem reading_of_standing {history : History} {node_id : UInt16} {queued_at : Instant}
    (h : Standing history node_id queued_at) : ∃ st ∈ history, queued_at ∈ st.input.call.readings := by
  obtain ⟨earlier, st, later, rfl, ⟨⟨tested_at, hcall⟩, -⟩, -⟩ := h
  refine ⟨st, by simp, ?_⟩
  rw [hcall]
  simp [Call.readings]

/-- A step that neither enqueues nor reports a failure leaves the bookkeeping
alone when it leaves the map alone. -/
private theorem CooldownInv.unchanged {before : History} {s post : State} {input : Input} {output : Return}
    (hinv : CooldownInv before s) (hself : post.self.recently_queried = s.self.recently_queried)
    (hstep : ∀ node_id queued_at, ¬ Fails ⟨s, input, output, post⟩ node_id ∧
      ¬ Enqueues ⟨s, input, output, post⟩ node_id queued_at) :
    CooldownInv (before ++ [⟨s, input, output, post⟩]) post := by
  constructor
  · intro node_id queried_at hlookup
    rw [hself] at hlookup
    exact standing_snoc.2 (.inl ⟨hinv.standing node_id queried_at hlookup, (hstep node_id queried_at).1⟩)
  · intro node_id queued_at hstanding
    rw [hself]
    obtain ⟨hold, -⟩ | henqueues := standing_snoc.1 hstanding
    · exact hinv.queried node_id queued_at hold
    · exact absurd henqueues (hstep node_id queued_at).2

private theorem cooldownInv_queued {before : History} {s post : State} {node_id : UInt16}
    {tested_at queued_at : Instant} {ts : String} (hinv : CooldownInv before s)
    (hpost : post.self = s.self.enqueue node_id queued_at)
    (htime : OnTime before ⟨s, ⟨.on_heartbeat node_id tested_at queued_at, ts⟩, .unit, post⟩) :
    CooldownInv (before ++ [⟨s, ⟨.on_heartbeat node_id tested_at queued_at, ts⟩, .unit, post⟩]) post := by
  have henqueues : Enqueues ⟨s, ⟨.on_heartbeat node_id tested_at queued_at, ts⟩, .unit, post⟩
      node_id queued_at := ⟨⟨tested_at, rfl⟩, by rw [hpost]; rfl⟩
  constructor
  · intro other queried_at hlookup
    rw [hpost] at hlookup
    by_cases hid : other = node_id
    · subst hid
      simp only [PnpAllocator.enqueue, AList.lookup_insert, Option.some.injEq] at hlookup
      exact standing_snoc.2 (.inr (hlookup ▸ henqueues))
    · rw [PnpAllocator.enqueue, AList.lookup_insert_ne hid] at hlookup
      exact standing_snoc.2 (.inl ⟨hinv.standing other queried_at hlookup, by simp [Fails]⟩)
  · intro other earlier hstanding
    rw [hpost]
    by_cases hid : other = node_id
    · subst hid
      refine ⟨queued_at, by simp [PnpAllocator.enqueue], ?_⟩
      obtain ⟨hold, -⟩ | ⟨⟨tested, hcall⟩, -⟩ := standing_snoc.1 hstanding
      · obtain ⟨st, hst, hreading⟩ := reading_of_standing hold
        exact htime.2 st hst earlier hreading queued_at (by simp [Call.readings])
      · cases hcall
        exact Nat.le_refl _
    · rw [PnpAllocator.enqueue, AList.lookup_insert_ne hid]
      obtain ⟨hold, -⟩ | ⟨⟨tested, hcall⟩, -⟩ := standing_snoc.1 hstanding
      · exact hinv.queried other earlier hold
      · cases hcall
        exact absurd rfl hid

private theorem cooldownInv_failed {before : History} {s : State} {node_id : UInt16} {ts : String}
    (hinv : CooldownInv before s) :
    CooldownInv (before ++ [⟨s, ⟨.on_get_info_result node_id none, ts⟩, .unit,
        ⟨{ s.self with recently_queried := s.self.recently_queried.erase node_id }, s.table⟩⟩])
      ⟨{ s.self with recently_queried := s.self.recently_queried.erase node_id }, s.table⟩ := by
  constructor
  · intro other queried_at hlookup
    by_cases hid : other = node_id
    · subst hid
      simp at hlookup
    · simp only [AList.lookup_erase_ne hid] at hlookup
      refine standing_snoc.2 (.inl ⟨hinv.standing other queried_at hlookup, ?_⟩)
      simpa [Fails] using Ne.symm hid
  · intro other queued_at hstanding
    obtain ⟨hold, hnofail⟩ | ⟨⟨tested, hcall⟩, -⟩ := standing_snoc.1 hstanding
    · have hid : other ≠ node_id := by
        rintro rfl
        exact hnofail rfl
      simp only [AList.lookup_erase_ne hid]
      exact hinv.queried other queued_at hold
    · cases hcall

theorem CooldownInv.step {before : History} {s post : State} {input : Input} {output : Return}
    (h : system.step s input = (output, post)) (hinv : CooldownInv before s)
    (htime : OnTime before ⟨s, input, output, post⟩) :
    CooldownInv (before ++ [⟨s, input, output, post⟩]) post := by
  cases step_transition h with
  | @request call ts q output t hq hassigned =>
    refine hinv.unchanged rfl fun node_id queued_at => ⟨?_, ?_⟩
    · rintro rfl
      cases hq
    · rintro ⟨⟨tested_at, rfl⟩, -⟩
      cases hq
  | ignored hcall hq hanswer =>
    refine hinv.unchanged rfl fun node_id queued_at => ⟨?_, ?_⟩
    · rintro rfl
      cases hcall
    · rintro ⟨⟨tested_at, rfl⟩, -⟩
      cases hcall
  | queued hqueues => exact cooldownInv_queued hinv rfl htime
  | noted hqueues =>
    refine hinv.unchanged rfl fun node_id queued_at => ⟨by simp [Fails], ?_⟩
    rintro ⟨-, hqueue⟩
    simp at hqueue
  | popped =>
    refine hinv.unchanged ?_ fun node_id queued_at => ⟨by simp [Fails], by simp [Enqueues]⟩
    unfold PnpAllocator.pop_get_info_request
    split <;> rfl
  | resolved => exact hinv.unchanged rfl fun node_id queued_at => ⟨by simp [Fails], by simp [Enqueues]⟩
  | failed => exact cooldownInv_failed hinv

/-- With the map in step with the history, the cooldown test is a question to
the history. -/
private theorem CooldownInv.queues_iff {before : History} {s : State} (hinv : CooldownInv before s)
    (t : Table) (node_id : UInt16) (tested_at : Instant) :
    s.self.Queues t node_id tested_at ↔ (∃ row, t.byNode node_id = some row ∧ row.needs_get_info) ∧
      ¬ ∃ earlier, Standing before node_id earlier ∧ tested_at < earlier + GET_INFO_RETRY_COOLDOWN := by
  refine and_congr_right fun _ => ?_
  constructor
  · rintro hcooldown ⟨earlier, hstanding, hrecent⟩
    obtain ⟨queried_at, hlookup, hle⟩ := hinv.queried node_id earlier hstanding
    have helapsed := cooldown_le_elapsed.1 (hcooldown queried_at hlookup)
    have hexpired := Nat.le_trans (Nat.add_le_add_right hle GET_INFO_RETRY_COOLDOWN) helapsed
    exact Nat.not_lt.2 hexpired hrecent
  · intro hnone queried_at hlookup
    rw [cooldown_le_elapsed]
    by_contra hrecent
    exact hnone ⟨queried_at, hinv.standing node_id queried_at hlookup, Nat.lt_of_not_le hrecent⟩

/-- Enqueues are rate-limited as documented: whatever the order of the calls,
while the clock does not go back, a heartbeat puts an unresolved node on the
queue unless an enqueue of the last 60 s stands, and enqueues without a failure
between them are at least 60 s apart. -/
theorem enqueue_rate_limited (local_node_id max_node_id : UInt16) (ts : String) (t : Table)
    (inputs : List Input) (hclock : ClockAdvances inputs) :
    Everywhere RateLimited (trace step (connect local_node_id max_node_id ts t) inputs) := by
  refine everywhere_of_admissible CooldownInv ?_ ?_ ?_ inputs (onTime_of_clockAdvances hclock)
  · rw [connect_eq]
    constructor
    · intro node_id queried_at hlookup
      cases hlookup
    · rintro node_id queued_at ⟨earlier, st, later, hnil, -⟩
      simp at hnil
  · intro before pre input output post h hinv htime
    exact hinv.step h htime
  · intro before pre input output post h hinv htime node_id tested_at queued_at hcall
    obtain ⟨call, ts'⟩ := input
    simp only at hcall
    subst hcall
    have hiff : Enqueues ⟨pre, ⟨.on_heartbeat node_id tested_at queued_at, ts'⟩, output, post⟩ node_id queued_at ↔
        pre.self.Queues post.table node_id tested_at := by
      cases step_transition h with
      | queued hqueues => exact ⟨fun _ => hqueues, fun _ => ⟨⟨tested_at, rfl⟩, rfl⟩⟩
      | noted hqueues => exact ⟨fun henqueues => by simp [Enqueues] at henqueues, fun hq => absurd hq hqueues⟩
      | request hq hassigned => cases hq
      | ignored hallocation hq hanswer => cases hallocation
    refine ⟨hiff.trans (hinv.queues_iff post.table node_id tested_at), ?_⟩
    intro henqueues earlier hstanding
    have hnone := ((hinv.queues_iff post.table node_id tested_at).1 (hiff.1 henqueues)).2
    have hordered : tested_at ≤ queued_at := by simpa [OnTime, Call.readings] using htime.1
    by_contra hclose
    exact hnone ⟨earlier, hstanding, Nat.lt_of_le_of_lt hordered (Nat.lt_of_not_le hclose)⟩

/-- A heartbeat, a failed request, and two more heartbeats: the first of them
enqueues again at once, the second waits. -/
theorem enqueue_rate_limited_retry :
    Everywhere RateLimited (trace step (connect 100 127 "" Table.empty)
      [⟨.on_heartbeat 5 0 0, ""⟩, ⟨.pop_get_info_request, ""⟩, ⟨.on_get_info_result 5 none, ""⟩,
        ⟨.on_heartbeat 5 1000000000 1000000000, ""⟩, ⟨.on_heartbeat 5 2000000000 2000000000, ""⟩]) :=
  enqueue_rate_limited 100 127 "" Table.empty _ (by decide)

end cyphal_service.pnp.system
