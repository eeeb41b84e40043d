import CyphalService.Lib.History
import CyphalService.Transport.Worker

open machine
open cyphal_service.pnp.allocator

namespace cyphal_service.transport

/-- A call that changes the node list of a worker once its local node is
registered. -/
inductive NodeEvent where
  | heartbeat (node_id : UInt16) (hb : Heartbeat) (now : Instant)
  | tick

namespace NodeEvent

def apply (local_node_id : UInt16) (state : WorkerState) : NodeEvent → WorkerState
  | .heartbeat node_id hb now => state.on_heartbeat node_id hb.uptime hb.health hb.mode now
  | .tick => state.tick_local_node local_node_id

def source : NodeEvent → Option UInt16
  | .heartbeat node_id _ _ => some node_id
  | .tick => none

/-- The heartbeat that an event brings from a node. -/
def heard (node_id : UInt16) : NodeEvent → Option Heartbeat
  | .heartbeat source hb _ => if source = node_id then some hb else none
  | .tick => none

def isTick : NodeEvent → Bool
  | .heartbeat .. => false
  | .tick => true

end NodeEvent

/-- The state after a sequence of calls on a worker state whose local node is
registered. -/
def observe (local_node_id : UInt16) (events : List NodeEvent) : WorkerState :=
  events.foldl (NodeEvent.apply local_node_id) (WorkerState.default.register_local_node local_node_id)

/-- The sources of the heartbeats, in the order of their arrival. -/
def heartbeat_sources (events : List NodeEvent) : List UInt16 := events.filterMap (·.source)

/-- The ticks since the latest heartbeat from a node. -/
def ticks_since (node_id : UInt16) (events : List NodeEvent) : Nat :=
  count_since (fun event => (event.heard node_id).isSome) (·.isTick) events

/-- The latest heartbeat of the local node, as far as it has been looped back. -/
def own_heartbeat (local_node_id : UInt16) (events : List NodeEvent) : Heartbeat :=
  (latest (·.heard local_node_id) events).getD ⟨0, 0, 0⟩

/-- The entry of the local node is its latest heartbeat, aged by the ticks since. -/
def Ages (local_node_id : UInt16) (events : List NodeEvent) (node : NodeEntry) : Prop :=
  node.uptime.toNat = min ((own_heartbeat local_node_id events).uptime.toNat + ticks_since local_node_id events)
      (UInt32.size - 1) ∧
    node.health = (own_heartbeat local_node_id events).health ∧
    node.mode = (own_heartbeat local_node_id events).mode

/-- The worker state lists the local node and every node heard, each once and as
its latest heartbeat says, and it remembers the latest sources. -/
structure Summarizes (local_node_id : UInt16) (events : List NodeEvent) (state : WorkerState) : Prop where
  distinct : (state.node_list.map (·.node_id)).Nodup
  listed : ∀ node_id, node_id ∈ state.node_list.map (·.node_id) ↔
    node_id = local_node_id ∨ node_id ∈ heartbeat_sources events
  remote : ∀ node ∈ state.node_list, node.node_id ≠ local_node_id →
    latest (·.heard node.node_id) events = some ⟨node.uptime, node.health, node.mode⟩
  own : ∀ node ∈ state.node_list, node.node_id = local_node_id → Ages local_node_id events node
  recent : state.recent_heartbeat_sources =
    (heartbeat_sources events).rtake (min 8 (heartbeat_sources events).length)

/-- The entry of a node that sent a heartbeat. -/
def Heartbeat.entry (node_id : UInt16) (hb : Heartbeat) : NodeEntry :=
  ⟨node_id, hb.uptime, hb.health, hb.mode⟩

/-- What the maps of the worker state hold after the events. -/
structure NodeListInv (local_node_id : UInt16) (events : List NodeEvent) (state : WorkerState) : Prop where
  own : ∃ node, state.observed_nodes.lookup local_node_id = some node ∧ node.node_id = local_node_id ∧
    Ages local_node_id events node
  remote : ∀ node_id, node_id ≠ local_node_id →
    state.observed_nodes.lookup node_id = (latest (·.heard node_id) events).map (Heartbeat.entry node_id)
  recent : state.recent_heartbeat_sources = (heartbeat_sources events).rtake 8

theorem WorkerState.trim_eq_rtake (sources : List UInt16) : trim sources = sources.rtake 8 := by
  induction sources with
  | nil => rfl
  | cons source rest ih =>
    rw [trim]
    split
    · rename_i hlong
      rw [ih]
      unfold List.rtake
      rw [List.length_cons, Nat.succ_sub (by omega), List.drop_succ_cons]
    · rename_i hshort
      unfold List.rtake
      rw [List.length_cons, Nat.sub_eq_zero_of_le (by omega), List.drop_zero]

theorem WorkerState.register_local_node_of_mem {state : WorkerState} {node_id : UInt16}
    (h : node_id ∈ state.observed_nodes) : state.register_local_node node_id = state :=
  if_pos h

theorem WorkerState.register_local_node_of_not_mem {state : WorkerState} {node_id : UInt16}
    (h : node_id ∉ state.observed_nodes) : state.register_local_node node_id =
      { state with observed_nodes := state.observed_nodes.insert node_id ⟨node_id, 0, 0, 0⟩ } := by
  rw [WorkerState.register_local_node, if_neg h]

section Step

variable {local_node_id : UInt16} {events : List NodeEvent} {state : WorkerState}

private theorem sources_snoc (event : NodeEvent) :
    heartbeat_sources (events ++ [event]) = heartbeat_sources events ++ event.source.toList := by
  rw [heartbeat_sources, List.filterMap_append]
  cases h : event.source with
  | none => simp [heartbeat_sources, h]
  | some source => simp [heartbeat_sources, h]

private theorem inv_start : NodeListInv local_node_id [] (observe local_node_id []) := by
  have hstart := @WorkerState.register_local_node_of_not_mem WorkerState.default local_node_id
    (AList.notMem_empty local_node_id)
  rw [observe, List.foldl_nil, hstart]
  constructor
  · exact ⟨_, AList.lookup_insert _, rfl, rfl, rfl, rfl⟩
  · intro node_id hremote
    exact (AList.lookup_insert_ne hremote).trans (AList.lookup_empty node_id)
  · rfl

/-- A looped back heartbeat replaces the local entry. -/
private theorem own_of_own_heartbeat (hb : Heartbeat) (now : Instant) :
    Ages local_node_id (events ++ [.heartbeat local_node_id hb now]) (hb.entry local_node_id) := by
  have hbound := hb.uptime.toNat_lt
  have hheard : NodeEvent.heard local_node_id (.heartbeat local_node_id hb now) = some hb := if_pos rfl
  have hown : own_heartbeat local_node_id (events ++ [.heartbeat local_node_id hb now]) = hb := by
    rw [own_heartbeat, latest_snoc, hheard]
    rfl
  have hticks : ticks_since local_node_id (events ++ [.heartbeat local_node_id hb now]) = 0 := by
    rw [ticks_since, count_since_snoc, hheard]
    rfl
  unfold Ages
  rw [hown, hticks]
  refine ⟨?_, rfl, rfl⟩
  simp only [Heartbeat.entry, UInt32.size]
  omega

private theorem own_of_remote_heartbeat {node : NodeEntry} {node_id : UInt16} (hb : Heartbeat) (now : Instant)
    (hremote : node_id ≠ local_node_id) (h : Ages local_node_id events node) :
    Ages local_node_id (events ++ [.heartbeat node_id hb now]) node := by
  have hheard : NodeEvent.heard local_node_id (.heartbeat node_id hb now) = none := if_neg hremote
  have hown : own_heartbeat local_node_id (events ++ [.heartbeat node_id hb now]) =
      own_heartbeat local_node_id events := by
    rw [own_heartbeat, latest_snoc, hheard]
    rfl
  have hticks : ticks_since local_node_id (events ++ [.heartbeat node_id hb now]) =
      ticks_since local_node_id events := by
    rw [ticks_since, count_since_snoc, hheard]
    rfl
  unfold Ages
  rwa [hown, hticks]

private theorem own_of_tick {node : NodeEntry} (h : Ages local_node_id events node) :
    Ages local_node_id (events ++ [.tick]) { node with uptime := u32.saturating_add node.uptime 1 } := by
  have hown : own_heartbeat local_node_id (events ++ [.tick]) = own_heartbeat local_node_id events := by
    rw [own_heartbeat, latest_snoc]
    rfl
  have hticks : ticks_since local_node_id (events ++ [.tick]) = ticks_since local_node_id events + 1 := by
    rw [ticks_since, count_since_snoc]
    rfl
  obtain ⟨huptime, hhealth, hmode⟩ := h
  unfold Ages
  rw [hown, hticks]
  refine ⟨?_, hhealth, hmode⟩
  have hone : (1 : UInt32).toNat = 1 := rfl
  simp only [u32.toNat_saturating_add, huptime, hone]
  omega

private theorem inv_heartbeat (h : NodeListInv local_node_id events state) (node_id : UInt16) (hb : Heartbeat)
    (now : Instant) :
    NodeListInv local_node_id (events ++ [.heartbeat node_id hb now])
      (state.on_heartbeat node_id hb.uptime hb.health hb.mode now) := by
  obtain ⟨⟨node, hnode, hid, hages⟩, hremote, hrecent⟩ := h
  constructor
  · by_cases howned : node_id = local_node_id
    · subst howned
      exact ⟨hb.entry node_id, AList.lookup_insert _, rfl, own_of_own_heartbeat hb now⟩
    · exact ⟨node, (AList.lookup_insert_ne (Ne.symm howned)).trans hnode, hid,
        own_of_remote_heartbeat hb now howned hages⟩
  · intro other hother
    rw [latest_snoc]
    by_cases hsource : node_id = other
    · subst hsource
      rw [NodeEvent.heard, if_pos rfl]
      exact AList.lookup_insert _
    · rw [NodeEvent.heard, if_neg hsource, Option.none_or, ← hremote other hother]
      exact AList.lookup_insert_ne (Ne.symm hsource)
  · rw [sources_snoc]
    simp only [WorkerState.on_heartbeat, WorkerState.trim_eq_rtake, hrecent]
    exact rtake_snoc_rtake 8 _ node_id

private theorem inv_tick (h : NodeListInv local_node_id events state) :
    NodeListInv local_node_id (events ++ [.tick]) (state.tick_local_node local_node_id) := by
  obtain ⟨⟨node, hnode, hid, hages⟩, hremote, hrecent⟩ := h
  have hmem : local_node_id ∈ state.observed_nodes := by
    rw [← AList.lookup_isSome, hnode]
    rfl
  have htick : state.tick_local_node local_node_id = { state with
      observed_nodes := state.observed_nodes.insert local_node_id
        { node with uptime := u32.saturating_add node.uptime 1 } } := by
    rw [WorkerState.tick_local_node, WorkerState.register_local_node_of_mem hmem]
    simp only [hnode]
  rw [htick]
  constructor
  · exact ⟨_, AList.lookup_insert _, hid, own_of_tick hages⟩
  · intro other hother
    rw [latest_snoc]
    exact (AList.lookup_insert_ne hother).trans (hremote other hother)
  · rw [sources_snoc, hrecent]
    exact congrArg (List.rtake · 8) (List.append_nil _).symm

end Step

theorem node_list_inv (local_node_id : UInt16) (events : List NodeEvent) :
    NodeListInv local_node_id events (observe local_node_id events) := by
  induction events using List.reverseRecOn with
  | nil => exact inv_start
  | append_singleton events event ih =>
    have hstep : observe local_node_id (events ++ [event]) =
        event.apply local_node_id (observe local_node_id events) := by
      rw [observe, List.foldl_append]
      rfl
    rw [hstep]
    cases event with
    | heartbeat node_id hb now => exact inv_heartbeat ih node_id hb now
    | tick => exact inv_tick ih

section List

variable {local_node_id : UInt16} {events : List NodeEvent} {state : WorkerState}

private theorem mem_sources_iff (node_id : UInt16) :
    node_id ∈ heartbeat_sources events ↔ (latest (·.heard node_id) events).isSome := by
  rw [Option.isSome_iff_ne_none, ne_eq, latest_eq_none, heartbeat_sources, List.mem_filterMap]
  push Not
  refine exists_congr fun event => and_congr_right fun _ => ?_
  cases event with
  | heartbeat source hb now => simp [NodeEvent.source, NodeEvent.heard]
  | tick => simp [NodeEvent.source, NodeEvent.heard]

theorem WorkerState.mem_node_list {node : NodeEntry} :
    node ∈ state.node_list ↔ ∃ node_id, state.observed_nodes.lookup node_id = some node := by
  rw [WorkerState.node_list, List.mem_map]
  constructor
  · rintro ⟨⟨node_id, node'⟩, hmem, rfl⟩
    exact ⟨node_id, AList.mem_lookup_iff.2 hmem⟩
  · rintro ⟨node_id, hlookup⟩
    exact ⟨⟨node_id, node⟩, AList.mem_lookup_iff.1 hlookup, rfl⟩

/-- Every node stands under its own node ID. -/
theorem NodeListInv.node_id_of_lookup (h : NodeListInv local_node_id events state) {node_id : UInt16}
    {node : NodeEntry} (hlookup : state.observed_nodes.lookup node_id = some node) : node.node_id = node_id := by
  by_cases hlocal : node_id = local_node_id
  · obtain ⟨own, hown, hid, -⟩ := h.own
    rw [hlocal, hown] at hlookup
    obtain rfl := Option.some.inj hlookup
    exact hid.trans hlocal.symm
  · rw [h.remote node_id hlocal] at hlookup
    obtain ⟨hb, -, rfl⟩ := Option.map_eq_some_iff.1 hlookup
    rfl

theorem NodeListInv.node_ids (h : NodeListInv local_node_id events state) :
    state.node_list.map (·.node_id) = state.observed_nodes.keys := by
  rw [WorkerState.node_list, List.map_map]
  refine List.map_congr_left fun entry hmem => ?_
  exact h.node_id_of_lookup (AList.mem_lookup_iff.2 hmem)

theorem NodeListInv.summarizes (h : NodeListInv local_node_id events state) :
    Summarizes local_node_id events state := by
  constructor
  · rw [h.node_ids]
    exact AList.keys_nodup _
  · intro node_id
    rw [h.node_ids, ← AList.mem_keys, ← AList.lookup_isSome, mem_sources_iff]
    by_cases hlocal : node_id = local_node_id
    · obtain ⟨own, hown, -⟩ := h.own
      rw [hlocal, hown]
      simp
    · simp [hlocal, h.remote node_id hlocal]
  · intro node hmem hremote
    obtain ⟨node_id, hlookup⟩ := WorkerState.mem_node_list.1 hmem
    rw [h.node_id_of_lookup hlookup] at hremote ⊢
    rw [h.remote node_id hremote] at hlookup
    obtain ⟨hb, hlatest, rfl⟩ := Option.map_eq_some_iff.1 hlookup
    exact hlatest
  · intro node hmem hlocal
    obtain ⟨node_id, hlookup⟩ := WorkerState.mem_node_list.1 hmem
    obtain ⟨own, hown, -, hages⟩ := h.own
    rw [← h.node_id_of_lookup hlookup, hlocal, hown] at hlookup
    obtain rfl := Option.some.inj hlookup
    exact hages
  · rw [rtake_min_length]
    exact h.recent

end List

/-- The node list and the recent sources are the summary of the heartbeats and
ticks since the local node was registered. -/
theorem node_list_summarizes (local_node_id : UInt16) (events : List NodeEvent) :
    Summarizes local_node_id events (observe local_node_id events) :=
  (node_list_inv local_node_id events).summarizes

end cyphal_service.transport
