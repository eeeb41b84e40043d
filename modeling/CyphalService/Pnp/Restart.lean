import CyphalService.Pnp.System

open effect machine
open cyphal_service.pnp.db cyphal_service.pnp.allocator

namespace cyphal_service.pnp.system

/-- What happens to one database file: calls of the allocator that is connected
to it, and replacements of that allocator by a new one. -/
inductive Event where
  | call (input : Input)
  | restart (local_node_id max_node_id : UInt16) (current_timestamp : String)

def Event.requester : Event → Option Requester
  | .call input => input.call.requester
  | .restart _ _ _ => none

def eventStep (s : State) : Event → Return × State
  | .call input => step s input
  | .restart local_node_id max_node_id ts => (.unit, connect local_node_id max_node_id ts s.table)

abbrev EventHistory := List (machine.Step State Event Return)

/-- Some earlier allocator on this file answered the requester with the node ID. -/
def AnsweredBefore (history : EventHistory) (q : Requester) (node_id : UInt16) : Prop :=
  Occurred (fun st => st.input.requester = some q ∧ st.output.node_id = some node_id) history

/-- No call and no restart removes a row or changes its node ID, hash or
timestamp. -/
theorem eventStep_extends {s post : State} {event : Event} {output : Return}
    (h : eventStep s event = (output, post)) : s.table.Extends post.table := by
  cases event with
  | call input => exact step_extends (show step s input = (output, post) from h)
  | restart local_node_id max_node_id ts =>
    obtain ⟨-, rfl⟩ := Prod.mk.inj h
    exact run_extends ts (PnpAllocator.new local_node_id max_node_id) s.table

theorem eventStep_assigned {s post : State} {event : Event} {output : Return} {q : Requester}
    (h : eventStep s event = (output, post)) (hq : event.requester = some q) :
    ∃ ts, Assigned s.self s.table q ts output.node_id post.table := by
  cases event with
  | restart local_node_id max_node_id ts => cases hq
  | call input => exact ⟨_, assigned_of_step (show step s input = (output, post) from h) hq⟩

/-- Every hash answered so far is still found, under the node ID it was
answered with. -/
private def HashesKept (history : EventHistory) (s : State) : Prop :=
  ∀ hash node_id, AnsweredBefore history (.v1 hash) node_id →
    ∃ row, s.table.byHash hash.toInt64 = some row ∧ row.node_id = node_id

private theorem hashesKept_step {before : EventHistory} {s post : State} {event : Event} {output : Return}
    (h : eventStep s event = (output, post)) (hinv : HashesKept before s) :
    HashesKept (before ++ [⟨s, event, output, post⟩]) post := by
  intro hash node_id hanswered
  obtain hearlier | ⟨hq, hanswer⟩ := occurred_snoc.1 hanswered
  · obtain ⟨row, hrow, hid⟩ := hinv hash node_id hearlier
    obtain ⟨row', hrow', hframe⟩ := (eventStep_extends h).byHash hrow
    exact ⟨row', hrow', (congrArg Prod.fst hframe).trans hid⟩
  · obtain ⟨ts, hassigned⟩ := eventStep_assigned h hq
    simp only at hanswer
    rw [hanswer] at hassigned
    exact hassigned.lookup_after

/-- A v1 node keeps its node ID: over every interleaving of calls and restarts
with any local and maximum IDs, once a request with some hash was answered,
every later request with that hash is answered, and with the same node ID. -/
theorem v1_allocation_stable (local_node_id max_node_id : UInt16) (ts : String) (events : List Event) :
    Everywhere (fun before st => ∀ hash node_id, AnsweredBefore before (.v1 hash) node_id →
        st.input.requester = some (.v1 hash) → st.output.node_id = some node_id)
      (trace eventStep (connect local_node_id max_node_id ts Table.empty) events) := by
  refine everywhere_of_invariant HashesKept ?_ ?_ ?_ events
  · intro hash node_id hanswered
    exact absurd hanswered not_occurred_nil
  · intro before pre event output post h hinv
    exact hashesKept_step h hinv
  · intro before pre event output post h hinv hash node_id hanswered hq
    obtain ⟨row, hrow, hid⟩ := hinv hash node_id hanswered
    obtain ⟨ts', hassigned⟩ := eventStep_assigned h hq
    rw [← hid]
    exact (hassigned.answer_of_lookup hrow).1

end cyphal_service.pnp.system
