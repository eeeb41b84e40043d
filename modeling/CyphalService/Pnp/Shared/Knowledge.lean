import CyphalService.Pnp.Shared

open bytes effect
open cyphal_service.pnp.db cyphal_service.pnp.allocator cyphal_service.pnp.system

namespace cyphal_service.pnp.shared

/-- What a row is found by. -/
inductive Key where
  | hash (pseudo_unique_id : Int64)
  | hex (unique_id_hex : String)
  deriving DecidableEq

def Key.isHash : Key → Bool
  | .hash _ => true
  | .hex _ => false

/-- The first row with the key. -/
def Key.row : Key → Table → Option AllocationEntry
  | .hash pseudo_unique_id, t => t.byHash pseudo_unique_id
  | .hex unique_id_hex, t => t.byHex unique_id_hex

/-- The key under which a requester is looked up and stored. -/
def key : Requester → Key
  | .v1 hash => .hash hash.toInt64
  | .v2 uid => .hex (bytes_to_hex uid.toList)

@[simp] theorem row_key (q : Requester) (t : Table) : (key q).row t = q.lookup t := by
  cases q <;> rfl

/-- The key that a statement looks up. -/
def looksUp : Statement → Option Key
  | .select_by_unique_id_hex hex => some (.hex hex)
  | .select_by_pseudo_unique_id hash => some (.hash hash)
  | _ => none

/-- The key that an `INSERT` stores, and the node ID it stores it under. -/
def stores : Statement → Option (Key × UInt16)
  | .insert node_id hex none => some (.hex hex, node_id)
  | .insert node_id _ (some hash) => some (.hash hash, node_id)
  | _ => none

/-- What the latest lookup or `INSERT` of a task told its allocator. -/
inductive Knowledge where
  | nothing
  | found (key : Key) (node_id : UInt16)
  | absent (key : Key)

/-- What an allocator concludes from a lookup; it takes an error for an absent
row. -/
def Knowledge.ofLookup (key : Key) : Option UInt16 → Knowledge
  | some node_id => .found key node_id
  | none => .absent key

/-- How allocators go about the table: a row with a key is only inserted when a
lookup of that key just failed, and outside of allocations a row is inserted
only without a hash and a unique ID overwritten. -/
def lookup_first : Protocol Statement Statement.Reply Knowledge where
  may known
    | .insert _ hex none => known = .absent (.hex hex)
    | .insert _ _ (some hash) => known = .absent (.hash hash)
    | .insert_or_ignore _ _ hash => hash = none ∧ known = .nothing
    | .update_unique_id_hex _ _ => known = .nothing
    | _ => True
  learn known
    | .select_by_unique_id_hex hex, reply => .ofLookup (.hex hex) reply.toOption
    | .select_by_pseudo_unique_id hash, reply => .ofLookup (.hash hash) reply.toOption
    | .insert node_id hex none, .ok _ => .found (.hex hex) node_id
    | .insert node_id _ (some hash), .ok _ => .found (.hash hash) node_id
    | .insert _ _ _, .error _ => .nothing
    | _, _ => known

/-- An allocator takes a key for absent only after a failed lookup of it. -/
theorem learn_eq_absent {known : Knowledge} {s : Statement} {reply : s.Reply} {key : Key}
    (h : lookup_first.learn known s reply = .absent key) :
    (looksUp s = some key ∧ ∃ e, reply = .error e) ∨
      (looksUp s = none ∧ stores s = none ∧ known = .absent key) := by
  cases s with
  | select_by_unique_id_hex hex =>
    cases reply with
    | error e =>
      cases h
      exact .inl ⟨rfl, e, rfl⟩
    | ok node_id => cases h
  | select_by_pseudo_unique_id hash =>
    cases reply with
    | error e =>
      cases h
      exact .inl ⟨rfl, e, rfl⟩
    | ok node_id => cases h
  | insert node_id hex hash => cases reply <;> cases hash <;> cases h
  | _ => exact .inr ⟨rfl, rfl, h⟩

theorem learn_error_eq_found {known : Knowledge} {s : Statement} {e : SqlError} {key : Key} {node_id : UInt16}
    (h : lookup_first.learn known s (.error e) = .found key node_id) :
    looksUp s = none ∧ stores s = none ∧ known = .found key node_id := by
  cases s with
  | select_by_unique_id_hex hex => cases h
  | select_by_pseudo_unique_id hash => cases h
  | insert node_id hex hash => cases hash <;> cases h
  | _ => exact ⟨rfl, rfl, h⟩

/-- What an allocator has for the node ID of a key was found or stored by its
latest statement, or known before. -/
theorem learn_exec_eq_found {known : Knowledge} {ts : String} {s : Statement} {t : Table} {key : Key}
    {node_id : UInt16} (h : lookup_first.learn known s (exec ts s t).1 = .found key node_id) :
    (looksUp s = some key ∧ ∃ row, key.row t = some row ∧ row.node_id = node_id) ∨
      (stores s = some (key, node_id) ∧ node_id ∉ t.ids) ∨
        (looksUp s = none ∧ stores s = none ∧ known = .found key node_id) := by
  cases s with
  | select_by_unique_id_hex hex =>
    cases hrow : t.byHex hex with
    | none =>
      simp only [exec, hrow] at h
      cases h
    | some row =>
      simp only [exec, hrow] at h
      cases h
      exact .inl ⟨rfl, row, hrow, rfl⟩
  | select_by_pseudo_unique_id hash =>
    cases hrow : t.byHash hash with
    | none =>
      simp only [exec, hrow] at h
      cases h
    | some row =>
      simp only [exec, hrow] at h
      cases h
      exact .inl ⟨rfl, row, hrow, rfl⟩
  | insert stored_id hex hash =>
    by_cases htaken : stored_id ∈ t.ids
    · simp only [exec, htaken, ↓reduceDIte] at h
      exact .inr (.inr (learn_error_eq_found h))
    · simp only [exec, htaken, ↓reduceDIte] at h
      cases hash <;> cases h <;> exact .inr (.inl ⟨rfl, htaken⟩)
  | _ => exact .inr (.inr ⟨rfl, rfl, h⟩)

/-- When statements do not fail, a failed lookup means that there is no row. -/
theorem row_of_exec_error {ts : String} {s : Statement} {t : Table} {key : Key} {e : SqlError}
    (hlooks : looksUp s = some key) (h : (exec ts s t).1 = .error e) : key.row t = none := by
  cases s with
  | select_by_unique_id_hex hex =>
    cases hlooks
    cases hrow : t.byHex hex with
    | none => exact hrow
    | some row => simp [exec, hrow, firstRow] at h
  | select_by_pseudo_unique_id hash =>
    cases hlooks
    cases hrow : t.byHash hash with
    | none => exact hrow
    | some row => simp [exec, hrow, firstRow] at h
  | _ => cases hlooks

theorem exec_of_looksUp {ts : String} {s : Statement} {t : Table} {key : Key} (h : looksUp s = some key) :
    (exec ts s t).2 = t := by
  cases s with
  | select_by_unique_id_hex hex => rfl
  | select_by_pseudo_unique_id hash => rfl
  | _ => cases h

/-- In an allocation, only the `INSERT` changes the table. -/
theorem exec_of_known {ts : String} {s : Statement} {t : Table} {known : Knowledge}
    (hmay : lookup_first.may known s) (hknown : known ≠ .nothing) (hstores : stores s = none) :
    (exec ts s t).2 = t := by
  cases s with
  | insert node_id hex hash => cases hash <;> cases hstores
  | insert_or_ignore node_id hex hash => exact absurd hmay.2 hknown
  | update_unique_id_hex hex node_id => exact absurd hmay hknown
  | _ => rfl

/-- The key that an `INSERT` stores in this table, unless its node ID is taken. -/
def storedIn (t : Table) (s : Statement) : Option Key :=
  (stores s).bind fun stored => if stored.2 ∈ t.ids then none else some stored.1

theorem storedIn_of_fresh {t : Table} {s : Statement} {key : Key} {node_id : UInt16}
    (h : stores s = some (key, node_id)) (hfresh : node_id ∉ t.ids) : storedIn t s = some key := by
  simp [storedIn, h, hfresh]

theorem storedIn_of_taken {t : Table} {s : Statement} {key : Key} {node_id : UInt16}
    (h : stores s = some (key, node_id)) (htaken : node_id ∈ t.ids) : storedIn t s = none := by
  simp [storedIn, h, htaken]

theorem storedIn_of_none {t : Table} {s : Statement} (h : stores s = none) : storedIn t s = none := by
  simp [storedIn, h]

/-- Only a key that was found absent is stored. -/
theorem absent_of_storedIn {known : Knowledge} {s : Statement} {t : Table} {key : Key}
    (hmay : lookup_first.may known s) (h : storedIn t s = some key) : known = .absent key := by
  cases s with
  | insert node_id hex hash =>
    cases hash with
    | none =>
      simp only [storedIn, stores, Option.bind_some, Option.ite_none_left_eq_some, Option.some.injEq] at h
      exact h.2 ▸ hmay
    | some hash =>
      simp only [storedIn, stores, Option.bind_some, Option.ite_none_left_eq_some, Option.some.injEq] at h
      exact h.2 ▸ hmay
  | _ => cases h

/-- What a statement that keeps to the protocol does to the table when it does
not fail. -/
inductive Effect (t : Table) : Statement → Table → Prop where
  | read {s : Statement} (hstores : stores s = none) : Effect t s t
  | refused {s : Statement} {key : Key} {node_id : UInt16} (hstores : stores s = some (key, node_id))
      (htaken : node_id ∈ t.ids) : Effect t s t
  | stored {s : Statement} {key : Key} {row : AllocationEntry} (hstores : stores s = some (key, row.node_id))
      (hfresh : row.node_id ∉ t.ids) (hhash : ∀ hash, row.pseudo_unique_id = some hash ↔ key = .hash hash)
      (hrow : key.row t = none → key.row (t.push row hfresh) = some row) : Effect t s (t.push row hfresh)
  | recorded {node_id : UInt16} {hex ts : String} (hfresh : node_id ∉ t.ids) :
      Effect t (.insert_or_ignore node_id hex none) (t.push ⟨node_id, hex, none, ts⟩ hfresh)
  | overwritten {hex : String} {node_id : UInt16} :
      Effect t (.update_unique_id_hex hex node_id) (t.setHex node_id hex)

theorem exec_effect {known : Knowledge} {s : Statement} (hmay : lookup_first.may known s) (ts : String)
    (t : Table) : Effect t s (exec ts s t).2 := by
  cases s with
  | select_by_unique_id_hex hex => exact .read rfl
  | select_by_pseudo_unique_id hash => exact .read rfl
  | count_by_node_id candidate => exact .read rfl
  | select_by_node_id node_id => exact .read rfl
  | select_all => exact .read rfl
  | update_unique_id_hex hex node_id => exact .overwritten
  | insert_or_ignore node_id hex hash =>
    obtain ⟨rfl, -⟩ : hash = none ∧ known = .nothing := hmay
    by_cases htaken : node_id ∈ t.ids
    · simp only [exec, htaken, ↓reduceDIte]
      exact .read rfl
    · simp only [exec, htaken, ↓reduceDIte]
      exact .recorded htaken
  | insert node_id hex hash =>
    by_cases htaken : node_id ∈ t.ids
    · simp only [exec, htaken, ↓reduceDIte]
      cases hash <;> exact .refused rfl htaken
    · simp only [exec, htaken, ↓reduceDIte]
      cases hash with
      | none =>
        refine .stored rfl htaken (by simp) fun hnone => ?_
        simp only [Key.row] at hnone ⊢
        simp [Table.byHex_push, hnone]
      | some hash =>
        refine .stored rfl htaken (by simp) fun hnone => ?_
        simp only [Key.row] at hnone ⊢
        simp [Table.byHash_push, hnone]

section Operations

variable (known : Knowledge)

theorem obeys_find_by_unique_id (uid : UniqueId) :
    (AllocationDb.find_by_unique_id uid).Obeys lookup_first
      (fun found known => known = .ofLookup (key (.v2 uid)) found) known :=
  Program.Obeys.bind (P := fun reply known => known = .ofLookup (key (.v2 uid)) reply.toOption)
    (.ask trivial fun _ => rfl) fun _ _ h => .pure h

theorem obeys_find_by_hash (hash : UInt64) :
    (AllocationDb.find_by_hash hash).Obeys lookup_first
      (fun found known => known = .ofLookup (key (.v1 hash)) found) known :=
  Program.Obeys.bind (P := fun reply known => known = .ofLookup (key (.v1 hash)) reply.toOption)
    (.ask trivial fun _ => rfl) fun _ _ h => .pure h

/-- Probing for a free ID tells nothing about the key. -/
theorem obeys_next_free_id (reserved : List UInt16) (max_id : UInt16) :
    (AllocationDb.next_free_id reserved max_id).Obeys lookup_first (fun _ after => after = known) known := by
  unfold AllocationDb.next_free_id
  induction AllocationDb.candidates max_id with
  | nil => exact .pure rfl
  | cons candidate rest ih =>
    rw [AllocationDb.next_free_id.probe]
    split
    · exact ih
    · refine Program.Obeys.bind (P := fun _ after => after = known) (.ask trivial fun _ => rfl) ?_
      rintro reply after rfl
      dsimp only
      split
      · exact .pure rfl
      · exact ih

private theorem ok_of_mapErr {α : Type} {label : String} {reply : Except SqlError α}
    (h : mapErr label reply = .ok ()) : ∃ value, reply = .ok value := by
  cases reply with
  | ok value => exact ⟨value, rfl⟩
  | error e => cases h

theorem obeys_insert_v2 (node_id : UInt16) (uid : UniqueId) :
    (AllocationDb.insert_v2 node_id uid).Obeys lookup_first
      (fun result after => result = .ok () → after = .found (key (.v2 uid)) node_id) (.absent (key (.v2 uid))) := by
  refine Program.Obeys.bind (.ask rfl fun _ => rfl) ?_
  rintro reply after hafter
  refine .pure fun hok => ?_
  obtain ⟨value, rfl⟩ := ok_of_mapErr hok
  exact hafter.symm

theorem obeys_insert_v1 (node_id : UInt16) (hash : UInt64) :
    (AllocationDb.insert_v1 node_id hash).Obeys lookup_first
      (fun result after => result = .ok () → after = .found (key (.v1 hash)) node_id) (.absent (key (.v1 hash))) := by
  refine Program.Obeys.bind (.ask rfl fun _ => rfl) ?_
  rintro reply after hafter
  refine .pure fun hok => ?_
  obtain ⟨value, rfl⟩ := ok_of_mapErr hok
  exact hafter.symm

theorem obeys_record_static_node (node_id : UInt16) :
    (AllocationDb.record_static_node node_id).Obeys lookup_first (fun _ after => after = .nothing) .nothing :=
  Program.Obeys.bind (P := fun _ after => after = .nothing) (.ask ⟨rfl, rfl⟩ fun _ => rfl) fun _ _ h => .pure h

theorem obeys_find_by_node_id (node_id : UInt16) :
    (AllocationDb.find_by_node_id node_id).Obeys lookup_first (fun _ after => after = known) known :=
  Program.Obeys.bind (P := fun _ after => after = known) (.ask trivial fun _ => rfl) fun _ _ h => .pure h

theorem obeys_update_unique_id (node_id : UInt16) (uid : UniqueId) :
    (AllocationDb.update_unique_id node_id uid).Obeys lookup_first (fun _ _ => True) .nothing :=
  Program.Obeys.bind (P := fun _ _ => True) (.ask rfl fun _ => trivial) fun _ _ _ => .pure trivial

end Operations

section Calls

/-- What both kinds of request do: look the requester up, or else store the
first free ID. -/
private def assign {α : Type} (find free : Sql (Option UInt16)) (insert : UInt16 → Sql (Except String Unit))
    (respond : UInt16 → α) : Sql (Option α) := do
  match ← find with
  | some existing => return some (respond existing)
  | none =>
    match ← free with
    | none => return none
    | some new_id =>
      match ← insert new_id with
      | .error _ => return none
      | .ok () => return some (respond new_id)

/-- A request is only answered with a node ID that its lookup found or its
`INSERT` stored. -/
private theorem obeys_assign {α : Type} (q : Requester) {find free : Sql (Option UInt16)}
    {insert : UInt16 → Sql (Except String Unit)} (respond : UInt16 → α) {answer : Option α → Option UInt16}
    (hrefused : answer none = none) (hanswered : ∀ node_id, answer (some (respond node_id)) = some node_id)
    (hfind : find.Obeys lookup_first (fun found known => known = .ofLookup (key q) found) .nothing)
    (hfree : free.Obeys lookup_first (fun _ known => known = .absent (key q)) (.absent (key q)))
    (hinsert : ∀ node_id, (insert node_id).Obeys lookup_first
      (fun result known => result = .ok () → known = .found (key q) node_id) (.absent (key q))) :
    (assign find free insert respond).Obeys lookup_first
      (fun response known => ∀ node_id ∈ answer response, known = .found (key q) node_id) .nothing := by
  have hnone : ∀ known, ∀ node_id ∈ answer none, known = Knowledge.found (key q) node_id := by
    intro known node_id hnode
    rw [hrefused] at hnode
    cases hnode
  refine hfind.bind ?_
  rintro found known rfl
  cases found with
  | some existing =>
    refine .pure fun node_id hnode => ?_
    rw [hanswered] at hnode
    cases hnode
    rfl
  | none =>
    refine hfree.bind ?_
    rintro free known rfl
    cases free with
    | none => exact .pure (hnone _)
    | some new_id =>
      refine (hinsert new_id).bind ?_
      rintro result known hstored
      cases result with
      | error e => exact .pure (hnone _)
      | ok value =>
        refine .pure fun node_id hnode => ?_
        rw [hanswered] at hnode
        cases hnode
        exact hstored rfl

variable (self : PnpAllocator)

theorem obeys_on_allocation_v2 (msg : AllocationDataV2) :
    (self.on_allocation_v2 msg none).Obeys lookup_first
      (fun response known => ∀ node_id ∈ (Return.allocation_v2 response).node_id,
        known = .found (key (.v2 msg.unique_id)) node_id) .nothing :=
  obeys_assign (.v2 msg.unique_id) _ rfl (fun _ => rfl) (obeys_find_by_unique_id _ _) (obeys_next_free_id _ _ _)
    fun node_id => obeys_insert_v2 node_id msg.unique_id

theorem obeys_on_allocation_v1 (hash : UInt64) :
    (self.on_allocation_v1 ⟨hash, []⟩ none).Obeys lookup_first
      (fun response known => ∀ node_id ∈ (Return.allocation_v1 response).node_id,
        known = .found (key (.v1 hash)) node_id) .nothing :=
  obeys_assign (.v1 hash) _ rfl (fun _ => rfl) (obeys_find_by_hash _ _) (obeys_next_free_id _ _ _)
    fun node_id => obeys_insert_v1 node_id hash

theorem obeys_on_heartbeat (node_id : UInt16) (tested_at queued_at : Instant) :
    (self.on_heartbeat node_id tested_at queued_at).Obeys lookup_first (fun _ _ => True) .nothing := by
  unfold PnpAllocator.on_heartbeat
  refine (obeys_record_static_node node_id).bind ?_
  rintro _ known rfl
  refine (obeys_find_by_node_id .nothing node_id).bind ?_
  rintro entry known rfl
  dsimp only
  split
  · split
    · exact .pure trivial
    · exact .pure trivial
  · exact .pure trivial

theorem obeys_on_get_info_result (node_id : UInt16) (uid : Option UniqueId) :
    (self.on_get_info_result node_id uid).Obeys lookup_first (fun _ _ => True) .nothing := by
  cases uid with
  | none => exact .pure trivial
  | some uid => exact (obeys_update_unique_id node_id uid).bind fun _ _ _ => .pure trivial

/-- An answer is the node ID that the task found or stored for its requester. -/
def Informed (task : Task) (output : Return) (known : Knowledge) : Prop :=
  ∀ q node_id, task.requester = some q → output.node_id = some node_id → known = .found (key q) node_id

private theorem informed_of_requester {task : Task} (h : task.requester = none) (output : Return)
    (known : Knowledge) : Informed task output known := by
  intro q node_id hq
  rw [h] at hq
  cases hq

theorem obeys_call (call : Call) :
    (call.run self).Obeys lookup_first (fun result => Informed (.call call) result.1) .nothing := by
  cases call with
  | on_allocation_v1 msg source =>
    rcases msg with ⟨hash, _ | ⟨allocated, rest⟩⟩ <;> cases source with
    | some source => exact .pure (informed_of_requester rfl _ _)
    | none => ?_
    · refine (obeys_on_allocation_v1 self hash).bind ?_
      rintro response known hinformed
      refine .pure fun q node_id hq hanswer => ?_
      cases hq
      exact hinformed node_id hanswer
    · exact .pure (informed_of_requester rfl _ _)
  | on_allocation_v2 msg source =>
    cases source with
    | some source => exact .pure (informed_of_requester rfl _ _)
    | none =>
      refine (obeys_on_allocation_v2 self msg).bind ?_
      rintro response known hinformed
      refine .pure fun q node_id hq hanswer => ?_
      cases hq
      exact hinformed node_id hanswer
  | on_heartbeat node_id tested_at queued_at =>
    exact (obeys_on_heartbeat self node_id tested_at queued_at).bind fun _ _ _ =>
      .pure (informed_of_requester rfl _ _)
  | pop_get_info_request => exact .pure (informed_of_requester rfl _ _)
  | on_get_info_result node_id uid =>
    exact (obeys_on_get_info_result self node_id uid).bind fun _ _ _ => .pure (informed_of_requester rfl _ _)

/-- Whatever the replies are, a task keeps to the protocol. -/
theorem obeys_program (task : Task) (memory : Option PnpAllocator) :
    (task.program memory).Obeys lookup_first (fun result => Informed task result.1) .nothing := by
  cases task with
  | new local_node_id max_node_id =>
    refine Program.Obeys.bind (P := fun _ _ => True) ?_ fun _ _ _ => .pure (informed_of_requester rfl _ _)
    exact (obeys_record_static_node local_node_id).bind fun _ _ _ => .pure trivial
  | call call =>
    cases memory with
    | none =>
      refine .pure fun q node_id _ hanswer => ?_
      cases hanswer
    | some self => exact (obeys_call self call).bind fun _ _ hinformed => .pure hinformed

end Calls

end cyphal_service.pnp.shared
