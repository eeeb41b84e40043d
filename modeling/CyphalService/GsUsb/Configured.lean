import CyphalService.GsUsb.Open

open selection

namespace cyphal_service.transport.can_gsusb

open config

/-- Every string that is given is a 16-bit hexadecimal number. -/
def Valid (cfg : CanConfig) : Prop :=
  (∀ s ∈ cfg.vid, ∃ v, IsHexU16 s v) ∧ ∀ s ∈ cfg.pid, ∃ p, IsHexU16 s p

/-- The constraints that a configuration puts on its device. -/
def Satisfies (cfg : CanConfig) (desc : DeviceDescriptor) : Prop :=
  (∀ s ∈ cfg.vid, IsHexU16 s desc.vendor_id) ∧ (∀ s ∈ cfg.pid, IsHexU16 s desc.product_id) ∧
    (cfg.vid = none → cfg.pid = none → (desc.vendor_id, desc.product_id) ∈ CANDLELIGHT_DEVICES)

instance (cfg : CanConfig) (desc : DeviceDescriptor) : Decidable (Satisfies cfg desc) :=
  have := Option.decidableForallMem (p := fun s => IsHexU16 s desc.vendor_id) cfg.vid
  have := Option.decidableForallMem (p := fun s => IsHexU16 s desc.product_id) cfg.pid
  inferInstanceAs (Decidable (_ ∧ _ ∧ _))

/-- A string of the configuration, read. -/
inductive Constraint where
  | absent
  | invalid
  | value (v : UInt16)
  deriving DecidableEq

def constraint : Option String → Constraint
  | none => .absent
  | some s =>
    match parse_hex_u16 s with
    | none => .invalid
    | some v => .value v

namespace Constraint

/-- The value that is passed on to `open`. -/
def parsed : Constraint → Option UInt16
  | .value v => some v
  | _ => none

def Admits : Constraint → UInt16 → Prop
  | .absent, _ => True
  | .invalid, _ => False
  | .value v, x => x = v

end Constraint

/-- The devices that the constraints ask for. -/
def is_requested : Constraint → Constraint → DeviceDescriptor → Bool
  | .absent, .absent, desc => is_candlelight desc
  | .absent, .value p, desc => has_pid p desc
  | .value v, .absent, desc => has_vid v desc
  | .value v, .value p, desc => has_vid v desc && has_pid p desc
  | .invalid, _, _ => false
  | _, .invalid, _ => false

section Constraint

variable {o : Option String}

theorem bind_parse_hex_u16 (o : Option String) : o.bind parse_hex_u16 = (constraint o).parsed := by
  cases o with
  | none => rfl
  | some s =>
    rw [Option.bind_some, constraint]
    cases parse_hex_u16 s with
    | none => rfl
    | some v => rfl

theorem forall_isHexU16_iff (x : UInt16) : (∀ s ∈ o, IsHexU16 s x) ↔ (constraint o).Admits x := by
  cases o with
  | none => exact iff_of_true (fun s hs => nomatch hs) trivial
  | some s =>
    simp only [Option.mem_some_iff, forall_eq', ← parse_hex_u16_eq_some_iff, constraint]
    cases parse_hex_u16 s with
    | none => exact iff_of_false (fun h => nomatch h) id
    | some v => exact Option.some_inj.trans eq_comm

theorem forall_exists_isHexU16_iff : (∀ s ∈ o, ∃ v, IsHexU16 s v) ↔ constraint o ≠ .invalid := by
  cases o with
  | none => exact iff_of_true (fun s hs => nomatch hs) fun h => nomatch h
  | some s =>
    simp only [Option.mem_some_iff, forall_eq', ← parse_hex_u16_eq_some_iff, constraint]
    cases parse_hex_u16 s with
    | none => simp
    | some v => simp

theorem constraint_eq_absent_iff : constraint o = .absent ↔ o = none := by
  cases o with
  | none => exact iff_of_true rfl rfl
  | some s =>
    rw [constraint]
    cases parse_hex_u16 s with
    | none => simp
    | some v => simp

theorem is_candlelight_iff (desc : DeviceDescriptor) :
    is_candlelight desc ↔ (desc.vendor_id, desc.product_id) ∈ CANDLELIGHT_DEVICES := by
  simp only [is_candlelight, List.any_eq_true, Bool.and_eq_true, beq_iff_eq]
  constructor
  · rintro ⟨known, hknown, hvendor, hproduct⟩
    rwa [← hvendor, ← hproduct]
  · intro h
    exact ⟨_, h, rfl, rfl⟩

theorem satisfies_iff (cfg : CanConfig) (desc : DeviceDescriptor) :
    Satisfies cfg desc ↔ is_requested (constraint cfg.vid) (constraint cfg.pid) desc := by
  rw [Satisfies, forall_isHexU16_iff, forall_isHexU16_iff, ← constraint_eq_absent_iff,
    ← constraint_eq_absent_iff, ← is_candlelight_iff]
  cases constraint cfg.vid with
  | absent =>
    cases constraint cfg.pid with
    | absent => simp [Constraint.Admits, is_requested]
    | invalid => simp [Constraint.Admits, is_requested]
    | value p => simp [Constraint.Admits, is_requested, has_pid]
  | invalid => simp [Constraint.Admits, is_requested]
  | value v =>
    cases constraint cfg.pid with
    | absent => simp [Constraint.Admits, is_requested, has_vid]
    | invalid => simp [Constraint.Admits, is_requested]
    | value p => simp [Constraint.Admits, is_requested, has_vid, has_pid]

end Constraint

section Selection

variable {Device : Type} (device_descriptor : Device → Except UsbError DeviceDescriptor)

/-- A device whose descriptor can be read and meets the condition. -/
def described (condition : DeviceDescriptor → Bool) (device : Device) : Bool :=
  match device_descriptor device with
  | .error _ => false
  | .ok desc => condition desc

theorem candidates_eq_filter (vid pid : Option UInt16) (devices : List Device) :
    candidates device_descriptor vid pid devices =
      devices.filter (described device_descriptor (is_match vid pid)) := by
  induction devices with
  | nil => rfl
  | cons device rest ih =>
    rw [candidates, List.filter_cons, described, ih]
    cases device_descriptor device with
    | error e => rfl
    | ok desc => rfl

/-- The device that the configuration asks for. -/
def requested_device (cfg : CanConfig) (devices : List Device) : Option Device :=
  (devices.filter (described device_descriptor fun desc => Satisfies cfg desc))[cfg.usb_index.toNat]?

/-- The device that is opened is the one that the configuration asks for, and
with a string that is not a 16-bit hexadecimal number none is opened. -/
def OpensRequested (cfg : CanConfig) (devices : List Device) : Prop :=
  (Valid cfg → ∀ device, configured_device device_descriptor cfg (.ok devices) = .ok device ↔
    requested_device device_descriptor cfg devices = some device) ∧
  (¬ Valid cfg → ∀ device, configured_device device_descriptor cfg (.ok devices) ≠ .ok device)

/-- The constraints that the search for the device respects on this list. -/
def Respected (index : Nat) (devices : List Device) : Constraint → Constraint → Prop
  | .absent, .value p =>
    let listed := described device_descriptor is_candlelight
    let wanted := described device_descriptor (has_pid p)
    (∃ device, listed device ∧ wanted device ∧
      ListedAfter listed index devices device ∧ ListedAfter wanted index devices device) ∨
    (devices.countP listed ≤ index ∧ devices.countP wanted ≤ index)
  | .value v, .invalid => devices.countP (described device_descriptor (has_vid v)) ≤ index
  | .absent, .invalid => devices.countP (described device_descriptor is_candlelight) ≤ index
  | .invalid, _ => devices.countP (described device_descriptor is_candlelight) ≤ index
  | _, _ => True

section Run

variable {device_descriptor} {cfg : CanConfig} {devices : List Device}

theorem configured_device_eq_ok_iff (device : Device) :
    configured_device device_descriptor cfg (.ok devices) = .ok device ↔
      (devices.filter (described device_descriptor
        (is_match (constraint cfg.vid).parsed (constraint cfg.pid).parsed)))[cfg.usb_index.toNat]? = some device := by
  rw [configured_device, bind_parse_hex_u16, bind_parse_hex_u16, ← candidates_eq_filter]
  dsimp only [open_candidate, Except.mapError, bind, Except.bind]
  cases (candidates device_descriptor _ _ devices)[cfg.usb_index.toNat]? with
  | none => exact iff_of_false (fun h => nomatch h) fun h => nomatch h
  | some opened => rw [Except.ok.injEq, Option.some.injEq]

theorem requested_device_eq :
    requested_device device_descriptor cfg devices =
      (devices.filter (described device_descriptor
        (is_requested (constraint cfg.vid) (constraint cfg.pid))))[cfg.usb_index.toNat]? := by
  simp only [requested_device, satisfies_iff, Bool.decide_eq_true]

theorem valid_iff : Valid cfg ↔ constraint cfg.vid ≠ .invalid ∧ constraint cfg.pid ≠ .invalid := by
  rw [Valid, forall_exists_isHexU16_iff, forall_exists_isHexU16_iff]

/-- No device has a descriptor that meets what an invalid string asks for. -/
theorem filter_invalid {c d : Constraint} (h : c = .invalid ∨ d = .invalid) (index : Nat) :
    (devices.filter (described device_descriptor (is_requested c d)))[index]? = none := by
  rw [getElem?_filter_eq_none_iff, List.countP_eq_zero.2]
  · exact Nat.zero_le _
  · intro device _
    rw [described]
    cases device_descriptor device with
    | error e => exact Bool.false_ne_true
    | ok desc =>
      obtain rfl | rfl := h
      · exact Bool.false_ne_true
      · cases c <;> exact Bool.false_ne_true

theorem opensRequested_iff :
    OpensRequested device_descriptor cfg devices ↔
      (devices.filter (described device_descriptor
        (is_match (constraint cfg.vid).parsed (constraint cfg.pid).parsed)))[cfg.usb_index.toNat]? =
      (devices.filter (described device_descriptor
        (is_requested (constraint cfg.vid) (constraint cfg.pid))))[cfg.usb_index.toNat]? := by
  simp only [OpensRequested, ne_eq, configured_device_eq_ok_iff, requested_device_eq]
  by_cases hvalid : Valid cfg
  · simp only [hvalid, true_imp_iff, not_true_eq_false, false_imp_iff, and_true]
    exact Option.ext_iff.symm
  · have hinvalid : constraint cfg.vid = .invalid ∨ constraint cfg.pid = .invalid := by
      by_contra hne
      exact hvalid (valid_iff.2 (not_or.1 hne))
    simp only [hvalid, not_false_eq_true, true_imp_iff, false_imp_iff, true_and, filter_invalid hinvalid]
    exact Option.eq_none_iff_forall_ne_some.symm

/-- The configured adapter is opened exactly on the lists of devices on which the
search respects every constraint. -/
theorem configured_device_requested_iff :
    OpensRequested device_descriptor cfg devices ↔
      Respected device_descriptor cfg.usb_index.toNat devices (constraint cfg.vid) (constraint cfg.pid) := by
  rw [opensRequested_iff]
  cases constraint cfg.vid with
  | absent =>
    cases constraint cfg.pid with
    | absent => exact iff_of_true rfl trivial
    | invalid =>
      rw [filter_invalid (.inr rfl), getElem?_filter_eq_none_iff]
      rfl
    | value p => exact getElem?_filter_eq_iff
  | invalid =>
    rw [filter_invalid (.inl rfl), getElem?_filter_eq_none_iff]
    rfl
  | value v =>
    cases constraint cfg.pid with
    | absent => exact iff_of_true rfl trivial
    | invalid =>
      rw [filter_invalid (.inr rfl), getElem?_filter_eq_none_iff]
      rfl
    | value p => exact iff_of_true rfl trivial

end Run

end Selection

/-- A CANable is opened for a configuration that asks for the product ID of another adapter. -/
theorem configured_device_requested_fails :
    ¬ OpensRequested Except.ok ⟨0, none, some "0x2323"⟩ [⟨0x1d50, 0x606f⟩] := by
  intro h
  have hvalid : Valid ⟨0, none, some "0x2323"⟩ := by
    rw [valid_iff]
    decide
  have hrequested := (h.1 hvalid ⟨0x1d50, 0x606f⟩).1 rfl
  exact absurd hrequested (by decide)

end cyphal_service.transport.can_gsusb
