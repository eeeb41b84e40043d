import Mathlib.Data.List.Induction
import CyphalService.Lib.Selection
import CyphalService.GsUsb.Driver

open selection

namespace cyphal_service.transport.can_gsusb

def BULK_IN_ENDPOINT : UInt8 := 0x81

def BULK_OUT_ENDPOINT : UInt8 := 0x01

def BULK_OUT_ENDPOINT_ALT : UInt8 := 0x02

inductive TransferType where
  | Control
  | Isochronous
  | Bulk
  | Interrupt
  deriving DecidableEq

inductive Direction where
  | In
  | Out
  deriving DecidableEq

/-- An endpoint of a USB device: the upper bit of its address is its direction. -/
structure EndpointDescriptor where
  address : UInt8
  direction : Direction
  transfer_type : TransferType
  upper_bit : direction = .In ↔ 128 ≤ address.toNat

/-- One setting of an interface of a USB device. -/
structure InterfaceDescriptor where
  interface_number : UInt8
  class_code : UInt8
  endpoint_descriptors : List EndpointDescriptor

/-- The interfaces of a configuration, each with its settings. -/
structure ConfigDescriptor where
  interfaces : List (List InterfaceDescriptor)

structure GsUsbInterfaceInfo where
  interface_number : UInt8
  bulk_in_endpoint : UInt8
  bulk_out_endpoint : UInt8
  deriving DecidableEq

/-- The endpoints that GS-USB adapters are expected to have. -/
def expected_endpoint (endpoint : EndpointDescriptor) : Bool :=
  match endpoint.direction with
  | .In => endpoint.address == BULK_IN_ENDPOINT
  | .Out => endpoint.address == BULK_OUT_ENDPOINT || endpoint.address == BULK_OUT_ENDPOINT_ALT

def any_endpoint (_endpoint : EndpointDescriptor) : Bool := true

section Search

variable (takes : EndpointDescriptor → Bool)

/-- The body of the loop over the endpoints, on the bulk endpoints found so far. -/
def note_endpoint (found : Option UInt8 × Option UInt8) (endpoint : EndpointDescriptor) :
    Option UInt8 × Option UInt8 :=
  if endpoint.transfer_type ≠ .Bulk then found
  else if takes endpoint then
    match endpoint.direction with
    | .In => (some endpoint.address, found.2)
    | .Out => (found.1, some endpoint.address)
  else found

def bulk_endpoints (endpoints : List EndpointDescriptor) : Option UInt8 × Option UInt8 :=
  endpoints.foldl (note_endpoint takes) (none, none)

/-- The body of the loop over the interfaces; none goes on with the next one. -/
def try_descriptor (descriptor : InterfaceDescriptor) : Option GsUsbInterfaceInfo :=
  match bulk_endpoints takes descriptor.endpoint_descriptors with
  | (some bulk_in_endpoint, some bulk_out_endpoint) =>
    some ⟨descriptor.interface_number, bulk_in_endpoint, bulk_out_endpoint⟩
  | _ => none

end Search

/-- Prefer vendor-specific interfaces with expected GS-USB endpoints. -/
def try_vendor_descriptor (descriptor : InterfaceDescriptor) : Option GsUsbInterfaceInfo :=
  if descriptor.class_code ≠ 0xff then none else try_descriptor expected_endpoint descriptor

/-- The interface that is used when no other is found. -/
def default_interface : GsUsbInterfaceInfo := ⟨0, BULK_IN_ENDPOINT, BULK_OUT_ENDPOINT_ALT⟩

/-- The interface that `find_gsusb_interface` finds in a configuration. -/
def gsusb_interface (config : ConfigDescriptor) : GsUsbInterfaceInfo :=
  match config.interfaces.flatten.findSome? try_vendor_descriptor with
  | some info => info
  | none =>
    match config.interfaces.flatten.findSome? (try_descriptor any_endpoint) with
    | some info => info
    | none => default_interface

def find_gsusb_interface (active_config_descriptor : Except UsbError ConfigDescriptor) :
    Except GsUsbError GsUsbInterfaceInfo := do
  let config ← active_config_descriptor.mapError .Usb
  return gsusb_interface config

/-- A bulk endpoint of the direction that is taken. -/
def Usable (takes : EndpointDescriptor → Bool) (direction : Direction) (endpoint : EndpointDescriptor) : Prop :=
  endpoint.transfer_type = .Bulk ∧ takes endpoint ∧ endpoint.direction = direction

/-- The descriptor has bulk endpoints of both directions that are taken, and these
are the last ones. -/
structure Offers (takes : EndpointDescriptor → Bool) (descriptor : InterfaceDescriptor)
    (info : GsUsbInterfaceInfo) : Prop where
  interface_number : info.interface_number = descriptor.interface_number
  bulk_in : ∃ endpoint, Last (Usable takes .In) descriptor.endpoint_descriptors endpoint ∧
    endpoint.address = info.bulk_in_endpoint
  bulk_out : ∃ endpoint, Last (Usable takes .Out) descriptor.endpoint_descriptors endpoint ∧
    endpoint.address = info.bulk_out_endpoint

/-- A vendor-specific interface with expected GS-USB endpoints. -/
def OffersVendor (descriptor : InterfaceDescriptor) (info : GsUsbInterfaceInfo) : Prop :=
  descriptor.class_code = 0xff ∧ Offers expected_endpoint descriptor info

/-- The first of the descriptors that offer an interface, and what it offers. -/
def OfferedFirst (offers : InterfaceDescriptor → GsUsbInterfaceInfo → Prop) (config : ConfigDescriptor)
    (info : GsUsbInterfaceInfo) : Prop :=
  ∃ descriptor, First (fun descriptor => ∃ info, offers descriptor info) config.interfaces.flatten descriptor ∧
    offers descriptor info

section Endpoints

variable {takes : EndpointDescriptor → Bool}

/-- What the body of the loop does with an endpoint. -/
theorem note_endpoint_cases (found : Option UInt8 × Option UInt8) (endpoint : EndpointDescriptor) :
    (Usable takes .In endpoint ∧ ¬ Usable takes .Out endpoint ∧
      note_endpoint takes found endpoint = (some endpoint.address, found.2)) ∨
    (Usable takes .Out endpoint ∧ ¬ Usable takes .In endpoint ∧
      note_endpoint takes found endpoint = (found.1, some endpoint.address)) ∨
    ((∀ direction, ¬ Usable takes direction endpoint) ∧ note_endpoint takes found endpoint = found) := by
  rw [note_endpoint]
  by_cases hbulk : endpoint.transfer_type = .Bulk
  · rw [if_neg (not_not.2 hbulk)]
    by_cases htakes : takes endpoint
    · rw [if_pos htakes]
      cases hdirection : endpoint.direction with
      | In =>
        have hout : ¬ Usable takes .Out endpoint := fun h => nomatch hdirection.symm.trans h.2.2
        exact .inl ⟨⟨hbulk, htakes, hdirection⟩, hout, rfl⟩
      | Out =>
        have hin : ¬ Usable takes .In endpoint := fun h => nomatch hdirection.symm.trans h.2.2
        exact .inr (.inl ⟨⟨hbulk, htakes, hdirection⟩, hin, rfl⟩)
    · rw [if_neg htakes]
      exact .inr (.inr ⟨fun _ h => htakes h.2.1, rfl⟩)
  · rw [if_pos hbulk]
    exact .inr (.inr ⟨fun _ h => hbulk h.1, rfl⟩)

theorem last_address_of_usable {direction : Direction} {endpoint : EndpointDescriptor}
    (husable : Usable takes direction endpoint) (rest : List EndpointDescriptor) (a : UInt8) :
    some endpoint.address = some a ↔
      ∃ e, Last (Usable takes direction) (rest ++ [endpoint]) e ∧ e.address = a := by
  simp only [last_concat_of_holds husable, exists_eq_left, Option.some.injEq]

theorem last_address_of_not_usable {direction : Direction} {endpoint : EndpointDescriptor}
    (hunusable : ¬ Usable takes direction endpoint) (rest : List EndpointDescriptor) (a : UInt8) :
    (∃ e, Last (Usable takes direction) (rest ++ [endpoint]) e ∧ e.address = a) ↔
      ∃ e, Last (Usable takes direction) rest e ∧ e.address = a := by
  simp only [last_concat_of_not hunusable]

/-- The loop over the endpoints keeps the last one of each direction. -/
theorem bulk_endpoints_spec (endpoints : List EndpointDescriptor) :
    (∀ a, (bulk_endpoints takes endpoints).1 = some a ↔
      ∃ endpoint, Last (Usable takes .In) endpoints endpoint ∧ endpoint.address = a) ∧
    (∀ a, (bulk_endpoints takes endpoints).2 = some a ↔
      ∃ endpoint, Last (Usable takes .Out) endpoints endpoint ∧ endpoint.address = a) := by
  induction endpoints using List.reverseRecOn with
  | nil =>
    constructor
    · intro a
      exact iff_of_false (fun h => nomatch h) fun ⟨_, hlast, _⟩ => not_last_nil hlast
    · intro a
      exact iff_of_false (fun h => nomatch h) fun ⟨_, hlast, _⟩ => not_last_nil hlast
  | append_singleton rest endpoint ih =>
    have hstep : bulk_endpoints takes (rest ++ [endpoint]) =
        note_endpoint takes (bulk_endpoints takes rest) endpoint := by
      rw [bulk_endpoints, List.foldl_append, List.foldl_cons, List.foldl_nil, bulk_endpoints]
    rw [hstep]
    obtain ⟨hin, hout, hnote⟩ | ⟨hout, hin, hnote⟩ | ⟨hunusable, hnote⟩ :=
      note_endpoint_cases (bulk_endpoints takes rest) endpoint
    · rw [hnote]
      exact ⟨last_address_of_usable hin rest, fun a => (ih.2 a).trans (last_address_of_not_usable hout rest a).symm⟩
    · rw [hnote]
      exact ⟨fun a => (ih.1 a).trans (last_address_of_not_usable hin rest a).symm, last_address_of_usable hout rest⟩
    · rw [hnote]
      exact ⟨fun a => (ih.1 a).trans (last_address_of_not_usable (hunusable .In) rest a).symm,
        fun a => (ih.2 a).trans (last_address_of_not_usable (hunusable .Out) rest a).symm⟩

theorem try_descriptor_eq_some_iff {descriptor : InterfaceDescriptor} {info : GsUsbInterfaceInfo} :
    try_descriptor takes descriptor = some info ↔ Offers takes descriptor info := by
  obtain ⟨hin, hout⟩ := @bulk_endpoints_spec takes descriptor.endpoint_descriptors
  obtain ⟨interface_number, bulk_in_endpoint, bulk_out_endpoint⟩ := info
  have hoffers : Offers takes descriptor ⟨interface_number, bulk_in_endpoint, bulk_out_endpoint⟩ ↔
      interface_number = descriptor.interface_number ∧
        (bulk_endpoints takes descriptor.endpoint_descriptors).1 = some bulk_in_endpoint ∧
        (bulk_endpoints takes descriptor.endpoint_descriptors).2 = some bulk_out_endpoint := by
    rw [hin, hout]
    exact ⟨fun h => ⟨h.1, h.2, h.3⟩, fun h => ⟨h.1, h.2.1, h.2.2⟩⟩
  rw [hoffers, try_descriptor]
  obtain ⟨found_in, found_out⟩ := bulk_endpoints takes descriptor.endpoint_descriptors
  cases found_in with
  | none => simp
  | some a =>
    cases found_out with
    | none => simp
    | some b => simp [eq_comm]

theorem try_vendor_descriptor_eq_some_iff {descriptor : InterfaceDescriptor} {info : GsUsbInterfaceInfo} :
    try_vendor_descriptor descriptor = some info ↔ OffersVendor descriptor info := by
  rw [try_vendor_descriptor, OffersVendor]
  by_cases hclass : descriptor.class_code = 0xff
  · rw [if_neg (not_not.2 hclass), try_descriptor_eq_some_iff, and_iff_right hclass]
  · rw [if_pos hclass]
    exact iff_of_false (fun h => nomatch h) fun h => hclass h.1

/-- The endpoints that are offered have the directions they are used in. -/
theorem Offers.directions {descriptor : InterfaceDescriptor} {info : GsUsbInterfaceInfo}
    (h : Offers takes descriptor info) :
    128 ≤ info.bulk_in_endpoint.toNat ∧ info.bulk_out_endpoint.toNat < 128 := by
  obtain ⟨bulk_in, hin, hin_address⟩ := h.bulk_in
  obtain ⟨bulk_out, hout, hout_address⟩ := h.bulk_out
  have hin_bit := bulk_in.upper_bit.1 hin.holds.2.2
  have hout_bit : ¬ 128 ≤ bulk_out.address.toNat := by
    rw [← bulk_out.upper_bit, hout.holds.2.2]
    exact fun h => nomatch h
  rw [hin_address] at hin_bit
  rw [hout_address] at hout_bit
  exact ⟨hin_bit, Nat.lt_of_not_le hout_bit⟩

end Endpoints

section Interface

variable {config : ConfigDescriptor} {info : GsUsbInterfaceInfo}

theorem findSome?_eq_some_iff_offered {try_one : InterfaceDescriptor → Option GsUsbInterfaceInfo}
    {offers : InterfaceDescriptor → GsUsbInterfaceInfo → Prop}
    (h : ∀ {descriptor info}, try_one descriptor = some info ↔ offers descriptor info) :
    config.interfaces.flatten.findSome? try_one = some info ↔ OfferedFirst offers config info := by
  simp only [findSome?_eq_some_iff_first, h, OfferedFirst]

theorem findSome?_eq_none_iff_offered {try_one : InterfaceDescriptor → Option GsUsbInterfaceInfo}
    {offers : InterfaceDescriptor → GsUsbInterfaceInfo → Prop}
    (h : ∀ {descriptor info}, try_one descriptor = some info ↔ offers descriptor info) :
    config.interfaces.flatten.findSome? try_one = none ↔ ∀ info, ¬ OfferedFirst offers config info := by
  rw [Option.eq_none_iff_forall_ne_some]
  simp only [ne_eq, findSome?_eq_some_iff_offered h]

/-- The first vendor-specific interface with expected endpoints is found; without one
the first with bulk endpoints of both directions; and without that the default. -/
theorem gsusb_interface_eq_iff (config : ConfigDescriptor) (info : GsUsbInterfaceInfo) :
    gsusb_interface config = info ↔ OfferedFirst OffersVendor config info ∨
      (∀ other, ¬ OfferedFirst OffersVendor config other) ∧
        (OfferedFirst (Offers any_endpoint) config info ∨
          (∀ other, ¬ OfferedFirst (Offers any_endpoint) config other) ∧ info = default_interface) := by
  rw [← findSome?_eq_some_iff_offered try_vendor_descriptor_eq_some_iff,
    ← findSome?_eq_some_iff_offered try_descriptor_eq_some_iff,
    ← findSome?_eq_none_iff_offered try_vendor_descriptor_eq_some_iff,
    ← findSome?_eq_none_iff_offered try_descriptor_eq_some_iff, gsusb_interface]
  cases config.interfaces.flatten.findSome? try_vendor_descriptor with
  | some found => simp
  | none =>
    cases config.interfaces.flatten.findSome? (try_descriptor any_endpoint) with
    | some found => simp
    | none => simp [eq_comm]

theorem OfferedFirst.offered {offers : InterfaceDescriptor → GsUsbInterfaceInfo → Prop}
    (h : OfferedFirst offers config info) : ∃ descriptor, offers descriptor info := by
  obtain ⟨descriptor, -, hoffers⟩ := h
  exact ⟨descriptor, hoffers⟩

/-- Whatever the adapter describes, it is read from an IN and written to an OUT endpoint. -/
theorem gsusb_interface_directions (config : ConfigDescriptor) :
    128 ≤ (gsusb_interface config).bulk_in_endpoint.toNat ∧
      (gsusb_interface config).bulk_out_endpoint.toNat < 128 := by
  obtain hvendor | ⟨-, hany | ⟨-, hdefault⟩⟩ := (gsusb_interface_eq_iff config _).1 rfl
  · obtain ⟨descriptor, hoffers⟩ := hvendor.offered
    exact hoffers.2.directions
  · obtain ⟨descriptor, hoffers⟩ := hany.offered
    exact hoffers.directions
  · rw [hdefault]
    decide

/-- The search succeeds when there is an active configuration; it gives the first
vendor-specific interface with expected endpoints, or the first with bulk endpoints of both
directions, or the default, and its endpoints have the directions they are used in. -/
theorem interface_found (active_config_descriptor : Except UsbError ConfigDescriptor) (info : GsUsbInterfaceInfo) :
    (find_gsusb_interface active_config_descriptor = .ok info ↔
      ∃ config, active_config_descriptor = .ok config ∧ (OfferedFirst OffersVendor config info ∨
        (∀ other, ¬ OfferedFirst OffersVendor config other) ∧
          (OfferedFirst (Offers any_endpoint) config info ∨
            (∀ other, ¬ OfferedFirst (Offers any_endpoint) config other) ∧ info = default_interface))) ∧
    (find_gsusb_interface active_config_descriptor = .ok info →
      128 ≤ info.bulk_in_endpoint.toNat ∧ info.bulk_out_endpoint.toNat < 128) := by
  simp only [← gsusb_interface_eq_iff]
  cases active_config_descriptor with
  | error e => simp [find_gsusb_interface, Except.mapError]
  | ok config =>
    refine ⟨by simp [find_gsusb_interface, Except.mapError], ?_⟩
    intro hfound
    obtain rfl : gsusb_interface config = info := Except.ok.inj hfound
    exact gsusb_interface_directions config

end Interface

end cyphal_service.transport.can_gsusb
