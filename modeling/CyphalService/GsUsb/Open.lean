import CyphalService.Lib.Selection
import CyphalService.Lib.Text
import CyphalService.GsUsb.Driver

open text selection

namespace cyphal_service.config

/-- The fields of the CAN configuration that choose the adapter. -/
structure CanConfig where
  usb_index : UInt32
  vid : Option String
  pid : Option String

end cyphal_service.config

namespace cyphal_service.transport.can_gsusb

open config

/-- Known VID/PID pairs for candleLight-compatible adapters. -/
def CANDLELIGHT_DEVICES : List (UInt16 × UInt16) :=
  [(0x1d50, 0x606f), (0x1209, 0x2323), (0x1209, 0xca01), (0x1cd2, 0x606f),
    (0x16d0, 0x10b8), (0x16d0, 0x0f30), (0x1d50, 0x5740), (0x04d8, 0x0053)]

/-- The fields of a USB device descriptor that the search reads. -/
structure DeviceDescriptor where
  vendor_id : UInt16
  product_id : UInt16
  deriving DecidableEq

def has_vid (v : UInt16) (desc : DeviceDescriptor) : Bool :=
  desc.vendor_id == v

def has_pid (p : UInt16) (desc : DeviceDescriptor) : Bool :=
  desc.product_id == p

def is_candlelight (desc : DeviceDescriptor) : Bool :=
  CANDLELIGHT_DEVICES.any fun known => known.1 == desc.vendor_id && known.2 == desc.product_id

/-- Whether the search keeps a device. -/
def is_match (vid pid : Option UInt16) (desc : DeviceDescriptor) : Bool :=
  match vid, pid with
  | some v, some p => has_vid v desc && has_pid p desc
  | some v, none => has_vid v desc
  | none, _ => is_candlelight desc

section Open

variable {Device : Type} (device_descriptor : Device → Except UsbError DeviceDescriptor)

def candidates (vid pid : Option UInt16) : List Device → List Device
  | [] => []
  | device :: rest =>
    match device_descriptor device with
    | .error _ => candidates vid pid rest
    | .ok desc => if is_match vid pid desc then device :: candidates vid pid rest else candidates vid pid rest

/-- The device that `open` goes on with. -/
def open_candidate (devices : Except UsbError (List Device)) (index : UInt32) (vid pid : Option UInt16) :
    Except GsUsbError Device := do
  let device_list ← devices.mapError .Usb
  match (candidates device_descriptor vid pid device_list)[index.toNat]? with
  | some device => .ok device
  | none => .error (.Usb .NotFound)

/-- The digits of a hexadecimal text without its "0x" or "0X". -/
def unmarked (s : List Char) : List Char :=
  (("0x".toList.isPrefixOf? s).or ("0X".toList.isPrefixOf? s)).getD s

def parse_hex_u16 (s : String) : Option UInt16 :=
  (u16.from_str_radix (unmarked (trim s.toList)) 16).toOption

/-- The device that the worker of a configured adapter opens. -/
def configured_device (cfg : CanConfig) (devices : Except UsbError (List Device)) : Except GsUsbError Device :=
  let vid := cfg.vid.bind parse_hex_u16
  let pid := cfg.pid.bind parse_hex_u16
  open_candidate device_descriptor devices cfg.usb_index vid pid

end Open

section Parser

/-- `s` writes `value` in hexadecimal digits of either case, between white space, after an
optional "0x" or "0X" and an optional "+". -/
def IsHexU16 (s : String) (value : UInt16) : Prop :=
  ∃ before marker sign digits after, s.toList = before ++ (marker ++ (sign ++ digits)) ++ after ∧
    (∀ c ∈ before, is_whitespace c) ∧ (∀ c ∈ after, is_whitespace c) ∧
    marker ∈ [[], ['0', 'x'], ['0', 'X']] ∧ sign ∈ [[], ['+']] ∧ Numeral 16 digits value.toNat

variable {marker sign digits : List Char} {n : Nat}

theorem mem_markers : marker ∈ [[], ['0', 'x'], ['0', 'X']] ↔
    marker = [] ∨ marker = ['0', 'x'] ∨ marker = ['0', 'X'] := by
  rw [List.mem_cons, List.mem_pair]

theorem unmarked_decomposition (s : List Char) :
    ∃ marker ∈ [[], ['0', 'x'], ['0', 'X']], s = marker ++ unmarked s := by
  rw [unmarked]
  cases hlower : "0x".toList.isPrefixOf? s with
  | some rest => exact ⟨['0', 'x'], mem_markers.2 (.inr (.inl rfl)), (List.isPrefixOf?_eq_some_iff_append_eq.1 hlower).symm⟩
  | none =>
    cases hupper : "0X".toList.isPrefixOf? s with
    | some rest => exact ⟨['0', 'X'], mem_markers.2 (.inr (.inr rfl)), (List.isPrefixOf?_eq_some_iff_append_eq.1 hupper).symm⟩
    | none => exact ⟨[], mem_markers.2 (.inl rfl), rfl⟩

/-- The "x" of a marker is neither a sign nor a digit. -/
theorem isPrefixOf?_eq_none_of_numeral {x : Char} (hx : to_digit 16 x = none) (hsign : sign ∈ [[], ['+']])
    (h : Numeral 16 digits n) : ['0', x].isPrefixOf? (sign ++ digits) = none := by
  cases hmarked : ['0', x].isPrefixOf? (sign ++ digits) with
  | none => rfl
  | some rest =>
    have happend := List.isPrefixOf?_eq_some_iff_append_eq.1 hmarked
    obtain rfl | rfl := List.mem_pair.1 hsign
    · obtain rfl : '0' :: x :: rest = digits := happend
      obtain ⟨value, hvalue⟩ := h.to_digit_of_mem (c := x) (by simp)
      rw [hx] at hvalue
      cases hvalue
    · cases happend

theorem unmarked_append (hmarker : marker ∈ [[], ['0', 'x'], ['0', 'X']]) (hsign : sign ∈ [[], ['+']])
    (h : Numeral 16 digits n) : unmarked (marker ++ (sign ++ digits)) = sign ++ digits := by
  have hlower := isPrefixOf?_eq_none_of_numeral (show to_digit 16 'x' = none from rfl) hsign h
  have hupper := isPrefixOf?_eq_none_of_numeral (show to_digit 16 'X' = none from rfl) hsign h
  obtain rfl | rfl | rfl := mem_markers.1 hmarker
  · show ((['0', 'x'].isPrefixOf? (sign ++ digits)).or (['0', 'X'].isPrefixOf? (sign ++ digits))).getD _ = _
    rw [hlower, hupper]
    rfl
  · rfl
  · rfl

theorem not_whitespace_of_numeral (hmarker : marker ∈ [[], ['0', 'x'], ['0', 'X']]) (hsign : sign ∈ [[], ['+']])
    (h : Numeral 16 digits n) : ∀ c ∈ marker ++ (sign ++ digits), is_whitespace c = false := by
  have hmarks : ∀ c ∈ marker, c = '0' ∨ c = 'x' ∨ c = 'X' := by
    obtain rfl | rfl | rfl := mem_markers.1 hmarker
    · simp
    · simp
    · simp
  intro c hc
  rw [List.mem_append, List.mem_append] at hc
  obtain hc | hc | hc := hc
  · obtain rfl | rfl | rfl := hmarks c hc
    · rfl
    · rfl
    · rfl
  · simp only [List.mem_cons, List.not_mem_nil, or_false] at hsign
    obtain rfl | rfl := hsign
    · cases hc
    · obtain rfl := List.mem_singleton.1 hc
      rfl
  · obtain ⟨value, hvalue⟩ := h.to_digit_of_mem hc
    exact is_whitespace_of_to_digit hvalue

/-- The parser accepts exactly the 16-bit hexadecimal numbers. -/
theorem parse_hex_u16_eq_some_iff {s : String} {value : UInt16} :
    parse_hex_u16 s = some value ↔ IsHexU16 s value := by
  have hparse : parse_hex_u16 s = some value ↔ ∃ sign digits, unmarked (trim s.toList) = sign ++ digits ∧
      sign ∈ [[], ['+']] ∧ Numeral 16 digits value.toNat := by
    rw [← u16.from_str_radix_eq_ok_iff (by decide), parse_hex_u16]
    cases u16.from_str_radix (unmarked (trim s.toList)) 16 with
    | error kind => exact iff_of_false (fun h => nomatch h) fun h => nomatch h
    | ok x => simp [Except.toOption]
  rw [hparse]
  constructor
  · rintro ⟨sign, digits, hs, hsign, h⟩
    obtain ⟨before, after, htext, hbefore, hafter⟩ := trim_decomposition s.toList
    obtain ⟨marker, hmarker, htrim⟩ := unmarked_decomposition (trim s.toList)
    rw [htrim, hs] at htext
    exact ⟨before, marker, sign, digits, after, htext, hbefore, hafter, hmarker, hsign, h⟩
  · rintro ⟨before, marker, sign, digits, after, htext, hbefore, hafter, hmarker, hsign, h⟩
    have hne : marker ++ (sign ++ digits) ≠ [] := by simp [h.1]
    refine ⟨sign, digits, ?_, hsign, h⟩
    rw [htext, trim_append hbefore hafter hne (not_whitespace_of_numeral hmarker hsign h),
      unmarked_append hmarker hsign h]

instance (s : String) (value : UInt16) : Decidable (IsHexU16 s value) :=
  decidable_of_iff (parse_hex_u16 s = some value) parse_hex_u16_eq_some_iff

end Parser

end cyphal_service.transport.can_gsusb
