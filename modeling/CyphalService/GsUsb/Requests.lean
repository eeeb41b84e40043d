import CyphalService.GsUsb.Bittiming
import CyphalService.GsUsb.Interface
import CyphalService.GsUsb.Receive
import CyphalService.Lib.Bytes
import CyphalService.Lib.Fallible

open checked effect

namespace cyphal_service.transport.can_gsusb

def USB_REQ_OUT_VENDOR_DEVICE : UInt8 := 0x40

def USB_REQ_IN_VENDOR_DEVICE : UInt8 := 0xC0

def USB_REQ_OUT_VENDOR_INTERFACE : UInt8 := 0x41

def USB_REQ_IN_VENDOR_INTERFACE : UInt8 := 0xC1

def GS_USB_BREQ_HOST_FORMAT : UInt8 := 0

def GS_USB_BREQ_SET_BITTIMING : UInt8 := 1

def GS_USB_BREQ_SET_MODE : UInt8 := 2

def GS_USB_BREQ_BT_CONST : UInt8 := 4

def GS_USB_BREQ_DEVICE_CONFIG : UInt8 := 5

def GS_CAN_MODE_RESET : UInt32 := 0

def GS_CAN_MODE_START : UInt32 := 1

def GS_USB_HOST_CONFIG_BYTE_ORDER : UInt32 := 0x0000beef

structure GsDeviceMode where
  mode : UInt32
  flags : UInt32
  deriving DecidableEq

structure GsHostConfig where
  byte_order : UInt32
  deriving DecidableEq

structure GsDeviceConfig where
  reserved1 : UInt8
  reserved2 : UInt8
  reserved3 : UInt8
  icount : UInt8
  sw_version : UInt32
  hw_version : UInt32

/-- The bytes of a packed structure, as the driver sends them from a little-endian host. -/
def GsDeviceBittiming.to_bytes (timing : GsDeviceBittiming) : List UInt8 :=
  bytes.u32.words_to_le_bytes
    [timing.prop_seg, timing.phase_seg1, timing.phase_seg2, timing.sjw, timing.brp]

def GsDeviceMode.to_bytes (gs_mode : GsDeviceMode) : List UInt8 :=
  bytes.u32.words_to_le_bytes [gs_mode.mode, gs_mode.flags]

def GsHostConfig.to_bytes (host_config : GsHostConfig) : List UInt8 :=
  bytes.u32.words_to_le_bytes [host_config.byte_order]

/-- A structure from its packed bytes; the first word, the features, is not used. -/
def GsDeviceBtConst.from_bytes (buf : List UInt8) : GsDeviceBtConst where
  fclk_can := bytes.u32.word buf 1
  tseg1_min := bytes.u32.word buf 2
  tseg1_max := bytes.u32.word buf 3
  tseg2_min := bytes.u32.word buf 4
  tseg2_max := bytes.u32.word buf 5
  sjw_max := bytes.u32.word buf 6
  brp_min := bytes.u32.word buf 7
  brp_max := bytes.u32.word buf 8
  brp_inc := bytes.u32.word buf 9

/-- A buffer that is filled to its length, `[u8; N]`. -/
abbrev Filled (N : Nat) : Type := { buf : List UInt8 // buf.length = N }

def GsDeviceConfig.from_bytes (buf : Filled 12) : GsDeviceConfig where
  reserved1 := buf.val.get ⟨0, by rw [buf.property]; decide⟩
  reserved2 := buf.val.get ⟨1, by rw [buf.property]; decide⟩
  reserved3 := buf.val.get ⟨2, by rw [buf.property]; decide⟩
  icount := buf.val.get ⟨3, by rw [buf.property]; decide⟩
  sw_version := bytes.u32.word buf.val 1
  hw_version := bytes.u32.word buf.val 2

/-- What the driver asks of the USB library, and of the clock. -/
inductive UsbOp (Device : Type) where
  | devices
  | active_config_descriptor (device : Device)
  | open (device : Device)
  | kernel_driver_active (interface_number : UInt8)
  | detach_kernel_driver (interface_number : UInt8)
  | claim_interface (interface_number : UInt8)
  | clear_halt (endpoint : UInt8)
  | write_control (request_type request : UInt8) (value index : UInt16) (data : List UInt8)
  | read_control (request_type request : UInt8) (value index : UInt16) (len : Nat)
  | write_bulk (endpoint : UInt8) (buf : List UInt8)
  | read_bulk (endpoint : UInt8)
  | now
  | release_interface (interface_number : UInt8)
  | close

/-- What each of these answers: a read brings at most what there is room for. -/
abbrev UsbReply (Device : Type) : UsbOp Device → Type
  | .devices => Except UsbError (List Device)
  | .active_config_descriptor _ => Except UsbError ConfigDescriptor
  | .open _ => Except UsbError Unit
  | .kernel_driver_active _ => Except UsbError Bool
  | .detach_kernel_driver _ => Except UsbError Unit
  | .claim_interface _ => Except UsbError Unit
  | .clear_halt _ => Except UsbError Unit
  | .write_control _ _ _ _ _ => Except UsbError Nat
  | .read_control _ _ _ _ len => Except UsbError { buf : List UInt8 // buf.length ≤ len }
  | .write_bulk _ _ => Except UsbError Nat
  | .read_bulk _ => Except UsbError Transfer
  | .now => Microseconds32
  | .release_interface _ => Except UsbError Unit
  | .close => Unit

/-- How a call stops early: by an error that it returns, or by a panic. -/
inductive Exit where
  | err (e : GsUsbError)
  | panic (fault : Fault)
  deriving DecidableEq

/-- A call into the driver. -/
abbrev Usb (Device : Type) := Fallible (UsbOp Device) (UsbReply Device) Exit

section Results

variable {Device α : Type}

def returned (result : Except GsUsbError α) : Usb Device α :=
  ExceptT.mk (pure (result.mapError .err))

def usb (result : Except UsbError α) : Usb Device α :=
  returned (result.mapError .Usb)

def evaluated (result : Checked α) : Usb Device α :=
  ExceptT.mk (pure (result.mapError .panic))

def GsUsbError.into_usb_error : GsUsbError → UsbError
  | .Usb error => error
  | .ProtocolStep _ source => source
  | _ => .Other

/-- Tell in the error during which step it came. -/
def Exit.during (step : String) : Exit → Exit
  | .err source => .err (.ProtocolStep step source.into_usb_error)
  | .panic fault => .panic fault

def during (step : String) (call : Usb Device α) : Usb Device α := call.adapt (Exit.during step)

end Results

/-- Userspace CAN driver for gs_usb / candleLight devices. -/
structure GsUsbDriver where
  channel : UInt8
  interface_number : UInt8
  bulk_in_endpoint : UInt8
  bulk_out_endpoint : UInt8
  echo_counter : UInt32
  deriving DecidableEq

/-- Where to send a control request: its type, value and index. -/
abbrev Candidate := UInt8 × UInt16 × UInt16

section Candidates

variable {Device : Type}

def write_control_candidates (request : UInt8) (data : List UInt8) :
    List Candidate → Option UsbError → Usb Device Unit
  | [], last_error => throw (.err (.Usb (last_error.getD .Other)))
  | (request_type, value, index) :: rest, _ => do
    let written : Except UsbError Nat ← Fallible.ask (UsbOp.write_control request_type request value index data)
    match written with
    | .ok _ => return ()
    | .error .Pipe => write_control_candidates request data rest (some .Pipe)
    | .error error => throw (.err (.Usb error))

def read_control_candidates (N : Nat) (request : UInt8) :
    List Candidate → Option UsbError → Usb Device (Filled N)
  | [], last_error => throw (.err (.Usb (last_error.getD .Other)))
  | (request_type, value, index) :: rest, _ => do
    let read : Except UsbError { buf : List UInt8 // buf.length ≤ N } ←
      Fallible.ask (UsbOp.read_control request_type request value index N)
    match read with
    | .ok answer =>
      if h : N ≤ answer.val.length then
        return ⟨answer.val, Nat.le_antisymm answer.property h⟩
      else
        throw (.err (.Usb .Other))
    | .error .Pipe => read_control_candidates N request rest (some .Pipe)
    | .error error => throw (.err (.Usb error))

end Candidates

namespace GsUsbDriver

variable {Device : Type} (self : GsUsbDriver)

/-- Where requests about the interface are tried, with the types for its direction. -/
def interface_candidates (interface device : UInt8) : List Candidate :=
  [(interface, 0, 0), (interface, 0, self.interface_number.toUInt16),
    (device, 0, self.interface_number.toUInt16), (device, 0, 0)]

/-- Where requests about the channel are tried. -/
def channel_candidates (interface device : UInt8) : List Candidate :=
  [(interface, self.channel.toUInt16, 0), (device, self.channel.toUInt16, 0),
    (device, 0, self.channel.toUInt16), (interface, 0, self.channel.toUInt16)]

def clear_halt_conditions : Usb Device Unit := do
  usb (← Fallible.ask (.clear_halt self.bulk_in_endpoint))
  usb (← Fallible.ask (.clear_halt self.bulk_out_endpoint))

def configure_host_format : Usb Device Unit :=
  let host_config : GsHostConfig := ⟨GS_USB_HOST_CONFIG_BYTE_ORDER⟩
  write_control_candidates GS_USB_BREQ_HOST_FORMAT host_config.to_bytes
    (self.interface_candidates USB_REQ_OUT_VENDOR_INTERFACE USB_REQ_OUT_VENDOR_DEVICE) none

def read_device_config : Usb Device GsDeviceConfig := do
  let buf ← read_control_candidates 12 GS_USB_BREQ_DEVICE_CONFIG
    (self.interface_candidates USB_REQ_IN_VENDOR_INTERFACE USB_REQ_IN_VENDOR_DEVICE) none
  return .from_bytes buf

def read_bt_const : Usb Device GsDeviceBtConst := do
  let buf ← read_control_candidates 40 GS_USB_BREQ_BT_CONST
    (self.channel_candidates USB_REQ_IN_VENDOR_INTERFACE USB_REQ_IN_VENDOR_DEVICE) none
  return .from_bytes buf.val

def set_bittiming (timing : GsDeviceBittiming) : Usb Device Unit :=
  write_control_candidates GS_USB_BREQ_SET_BITTIMING timing.to_bytes
    (self.channel_candidates USB_REQ_OUT_VENDOR_INTERFACE USB_REQ_OUT_VENDOR_DEVICE) none

def set_mode (mode : UInt32) : Usb Device Unit :=
  let gs_mode : GsDeviceMode := ⟨mode, 0⟩
  write_control_candidates GS_USB_BREQ_SET_MODE gs_mode.to_bytes
    (self.channel_candidates USB_REQ_OUT_VENDOR_INTERFACE USB_REQ_OUT_VENDOR_DEVICE) none

end GsUsbDriver

end cyphal_service.transport.can_gsusb
