import Mathlib.Data.UInt

namespace cyphal_service.transport.can_gsusb

/-- Extended frame format (29-bit ID). -/
def GS_CAN_EFF_FLAG : UInt32 := 0x80000000

/-- Remote transmission request. -/
def GS_CAN_RTR_FLAG : UInt32 := 0x40000000

/-- Error frame. -/
def GS_CAN_ERR_FLAG : UInt32 := 0x20000000

/-- `echo_id(4) + can_id(4) + dlc(1) + channel(1) + flags(1) + pad(1) + data(8)` -/
def GS_HOST_FRAME_SIZE : Nat := 20

/-- The CAN identifiers of the Cyphal library, with their conversions. -/
structure CanIds where
  CanId : Type
  into : CanId → UInt32
  try_from : UInt32 → Option CanId

/-- The identifiers are exactly the 29-bit values. -/
structure CanIds.Exact (ids : CanIds) : Prop where
  accepts : ∀ raw, (ids.try_from raw).isSome ↔ raw.toNat < 2 ^ 29
  into_try_from : ∀ raw id, ids.try_from raw = some id → ids.into id = raw
  try_from_into : ∀ id, ids.try_from (ids.into id) = some id

abbrev Microseconds32 := UInt32

/-- A CAN frame of the Cyphal library. -/
structure Frame (ids : CanIds) where
  timestamp : Microseconds32
  id : ids.CanId
  data : List UInt8

/-- The errors of the USB library. -/
inductive UsbError where
  | Io
  | InvalidParam
  | Access
  | NoDevice
  | NotFound
  | Busy
  | Timeout
  | Overflow
  | Pipe
  | Interrupted
  | NoMem
  | NotSupported
  | BadDescriptor
  | Other
  deriving DecidableEq

/-- Error type for the gs_usb driver. -/
inductive GsUsbError where
  | Usb (e : UsbError)
  | InvalidFrame
  | UnsupportedBitrate (bitrate : UInt32)
  | ProtocolStep (step : String) (source : UsbError)
  deriving DecidableEq

/-- The error of a non-blocking operation. -/
inductive NbError (ε : Type) where
  | WouldBlock
  | Other (e : ε)
  deriving DecidableEq

end cyphal_service.transport.can_gsusb
