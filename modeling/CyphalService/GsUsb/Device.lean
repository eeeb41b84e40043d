import CyphalService.GsUsb.Open
import CyphalService.GsUsb.Requests

open checked effect

namespace cyphal_service.transport.can_gsusb

namespace GsUsbDriver

section Open

variable {Device : Type}

/-- Reset the adapter, and put it into normal operating mode with a bit timing. -/
def restart (self : GsUsbDriver) (bitrate : UInt32) (bt_const : GsDeviceBtConst) : Usb Device Unit := do
  during "reset mode configuration" (self.set_mode GS_CAN_MODE_RESET)
  let timing ← returned (← evaluated (timing_to_set bitrate bt_const))
  during "bit timing configuration" (self.set_bittiming timing)
  during "normal mode configuration" (self.set_mode GS_CAN_MODE_START)

/-- What `open` does with the driver that it returns. -/
def configure (self : GsUsbDriver) (bitrate : UInt32) : Usb Device Unit := do
  self.clear_halt_conditions
  during "host format negotiation" self.configure_host_format
  let _device_config ← during "device configuration read" self.read_device_config
  let bt_const ← during "bit timing constants read" self.read_bt_const
  self.restart bitrate bt_const

/-- Take the interface from the kernel, on Linux, and for this process. -/
def claim (linux : Bool) (interface_number : UInt8) : Usb Device Unit := do
  if linux then
    let active : Except UsbError Bool ← Fallible.ask (UsbOp.kernel_driver_active 0)
    if active.toOption.getD false then
      usb (← Fallible.ask (.detach_kernel_driver 0))
  usb (← Fallible.ask (.claim_interface interface_number))

/-- Neither result is looked at; the handle is closed after. -/
def drop (self : GsUsbDriver) : Program (UsbOp Device) (UsbReply Device) Unit := do
  let _ ← (self.set_mode GS_CAN_MODE_RESET).run
  let _ ← Program.ask (.release_interface self.interface_number)
  Program.ask UsbOp.close

/-- Open a gs_usb device and configure it for the requested bitrate. -/
def «open» (linux : Bool) (device_descriptor : Device → Except UsbError DeviceDescriptor) (index : UInt32)
    (vid pid : Option UInt16) (bitrate : UInt32) : Usb Device GsUsbDriver := do
  let device_list ← Fallible.ask .devices
  let device ← returned (open_candidate device_descriptor device_list index vid pid)
  let interface ← returned (find_gsusb_interface (← Fallible.ask (.active_config_descriptor device)))
  usb (← Fallible.ask (.open device))
  Fallible.owning (Program.ask UsbOp.close) (claim linux interface.interface_number)
  let driver : GsUsbDriver :=
    ⟨0, interface.interface_number, interface.bulk_in_endpoint, interface.bulk_out_endpoint, 0⟩
  Fallible.owning driver.drop (driver.configure bitrate)
  return driver

end Open

section Frames

variable {Device : Type} {ids : CanIds} (self : GsUsbDriver)

/-- Transmit a frame, with the order of the library on timestamps. -/
def transmit (lt : Microseconds32 → Microseconds32 → Bool) (frame : Frame ids) :
    Usb Device (Except (NbError GsUsbError) (Option (Frame ids)) × GsUsbDriver) := do
  let now ← Fallible.ask .now
  if lt frame.timestamp now then
    return (.ok none, self)
  else
    let echo_id := self.echo_counter
    let self := { self with echo_counter := self.echo_counter + 1 }
    let buf ← evaluated (encode_frame frame echo_id)
    let written : Except UsbError Nat ← Fallible.ask (UsbOp.write_bulk self.bulk_out_endpoint buf)
    match written with
    | .ok _ => return (.ok none, self)
    | .error .Timeout => return (.error .WouldBlock, self)
    | .error e => return (.error (.Other (.Usb e)), self)

/-- The clock is read when there is something to decode. -/
def receive (ids : CanIds) : Usb Device (Except (NbError GsUsbError) (Frame ids)) := do
  let read : Except UsbError Transfer ← Fallible.ask (UsbOp.read_bulk self.bulk_in_endpoint)
  match read with
  | .ok transfer => evaluated (can_gsusb.receive ids (.ok transfer) (← Fallible.ask .now))
  | .error e => evaluated (can_gsusb.receive ids (.error e) 0)

end Frames

end GsUsbDriver

/-- What the owner of a driver asks of it: the frames of the library are classic ones. -/
inductive DriverCall (ids : CanIds) where
  | transmit (frame : Frame ids) (classic : frame.data.length ≤ 8)
  | receive

abbrev DriverReply (ids : CanIds) : DriverCall ids → Type
  | .transmit _ _ => Except (NbError GsUsbError) (Option (Frame ids))
  | .receive => Except (NbError GsUsbError) (Frame ids)

section Session

variable {Device α : Type} {ids : CanIds} (lt : Microseconds32 → Microseconds32 → Bool)

/-- Answer the calls of an owner one after the other. -/
def serve : Program (DriverCall ids) (DriverReply ids) α → GsUsbDriver → Usb Device (α × GsUsbDriver)
  | .pure value, driver => return (value, driver)
  | .perform (.transmit frame _) next, driver => do
    let (reply, driver) ← driver.transmit lt frame
    serve (next reply) driver
  | .perform .receive next, driver => do
    let reply ← driver.receive ids
    serve (next reply) driver

/-- The life of a driver: it is opened, does what its owner asks, and is dropped. -/
def session (linux : Bool) (device_descriptor : Device → Except UsbError DeviceDescriptor) (index : UInt32)
    (vid pid : Option UInt16) (bitrate : UInt32) (owner : Program (DriverCall ids) (DriverReply ids) α) :
    Usb Device α := do
  let driver ← GsUsbDriver.open linux device_descriptor index vid pid bitrate
  let (value, driver) ← Fallible.owning driver.drop (serve lt owner driver)
  (driver.drop : Program (UsbOp Device) (UsbReply Device) Unit)
  return value

end Session

end cyphal_service.transport.can_gsusb
