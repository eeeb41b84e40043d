import CyphalService.GsUsb.Adapter

open checked effect

namespace cyphal_service.transport.can_gsusb

/-- An adapter that works: the interfaces it describes, the addresses at which it
listens for each request, and what it reports. -/
structure Firmware where
  config : ConfigDescriptor
  listens : UInt8 → Candidate → Bool
  report : UInt8 → List UInt8

namespace Firmware

variable {Device : Type} (firmware : Firmware) (devices : List Device)

/-- It stalls what it does not listen for, and carries out the rest. -/
def handler : Handler (UsbOp Device) (UsbReply Device) Adapter
  | .devices, adapter => (.ok devices, adapter)
  | .active_config_descriptor _, adapter => (.ok firmware.config, { adapter with config := some firmware.config })
  | .now, adapter => (0, adapter)
  | .open _, adapter => (.ok (), adapter.fresh)
  | .kernel_driver_active _, adapter => (.ok true, adapter)
  | .detach_kernel_driver _, adapter => (.ok (), adapter)
  | .claim_interface n, adapter => (.ok (), { adapter with claimed := some n })
  | .clear_halt _, adapter => (.ok (), adapter)
  | .write_control request_type request value index data, adapter =>
    let heard := firmware.listens request (request_type, value, index)
    let answer := if heard then .ok data.length else .error .Pipe
    match Command.read request data with
    | some command => (answer, adapter.tell command answer (if heard then [command] else []))
    | none => (answer, adapter)
  | .read_control request_type request value index len, adapter =>
    if firmware.listens request (request_type, value, index) then
      let buf := (firmware.report request).take len
      (.ok ⟨buf, List.length_take_le _ _⟩,
        if request = GS_USB_BREQ_BT_CONST then { adapter with reported := some (.from_bytes buf) } else adapter)
    else (.error .Pipe, adapter)
  | .write_bulk _ buf, adapter => (.ok buf.length, { adapter with offered := adapter.offered ++ [buf] })
  | .read_bulk _, adapter => (.error .Timeout, adapter)
  | .release_interface _, adapter => (.ok (), { adapter with claimed := none })
  | .close, adapter => ((), { adapter with opened := false })

/-- It answers as an adapter may. -/
theorem handler_answers (bitrate : UInt32) (op : UsbOp Device) (adapter : Adapter) :
    (adapter_link Device bitrate).answers adapter op (firmware.handler devices op adapter).1
      (firmware.handler devices op adapter).2 := by
  cases op with
  | write_control request_type request value index data =>
    simp only [adapter_link, Adapter.Answers, handler]
    cases hread : Command.read request data with
    | none => rfl
    | some command =>
      by_cases hheard : firmware.listens request (request_type, value, index) = true
      · simp only [hheard, if_true]
        exact ⟨_, rfl, rfl⟩
      · simp only [hheard]
        exact ⟨_, .inl rfl, rfl⟩
  | read_control request_type request value index len =>
    simp only [adapter_link, Adapter.Answers, handler]
    by_cases hheard : firmware.listens request (request_type, value, index) = true
    · simp only [hheard, if_true]
      rfl
    · simp only [hheard]
      exact (ite_self adapter).symm
  | _ => exact rfl

end Firmware

/-- The interface of an adapter with candleLight firmware. -/
def candlelight_config : ConfigDescriptor where
  interfaces := [[{
    interface_number := 0
    class_code := 0xff
    endpoint_descriptors := [⟨0x81, .In, .Bulk, by decide⟩, ⟨0x02, .Out, .Bulk, by decide⟩] }]]

/-- It has a clock of 48 MHz, and listens for requests to the interface about channel 0. -/
def candlelight_firmware : Firmware where
  config := candlelight_config
  listens _ candidate := decide (candidate.1 &&& 0x7f = 0x41 ∧ candidate.2 = (0, 0))
  report _ := candlelight_48mhz.to_bytes 0

/-- An adapter that nobody has opened. -/
def unopened : Adapter := ⟨false, none, none, [], none, none, []⟩

/-- The descriptor of every adapter is that of a CANable. -/
def canable_descriptor (_device : Unit) : Except UsbError DeviceDescriptor := .ok ⟨0x1d50, 0x606f⟩

end cyphal_service.transport.can_gsusb
