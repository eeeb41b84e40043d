import CyphalService.GsUsb.Command
import CyphalService.GsUsb.Device

open checked effect

namespace cyphal_service.transport.can_gsusb

/-- An adapter and the link to it: what the adapter was told and answered, and
offered, since it was opened. -/
structure Adapter where
  opened : Bool
  config : Option ConfigDescriptor
  claimed : Option UInt8
  carried_out : List Command
  reported : Option GsDeviceBtConst
  asked_mode : Option (UInt32 × Except UsbError Nat)
  offered : List (List UInt8)

/-- What an adapter may have carried out when it answered so: a request that it
stalls is refused, and after any other error nobody knows. -/
def Effect (command : Command) : Except UsbError Nat → List Command → Prop
  | .ok _, effect => effect = [command]
  | .error e, effect => effect = [] ∨ e ≠ .Pipe ∧ effect = [command]

namespace Adapter

/-- The mode that was set last. -/
def mode (adapter : Adapter) : Option UInt32 := adapter.carried_out.reverse.findSome? Command.mode?

/-- The bit timing that was set last. -/
def timing (adapter : Adapter) : Option GsDeviceBittiming :=
  adapter.carried_out.reverse.findSome? Command.timing?

def tell (adapter : Adapter) (command : Command) (answer : Except UsbError Nat) (effect : List Command) :
    Adapter where
  opened := adapter.opened
  config := adapter.config
  claimed := adapter.claimed
  carried_out := adapter.carried_out ++ effect
  reported := adapter.reported
  asked_mode := (command.mode?.map fun mode => (mode, answer)).or adapter.asked_mode
  offered := adapter.offered

/-- The adapter carried out the command. -/
def Told (before : Adapter) (command : Command) (after : Adapter) : Prop :=
  ∃ n, after = before.tell command (.ok n) [command]

/-- The command ended in the error. -/
def Untold (before : Adapter) (command : Command) (e : UsbError) (after : Adapter) : Prop :=
  ∃ effect, Effect command (.error e) effect ∧ after = before.tell command (.error e) effect

/-- The adapter after `open`, of which nothing is known yet. -/
def fresh (adapter : Adapter) : Adapter where
  opened := true
  config := adapter.config
  claimed := adapter.claimed
  carried_out := []
  reported := none
  asked_mode := none
  offered := []

/-- The link stands as it did. -/
structure SameLink (before after : Adapter) : Prop where
  opened : after.opened = before.opened
  config : after.config = before.config
  claimed : after.claimed = before.claimed
  offered : after.offered = before.offered

/-- A driver may talk on the interface of the adapter. -/
def HasInterface (adapter : Adapter) (P : GsUsbInterfaceInfo → Prop) : Prop :=
  ∃ config, adapter.config = some config ∧ P (gsusb_interface config)

/-- The adapter was given a bit timing that is right for the constants it reported. -/
def Timed (adapter : Adapter) (bitrate : UInt32) : Prop :=
  ∃ bt timing, adapter.reported = some bt ∧ adapter.timing = some timing ∧ Sound bitrate bt timing

/-- The adapter is on the bus, at the bitrate. -/
structure Running (adapter : Adapter) (bitrate : UInt32) : Prop where
  claimed : adapter.claimed.isSome
  mode : adapter.mode = some GS_CAN_MODE_START
  timed : adapter.Timed bitrate

/-- A command that an adapter in this state should be told. -/
def Expects (adapter : Adapter) (bitrate : UInt32) : Command → Prop
  | .HostFormat host_config =>
    host_config.byte_order = GS_USB_HOST_CONFIG_BYTE_ORDER ∧ adapter.carried_out = []
  | .SetBittiming timing => adapter.mode = some GS_CAN_MODE_RESET ∧
      ∃ bt, adapter.reported = some bt ∧ Sound bitrate bt timing
  | .SetMode gs_mode => gs_mode.flags = 0 ∧ (gs_mode.mode = GS_CAN_MODE_RESET ∨
      gs_mode.mode = GS_CAN_MODE_START ∧ adapter.mode = some GS_CAN_MODE_RESET ∧ adapter.Timed bitrate)

variable {Device : Type}

/-- What should be asked of the USB library, and when. -/
def Permits (adapter : Adapter) (bitrate : UInt32) : UsbOp Device → Prop
  | .devices => True
  | .active_config_descriptor _ => True
  | .now => True
  | .open _ => adapter.opened = false
  | .kernel_driver_active _ => adapter.opened = true ∧ adapter.claimed = none
  | .detach_kernel_driver _ => adapter.opened = true ∧ adapter.claimed = none
  | .claim_interface n => adapter.opened = true ∧ adapter.claimed = none ∧
      adapter.HasInterface fun info => info.interface_number = n
  | .clear_halt _ => adapter.claimed.isSome
  | .write_control request_type request _ _ data => adapter.claimed.isSome ∧
      request_type ∈ [USB_REQ_OUT_VENDOR_INTERFACE, USB_REQ_OUT_VENDOR_DEVICE] ∧
      ∃ command, Command.read request data = some command ∧ adapter.Expects bitrate command
  | .read_control request_type _ _ _ _ => adapter.claimed.isSome ∧
      request_type ∈ [USB_REQ_IN_VENDOR_INTERFACE, USB_REQ_IN_VENDOR_DEVICE]
  | .write_bulk endpoint buf => adapter.Running bitrate ∧
      (adapter.HasInterface fun info => info.bulk_out_endpoint = endpoint) ∧
      buf.length = GS_HOST_FRAME_SIZE ∧ Accepted buf ∧ host_echo_id buf = UInt32.ofNat adapter.offered.length
  | .read_bulk endpoint => adapter.Running bitrate ∧
      adapter.HasInterface fun info => info.bulk_in_endpoint = endpoint
  | .release_interface n => adapter.claimed = some n ∧
      ∃ answer, adapter.asked_mode = some (GS_CAN_MODE_RESET, answer)
  | .close => adapter.opened = true ∧ adapter.claimed = none

/-- What may be answered, and what becomes of the adapter. -/
def Answers (before : Adapter) : (op : UsbOp Device) → UsbReply Device op → Adapter → Prop
  | .devices, _, after => after = before
  | .active_config_descriptor _, result, after =>
    after = { before with config := result.toOption.or before.config }
  | .now, _, after => after = before
  | .open _, result, after => after = if result.isOk then before.fresh else before
  | .kernel_driver_active _, _, after => after = before
  | .detach_kernel_driver _, _, after => after = before
  | .claim_interface n, result, after =>
    after = if result.isOk then { before with claimed := some n } else before
  | .clear_halt _, _, after => after = before
  | .write_control _ request _ _ data, answer, after =>
    match Command.read request data with
    | some command => ∃ effect, Effect command answer effect ∧ after = before.tell command answer effect
    | none => after = before
  | .read_control _ request _ _ _, answer, after =>
    after = if request = GS_USB_BREQ_BT_CONST then
      { before with
        reported := (answer.toOption.map fun buf => GsDeviceBtConst.from_bytes buf.val).or before.reported }
    else before
  | .write_bulk _ buf, _, after => after = { before with offered := before.offered ++ [buf] }
  | .read_bulk _, _, after => after = before
  | .release_interface _, _, after => after = { before with claimed := none }
  | .close, _, after => after = { before with opened := false }

end Adapter

/-- Any adapter, under the rules for talking to it. -/
def adapter_link (Device : Type) (bitrate : UInt32) : Environment (UsbOp Device) (UsbReply Device) Adapter where
  permits adapter op := adapter.Permits bitrate op
  answers before op reply after := before.Answers op reply after

namespace Adapter

section Mode

variable {adapter before after : Adapter} {command : Command} {answer : Except UsbError Nat}
  {effect : List Command} {bitrate : UInt32}

theorem SameLink.refl (adapter : Adapter) : adapter.SameLink adapter := ⟨rfl, rfl, rfl, rfl⟩

theorem SameLink.trans {middle : Adapter} (h : before.SameLink middle) (h' : middle.SameLink after) :
    before.SameLink after where
  opened := h'.opened.trans h.opened
  config := h'.config.trans h.config
  claimed := h'.claimed.trans h.claimed
  offered := h'.offered.trans h.offered

theorem sameLink_tell : adapter.SameLink (adapter.tell command answer effect) := ⟨rfl, rfl, rfl, rfl⟩

/-- What is refused leaves no trace, but for what was asked. -/
theorem tell_tell_refused {answer' : Except UsbError Nat} :
    (adapter.tell command answer' []).tell command answer effect = adapter.tell command answer effect := by
  cases command with
  | HostFormat host_config => simp [tell, Command.mode?]
  | SetBittiming timing => simp [tell, Command.mode?]
  | SetMode gs_mode => simp [tell, Command.mode?]

theorem Expects.tell_refused (h : adapter.Expects bitrate command) {other : Command} :
    (adapter.tell other answer []).Expects bitrate command := by
  have hcarried_out : (adapter.tell other answer []).carried_out = adapter.carried_out :=
    List.append_nil adapter.carried_out
  cases command with
  | HostFormat host_config => exact ⟨h.1, hcarried_out.trans h.2⟩
  | SetBittiming timing =>
    simp only [Expects, mode, hcarried_out]
    exact h
  | SetMode gs_mode =>
    simp only [Expects, mode, Timed, timing, hcarried_out]
    exact h

end Mode

end Adapter

end cyphal_service.transport.can_gsusb
