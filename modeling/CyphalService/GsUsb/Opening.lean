import CyphalService.GsUsb.Configure
import CyphalService.GsUsb.Firmware

open checked effect

namespace cyphal_service.transport.can_gsusb

/-- The adapter was asked to reset, whatever came of it, and then let go. -/
def Dropped (before after : Adapter) : Prop :=
  ∃ answer effect, Effect (mode_command GS_CAN_MODE_RESET) answer effect ∧
    after = { before.tell (mode_command GS_CAN_MODE_RESET) answer effect with opened := false, claimed := none }

/-- A driver and the adapter that it serves. -/
structure Ready (bitrate : UInt32) (driver : GsUsbDriver) (adapter : Adapter) : Prop where
  opened : adapter.opened = true
  claimed : adapter.claimed = some driver.interface_number
  interface : adapter.HasInterface fun info =>
    info = ⟨driver.interface_number, driver.bulk_in_endpoint, driver.bulk_out_endpoint⟩
  started : Started bitrate adapter
  echo : driver.echo_counter = UInt32.ofNat adapter.offered.length

/-- What an adapter is left as when it could not be opened. -/
inductive OpenFailed (bitrate : UInt32) (before : Adapter) : Exit → Adapter → Prop where
  | unclaimed {after : Adapter} (e : UsbError) (hopened : after.opened = false) (hclaimed : after.claimed = none)
      (htold : after.carried_out = before.carried_out ∨ after.carried_out = []) :
      OpenFailed bitrate before (.err (.Usb e)) after
  | stopped {after stopped : Adapter} {exit : Exit} (h : Stopped bitrate stopped exit)
      (hdropped : Dropped stopped after) : OpenFailed bitrate before exit after

section Open

variable {Device : Type} {bitrate : UInt32} {before : Adapter} {driver : GsUsbDriver}

theorem drop_safe (hopened : before.opened = true) (hclaimed : before.claimed = some driver.interface_number) :
    Program.Safe (adapter_link Device bitrate) (fun _ after => Dropped before after) driver.drop before := by
  have hmode : Fallible.Safe (adapter_link Device bitrate) _ _ (driver.set_mode GS_CAN_MODE_RESET) before :=
    set_mode_safe (by rw [hclaimed]; rfl) ⟨rfl, .inl rfl⟩
  refine Program.Safe.bind hmode ?_
  intro result after houtcome
  -- The result is not looked at: the request was answered in one way or the other.
  have hasked : ∃ answer effect, Effect (mode_command GS_CAN_MODE_RESET) answer effect ∧
      after = before.tell (mode_command GS_CAN_MODE_RESET) answer effect := by
    cases result with
    | ok value =>
      obtain ⟨n, hafter⟩ := houtcome
      exact ⟨.ok n, _, rfl, hafter⟩
    | error exit =>
      obtain ⟨e, -, effect, heffect, hafter⟩ := houtcome
      exact ⟨.error e, effect, heffect, hafter⟩
  obtain ⟨answer, effect, heffect, rfl⟩ := hasked
  refine Program.Safe.bind (.ask ⟨hclaimed, answer, rfl⟩ fun _ _ hanswers => hanswers) ?_
  intro released after hreleased
  refine .ask ⟨?_, ?_⟩ ?_
  · rw [hreleased]
    exact hopened
  · rw [hreleased]
  · intro _ closed hclosed
    refine ⟨answer, effect, heffect, ?_⟩
    rw [hclosed, hreleased]

theorem claim_interface_safe {interface_number : UInt8} (hopened : before.opened = true)
    (hclaimed : before.claimed = none)
    (hinterface : before.HasInterface fun info => info.interface_number = interface_number) :
    Fallible.Safe (adapter_link Device bitrate)
      (fun _ after => after = { before with claimed := some interface_number })
      (fun exit after => ∃ e, exit = Exit.err (.Usb e) ∧ after = before)
      (do usb (← Fallible.ask (.claim_interface interface_number)) : Usb Device Unit) before := by
  refine .bind (.ask ⟨hopened, hclaimed, hinterface⟩ fun _ _ hanswers => hanswers) ?_
  intro result after hafter
  rw [hafter]
  cases result with
  | ok value => exact usb_safe (fun _ _ => rfl) fun e herror => nomatch herror
  | error e => exact usb_safe (fun _ hok => nomatch hok) fun e _ => ⟨e, rfl, rfl⟩

theorem claim_safe {linux : Bool} {interface_number : UInt8} (hopened : before.opened = true)
    (hclaimed : before.claimed = none)
    (hinterface : before.HasInterface fun info => info.interface_number = interface_number) :
    Fallible.Safe (adapter_link Device bitrate)
      (fun _ after => after = { before with claimed := some interface_number })
      (fun exit after => ∃ e, exit = Exit.err (.Usb e) ∧ after = before)
      (GsUsbDriver.claim linux interface_number) before := by
  have hclaim := @claim_interface_safe Device bitrate before interface_number hopened hclaimed hinterface
  cases linux with
  | false => exact hclaim
  | true =>
    refine .bind (.ask (P := fun _ after => after = before) ⟨hopened, hclaimed⟩ fun _ _ hanswers => hanswers) ?_
    intro active after hafter
    rw [hafter]
    by_cases hactive : active.toOption.getD false = true
    · simp only [hactive, if_true]
      refine .bind (.ask (P := fun _ after => after = before) ⟨hopened, hclaimed⟩ fun _ _ hanswers => hanswers) ?_
      intro detached after hafter
      rw [hafter]
      refine .bind (usb_safe (P := fun _ after => after = before) (fun _ _ => rfl) fun e _ => ⟨e, rfl, rfl⟩) ?_
      intro _ after hafter
      rw [hafter]
      exact hclaim
    · simp only [hactive]
      exact hclaim

/-- The errors of the search are those of the USB library. -/
theorem open_candidate_error {device_descriptor : Device → Except UsbError DeviceDescriptor}
    {devices : Except UsbError (List Device)} {index : UInt32} {vid pid : Option UInt16} {e : GsUsbError}
    (h : open_candidate device_descriptor devices index vid pid = .error e) : ∃ source, e = .Usb source := by
  cases devices with
  | error source =>
    cases h
    exact ⟨source, rfl⟩
  | ok device_list =>
    simp only [open_candidate, Except.mapError, bind, Except.bind] at h
    split at h
    · cases h
    · obtain rfl := Except.error.inj h
      exact ⟨.NotFound, rfl⟩

theorem returned_safe {α : Type} {P : α → Adapter → Prop} {E : Exit → Adapter → Prop}
    {result : Except GsUsbError α} (hok : ∀ value, result = .ok value → P value before)
    (herror : ∀ e, result = .error e → E (.err e) before) :
    Fallible.Safe (adapter_link Device bitrate) P E (returned result : Usb Device α) before := by
  cases result with
  | ok value => exact hok value rfl
  | error e => exact herror e rfl

/-- A claimed device that was told nothing is configured, or dropped. -/
theorem configured_safe {listed : Adapter} (hopened : before.opened = true)
    (hclaimed : before.claimed = some driver.interface_number) (hfresh : before.carried_out = [])
    (hoffered : before.offered = []) (hecho : driver.echo_counter = 0)
    (hinterface : before.HasInterface fun info =>
      info = ⟨driver.interface_number, driver.bulk_in_endpoint, driver.bulk_out_endpoint⟩) :
    Fallible.Safe (adapter_link Device bitrate)
      (fun driver after => Ready bitrate driver after ∧ after.offered = [])
      (fun exit after => OpenFailed bitrate listed exit after)
      (do
        Fallible.owning driver.drop (driver.configure bitrate)
        return driver) before := by
  refine .bind (Fallible.Safe.owning (configure_safe (by rw [hclaimed]; rfl) hfresh) ?_) ?_
  · rintro exit stopped ⟨hstopped, hsame⟩
    refine (drop_safe (hsame.opened.trans hopened) (hsame.claimed.trans hclaimed)).mono ?_
    intro _ after hdropped
    exact .stopped hstopped hdropped
  rintro _ after ⟨hstarted, hsame⟩
  refine .pure ⟨⟨hsame.opened.trans hopened, hsame.claimed.trans hclaimed, ?_, hstarted, ?_⟩, ?_⟩
  · obtain ⟨config, hconfig, hfound⟩ := hinterface
    exact ⟨config, by rw [hsame.config, hconfig], hfound⟩
  · rw [hsame.offered, hoffered, hecho]
    rfl
  · rw [hsame.offered, hoffered]

/-- A device that was just opened is claimed, or closed. -/
theorem claimed_safe {linux : Bool} {listed : Adapter} {interface_number : UInt8} (hopened : before.opened = true)
    (hclaimed : before.claimed = none) (hfresh : before.carried_out = [])
    (hinterface : before.HasInterface fun info => info.interface_number = interface_number) :
    Fallible.Safe (adapter_link Device bitrate)
      (fun _ after => after = { before with claimed := some interface_number })
      (fun exit after => OpenFailed bitrate listed exit after)
      (Fallible.owning (Program.ask UsbOp.close) (GsUsbDriver.claim linux interface_number)) before := by
  refine Fallible.Safe.owning (claim_safe hopened hclaimed hinterface) ?_
  rintro exit after ⟨e, rfl, hafter⟩
  rw [hafter]
  refine .ask ⟨hopened, hclaimed⟩ ?_
  intro _ closed hclosed
  refine .unclaimed e ?_ ?_ (.inr ?_)
  · rw [hclosed]
  · rw [hclosed]
    exact hclaimed
  · rw [hclosed]
    exact hfresh

theorem open_safe {linux : Bool} {device_descriptor : Device → Except UsbError DeviceDescriptor} {index : UInt32}
    {vid pid : Option UInt16} (hopened : before.opened = false) (hclaimed : before.claimed = none) :
    Fallible.Safe (adapter_link Device bitrate)
      (fun driver after => Ready bitrate driver after ∧ after.offered = [])
      (fun exit after => OpenFailed bitrate before exit after)
      (GsUsbDriver.open linux device_descriptor index vid pid bitrate) before := by
  have hunopened : ∀ e, OpenFailed bitrate before (.err (.Usb e)) before :=
    fun e => .unclaimed e hopened hclaimed (.inl rfl)
  refine .bind (.ask (P := fun _ after => after = before) trivial fun _ _ hanswers => hanswers) ?_
  intro device_list after hafter
  rw [hafter]
  refine .bind (returned_safe (P := fun _ after => after = before) (fun _ _ => rfl) ?_) ?_
  · intro e herror
    obtain ⟨source, rfl⟩ := open_candidate_error herror
    exact hunopened source
  intro device after hafter
  rw [hafter]
  refine .bind (.ask trivial fun _ _ hanswers => hanswers) ?_
  intro active described hdescribed
  have hdescribed_opened : described.opened = false := by
    rw [hdescribed]
    exact hopened
  have hdescribed_claimed : described.claimed = none := by
    rw [hdescribed]
    exact hclaimed
  have hdescribed_told : described.carried_out = before.carried_out := by rw [hdescribed]
  have hundescribed : ∀ e, OpenFailed bitrate before (.err (.Usb e)) described :=
    fun e => .unclaimed e hdescribed_opened hdescribed_claimed (.inl hdescribed_told)
  cases active with
  | error e => exact .bind (P := fun _ _ => False) (hundescribed e) fun _ _ => False.elim
  | ok config =>
    have hconfig : described.config = some config := by
      rw [hdescribed]
      rfl
    refine .bind (P := fun info after => after = described ∧ info = gsusb_interface config) ⟨rfl, rfl⟩ ?_
    rintro info after ⟨hafter, hinfo⟩
    rw [hafter]
    refine .bind (.ask hdescribed_opened fun _ _ hanswers => hanswers) ?_
    intro opening opened hanswered
    cases opening with
    | error e =>
      obtain rfl : opened = described := hanswered
      exact .bind (P := fun _ _ => False) (hundescribed e) fun _ _ => False.elim
    | ok value =>
      obtain rfl : opened = described.fresh := hanswered
      have hinterface : described.fresh.HasInterface fun found => found = info := ⟨config, hconfig, hinfo.symm⟩
      have hnumber : described.fresh.HasInterface fun found => found.interface_number = info.interface_number :=
        ⟨config, hconfig, by rw [hinfo]⟩
      refine .bind (P := fun _ after => after = described.fresh) rfl ?_
      intro _ after hafter
      rw [hafter]
      refine .bind (claimed_safe rfl hdescribed_claimed rfl hnumber) ?_
      intro _ claimed hclaimed
      rw [hclaimed]
      exact @configured_safe Device bitrate _ ⟨0, info.interface_number, info.bulk_in_endpoint, info.bulk_out_endpoint, 0⟩
        _ rfl rfl rfl rfl rfl hinterface

end Open

/-- An adapter that was dropped is not held, and it was reset, or it answered that with an error. -/
theorem Dropped.let_go {before after : Adapter} (h : Dropped before after) :
    after.opened = false ∧ after.claimed = none ∧ (after.mode = some GS_CAN_MODE_RESET ∨
      ∃ e, after.asked_mode = some (GS_CAN_MODE_RESET, .error e)) := by
  obtain ⟨answer, effect, heffect, rfl⟩ := h
  refine ⟨rfl, rfl, ?_⟩
  cases answer with
  | ok n =>
    obtain rfl : effect = [mode_command GS_CAN_MODE_RESET] := heffect
    refine .inl ?_
    rw [Adapter.mode, Adapter.tell, List.reverse_append]
    rfl
  | error e => exact .inr ⟨e, rfl⟩

/-- An adapter that was started runs, with a bit timing that is right for it. -/
theorem Started.running {bitrate : UInt32} {adapter : Adapter} (h : Started bitrate adapter)
    (hclaimed : adapter.claimed.isSome) : adapter.Running bitrate := by
  obtain ⟨bt, timing, hreported, hcomputed, htold⟩ := h.told
  refine ⟨hclaimed, ?_, bt, timing, hreported, ?_, sound_of_computed hcomputed⟩
  · rw [Adapter.mode, htold]
    rfl
  · rw [Adapter.timing, htold]
    rfl

section Run

variable {Device : Type} (linux : Bool) (device_descriptor : Device → Except UsbError DeviceDescriptor)
  (index : UInt32) (vid pid : Option UInt16) (bitrate : UInt32)

end Run

end cyphal_service.transport.can_gsusb
