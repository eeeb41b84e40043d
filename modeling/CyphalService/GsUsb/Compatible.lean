import CyphalService.GsUsb.Opening

open checked effect

namespace cyphal_service.transport.can_gsusb

namespace Firmware

/-- It listens for a request at one of some addresses. -/
def Hears (firmware : Firmware) (request : UInt8) (candidates : List Candidate) : Prop :=
  ∃ candidate ∈ candidates, firmware.listens request candidate = true

/-- The driver for its interface. -/
def driver (firmware : Firmware) : GsUsbDriver :=
  let info := gsusb_interface firmware.config
  ⟨0, info.interface_number, info.bulk_in_endpoint, info.bulk_out_endpoint, 0⟩

/-- The bit timing constants it reports. -/
def bt_const (firmware : Firmware) : GsDeviceBtConst :=
  .from_bytes ((firmware.report GS_USB_BREQ_BT_CONST).take 40)

/-- It hears each request at one of the addresses where a driver tries it, reports
its configuration and its constants in full, and these allow the bitrate. -/
structure Configurable (firmware : Firmware) (driver : GsUsbDriver) (bitrate : UInt32) : Prop where
  host_format : firmware.Hears GS_USB_BREQ_HOST_FORMAT
    (driver.interface_candidates USB_REQ_OUT_VENDOR_INTERFACE USB_REQ_OUT_VENDOR_DEVICE)
  device_config : firmware.Hears GS_USB_BREQ_DEVICE_CONFIG
    (driver.interface_candidates USB_REQ_IN_VENDOR_INTERFACE USB_REQ_IN_VENDOR_DEVICE)
  device_config_full : 12 ≤ (firmware.report GS_USB_BREQ_DEVICE_CONFIG).length
  bt_const : firmware.Hears GS_USB_BREQ_BT_CONST
    (driver.channel_candidates USB_REQ_IN_VENDOR_INTERFACE USB_REQ_IN_VENDOR_DEVICE)
  bt_const_full : 40 ≤ (firmware.report GS_USB_BREQ_BT_CONST).length
  set_mode : firmware.Hears GS_USB_BREQ_SET_MODE
    (driver.channel_candidates USB_REQ_OUT_VENDOR_INTERFACE USB_REQ_OUT_VENDOR_DEVICE)
  timing : ∃ timing, compute_bittiming bitrate firmware.bt_const = .ok (some timing)
  set_bittiming : firmware.Hears GS_USB_BREQ_SET_BITTIMING
    (driver.channel_candidates USB_REQ_OUT_VENDOR_INTERFACE USB_REQ_OUT_VENDOR_DEVICE)

theorem hears_cons_iff {firmware : Firmware} {request : UInt8} {candidate : Candidate} {rest : List Candidate} :
    firmware.Hears request (candidate :: rest) ↔
      firmware.listens request candidate = true ∨ firmware.Hears request rest := by
  simp [Hears]

end Firmware

section Gives

variable {Device : Type} {firmware : Firmware} {devices : List Device} {state after : Adapter}
  {last_error : Option UsbError}

/-- A command gets through if one of the addresses is listened at, and is then carried out once. -/
theorem gives_write_control_candidates_iff {command : Command} {candidates : List Candidate} :
    Fallible.Gives (firmware.handler devices)
      (write_control_candidates command.request command.data candidates last_error) state () after ↔
      firmware.Hears command.request candidates ∧
        state.tell command (.ok command.data.length) [command] = after := by
  induction candidates generalizing state last_error with
  | nil =>
    refine iff_of_false (fun h => Fallible.gives_throw_iff.1 h) ?_
    rintro ⟨⟨candidate, hmem, -⟩, -⟩
    cases hmem
  | cons candidate rest ih =>
    obtain ⟨request_type, value, index⟩ := candidate
    rw [write_control_candidates, Fallible.gives_ask_bind_iff, Firmware.hears_cons_iff]
    simp only [Firmware.handler, Command.read_eq_some_iff.2 (And.intro rfl rfl)]
    by_cases hheard : firmware.listens command.request (request_type, value, index) = true
    · simp only [hheard, if_true, true_or, true_and, Fallible.gives_pure_iff]
    · simp only [hheard, Bool.false_eq_true, if_false, false_or, ih, Adapter.tell_tell_refused]

/-- A report is read where the adapter listens for it, if there is enough of it. -/
theorem gives_read_control_candidates_iff {N : Nat} {request : UInt8} {candidates : List Candidate} {buf : Filled N} :
    Fallible.Gives (firmware.handler devices) (read_control_candidates N request candidates last_error) state buf after ↔
      firmware.Hears request candidates ∧ N ≤ (firmware.report request).length ∧
        (firmware.report request).take N = buf.val ∧ state.noted request buf.val = after := by
  induction candidates generalizing last_error with
  | nil =>
    refine iff_of_false (fun h => Fallible.gives_throw_iff.1 h) ?_
    rintro ⟨⟨candidate, hmem, -⟩, -⟩
    cases hmem
  | cons candidate rest ih =>
    obtain ⟨request_type, value, index⟩ := candidate
    rw [read_control_candidates, Fallible.gives_ask_bind_iff, Firmware.hears_cons_iff]
    by_cases hheard : firmware.listens request (request_type, value, index) = true
    · simp only [Firmware.handler, hheard, if_true, true_or, true_and, List.length_take]
      by_cases hfull : N ≤ (firmware.report request).length
      · simp only [Nat.min_eq_left hfull, Nat.le_refl, dif_pos, Fallible.gives_pure_iff, hfull, true_and]
        constructor
        · rintro ⟨rfl, hafter⟩
          exact ⟨rfl, hafter⟩
        · rintro ⟨hbuf, hafter⟩
          obtain rfl : ⟨(firmware.report request).take N, List.length_take_of_le hfull⟩ = buf := Subtype.ext hbuf
          exact ⟨rfl, hafter⟩
      · have hshort : ¬ N ≤ min N (firmware.report request).length := by omega
        rw [dif_neg hshort]
        exact iff_of_false (fun h => Fallible.gives_throw_iff.1 h) fun h => hfull h.1
    · simp only [Firmware.handler, hheard, Bool.false_eq_true, if_false, false_or, ih]

section Results

variable {α : Type} {value : α}

theorem gives_returned_iff {result : Except GsUsbError α} :
    Fallible.Gives (firmware.handler devices) (returned result : Usb Device α) state value after ↔
      result = .ok value ∧ state = after := by
  cases result with
  | ok first =>
    rw [Except.ok.injEq]
    exact Fallible.gives_pure_iff
  | error e => exact iff_of_false (fun h => Fallible.gives_throw_iff.1 h) fun h => nomatch h.1

theorem gives_usb_iff {result : Except UsbError α} :
    Fallible.Gives (firmware.handler devices) (usb result : Usb Device α) state value after ↔
      result = .ok value ∧ state = after := by
  cases result with
  | ok first =>
    rw [Except.ok.injEq]
    exact Fallible.gives_pure_iff
  | error e => exact iff_of_false (fun h => Fallible.gives_throw_iff.1 h) fun h => nomatch h.1

theorem gives_evaluated_iff {result : Checked α} :
    Fallible.Gives (firmware.handler devices) (evaluated result : Usb Device α) state value after ↔
      result = .ok value ∧ state = after := by
  cases result with
  | ok first =>
    rw [Except.ok.injEq]
    exact Fallible.gives_pure_iff
  | error e => exact iff_of_false (fun h => Fallible.gives_throw_iff.1 h) fun h => nomatch h.1

theorem gives_during_iff {step : String} {call : Usb Device α} :
    Fallible.Gives (firmware.handler devices) (during step call) state value after ↔
      Fallible.Gives (firmware.handler devices) call state value after :=
  Fallible.gives_adapt_iff

end Results

theorem timing_to_set_eq_ok_iff {bitrate : UInt32} {bt : GsDeviceBtConst} {timing : GsDeviceBittiming} :
    timing_to_set bitrate bt = .ok (.ok timing) ↔ compute_bittiming bitrate bt = .ok (some timing) := by
  rw [timing_to_set]
  cases compute_bittiming bitrate bt with
  | error fault => simp
  | ok found =>
    cases found with
    | none => simp
    | some timing' => simp

variable {driver : GsUsbDriver} {bitrate : UInt32}

theorem gives_restart_iff {bt : GsDeviceBtConst} :
    (∃ after, Fallible.Gives (firmware.handler devices) (driver.restart bitrate bt) state () after) ↔
      firmware.Hears GS_USB_BREQ_SET_MODE
        (driver.channel_candidates USB_REQ_OUT_VENDOR_INTERFACE USB_REQ_OUT_VENDOR_DEVICE) ∧
      (∃ timing, compute_bittiming bitrate bt = .ok (some timing)) ∧
      firmware.Hears GS_USB_BREQ_SET_BITTIMING
        (driver.channel_candidates USB_REQ_OUT_VENDOR_INTERFACE USB_REQ_OUT_VENDOR_DEVICE) := by
  have hset_mode : ∀ mode state after, Fallible.Gives (firmware.handler devices) (driver.set_mode mode) state () after ↔
      firmware.Hears GS_USB_BREQ_SET_MODE
        (driver.channel_candidates USB_REQ_OUT_VENDOR_INTERFACE USB_REQ_OUT_VENDOR_DEVICE) ∧
      state.tell (mode_command mode) (.ok (mode_command mode).data.length) [mode_command mode] = after :=
    fun mode _ _ => @gives_write_control_candidates_iff Device firmware devices _ _ _ (mode_command mode) _
  have hset_bittiming : ∀ timing state after,
      Fallible.Gives (firmware.handler devices) (driver.set_bittiming timing) state () after ↔
      firmware.Hears GS_USB_BREQ_SET_BITTIMING
        (driver.channel_candidates USB_REQ_OUT_VENDOR_INTERFACE USB_REQ_OUT_VENDOR_DEVICE) ∧
      state.tell (.SetBittiming timing) (.ok (Command.SetBittiming timing).data.length) [.SetBittiming timing] = after :=
    fun timing _ _ => @gives_write_control_candidates_iff Device firmware devices _ _ _ (.SetBittiming timing) _
  simp only [GsUsbDriver.restart, Fallible.gives_bind_iff, gives_during_iff, hset_mode, gives_evaluated_iff,
    gives_returned_iff, hset_bittiming]
  constructor
  · rintro ⟨-, -, -, ⟨hmode, -⟩, timed, -, ⟨htimed, -⟩, timing, -, ⟨rfl, -⟩, -, -, ⟨htiming, -⟩, -⟩
    exact ⟨hmode, ⟨timing, timing_to_set_eq_ok_iff.1 htimed⟩, htiming⟩
  · rintro ⟨hmode, ⟨timing, hcomputed⟩, htiming⟩
    have htimed := timing_to_set_eq_ok_iff.2 hcomputed
    exact ⟨_, (), _, ⟨hmode, rfl⟩, .ok timing, _, ⟨htimed, rfl⟩, timing, _, ⟨rfl, rfl⟩, (), _, ⟨htiming, rfl⟩,
      hmode, rfl⟩

theorem gives_clear_halt_conditions_iff {value : Unit} :
    Fallible.Gives (firmware.handler devices) driver.clear_halt_conditions state value after ↔ state = after := by
  change ((Except.ok () : Except Exit Unit), state) = (.ok value, after) ↔ _
  rw [Prod.mk.injEq]
  exact and_iff_right rfl

theorem gives_read_device_config_iff :
    (∃ config, Fallible.Gives (firmware.handler devices) driver.read_device_config state config after) ↔
      firmware.Hears GS_USB_BREQ_DEVICE_CONFIG
        (driver.interface_candidates USB_REQ_IN_VENDOR_INTERFACE USB_REQ_IN_VENDOR_DEVICE) ∧
      12 ≤ (firmware.report GS_USB_BREQ_DEVICE_CONFIG).length ∧ state = after := by
  have hother : ∀ buf, state.noted GS_USB_BREQ_DEVICE_CONFIG buf = state := fun _ => if_neg (by decide)
  simp only [GsUsbDriver.read_device_config, Fallible.gives_bind_iff, gives_read_control_candidates_iff,
    Fallible.gives_pure_iff, hother]
  constructor
  · rintro ⟨config, buf, middle, ⟨hheard, hfull, -, rfl⟩, -, rfl⟩
    exact ⟨hheard, hfull, rfl⟩
  · rintro ⟨hheard, hfull, rfl⟩
    exact ⟨_, ⟨_, List.length_take_of_le hfull⟩, state, ⟨hheard, hfull, rfl, rfl⟩, rfl, rfl⟩

theorem gives_read_bt_const_iff {bt : GsDeviceBtConst} :
    Fallible.Gives (firmware.handler devices) driver.read_bt_const state bt after ↔
      firmware.Hears GS_USB_BREQ_BT_CONST
        (driver.channel_candidates USB_REQ_IN_VENDOR_INTERFACE USB_REQ_IN_VENDOR_DEVICE) ∧
      40 ≤ (firmware.report GS_USB_BREQ_BT_CONST).length ∧ firmware.bt_const = bt ∧ state.reporting bt = after := by
  have hconst : ∀ buf, state.noted GS_USB_BREQ_BT_CONST buf = state.reporting (.from_bytes buf) := fun _ => if_pos rfl
  simp only [GsUsbDriver.read_bt_const, Fallible.gives_bind_iff, gives_read_control_candidates_iff,
    Fallible.gives_pure_iff, hconst]
  constructor
  · rintro ⟨buf, middle, ⟨hheard, hfull, hbuf, rfl⟩, rfl, rfl⟩
    exact ⟨hheard, hfull, by rw [Firmware.bt_const, hbuf], rfl⟩
  · rintro ⟨hheard, hfull, rfl, rfl⟩
    exact ⟨⟨_, List.length_take_of_le hfull⟩, _, ⟨hheard, hfull, rfl, rfl⟩, rfl, rfl⟩

/-- The driver can configure and start exactly such an adapter. -/
theorem gives_configure_iff :
    (∃ after, Fallible.Gives (firmware.handler devices) (driver.configure bitrate) state () after) ↔
      firmware.Configurable driver bitrate := by
  have hformat : ∀ state after, Fallible.Gives (firmware.handler devices) driver.configure_host_format state () after ↔
      firmware.Hears GS_USB_BREQ_HOST_FORMAT
        (driver.interface_candidates USB_REQ_OUT_VENDOR_INTERFACE USB_REQ_OUT_VENDOR_DEVICE) ∧
      state.tell host_format (.ok host_format.data.length) [host_format] = after :=
    fun _ _ => @gives_write_control_candidates_iff Device firmware devices _ _ _ host_format _
  simp only [GsUsbDriver.configure, Fallible.gives_bind_iff, gives_during_iff, gives_clear_halt_conditions_iff,
    hformat, gives_read_bt_const_iff]
  constructor
  · rintro ⟨after, -, -, -, -, formatted, ⟨hformat, -⟩, config, described, hconfig, bt, reporting,
      ⟨hbt, hbt_full, rfl, -⟩, hrestart⟩
    obtain ⟨hdescribed, hconfig_full, -⟩ := gives_read_device_config_iff.1 ⟨config, hconfig⟩
    obtain ⟨hset_mode, htiming, hset_bittiming⟩ := gives_restart_iff.1 ⟨after, hrestart⟩
    exact ⟨hformat, hdescribed, hconfig_full, hbt, hbt_full, hset_mode, htiming, hset_bittiming⟩
  · intro h
    obtain ⟨config, hconfig⟩ := (@gives_read_device_config_iff Device firmware devices _ _ driver).2
      ⟨h.device_config, h.device_config_full, rfl⟩
    obtain ⟨after, hrestart⟩ := (@gives_restart_iff Device firmware devices _ driver bitrate firmware.bt_const).2
      ⟨h.set_mode, h.timing, h.set_bittiming⟩
    exact ⟨after, (), state, rfl, (), _, ⟨h.host_format, rfl⟩, config, _, hconfig, _, _,
      ⟨h.bt_const, h.bt_const_full, rfl, rfl⟩, hrestart⟩

theorem gives_claim_iff {linux : Bool} {n : UInt8} {value : Unit} :
    Fallible.Gives (firmware.handler devices) (GsUsbDriver.claim linux n) state value after ↔
      { state with claimed := some n } = after := by
  change ((GsUsbDriver.claim linux n : Usb Device Unit).run.run (firmware.handler devices) state) = (.ok value, after) ↔ _
  have hclaim : (GsUsbDriver.claim linux n : Usb Device Unit).run.run (firmware.handler devices) state =
      (.ok (), { state with claimed := some n }) := by
    cases linux with
    | false => rfl
    | true => rfl
  rw [hclaim, Prod.mk.injEq]
  exact and_iff_right rfl

end Gives

/-- An adapter that works is opened exactly if it is the one that is asked for, hears each
request at one of the addresses that are tried, reports its configuration and its
constants in full, and these allow the bitrate without an overflow. -/
theorem open_succeeds_iff {Device : Type} (firmware : Firmware) (devices : List Device) (linux : Bool)
    (device_descriptor : Device → Except UsbError DeviceDescriptor) (index : UInt32) (vid pid : Option UInt16)
    (bitrate : UInt32) (before : Adapter) (driver : GsUsbDriver) :
    (∃ after, Fallible.Gives (firmware.handler devices)
      (GsUsbDriver.open linux device_descriptor index vid pid bitrate) before driver after) ↔
      (∃ device, open_candidate device_descriptor (.ok devices) index vid pid = .ok device) ∧
        firmware.Configurable firmware.driver bitrate ∧ firmware.driver = driver := by
  unfold GsUsbDriver.open
  simp only [Fallible.gives_bind_iff, Fallible.gives_ask_iff, gives_returned_iff, gives_usb_iff,
    Fallible.gives_owning_iff, gives_claim_iff, Fallible.gives_pure_iff, Firmware.handler]
  constructor
  · rintro ⟨after, _, _, ⟨rfl, rfl⟩, device, _, ⟨hdevice, rfl⟩, _, _, ⟨rfl, -⟩, info, _, ⟨hinfo, -⟩,
      _, _, -, _, _, -, _, claimed, -, _, configured, hconfigured, hdriver, -⟩
    obtain rfl : gsusb_interface firmware.config = info := Except.ok.inj hinfo
    exact ⟨⟨device, hdevice⟩, gives_configure_iff.1 ⟨configured, hconfigured⟩, hdriver⟩
  · rintro ⟨⟨device, hdevice⟩, hconfigurable, hdriver⟩
    obtain ⟨after, hconfigured⟩ := (@gives_configure_iff Device firmware devices
      { ({ before with config := some firmware.config } : Adapter).fresh with
        claimed := some (gsusb_interface firmware.config).interface_number } _ bitrate).2 hconfigurable
    exact ⟨after, _, _, ⟨rfl, rfl⟩, device, _, ⟨hdevice, rfl⟩, _, _, ⟨rfl, rfl⟩, _, _, ⟨rfl, rfl⟩, _, _, ⟨rfl, rfl⟩,
      (), _, ⟨rfl, rfl⟩, (), _, rfl, (), after, hconfigured, hdriver, rfl⟩

end cyphal_service.transport.can_gsusb
