import CyphalService.GsUsb.Adapter

open checked effect

namespace cyphal_service.transport.can_gsusb

section Candidates

variable {Device : Type} {bitrate : UInt32} {before state : Adapter} {command : Command} {last_error : Option UsbError}

/-- What trying the rest of the addresses comes to, once some of them may have been stalled. -/
theorem write_rest_safe {candidates : List Candidate} (hclaimed : state.claimed.isSome)
    (hout : ∀ c ∈ candidates, c.1 ∈ [USB_REQ_OUT_VENDOR_INTERFACE, USB_REQ_OUT_VENDOR_DEVICE])
    (hexpects : state.Expects bitrate command)
    (hstate : ∀ answer effect, state.tell command answer effect = before.tell command answer effect)
    (hstalled : candidates = [] → last_error = some .Pipe ∧ state = before.tell command (.error .Pipe) []) :
    Fallible.Safe (adapter_link Device bitrate)
      (fun _ after => before.Told command after)
      (fun exit after => ∃ e, exit = Exit.err (.Usb e) ∧ before.Untold command e after)
      (write_control_candidates command.request command.data candidates last_error) state := by
  induction candidates generalizing state last_error with
  | nil =>
    obtain ⟨rfl, rfl⟩ := hstalled rfl
    exact .throw ⟨.Pipe, rfl, [], .inl rfl, rfl⟩
  | cons candidate rest ih =>
    obtain ⟨request_type, value, index⟩ := candidate
    have hpermits : state.Permits bitrate
        (.write_control request_type command.request value index command.data : UsbOp Device) :=
      ⟨hclaimed, hout _ List.mem_cons_self, command, Command.read_eq_some_iff.2 ⟨rfl, rfl⟩, hexpects⟩
    refine Fallible.Safe.bind (.ask hpermits fun _ _ hanswers => hanswers) ?_
    intro written after hanswers
    simp only [adapter_link, Adapter.Answers, Command.read_eq_some_iff.2 (And.intro rfl rfl)] at hanswers
    obtain ⟨effect, heffect, rfl⟩ := hanswers
    rw [hstate]
    cases written with
    | ok n =>
      obtain rfl : effect = [command] := heffect
      exact .pure ⟨n, rfl⟩
    | error e =>
      cases e with
      | Pipe =>
        obtain rfl : effect = [] := heffect.elim id fun h => absurd rfl h.1
        have hrefused := hstate (.error .Pipe) []
        refine ih ?_ ?_ ?_ ?_ ?_
        · rw [← hrefused]
          exact hclaimed
        · exact fun c hc => hout c (List.mem_cons_of_mem _ hc)
        · rw [← hrefused]
          exact hexpects.tell_refused
        · exact fun answer effect => Adapter.tell_tell_refused
        · exact fun _ => ⟨rfl, rfl⟩
      | _ => exact .throw ⟨_, rfl, effect, heffect, rfl⟩

/-- A command is tried until an address is not stalled: it is carried out once,
or an error tells that it was not, or that nobody knows. -/
theorem write_control_candidates_safe {candidates : List Candidate} (hne : candidates ≠ [])
    (hclaimed : before.claimed.isSome)
    (hout : ∀ c ∈ candidates, c.1 ∈ [USB_REQ_OUT_VENDOR_INTERFACE, USB_REQ_OUT_VENDOR_DEVICE])
    (hexpects : before.Expects bitrate command) :
    Fallible.Safe (adapter_link Device bitrate)
      (fun _ after => before.Told command after)
      (fun exit after => ∃ e, exit = Exit.err (.Usb e) ∧ before.Untold command e after)
      (write_control_candidates command.request command.data candidates last_error) before :=
  write_rest_safe hclaimed hout hexpects (fun _ _ => rfl) fun hnil => absurd hnil hne

/-- The adapter reported what was read, if it was asked for its constants. -/
def Adapter.noted (before : Adapter) (request : UInt8) (buf : List UInt8) : Adapter :=
  if request = GS_USB_BREQ_BT_CONST then { before with reported := some (.from_bytes buf) } else before

/-- An answer is read in full, and nothing else changes. -/
theorem read_control_candidates_safe {N : Nat} {request : UInt8} {candidates : List Candidate}
    (hclaimed : before.claimed.isSome)
    (hin : ∀ c ∈ candidates, c.1 ∈ [USB_REQ_IN_VENDOR_INTERFACE, USB_REQ_IN_VENDOR_DEVICE]) :
    Fallible.Safe (adapter_link Device bitrate)
      (fun buf after => after = before.noted request buf.val)
      (fun exit after => ∃ e, exit = Exit.err (.Usb e) ∧ (after = before ∨ ∃ buf, after = before.noted request buf))
      (read_control_candidates N request candidates last_error) before := by
  induction candidates generalizing last_error with
  | nil => exact .throw ⟨_, rfl, .inl rfl⟩
  | cons candidate rest ih =>
    obtain ⟨request_type, value, index⟩ := candidate
    have hpermits : before.Permits bitrate (.read_control request_type request value index N : UsbOp Device) :=
      ⟨hclaimed, hin _ List.mem_cons_self⟩
    refine Fallible.Safe.bind (.ask hpermits fun _ _ hanswers => hanswers) ?_
    intro read after hanswers
    simp only [adapter_link, Adapter.Answers] at hanswers
    cases read with
    | ok answer =>
      have hnoted : after = before.noted request answer.val := by
        rw [hanswers, Adapter.noted]
        rfl
      by_cases hfull : N ≤ answer.val.length
      · simp only [dif_pos hfull]
        exact .pure hnoted
      · simp only [dif_neg hfull]
        exact .throw ⟨.Other, rfl, .inr ⟨_, hnoted⟩⟩
    | error e =>
      have hkept : after = before := by
        rw [hanswers]
        exact ite_self before
      rw [hkept]
      cases e with
      | Pipe => exact ih fun c hc => hin c (List.mem_cons_of_mem _ hc)
      | _ => exact .throw ⟨_, rfl, .inl rfl⟩

end Candidates

/-- The command that negotiates the byte order. -/
def host_format : Command := .HostFormat ⟨GS_USB_HOST_CONFIG_BYTE_ORDER⟩

/-- The command that sets a mode. -/
def mode_command (mode : UInt32) : Command := .SetMode ⟨mode, 0⟩

/-- What an adapter is told until it runs with a bit timing. -/
def initialisation (timing : GsDeviceBittiming) : List Command :=
  [host_format, mode_command GS_CAN_MODE_RESET, .SetBittiming timing, mode_command GS_CAN_MODE_START]

/-- How far an adapter was configured when that stopped. -/
inductive Stopped (bitrate : UInt32) (adapter : Adapter) : Exit → Prop where
  | halted (e : UsbError) (h : adapter.carried_out = []) : Stopped bitrate adapter (.err (.Usb e))
  | host_format (e : UsbError) (effect : List Command) (heffect : Effect host_format (.error e) effect)
      (h : adapter.carried_out = effect) :
      Stopped bitrate adapter (.err (.ProtocolStep "host format negotiation" e))
  | device_config (e : UsbError) (h : adapter.carried_out = [can_gsusb.host_format]) :
      Stopped bitrate adapter (.err (.ProtocolStep "device configuration read" e))
  | bt_const (e : UsbError) (h : adapter.carried_out = [can_gsusb.host_format]) :
      Stopped bitrate adapter (.err (.ProtocolStep "bit timing constants read" e))
  | reset_mode (e : UsbError) (effect : List Command)
      (heffect : Effect (mode_command GS_CAN_MODE_RESET) (.error e) effect)
      (h : adapter.carried_out = can_gsusb.host_format :: effect) :
      Stopped bitrate adapter (.err (.ProtocolStep "reset mode configuration" e))
  | unsupported (bt : GsDeviceBtConst) (hreported : adapter.reported = some bt)
      (hnone : compute_bittiming bitrate bt = .ok none)
      (h : adapter.carried_out = [can_gsusb.host_format, mode_command GS_CAN_MODE_RESET]) :
      Stopped bitrate adapter (.err (.UnsupportedBitrate bitrate))
  | panicked (fault : Fault) (bt : GsDeviceBtConst) (hreported : adapter.reported = some bt)
      (hfault : compute_bittiming bitrate bt = .error fault)
      (h : adapter.carried_out = [can_gsusb.host_format, mode_command GS_CAN_MODE_RESET]) :
      Stopped bitrate adapter (.panic fault)
  | bittiming (e : UsbError) (timing : GsDeviceBittiming) (effect : List Command)
      (heffect : Effect (.SetBittiming timing) (.error e) effect)
      (h : adapter.carried_out = can_gsusb.host_format :: mode_command GS_CAN_MODE_RESET :: effect) :
      Stopped bitrate adapter (.err (.ProtocolStep "bit timing configuration" e))
  | normal_mode (e : UsbError) (timing : GsDeviceBittiming) (effect : List Command)
      (heffect : Effect (mode_command GS_CAN_MODE_START) (.error e) effect)
      (h : adapter.carried_out =
        can_gsusb.host_format :: mode_command GS_CAN_MODE_RESET :: .SetBittiming timing :: effect) :
      Stopped bitrate adapter (.err (.ProtocolStep "normal mode configuration" e))

/-- The adapter runs, and was told what that takes and nothing else. -/
structure Started (bitrate : UInt32) (adapter : Adapter) : Prop where
  told : ∃ bt timing, adapter.reported = some bt ∧ compute_bittiming bitrate bt = .ok (some timing) ∧
    adapter.carried_out = initialisation timing
  asked : ∃ n, adapter.asked_mode = some (GS_CAN_MODE_START, .ok n)

section Configure

variable {Device : Type} {bitrate : UInt32} {before : Adapter} {driver : GsUsbDriver}

theorem interface_candidates_fst {interface device : UInt8} :
    ∀ c ∈ driver.interface_candidates interface device, c.1 ∈ [interface, device] := by
  simp [GsUsbDriver.interface_candidates]

theorem channel_candidates_fst {interface device : UInt8} :
    ∀ c ∈ driver.channel_candidates interface device, c.1 ∈ [interface, device] := by
  simp [GsUsbDriver.channel_candidates]

/-- An error of a step tells which step it was. -/
theorem during_safe {α : Type} {P : α → Adapter → Prop} {Q : UsbError → Adapter → Prop} {step : String}
    {call : Usb Device α}
    (h : Fallible.Safe (adapter_link Device bitrate) P
      (fun exit after => ∃ e, exit = Exit.err (.Usb e) ∧ Q e after) call before) :
    Fallible.Safe (adapter_link Device bitrate) P
      (fun exit after => ∃ e, exit = Exit.err (.ProtocolStep step e) ∧ Q e after) (during step call) before := by
  refine Fallible.Safe.adapt (h.mono (fun _ _ hvalue => hvalue) ?_)
  rintro exit after ⟨e, rfl, hstop⟩
  exact ⟨e, rfl, hstop⟩

theorem usb_safe {α : Type} {P : α → Adapter → Prop} {E : Exit → Adapter → Prop} {result : Except UsbError α}
    (hok : ∀ value, result = .ok value → P value before)
    (herror : ∀ e, result = .error e → E (.err (.Usb e)) before) :
    Fallible.Safe (adapter_link Device bitrate) P E (usb result : Usb Device α) before := by
  cases result with
  | ok value => exact hok value rfl
  | error e => exact herror e rfl

theorem clear_halt_conditions_safe (hclaimed : before.claimed.isSome) :
    Fallible.Safe (adapter_link Device bitrate) (fun _ after => after = before)
      (fun exit after => ∃ e, exit = Exit.err (.Usb e) ∧ after = before)
      (driver.clear_halt_conditions : Usb Device Unit) before := by
  have hclear : ∀ endpoint, Fallible.Safe (adapter_link Device bitrate) (fun _ after => after = before)
      (fun exit after => ∃ e, exit = Exit.err (.Usb e) ∧ after = before)
      (Fallible.ask (.clear_halt endpoint)) before :=
    fun endpoint => .ask hclaimed fun _ _ hanswers => hanswers
  refine .bind (hclear driver.bulk_in_endpoint) ?_
  intro cleared after hafter
  rw [hafter]
  refine .bind (usb_safe (P := fun _ after => after = before) (fun _ _ => rfl) fun e _ => ⟨e, rfl, rfl⟩) ?_
  intro _ after hafter
  rw [hafter]
  refine .bind (hclear driver.bulk_out_endpoint) ?_
  intro cleared after hafter
  rw [hafter]
  exact usb_safe (fun _ _ => rfl) fun e _ => ⟨e, rfl, rfl⟩

theorem configure_host_format_safe (hclaimed : before.claimed.isSome) (hcarried_out : before.carried_out = []) :
    Fallible.Safe (adapter_link Device bitrate) (fun _ after => before.Told host_format after)
      (fun exit after => ∃ e, exit = Exit.err (.Usb e) ∧ before.Untold host_format e after)
      driver.configure_host_format before :=
  write_control_candidates_safe (List.cons_ne_nil _ _) hclaimed interface_candidates_fst ⟨rfl, hcarried_out⟩

theorem read_device_config_safe (hclaimed : before.claimed.isSome) :
    Fallible.Safe (adapter_link Device bitrate) (fun _ after => after = before)
      (fun exit after => ∃ e, exit = Exit.err (.Usb e) ∧ after = before) driver.read_device_config before := by
  have hother : ∀ buf, before.noted GS_USB_BREQ_DEVICE_CONFIG buf = before := fun _ => if_neg (by decide)
  have hread := @read_control_candidates_safe Device bitrate before none 12 GS_USB_BREQ_DEVICE_CONFIG _ hclaimed
    (@interface_candidates_fst driver USB_REQ_IN_VENDOR_INTERFACE USB_REQ_IN_VENDOR_DEVICE)
  refine .bind_mono hread ?_ ?_
  · rintro exit after ⟨e, rfl, hafter⟩
    refine ⟨e, rfl, ?_⟩
    obtain hafter | ⟨buf, hafter⟩ := hafter
    · exact hafter
    · exact hafter.trans (hother buf)
  · intro buf after hafter
    exact .pure (hafter.trans (hother buf.val))

/-- The adapter when its constants were read. -/
def Adapter.reporting (before : Adapter) (bt : GsDeviceBtConst) : Adapter where
  opened := before.opened
  config := before.config
  claimed := before.claimed
  carried_out := before.carried_out
  reported := some bt
  asked_mode := before.asked_mode
  offered := before.offered

theorem read_bt_const_safe (hclaimed : before.claimed.isSome) :
    Fallible.Safe (adapter_link Device bitrate) (fun bt after => after = before.reporting bt)
      (fun exit after => ∃ e, exit = Exit.err (.Usb e) ∧ (after = before ∨ ∃ bt, after = before.reporting bt))
      driver.read_bt_const before := by
  have hconst : ∀ buf, before.noted GS_USB_BREQ_BT_CONST buf = before.reporting (.from_bytes buf) :=
    fun _ => if_pos rfl
  have hread := @read_control_candidates_safe Device bitrate before none 40 GS_USB_BREQ_BT_CONST _ hclaimed
    (@channel_candidates_fst driver USB_REQ_IN_VENDOR_INTERFACE USB_REQ_IN_VENDOR_DEVICE)
  refine .bind_mono hread ?_ ?_
  · rintro exit after ⟨e, rfl, hafter⟩
    refine ⟨e, rfl, ?_⟩
    obtain hafter | ⟨buf, hafter⟩ := hafter
    · exact .inl hafter
    · exact .inr ⟨_, hafter.trans (hconst buf)⟩
  · intro buf after hafter
    exact .pure (hafter.trans (hconst buf.val))

theorem set_bittiming_safe {timing : GsDeviceBittiming} (hclaimed : before.claimed.isSome)
    (hexpects : before.Expects bitrate (.SetBittiming timing)) :
    Fallible.Safe (adapter_link Device bitrate) (fun _ after => before.Told (.SetBittiming timing) after)
      (fun exit after => ∃ e, exit = Exit.err (.Usb e) ∧ before.Untold (.SetBittiming timing) e after)
      (driver.set_bittiming timing) before :=
  write_control_candidates_safe (List.cons_ne_nil _ _) hclaimed channel_candidates_fst hexpects

theorem set_mode_safe {mode : UInt32} (hclaimed : before.claimed.isSome)
    (hexpects : before.Expects bitrate (mode_command mode)) :
    Fallible.Safe (adapter_link Device bitrate) (fun _ after => before.Told (mode_command mode) after)
      (fun exit after => ∃ e, exit = Exit.err (.Usb e) ∧ before.Untold (mode_command mode) e after)
      (driver.set_mode mode) before :=
  write_control_candidates_safe (List.cons_ne_nil _ _) hclaimed channel_candidates_fst hexpects

theorem sound_of_computed {bt : GsDeviceBtConst} {timing : GsDeviceBittiming}
    (h : compute_bittiming bitrate bt = .ok (some timing)) : Sound bitrate bt timing := by
  rw [compute_bittiming_eq] at h
  obtain ⟨⟨tseg1, tseg2⟩, hmem, htimed⟩ := mem_of_first_some h
  have htried := tried bitrate bt tseg1 tseg2
  rw [htimed] at htried
  exact sound_of_tried (GsDeviceBtConst.mem_segments.1 hmem) htried

/-- The bit timing is computed, or there is none. -/
theorem evaluated_timing_safe {bt : GsDeviceBtConst} (hreported : before.reported = some bt)
    (htold : before.carried_out = [host_format, mode_command GS_CAN_MODE_RESET]) :
    Fallible.Safe (adapter_link Device bitrate)
      (fun timed after => after = before ∧ timing_to_set bitrate bt = .ok timed)
      (fun exit after => Stopped bitrate after exit ∧ after = before) (evaluated (timing_to_set bitrate bt)) before := by
  cases htimed : timing_to_set bitrate bt with
  | ok timed => exact ⟨rfl, rfl⟩
  | error fault =>
    have hfault : compute_bittiming bitrate bt = .error fault := by
      rw [timing_to_set] at htimed
      cases hcomputed : compute_bittiming bitrate bt with
      | error fault' =>
        rw [hcomputed] at htimed
        cases htimed
        rfl
      | ok found =>
        rw [hcomputed] at htimed
        cases found with
        | none => cases htimed
        | some timing => cases htimed
    exact ⟨.panicked fault bt hreported hfault htold, rfl⟩

theorem returned_timing_safe {bt : GsDeviceBtConst} {timed : Except GsUsbError GsDeviceBittiming}
    (hreported : before.reported = some bt) (htimed : timing_to_set bitrate bt = .ok timed)
    (htold : before.carried_out = [host_format, mode_command GS_CAN_MODE_RESET]) :
    Fallible.Safe (adapter_link Device bitrate)
      (fun timing after => after = before ∧ compute_bittiming bitrate bt = .ok (some timing))
      (fun exit after => Stopped bitrate after exit ∧ after = before) (returned timed) before := by
  rw [timing_to_set] at htimed
  cases hcomputed : compute_bittiming bitrate bt with
  | error fault =>
    rw [hcomputed] at htimed
    cases htimed
  | ok found =>
    rw [hcomputed] at htimed
    cases found with
    | none =>
      cases htimed
      exact ⟨.unsupported bt hreported hcomputed htold, rfl⟩
    | some timing =>
      cases htimed
      exact ⟨rfl, rfl⟩

/-- After a reset, an adapter is started with the computed bit timing, or that stops. -/
theorem start_timed_safe {bt : GsDeviceBtConst} {timing : GsDeviceBittiming} (hclaimed : before.claimed.isSome)
    (hreported : before.reported = some bt)
    (htold : before.carried_out = [host_format, mode_command GS_CAN_MODE_RESET])
    (hcomputed : compute_bittiming bitrate bt = .ok (some timing)) :
    Fallible.Safe (adapter_link Device bitrate) (fun _ after => Started bitrate after ∧ before.SameLink after)
      (fun exit after => Stopped bitrate after exit ∧ before.SameLink after)
      (do
        during "bit timing configuration" (driver.set_bittiming timing)
        during "normal mode configuration" (driver.set_mode GS_CAN_MODE_START)) before := by
  have hsound := sound_of_computed hcomputed
  have hmode : before.mode = some GS_CAN_MODE_RESET := by
    rw [Adapter.mode, htold]
    rfl
  refine .bind_mono (during_safe (set_bittiming_safe hclaimed ⟨hmode, bt, hreported, hsound⟩)) ?_ ?_
  · rintro exit after ⟨e, rfl, effect, heffect, rfl⟩
    refine ⟨.bittiming e timing effect heffect ?_, Adapter.sameLink_tell⟩
    rw [Adapter.tell, htold]
    rfl
  rintro _ timed ⟨n_timing, htimed⟩
  have htimed_link : before.SameLink timed := htimed ▸ Adapter.sameLink_tell
  have htimed_told : timed.carried_out =
      [host_format, mode_command GS_CAN_MODE_RESET, .SetBittiming timing] := by
    rw [htimed, Adapter.tell, htold]
    rfl
  have htimed_bt : timed.reported = some bt := by
    rw [htimed]
    exact hreported
  have htimed_claimed : timed.claimed.isSome := by rwa [htimed_link.claimed]
  have htimed_mode : timed.mode = some GS_CAN_MODE_RESET := by
    rw [Adapter.mode, htimed_told]
    rfl
  have htimed_timing : timed.timing = some timing := by
    rw [Adapter.timing, htimed_told]
    rfl
  have hstart : timed.Expects bitrate (mode_command GS_CAN_MODE_START) :=
    ⟨rfl, .inr ⟨rfl, htimed_mode, bt, timing, htimed_bt, htimed_timing, hsound⟩⟩
  refine (during_safe (set_mode_safe htimed_claimed hstart)).mono ?_ ?_
  · rintro _ after ⟨n_start, rfl⟩
    refine ⟨⟨⟨bt, timing, htimed_bt, hcomputed, ?_⟩, n_start, rfl⟩, htimed_link.trans Adapter.sameLink_tell⟩
    rw [Adapter.tell, htimed_told]
    rfl
  · rintro exit after ⟨e, rfl, effect, heffect, rfl⟩
    refine ⟨.normal_mode e timing effect heffect ?_, htimed_link.trans Adapter.sameLink_tell⟩
    rw [Adapter.tell, htimed_told]
    rfl

/-- With its constants reported and the byte order set, an adapter is restarted,
or that stops after some of the steps. -/
theorem restart_safe {bt : GsDeviceBtConst} (hclaimed : before.claimed.isSome) (hreported : before.reported = some bt)
    (htold : before.carried_out = [host_format]) :
    Fallible.Safe (adapter_link Device bitrate) (fun _ after => Started bitrate after ∧ before.SameLink after)
      (fun exit after => Stopped bitrate after exit ∧ before.SameLink after) (driver.restart bitrate bt) before := by
  refine .bind_mono (during_safe (set_mode_safe hclaimed ⟨rfl, .inl rfl⟩)) ?_ ?_
  · rintro exit after ⟨e, rfl, effect, heffect, rfl⟩
    refine ⟨.reset_mode e effect heffect ?_, Adapter.sameLink_tell⟩
    rw [Adapter.tell, htold]
    rfl
  rintro _ reset ⟨n_reset, hreset⟩
  have hreset_link : before.SameLink reset := hreset ▸ Adapter.sameLink_tell
  have hreset_told : reset.carried_out = [host_format, mode_command GS_CAN_MODE_RESET] := by
    rw [hreset, Adapter.tell, htold]
    rfl
  have hreset_bt : reset.reported = some bt := by
    rw [hreset]
    exact hreported
  have hreset_claimed : reset.claimed.isSome := by rwa [hreset_link.claimed]
  refine .bind_mono (evaluated_timing_safe hreset_bt hreset_told) ?_ ?_
  · rintro exit after ⟨hstopped, rfl⟩
    exact ⟨hstopped, hreset_link⟩
  rintro timed after ⟨hafter, htimed⟩
  rw [hafter]
  refine .bind_mono (returned_timing_safe hreset_bt htimed hreset_told) ?_ ?_
  · rintro exit after ⟨hstopped, rfl⟩
    exact ⟨hstopped, hreset_link⟩
  rintro timing after ⟨hafter, hcomputed⟩
  rw [hafter]
  refine (start_timed_safe hreset_claimed hreset_bt hreset_told hcomputed).mono ?_ ?_
  · rintro _ after ⟨hstarted, hsame⟩
    exact ⟨hstarted, hreset_link.trans hsame⟩
  · rintro exit after ⟨hstopped, hsame⟩
    exact ⟨hstopped, hreset_link.trans hsame⟩

/-- Configuring a claimed adapter starts it, or stops after some of the steps. -/
theorem configure_safe (hclaimed : before.claimed.isSome) (hfresh : before.carried_out = []) :
    Fallible.Safe (adapter_link Device bitrate) (fun _ after => Started bitrate after ∧ before.SameLink after)
      (fun exit after => Stopped bitrate after exit ∧ before.SameLink after) (driver.configure bitrate) before := by
  refine .bind_mono (clear_halt_conditions_safe hclaimed) ?_ ?_
  · rintro exit after ⟨e, rfl, hafter⟩
    rw [hafter]
    exact ⟨.halted e hfresh, .refl before⟩
  intro _ cleared hcleared
  rw [hcleared]
  refine .bind_mono (during_safe (configure_host_format_safe hclaimed hfresh)) ?_ ?_
  · rintro exit after ⟨e, rfl, effect, heffect, rfl⟩
    refine ⟨.host_format e effect heffect ?_, Adapter.sameLink_tell⟩
    rw [Adapter.tell, hfresh, List.nil_append]
  rintro _ formatted ⟨n_format, hformatted⟩
  have hlink : before.SameLink formatted := hformatted ▸ Adapter.sameLink_tell
  have htold : formatted.carried_out = [host_format] := by
    rw [hformatted, Adapter.tell, hfresh, List.nil_append]
  have hformatted_claimed : formatted.claimed.isSome := by rwa [hlink.claimed]
  refine .bind_mono (during_safe (read_device_config_safe hformatted_claimed)) ?_ ?_
  · rintro exit after ⟨e, rfl, hafter⟩
    rw [hafter]
    exact ⟨.device_config e htold, hlink⟩
  intro _ described hdescribed
  rw [hdescribed]
  refine .bind_mono (during_safe (read_bt_const_safe hformatted_claimed)) ?_ ?_
  · rintro exit after ⟨e, rfl, hafter⟩
    obtain hafter | ⟨bt, hafter⟩ := hafter
    · rw [hafter]
      exact ⟨.bt_const e htold, hlink⟩
    · rw [hafter]
      exact ⟨.bt_const e htold, hlink.trans ⟨rfl, rfl, rfl, rfl⟩⟩
  intro bt reporting hreporting
  have hreporting_link : before.SameLink reporting := hlink.trans (hreporting ▸ ⟨rfl, rfl, rfl, rfl⟩)
  have hreporting_told : reporting.carried_out = [host_format] := hreporting ▸ htold
  have hreporting_claimed : reporting.claimed.isSome := by rwa [hreporting_link.claimed]
  refine (restart_safe hreporting_claimed (by rw [hreporting]; rfl) hreporting_told).mono ?_ ?_
  · rintro _ after ⟨hstarted, hafter⟩
    exact ⟨hstarted, hreporting_link.trans hafter⟩
  · rintro exit after ⟨hstopped, hafter⟩
    exact ⟨hstopped, hreporting_link.trans hafter⟩

end Configure

end cyphal_service.transport.can_gsusb
