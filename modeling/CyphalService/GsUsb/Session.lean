import CyphalService.GsUsb.Opening
import CyphalService.Lib.Recording

open checked effect

namespace cyphal_service.transport.can_gsusb

/-- What was asked of the USB library in a session, and answered. -/
abbrev Record (Device : Type) := List (Exchange (UsbOp Device) (UsbReply Device))

/-- The owner hands these frames over on the way to its result, where each call of the
driver comes to its reply on its part of the record. -/
inductive Hands {Device α : Type} {ids : CanIds} (lt : Microseconds32 → Microseconds32 → Bool) :
    Program (DriverCall ids) (DriverReply ids) α → GsUsbDriver → Record Device → List (Frame ids) →
      α × GsUsbDriver → Prop where
  | pure (value : α) (driver : GsUsbDriver) : Hands lt (.pure value) driver [] [] (value, driver)
  | transmit {frame : Frame ids} {classic : frame.data.length ≤ 8}
      {next : DriverReply ids (.transmit frame classic) → Program (DriverCall ids) (DriverReply ids) α}
      {driver sent : GsUsbDriver} {reply : DriverReply ids (.transmit frame classic)} {segment log : Record Device}
      {frames : List (Frame ids)} {served : α × GsUsbDriver}
      (hreply : (driver.transmit lt frame).run.Follows segment (.ok (reply, sent)))
      (h : Hands lt (next reply) sent log frames served) :
      Hands lt (.perform (.transmit frame classic) next) driver (segment ++ log) (frame :: frames) served
  | receive {next : DriverReply ids .receive → Program (DriverCall ids) (DriverReply ids) α} {driver : GsUsbDriver}
      {reply : DriverReply ids .receive} {segment log : Record Device} {frames : List (Frame ids)}
      {served : α × GsUsbDriver} (hreply : (driver.receive ids).run.Follows segment (.ok reply))
      (h : Hands lt (next reply) driver log frames served) :
      Hands lt (.perform .receive next) driver (segment ++ log) frames served

/-- The host frames of frames, numbered from `n` on. -/
def host_frames {ids : CanIds} : Nat → List (Frame ids) → List (List UInt8)
  | _, [] => []
  | n, frame :: frames => host_frame (UInt32.ofNat n) (ids.into frame.id ||| GS_CAN_EFF_FLAG) frame.data ::
      host_frames (n + 1) frames

section Serve

variable {Device α : Type} {ids : CanIds} {bitrate : UInt32} {before : Adapter} {driver : GsUsbDriver}
  {lt : Microseconds32 → Microseconds32 → Bool}

theorem host_echo_id_host_frame (echo_id can_id : UInt32) (data : List UInt8) :
    host_echo_id (host_frame echo_id can_id data) = echo_id := by
  rw [host_echo_id, host_frame]
  simp only [List.append_assoc]
  rw [List.take_left' (bytes.u32.length_to_le_bytes echo_id), bytes.u32.from_le_bytes_to_le_bytes]

/-- What is encoded is a frame that would be decoded. -/
theorem accepted_host_frame (hids : ids.Exact) (frame : Frame ids) (echo_id : UInt32)
    (classic : frame.data.length ≤ 8) :
    Accepted (host_frame echo_id (ids.into frame.id ||| GS_CAN_EFF_FLAG) frame.data) := by
  by_contra hrejected
  have hdecoded := decode_host_frame hids frame echo_id 0 classic
  rw [decode_frame_of_rejected 0 hrejected] at hdecoded
  cases hdecoded

theorem Ready.running (h : Ready bitrate driver before) : before.Running bitrate :=
  h.started.running (by rw [h.claimed]; rfl)

/-- A buffer was offered to the adapter, with the next number. -/
theorem Ready.offer (h : Ready bitrate driver before) (buf : List UInt8) :
    Ready bitrate { driver with echo_counter := driver.echo_counter + 1 }
      { before with offered := before.offered ++ [buf] } where
  opened := h.opened
  claimed := h.claimed
  interface := h.interface
  started := ⟨h.started.told, h.started.asked⟩
  echo := by
    rw [h.echo, List.length_append, List.length_singleton, UInt32.ofNat_add]
    rfl

theorem transmit_safe (hids : ids.Exact) (hready : Ready bitrate driver before) (frame : Frame ids)
    (classic : frame.data.length ≤ 8) :
    Fallible.Safe (adapter_link Device bitrate)
      (fun sent after => Ready bitrate sent.2 after ∧ ∃ written, written.Sublist [frame] ∧
        after.offered = before.offered ++ host_frames before.offered.length written)
      (fun _ _ => False) (driver.transmit lt frame) before := by
  refine .bind (.ask (P := fun _ after => after = before) trivial fun _ _ hanswers => hanswers) ?_
  intro now after hafter
  rw [hafter]
  by_cases hmissed : lt frame.timestamp now = true
  · simp only [hmissed, if_true]
    exact .pure ⟨hready, [], List.nil_sublist _, (List.append_nil _).symm⟩
  · simp only [hmissed]
    rw [encode_frame_eq frame driver.echo_counter classic]
    refine .bind (P := fun buf after => after = before ∧
      buf = host_frame driver.echo_counter (ids.into frame.id ||| GS_CAN_EFF_FLAG) frame.data) ⟨rfl, rfl⟩ ?_
    rintro buf after ⟨hafter, hbuf⟩
    rw [hafter]
    have hpermits : before.Permits bitrate (.write_bulk driver.bulk_out_endpoint buf : UsbOp Device) := by
      refine ⟨hready.running, ?_, ?_, ?_, ?_⟩
      · obtain ⟨config, hconfig, hinfo⟩ := hready.interface
        exact ⟨config, hconfig, by rw [hinfo]⟩
      · rw [hbuf]
        exact length_host_frame classic
      · rw [hbuf]
        exact accepted_host_frame hids frame _ classic
      · rw [hbuf, host_echo_id_host_frame, hready.echo]
    refine .bind (.ask hpermits fun _ _ hanswers => hanswers) ?_
    intro written after hafter
    have hoffered : after.offered = before.offered ++ host_frames before.offered.length [frame] := by
      rw [hafter, hbuf, hready.echo]
      rfl
    have hnext : Ready bitrate { driver with echo_counter := driver.echo_counter + 1 } after := by
      rw [hafter]
      exact hready.offer buf
    -- The counter has moved on, whatever came of the write.
    cases written with
    | ok n => exact .pure ⟨hnext, [frame], .refl _, hoffered⟩
    | error e =>
      cases e with
      | Timeout => exact .pure ⟨hnext, [frame], .refl _, hoffered⟩
      | _ => exact .pure ⟨hnext, [frame], .refl _, hoffered⟩

/-- Receiving never faults. -/
theorem receive_ok (read_bulk : Except UsbError Transfer) (now : Microseconds32) :
    ∃ received, receive ids read_bulk now = .ok received := by
  cases read_bulk with
  | ok transfer =>
    rw [receive, decode_frame_eq, ok_bind]
    generalize (if Accepted (transfer.read_into (List.replicate GS_HOST_FRAME_SIZE 0)) then _ else none) = decoded
    cases decoded with
    | none => exact ⟨_, rfl⟩
    | some frame => exact ⟨_, rfl⟩
  | error e =>
    cases e with
    | Timeout => exact ⟨_, rfl⟩
    | _ => exact ⟨_, rfl⟩

theorem receive_safe (hready : Ready bitrate driver before) :
    Fallible.Safe (adapter_link Device bitrate) (fun _ after => after = before) (fun _ _ => False)
      (driver.receive ids) before := by
  have hpermits : before.Permits bitrate (.read_bulk driver.bulk_in_endpoint : UsbOp Device) := by
    refine ⟨hready.running, ?_⟩
    obtain ⟨config, hconfig, hinfo⟩ := hready.interface
    exact ⟨config, hconfig, by rw [hinfo]⟩
  have hreceived : ∀ read_bulk now, Fallible.Safe (adapter_link Device bitrate) (fun _ after => after = before)
      (fun _ _ => False) (evaluated (receive ids read_bulk now)) before := by
    intro read_bulk now
    obtain ⟨received, hreceived⟩ := @receive_ok ids read_bulk now
    rw [hreceived]
    exact rfl
  refine .bind (.ask (P := fun _ after => after = before) hpermits fun _ _ hanswers => hanswers) ?_
  intro read after hafter
  rw [hafter]
  cases read with
  | ok transfer =>
    refine .bind (.ask (P := fun _ after => after = before) trivial fun _ _ hanswers => hanswers) ?_
    intro now after hafter
    rw [hafter]
    exact hreceived _ _
  | error e => exact hreceived _ _

theorem host_frames_append (n : Nat) (frames frames' : List (Frame ids)) :
    host_frames n (frames ++ frames') = host_frames n frames ++ host_frames (n + frames.length) frames' := by
  induction frames generalizing n with
  | nil => rfl
  | cons frame frames ih =>
    rw [List.cons_append, host_frames, host_frames, ih, List.cons_append, List.length_cons, Nat.add_right_comm,
      Nat.add_assoc]

theorem length_host_frames (n : Nat) (frames : List (Frame ids)) :
    (host_frames n frames).length = frames.length := by
  induction frames generalizing n with
  | nil => rfl
  | cons frame frames ih => rw [host_frames, List.length_cons, List.length_cons, ih]

/-- Whatever the owner does with the driver, it never faults, and the frames that
are offered are frames that were handed over, in their order. -/
theorem serve_safe (hids : ids.Exact) (owner : Program (DriverCall ids) (DriverReply ids) α)
    (hready : Ready bitrate driver before) (log : Record Device) :
    Fallible.Safe (adapter_link Device bitrate).recording
      (fun served after => Ready bitrate served.2 after.1 ∧
        ∃ segment frames written, after.2 = log ++ segment ∧ Hands lt owner driver segment frames served ∧
          written.Sublist frames ∧ after.1.offered = before.offered ++ host_frames before.offered.length written)
      (fun _ _ => False) (serve lt owner driver) (before, log) := by
  induction owner generalizing driver before log with
  | pure value =>
    exact .pure ⟨hready, [], [], [], (List.append_nil log).symm, .pure value driver, .refl _, (List.append_nil _).symm⟩
  | perform call next ih =>
    cases call with
    | transmit frame classic =>
      refine .bind ((transmit_safe hids hready frame classic).recording log) ?_
      rintro ⟨reply, sent⟩ ⟨middle, log'⟩ ⟨⟨hready, first, hfirst, hmiddle⟩, segment, hsegment, hreply⟩
      obtain rfl : log' = log ++ segment := hsegment
      refine (ih reply hready _).mono ?_ fun _ _ hfalse => hfalse
      rintro served ⟨after, log'⟩ ⟨hready, rest, frames, written, hrest, hhands, hwritten, hafter⟩
      refine ⟨hready, segment ++ rest, frame :: frames, first ++ written, ?_, .transmit hreply hhands,
        hfirst.append hwritten, ?_⟩
      · rw [hrest, List.append_assoc]
      · rw [hafter, hmiddle, host_frames_append, List.length_append, length_host_frames, List.append_assoc]
    | receive =>
      refine .bind ((receive_safe hready).recording log) ?_
      rintro reply ⟨middle, log'⟩ ⟨hmiddle, segment, hsegment, hreply⟩
      obtain rfl : middle = before := hmiddle
      obtain rfl : log' = log ++ segment := hsegment
      refine (ih reply hready _).mono ?_ fun _ _ hfalse => hfalse
      rintro served ⟨after, log'⟩ ⟨hready, rest, frames, written, hrest, hhands, hwritten, hafter⟩
      refine ⟨hready, segment ++ rest, frames, written, ?_, .receive hreply hhands, hwritten, hafter⟩
      rw [hrest, List.append_assoc]

end Serve

section Session

variable {Device α : Type} {ids : CanIds} (lt : Microseconds32 → Microseconds32 → Bool) (linux : Bool)
  (device_descriptor : Device → Except UsbError DeviceDescriptor) (index : UInt32) (vid pid : Option UInt16)
  (bitrate : UInt32) (owner : Program (DriverCall ids) (DriverReply ids) α) {before : Adapter}

/-- How a session ends that got its driver: on the record it was opened, served its
owner and was dropped, and of the frames that were handed over some were offered in
their order, to an adapter that was told to start and nothing else until it was
dropped. -/
def Ended (value : α) (after : Adapter) (log : Record Device) : Prop :=
  ∃ opening serving dropping driver last served frames written, log = opening ++ serving ++ dropping ∧
    (GsUsbDriver.open linux device_descriptor index vid pid bitrate).run.Follows opening (.ok driver) ∧
    Hands lt owner driver serving frames (value, last) ∧ last.drop.Follows dropping () ∧
    written.Sublist frames ∧ Started bitrate served ∧ served.offered = host_frames 0 written ∧ Dropped served after

theorem session_safe (hids : ids.Exact) (hopened : before.opened = false) (hclaimed : before.claimed = none) :
    Fallible.Safe (adapter_link Device bitrate).recording
      (fun value after => Ended lt linux device_descriptor index vid pid bitrate owner value after.1 after.2)
      (fun exit after => OpenFailed bitrate before exit after.1)
      (session lt linux device_descriptor index vid pid bitrate owner) (before, []) := by
  refine .bind ((open_safe hopened hclaimed).recording []) ?_
  rintro driver ⟨opened, opening⟩ ⟨⟨hready, hoffered⟩, _, rfl, hopens⟩
  refine .bind (Fallible.Safe.owning (serve_safe hids owner hready _) fun _ _ => False.elim) ?_
  rintro ⟨value, last⟩ ⟨served, _⟩ ⟨hready, serving, frames, written, rfl, hhands, hwritten, hserved⟩
  refine .bind (.lift ((drop_safe hready.opened hready.claimed).recording _)) ?_
  rintro _ ⟨after, _⟩ ⟨hdropped, dropping, rfl, hdrops⟩
  refine .pure ⟨opening, serving, dropping, driver, last, served, frames, written, rfl, hopens, hhands, hdrops,
    hwritten, hready.started, ?_, hdropped⟩
  rw [hserved, hoffered]
  rfl

/-- At every point of every session with any adapter only what is permitted is
asked of it. A session that got its driver ends in order, as its record tells, and
one that got none leaves what `open` leaves. -/
theorem session_orderly (hids : ids.Exact) (before : Adapter) (hopened : before.opened = false)
    (hclaimed : before.claimed = none)
    (config : Program (UsbOp Device) (UsbReply Device) (Except Exit α) × Adapter × Record Device)
    (hreaches : Program.Reaches (adapter_link Device bitrate).recording
      ((session lt linux device_descriptor index vid pid bitrate owner).run, before, []) config) :
    (∀ op next, config.1 = .perform op next → config.2.1.Permits bitrate op) ∧
    (∀ value, config.1 = .pure (.ok value) →
      Ended lt linux device_descriptor index vid pid bitrate owner value config.2.1 config.2.2) ∧
    (∀ exit, config.1 = .pure (.error exit) → OpenFailed bitrate before exit config.2.1) :=
  (session_safe lt linux device_descriptor index vid pid bitrate owner hids hopened hclaimed).of_reaches hreaches

/-- If an adapter still runs after a session, it was never opened in it, or it answered the
request to reset with an error. -/
theorem session_left (hids : ids.Exact) (before : Adapter) (hopened : before.opened = false)
    (hclaimed : before.claimed = none)
    (config : Program (UsbOp Device) (UsbReply Device) (Except Exit α) × Adapter)
    (hreaches : Program.Reaches (adapter_link Device bitrate)
      ((session lt linux device_descriptor index vid pid bitrate owner).run, before) config)
    (result : Except Exit α) (hend : config.1 = .pure result) :
    config.2.opened = false ∧ config.2.claimed = none ∧ (config.2.mode = some GS_CAN_MODE_START →
      config.2.carried_out = before.carried_out ∨
        ∃ e, config.2.asked_mode = some (GS_CAN_MODE_RESET, .error e)) := by
  obtain ⟨log, hrecorded⟩ := hreaches.recorded []
  obtain ⟨-, hvalue, hexit⟩ :=
    (session_safe lt linux device_descriptor index vid pid bitrate owner hids hopened hclaimed).of_reaches hrecorded
  have hdropped : ∀ stopped, Dropped stopped config.2 → config.2.opened = false ∧ config.2.claimed = none ∧
      (config.2.mode = some GS_CAN_MODE_START → config.2.carried_out = before.carried_out ∨
        ∃ e, config.2.asked_mode = some (GS_CAN_MODE_RESET, .error e)) := by
    intro stopped h
    obtain ⟨hclosed, hreleased, hmode⟩ := h.let_go
    refine ⟨hclosed, hreleased, fun hrunning => ?_⟩
    obtain hreset | herror := hmode
    · rw [hreset] at hrunning
      exact absurd hrunning (by decide)
    · exact .inr herror
  cases result with
  | ok value =>
    obtain ⟨_, _, _, _, _, served, _, _, -, -, -, -, -, -, -, h⟩ := hvalue value hend
    exact hdropped served h
  | error exit =>
    cases hexit exit hend with
    | unclaimed e hclosed hreleased htold =>
      refine ⟨hclosed, hreleased, fun hrunning => ?_⟩
      obtain htold | htold := htold
      · exact .inl htold
      · rw [Adapter.mode, htold] at hrunning
        cases hrunning
    | stopped _ h => exact hdropped _ h

end Session

/-- An owner that transmits a heartbeat and looks for a frame. -/
def heartbeat_owner : Program (DriverCall exact_ids) (DriverReply exact_ids) Unit :=
  .perform (.transmit (heartbeat_frame 1000) (by decide)) fun _ => .perform .receive fun _ => .pure ()

def heartbeat_session : Except Exit Unit × Adapter :=
  (session (fun timestamp now => timestamp < now) true canable_descriptor 0 none none 1000000 heartbeat_owner).run.run
    (candlelight_firmware.handler [()]) unopened

theorem heartbeat_session_fst : heartbeat_session.1 = .ok () := by decide

theorem session_orderly_heartbeat :
    ∃ log, Ended (fun timestamp now => timestamp < now) true canable_descriptor 0 none none 1000000
      heartbeat_owner () heartbeat_session.2 log := by
  obtain ⟨log, hrecorded⟩ := (Program.reaches_run (candlelight_firmware.handler_answers [()] 1000000)
    (session (fun timestamp now => timestamp < now) true canable_descriptor 0 none none 1000000
      heartbeat_owner).run unopened).recorded []
  exact ⟨log, (session_orderly (fun timestamp now => timestamp < now) true canable_descriptor 0 none none 1000000
    heartbeat_owner exact_ids_exact unopened rfl rfl (.pure heartbeat_session.1, heartbeat_session.2, log)
    hrecorded).2.1 () (congrArg Program.pure heartbeat_session_fst)⟩

theorem session_left_heartbeat : heartbeat_session.2.opened = false :=
  (session_left (fun timestamp now => timestamp < now) true canable_descriptor 0 none none 1000000
    heartbeat_owner exact_ids_exact unopened rfl rfl (.pure heartbeat_session.1, heartbeat_session.2)
    (Program.reaches_run (candlelight_firmware.handler_answers [()] 1000000) _ _)
    heartbeat_session.1 rfl).1

end cyphal_service.transport.can_gsusb
