import CyphalService.GsUsb.Codec

open checked

namespace cyphal_service.transport.can_gsusb

/-- The bytes that a bulk read delivers into a buffer for one host frame. -/
structure Transfer where
  bytes : List UInt8
  bounded : bytes.length ≤ GS_HOST_FRAME_SIZE

/-- The buffer after the read: what was not written keeps its content. -/
def Transfer.read_into (transfer : Transfer) (buf : List UInt8) : List UInt8 :=
  transfer.bytes ++ buf.drop transfer.bytes.length

/-- Receive a frame, given what `read_bulk` gives and the clock reads. -/
def receive (ids : CanIds) (read_bulk : Except UsbError Transfer) (now : Microseconds32) :
    Checked (Except (NbError GsUsbError) (Frame ids)) := do
  let buf := List.replicate GS_HOST_FRAME_SIZE 0
  match read_bulk with
  | .ok transfer =>
    match ← decode_frame ids (transfer.read_into buf) now with
    | some frame => return .ok frame
    | none => return .error (.Other .InvalidFrame)
  | .error .Timeout => return .error .WouldBlock
  | .error e => return .error (.Other (.Usb e))

/-- A frame comes from a transfer of full size that decodes to it, with data that
was sent, and a shorter transfer is an invalid frame. -/
structure Faithful (ids : CanIds) (transfer : Transfer) (now : Microseconds32) : Prop where
  full : ∀ frame, receive ids (.ok transfer) now = .ok (.ok frame) →
    GS_HOST_FRAME_SIZE ≤ transfer.bytes.length ∧ decode_frame ids transfer.bytes now = .ok (some frame)
  sent : ∀ frame, receive ids (.ok transfer) now = .ok (.ok frame) → frame.data <+: transfer.bytes.drop 12
  short : transfer.bytes.length < GS_HOST_FRAME_SIZE →
    receive ids (.ok transfer) now = .ok (.error (.Other .InvalidFrame))

/-- The transfer reaches the byte with the flags of the identifier, and these are
EFF without RTR and ERR. -/
def Transfer.Extended (transfer : Transfer) : Prop :=
  ∃ flags : UInt8, transfer.bytes[7]? = some flags ∧ flags >>> 5 = 0b100

/-- The flags stand in the upper three bits of the eighth byte. -/
theorem host_can_id_div {buf : List UInt8} (h : 8 ≤ buf.length) :
    (host_can_id buf).toNat / 2 ^ 29 = (buf.getD 7 0).toNat / 32 := by
  have hlength : ((buf.drop 4).take 4).length = 4 := by
    rw [List.length_take, List.length_drop]
    omega
  have hlow_length : ((buf.drop 4).take 3).length = 3 := by
    rw [List.length_take, List.length_drop]
    omega
  have hsplit : (buf.drop 4).take 4 = (buf.drop 4).take 3 ++ [buf.getD 7 0] := by
    rw [List.take_add_one, List.getElem?_drop, List.getD_eq_getElem?_getD, List.getElem?_eq_getElem (by omega)]
    rfl
  have hlow := bytes.from_le_bytes_lt ((buf.drop 4).take 3)
  rw [host_can_id, bytes.u32.toNat_from_le_bytes hlength, hsplit, bytes.from_le_bytes_append, hlow_length]
  rw [hlow_length] at hlow
  simp only [bytes.from_le_bytes]
  omega

section Short

variable {transfer : Transfer}

theorem length_read_into : (transfer.read_into (List.replicate GS_HOST_FRAME_SIZE 0)).length =
    GS_HOST_FRAME_SIZE := by
  have hbounded := transfer.bounded
  rw [Transfer.read_into, List.length_append, List.length_drop, List.length_replicate]
  omega

/-- A full transfer overwrites the whole buffer. -/
theorem read_into_of_full (h : GS_HOST_FRAME_SIZE ≤ transfer.bytes.length) :
    transfer.read_into (List.replicate GS_HOST_FRAME_SIZE 0) = transfer.bytes := by
  rw [Transfer.read_into, List.drop_eq_nil_of_le (by rwa [List.length_replicate]), List.append_nil]

/-- The buffer that was read into is accepted by the flags that were sent. -/
theorem accepted_read_into_iff :
    Accepted (transfer.read_into (List.replicate GS_HOST_FRAME_SIZE 0)) ↔ transfer.Extended := by
  rw [accepted_iff, length_read_into, host_can_id_div (by rw [length_read_into]; decide),
    and_iff_right (Nat.le_refl _), List.getD_eq_getElem?_getD, Transfer.read_into]
  have hfour : (0b100 : UInt8).toNat = 4 := rfl
  have hshift : ∀ flags : UInt8, flags >>> 5 = 0b100 ↔ flags.toNat / 32 = 4 := by
    intro flags
    have hfive : (5 : UInt8).toNat % 8 = 5 := rfl
    rw [← UInt8.toNat_inj, UInt8.toNat_shiftRight, hfive, Nat.shiftRight_eq_div_pow, hfour]
  cases hflags : transfer.bytes[7]? with
  | none =>
    have hshort := List.getElem?_eq_none_iff.1 hflags
    have hunsent : (transfer.bytes ++ (List.replicate GS_HOST_FRAME_SIZE (0 : UInt8)).drop
        transfer.bytes.length)[7]? = some 0 := by
      rw [List.getElem?_append_right hshort, List.getElem?_drop, List.getElem?_replicate, if_pos]
      simp only [GS_HOST_FRAME_SIZE]
      omega
    rw [hunsent]
    refine iff_of_false (by decide) ?_
    rintro ⟨flags, hsome, -⟩
    rw [hflags] at hsome
    cases hsome
  | some flags =>
    have hsent := (List.getElem?_eq_some_iff.1 hflags).1
    rw [List.getElem?_append_left hsent, hflags, Option.getD_some, ← hshift]
    constructor
    · intro hextended
      exact ⟨flags, hflags, hextended⟩
    · rintro ⟨flags', hsome, hextended⟩
      rw [hflags] at hsome
      rwa [Option.some.inj hsome]

end Short

section Receive

variable {ids : CanIds} {transfer : Transfer} {now : Microseconds32}

theorem receive_of_decoded {frame : Frame ids}
    (h : decode_frame ids (transfer.read_into (List.replicate GS_HOST_FRAME_SIZE 0)) now = .ok (some frame)) :
    receive ids (.ok transfer) now = .ok (.ok frame) := by
  simp only [receive, h, ok_bind, pure_eq_ok]

theorem receive_of_not_extended (h : ¬ transfer.Extended) :
    receive ids (.ok transfer) now = .ok (.error (.Other .InvalidFrame)) := by
  have hrejected := fun haccepted => h (accepted_read_into_iff.1 haccepted)
  simp only [receive, decode_frame_of_rejected now hrejected, ok_bind, pure_eq_ok]

theorem Faithful.of_not_extended (h : ¬ transfer.Extended) : Faithful ids transfer now := by
  have hinvalid := @receive_of_not_extended ids transfer now h
  constructor
  · intro frame hframe
    rw [hinvalid] at hframe
    cases hframe
  · intro frame hframe
    rw [hinvalid] at hframe
    cases hframe
  · intro hshort
    exact hinvalid

theorem Faithful.of_full (hids : ids.Exact) (h : GS_HOST_FRAME_SIZE ≤ transfer.bytes.length) :
    Faithful ids transfer now := by
  by_cases hextended : transfer.Extended
  · obtain ⟨id, hdecoded, -⟩ := decode_frame_of_accepted hids now (accepted_read_into_iff.2 hextended)
    have hreceived := receive_of_decoded hdecoded
    rw [read_into_of_full h] at hdecoded hreceived
    constructor
    · intro frame hframe
      rw [hreceived] at hframe
      cases hframe
      exact ⟨h, hdecoded⟩
    · intro frame hframe
      rw [hreceived] at hframe
      cases hframe
      exact List.take_prefix _ _
    · intro hshort
      exact absurd hshort (Nat.not_lt.2 h)
  · exact .of_not_extended hextended

end Receive

/-- A bulk read is turned into a frame as it should be exactly if it fills the
buffer or does not bring the flags of an extended frame. -/
theorem short_transfer_iff (ids : CanIds) (hids : ids.Exact) (transfer : Transfer) (now : Microseconds32) :
    Faithful ids transfer now ↔ transfer.bytes.length = GS_HOST_FRAME_SIZE ∨ ¬ transfer.Extended := by
  constructor
  · intro hfaithful
    by_cases hextended : transfer.Extended
    · obtain ⟨id, hdecoded, -⟩ := decode_frame_of_accepted hids now (accepted_read_into_iff.2 hextended)
      have hfull := (hfaithful.full _ (receive_of_decoded hdecoded)).1
      exact .inl (Nat.le_antisymm transfer.bounded hfull)
    · exact .inr hextended
  · rintro (hfull | hunextended)
    · exact .of_full hids (Nat.le_of_eq hfull.symm)
    · exact .of_not_extended hunextended

/-- A transfer that ends before the data that its header announces. -/
def header_only : Transfer where
  bytes := [0, 0, 0, 0, 1, 0, 0, 0x80, 8, 0, 0, 0]
  bounded := by decide

theorem short_transfer_header_only : Faithful exact_ids header_only 0 ↔
    header_only.bytes.length = GS_HOST_FRAME_SIZE ∨ ¬ header_only.Extended :=
  short_transfer_iff exact_ids exact_ids_exact header_only 0

/-- It is received as a frame with eight bytes of zeros. -/
theorem short_transfer_fails : ¬ ∀ (ids : CanIds) (transfer : Transfer) (now : Microseconds32), ids.Exact →
    Faithful ids transfer now := by
  intro hall
  have hfaithful := hall exact_ids header_only 0 exact_ids_exact
  have hreceived : receive exact_ids (.ok header_only) 0 =
      .ok (.ok ⟨0, ⟨1, by decide⟩, List.replicate 8 0⟩) := rfl
  have hfull := (hfaithful.full _ hreceived).1
  exact absurd hfull (by decide)

end cyphal_service.transport.can_gsusb
