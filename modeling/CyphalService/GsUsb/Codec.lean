import CyphalService.Lib.Bytes
import CyphalService.Lib.Checked
import CyphalService.GsUsb.Driver

open checked

namespace cyphal_service.transport.can_gsusb

/-- `<[u8; N]>::try_from(slice)` -/
def try_into (n : Nat) (bytes : List UInt8) : Option (List UInt8) :=
  if bytes.length = n then some bytes else none

def encode_frame {ids : CanIds} (frame : Frame ids) (echo_id : UInt32) : Checked (List UInt8) := do
  let buf := List.replicate GS_HOST_FRAME_SIZE 0
  let buf ← copy_from_slice buf 0 4 (bytes.u32.to_le_bytes echo_id)
  let can_id := ids.into frame.id ||| GS_CAN_EFF_FLAG
  let buf ← copy_from_slice buf 4 8 (bytes.u32.to_le_bytes can_id)
  let buf ← set buf 8 (UInt8.ofNat frame.data.length)
  let buf ← set buf 9 0
  let buf ← set buf 10 0
  let buf ← set buf 11 0
  let len := min frame.data.length 8
  copy_from_slice buf 12 (12 + len) (← slice frame.data 0 len)

def decode_frame (ids : CanIds) (buf : List UInt8) (now : Microseconds32) : Checked (Option (Frame ids)) := do
  if buf.length < GS_HOST_FRAME_SIZE then
    return none
  else
    match try_into 4 (← slice buf 4 8) with
    | none => return none
    | some can_id_bytes =>
      let can_id := bytes.u32.from_le_bytes can_id_bytes
      if can_id &&& GS_CAN_RTR_FLAG ≠ 0 ∨ can_id &&& GS_CAN_ERR_FLAG ≠ 0 then
        return none
      else if can_id &&& GS_CAN_EFF_FLAG = 0 then
        return none
      else
        let raw_id := can_id &&& 0x1FFFFFFF
        let dlc := (← index buf 8).toNat
        let len := min dlc 8
        let data ← slice buf 12 (12 + len)
        match ids.try_from raw_id with
        | none => return none
        | some cyphal_id => return some ⟨now, cyphal_id, data⟩

/-- The `can_id` field of a host frame. -/
def host_can_id (buf : List UInt8) : UInt32 := bytes.u32.from_le_bytes ((buf.drop 4).take 4)

/-- The `echo_id` field of a host frame. -/
def host_echo_id (buf : List UInt8) : UInt32 := bytes.u32.from_le_bytes (buf.take 4)

/-- How many bytes of data a host frame says it has, at most eight. -/
def host_len (buf : List UInt8) : Nat := min (buf.getD 8 0).toNat 8

/-- The data of a host frame. -/
def host_data (buf : List UInt8) : List UInt8 := (buf.drop 12).take (host_len buf)

/-- The buffer holds a host frame of an extended CAN frame with data. -/
def Accepted (buf : List UInt8) : Prop :=
  GS_HOST_FRAME_SIZE ≤ buf.length ∧ host_can_id buf &&& GS_CAN_EFF_FLAG ≠ 0 ∧
    host_can_id buf &&& GS_CAN_RTR_FLAG = 0 ∧ host_can_id buf &&& GS_CAN_ERR_FLAG = 0

instance (buf : List UInt8) : Decidable (Accepted buf) :=
  inferInstanceAs (Decidable (_ ∧ _ ∧ _ ∧ _))

/-- The bytes of a host frame on channel 0. -/
def host_frame (echo_id can_id : UInt32) (data : List UInt8) : List UInt8 :=
  bytes.u32.to_le_bytes echo_id ++ bytes.u32.to_le_bytes can_id ++
    [UInt8.ofNat data.length, 0, 0, 0] ++ data ++ List.replicate (8 - data.length) 0

section Encode

variable {ids : CanIds}

theorem encode_frame_eq (frame : Frame ids) (echo_id : UInt32) (hdata : frame.data.length ≤ 8) :
    encode_frame frame echo_id =
      .ok (host_frame echo_id (ids.into frame.id ||| GS_CAN_EFF_FLAG) frame.data) := by
  obtain ⟨timestamp, id, data⟩ := frame
  generalize hlen : data.length = len at hdata
  generalize hcan : ids.into id ||| GS_CAN_EFF_FLAG = can_id
  have hecho := bytes.u32.length_to_le_bytes echo_id
  have hcan_id := bytes.u32.length_to_le_bytes can_id
  generalize hechos : bytes.u32.to_le_bytes echo_id = echo at hecho
  generalize hcans : bytes.u32.to_le_bytes can_id = can at hcan_id
  have hheader : (echo ++ can).length = 8 := by
    rw [List.length_append, hecho, hcan_id]
  -- each write replaces as many zeros of the buffer as it has bytes
  have hwrite_echo : copy_from_slice (List.replicate GS_HOST_FRAME_SIZE 0) 0 4 echo =
      .ok (echo ++ List.replicate 4 0 ++ List.replicate 12 0) := by
    rw [List.append_assoc]
    exact @copy_from_slice_append _ [] (List.replicate 4 0) (List.replicate 16 0) echo 0 4 rfl rfl hecho
  have hwrite_can : copy_from_slice (echo ++ List.replicate 4 0 ++ List.replicate 12 0) 4 8 can =
      .ok (echo ++ can ++ 0 :: List.replicate 11 0) :=
    copy_from_slice_append hecho rfl hcan_id
  have hwrite_dlc : set (echo ++ can ++ 0 :: List.replicate 11 0) 8 (UInt8.ofNat len) =
      .ok (echo ++ can ++ UInt8.ofNat len :: List.replicate 11 0) :=
    set_append _ hheader
  have hwrite_rest : ∀ i, 8 < i → i < 12 →
      set (echo ++ can ++ UInt8.ofNat len :: List.replicate 11 0) i 0 =
        .ok (echo ++ can ++ UInt8.ofNat len :: List.replicate 11 0) := by
    intro i hlow hhigh
    apply set_self
    rw [List.getElem?_append_right (by omega), hheader, List.getElem?_cons, if_neg (by omega),
      List.getElem?_replicate, if_pos (by omega)]
  have hdata_zeros : echo ++ can ++ UInt8.ofNat len :: List.replicate 11 0 =
      echo ++ can ++ [UInt8.ofNat len, 0, 0, 0] ++ List.replicate len 0 ++ List.replicate (8 - len) 0 := by
    rw [List.append_assoc _ (List.replicate len 0), List.replicate_append_replicate, Nat.add_sub_cancel' hdata,
      List.append_assoc _ [UInt8.ofNat len, 0, 0, 0]]
    rfl
  have hwrite_data : copy_from_slice (echo ++ can ++ [UInt8.ofNat len, 0, 0, 0] ++ List.replicate len 0 ++
      List.replicate (8 - len) 0) 12 (12 + len) data =
      .ok (echo ++ can ++ [UInt8.ofNat len, 0, 0, 0] ++ data ++ List.replicate (8 - len) 0) := by
    refine copy_from_slice_append ?_ ?_ ?_
    · rw [List.length_append, hheader]
      rfl
    · rw [List.length_replicate]
    · rw [List.length_replicate, hlen]
  have hread : slice data 0 len = .ok data := by
    rw [slice_of_le (Nat.zero_le len) (Nat.le_of_eq hlen.symm), List.drop_zero, Nat.sub_zero, ← hlen, List.take_length]
  simp only [encode_frame, hcan, hlen, hechos, hcans, Nat.min_eq_left hdata, hwrite_echo, hwrite_can, hwrite_dlc,
    hwrite_rest, hread, ok_bind, Nat.reduceLT]
  rw [hdata_zeros, hwrite_data]
  simp only [host_frame, hechos, hcans, hlen]

end Encode

section HostFrame

variable {echo_id can_id : UInt32} {data : List UInt8}

theorem length_host_frame (hdata : data.length ≤ 8) : (host_frame echo_id can_id data).length = 20 := by
  simp [host_frame]
  omega

theorem host_can_id_host_frame : host_can_id (host_frame echo_id can_id data) = can_id := by
  rw [host_can_id, host_frame]
  simp only [List.append_assoc]
  rw [List.drop_left' (bytes.u32.length_to_le_bytes echo_id),
    List.take_left' (bytes.u32.length_to_le_bytes can_id), bytes.u32.from_le_bytes_to_le_bytes]

/-- The header of a host frame: its first nine bytes. -/
theorem take_host_frame : (host_frame echo_id can_id data).take 9 =
    bytes.u32.to_le_bytes echo_id ++ bytes.u32.to_le_bytes can_id ++ [UInt8.ofNat data.length] := by
  have hheader : (bytes.u32.to_le_bytes echo_id ++ bytes.u32.to_le_bytes can_id ++
      [UInt8.ofNat data.length]).length = 9 := by simp
  have hsplit : host_frame echo_id can_id data = (bytes.u32.to_le_bytes echo_id ++
      bytes.u32.to_le_bytes can_id ++ [UInt8.ofNat data.length]) ++
        ([0, 0, 0] ++ data ++ List.replicate (8 - data.length) 0) := by
    simp [host_frame]
  rw [hsplit, List.take_left' hheader]

theorem host_len_host_frame (hdata : data.length ≤ 8) :
    host_len (host_frame echo_id can_id data) = data.length := by
  have hdlc : (host_frame echo_id can_id data).getD 8 0 = UInt8.ofNat data.length := by
    have hheader : (bytes.u32.to_le_bytes echo_id ++ bytes.u32.to_le_bytes can_id).length = 8 := by simp
    rw [List.getD_eq_getElem?_getD, host_frame, List.append_assoc, List.append_assoc,
      List.getElem?_append_right (Nat.le_of_eq hheader), hheader]
    rfl
  rw [host_len, hdlc, UInt8.toNat_ofNat_of_lt' (by simp only [UInt8.size]; omega)]
  exact Nat.min_eq_left hdata

theorem host_data_host_frame (hdata : data.length ≤ 8) :
    host_data (host_frame echo_id can_id data) = data := by
  have hheader : (bytes.u32.to_le_bytes echo_id ++ bytes.u32.to_le_bytes can_id ++
      [UInt8.ofNat data.length, 0, 0, 0]).length = 12 := by simp
  rw [host_data, host_len_host_frame hdata, host_frame, List.append_assoc, List.drop_left' hheader,
    List.take_left]

end HostFrame

section Decode

variable {ids : CanIds}

/-- Decoding never faults; what it accepts it reads by its fields. -/
theorem decode_frame_eq (buf : List UInt8) (now : Microseconds32) :
    decode_frame ids buf now = .ok (if Accepted buf then
      (ids.try_from (host_can_id buf &&& 0x1FFFFFFF)).map fun id => ⟨now, id, host_data buf⟩ else none) := by
  unfold decode_frame
  by_cases hshort : buf.length < GS_HOST_FRAME_SIZE
  · rw [if_pos hshort, if_neg fun haccepted : Accepted buf => absurd haccepted.1 (Nat.not_le.2 hshort)]
    rfl
  · have hlong : 20 ≤ buf.length := Nat.le_of_not_lt hshort
    have hid : slice buf 4 8 = .ok ((buf.drop 4).take 4) := slice_of_le (by omega) (by omega)
    have hinto : try_into 4 ((buf.drop 4).take 4) = some ((buf.drop 4).take 4) := by
      rw [try_into, if_pos]
      rw [List.length_take, List.length_drop]
      omega
    have hdlc : index buf 8 = .ok (buf.getD 8 0) := by
      rw [index_of_lt (by omega), List.getD_eq_getElem?_getD, List.getElem?_eq_getElem (by omega)]
      rfl
    have hdata : slice buf 12 (12 + host_len buf) = .ok (host_data buf) := by
      have hlen : host_len buf ≤ 8 := Nat.min_le_right _ _
      rw [slice_of_le (by omega) (by omega), Nat.add_sub_cancel_left, host_data]
    have hcan_id : bytes.u32.from_le_bytes ((buf.drop 4).take 4) = host_can_id buf := rfl
    rw [if_neg hshort, hid]
    simp only [ok_bind, hinto, hcan_id]
    by_cases hskipped : host_can_id buf &&& GS_CAN_RTR_FLAG ≠ 0 ∨ host_can_id buf &&& GS_CAN_ERR_FLAG ≠ 0
    · have hrejected : ¬ Accepted buf := by
        rintro ⟨-, -, hrtr, herr⟩
        exact hskipped.elim (· hrtr) (· herr)
      rw [if_pos hskipped, if_neg hrejected]
      rfl
    · by_cases hstandard : host_can_id buf &&& GS_CAN_EFF_FLAG = 0
      · have hrejected : ¬ Accepted buf := fun haccepted => haccepted.2.1 hstandard
        rw [if_neg hskipped, if_pos hstandard, if_neg hrejected]
        rfl
      · have hflags := not_or.1 hskipped
        have haccepted : Accepted buf := ⟨hlong, hstandard, not_not.1 hflags.1, not_not.1 hflags.2⟩
        rw [if_neg hskipped, if_neg hstandard, if_pos haccepted, hdlc, ok_bind, ← host_len, hdata, ok_bind]
        cases ids.try_from (host_can_id buf &&& 0x1FFFFFFF) with
        | none => rfl
        | some id => rfl

/-- The identifier of an extended frame with data, from its `can_id` field. -/
theorem toNat_raw_id (can_id : UInt32) : (can_id &&& 0x1FFFFFFF).toNat = can_id.toNat % 2 ^ 29 :=
  bytes.u32.toNat_and_mask rfl can_id

theorem toNat_extended {raw : UInt32} (h : raw.toNat < 2 ^ 29) :
    (raw ||| GS_CAN_EFF_FLAG).toNat = 2 ^ 31 + raw.toNat :=
  bytes.u32.toNat_or_flag rfl (by omega)

/-- The flags of an accepted `can_id` field, as its value. -/
theorem flags_iff (can_id : UInt32) : (can_id &&& GS_CAN_EFF_FLAG ≠ 0 ∧ can_id &&& GS_CAN_RTR_FLAG = 0 ∧
    can_id &&& GS_CAN_ERR_FLAG = 0) ↔ can_id.toNat / 2 ^ 29 = 4 := by
  have hlt := can_id.toNat_lt
  rw [ne_eq, bytes.u32.and_flag_eq_zero (i := 31) rfl, bytes.u32.and_flag_eq_zero (i := 30) rfl,
    bytes.u32.and_flag_eq_zero (i := 29) rfl]
  omega

theorem accepted_iff (buf : List UInt8) :
    Accepted buf ↔ GS_HOST_FRAME_SIZE ≤ buf.length ∧ (host_can_id buf).toNat / 2 ^ 29 = 4 :=
  and_congr_right fun _ => flags_iff (host_can_id buf)

/-- Under exact identifiers an accepted host frame has one. -/
theorem CanIds.Exact.try_from_raw_id (hids : ids.Exact) (can_id : UInt32) :
    ∃ id, ids.try_from (can_id &&& 0x1FFFFFFF) = some id ∧ ids.into id = can_id &&& 0x1FFFFFFF := by
  have hraw : (can_id &&& 0x1FFFFFFF).toNat < 2 ^ 29 := by
    rw [toNat_raw_id]
    exact Nat.mod_lt _ (Nat.two_pow_pos 29)
  obtain ⟨id, hid⟩ := Option.isSome_iff_exists.1 ((hids.accepts _).2 hraw)
  exact ⟨id, hid, hids.into_try_from _ id hid⟩

theorem CanIds.Exact.into_lt (hids : ids.Exact) (id : ids.CanId) : (ids.into id).toNat < 2 ^ 29 := by
  rw [← hids.accepts, hids.try_from_into]
  rfl

theorem decode_frame_of_accepted (hids : ids.Exact) {buf : List UInt8} (now : Microseconds32) (h : Accepted buf) :
    ∃ id, decode_frame ids buf now = .ok (some ⟨now, id, host_data buf⟩) ∧
      ids.into id = host_can_id buf &&& 0x1FFFFFFF := by
  obtain ⟨id, hid, hinto⟩ := hids.try_from_raw_id (host_can_id buf)
  refine ⟨id, ?_, hinto⟩
  rw [decode_frame_eq, if_pos h, hid, Option.map_some]

theorem decode_frame_of_rejected {buf : List UInt8} (now : Microseconds32) (h : ¬ Accepted buf) :
    decode_frame ids buf now = .ok none := by
  rw [decode_frame_eq, if_neg h]

/-- Decoding what was encoded gives the frame back, but for its timestamp. -/
theorem decode_host_frame (hids : ids.Exact) (frame : Frame ids) (echo_id : UInt32) (now : Microseconds32)
    (hdata : frame.data.length ≤ 8) :
    decode_frame ids (host_frame echo_id (ids.into frame.id ||| GS_CAN_EFF_FLAG) frame.data) now =
      .ok (some ⟨now, frame.id, frame.data⟩) := by
  have hid := hids.into_lt frame.id
  have hextended := toNat_extended hid
  have haccepted : Accepted (host_frame echo_id (ids.into frame.id ||| GS_CAN_EFF_FLAG) frame.data) := by
    rw [accepted_iff, length_host_frame hdata, host_can_id_host_frame, hextended]
    refine ⟨Nat.le_refl _, ?_⟩
    omega
  have hraw : (ids.into frame.id ||| GS_CAN_EFF_FLAG) &&& 0x1FFFFFFF = ids.into frame.id := by
    apply UInt32.toNat_inj.1
    rw [toNat_raw_id, hextended]
    omega
  rw [decode_frame_eq, if_pos haccepted, host_can_id_host_frame, host_data_host_frame hdata, hraw,
    hids.try_from_into]
  rfl

/-- An accepted host frame that says how much data it has is encoded as it came,
but for the bytes after the header that encoding sets to zero. -/
theorem encode_decoded (hids : ids.Exact) {buf : List UInt8} {now : Microseconds32} {frame : Frame ids}
    (h : decode_frame ids buf now = .ok (some frame)) (hdlc : (buf.getD 8 0).toNat ≤ 8) :
    frame.data = (buf.drop 12).take (buf.getD 8 0).toNat ∧ frame.data.length = (buf.getD 8 0).toNat ∧
      (host_frame (host_echo_id buf) (ids.into frame.id ||| GS_CAN_EFF_FLAG) frame.data).take 9 =
        buf.take 9 := by
  by_cases haccepted : Accepted buf
  · obtain ⟨hframe, hflags⟩ := (accepted_iff buf).1 haccepted
    have hlong : 20 ≤ buf.length := hframe
    obtain ⟨id, hdecoded, hinto⟩ := decode_frame_of_accepted hids now haccepted
    rw [hdecoded] at h
    cases h
    have hlen : host_len buf = (buf.getD 8 0).toNat := Nat.min_eq_left hdlc
    have hlength : (host_data buf).length = (buf.getD 8 0).toNat := by
      rw [host_data, List.length_take, List.length_drop, hlen]
      omega
    have hcan_id : ids.into id ||| GS_CAN_EFF_FLAG = host_can_id buf := by
      have hraw := hids.into_lt id
      apply UInt32.toNat_inj.1
      rw [toNat_extended hraw, hinto, toNat_raw_id]
      omega
    refine ⟨?_, hlength, ?_⟩
    · rw [host_data, hlen]
    · have hheader : buf.take 9 = buf.take 4 ++ (buf.drop 4).take 4 ++ [buf.getD 8 0] := by
        rw [← List.take_add, List.take_add_one, List.getD_eq_getElem?_getD, List.getElem?_eq_getElem (by omega)]
        rfl
      have hecho : (buf.take 4).length = 4 := by
        rw [List.length_take]
        omega
      have hcan : ((buf.drop 4).take 4).length = 4 := by
        rw [List.length_take, List.length_drop]
        omega
      rw [take_host_frame, hcan_id, hlength, UInt8.ofNat_toNat, host_echo_id, host_can_id,
        bytes.u32.to_le_bytes_from_le_bytes hecho, bytes.u32.to_le_bytes_from_le_bytes hcan, hheader]
  · rw [decode_frame_of_rejected now haccepted] at h
    cases h

end Decode

/-- The codec of host frames: encoding and decoding a frame gives it back, with
the time of its reception; decoding accepts a buffer by its length and flags and
reads none out of its bounds; and encoding what was accepted gives back its
header and data. -/
theorem host_frame_codec (ids : CanIds) (hids : ids.Exact) :
    (∀ (frame : Frame ids) (echo_id : UInt32) (now : Microseconds32), frame.data.length ≤ 8 →
      (encode_frame frame echo_id >>= fun buf => decode_frame ids buf now) =
        .ok (some ⟨now, frame.id, frame.data⟩)) ∧
    (∀ (buf : List UInt8) (now : Microseconds32), ∃ decoded, decode_frame ids buf now = .ok decoded ∧
      (decoded.isSome ↔ Accepted buf)) ∧
    (∀ (buf : List UInt8) (now : Microseconds32) (frame : Frame ids),
      decode_frame ids buf now = .ok (some frame) → (buf.getD 8 0).toNat ≤ 8 →
      ∃ encoded, encode_frame frame (host_echo_id buf) = .ok encoded ∧ encoded.take 9 = buf.take 9 ∧
        (encoded.drop 12).take (buf.getD 8 0).toNat = (buf.drop 12).take (buf.getD 8 0).toNat) := by
  refine ⟨?_, ?_, ?_⟩
  · intro frame echo_id now hdata
    rw [encode_frame_eq frame echo_id hdata, ok_bind]
    exact decode_host_frame hids frame echo_id now hdata
  · intro buf now
    by_cases haccepted : Accepted buf
    · obtain ⟨id, hdecoded, -⟩ := decode_frame_of_accepted hids now haccepted
      exact ⟨_, hdecoded, iff_of_true rfl haccepted⟩
    · exact ⟨none, decode_frame_of_rejected now haccepted, iff_of_false Bool.false_ne_true haccepted⟩
  · intro buf now frame hdecoded hdlc
    obtain ⟨hdata, hlength, hheader⟩ := encode_decoded hids hdecoded hdlc
    have hshort : frame.data.length ≤ 8 := by omega
    refine ⟨_, encode_frame_eq frame (host_echo_id buf) hshort, hheader, ?_⟩
    have hkept := @host_data_host_frame (host_echo_id buf) (ids.into frame.id ||| GS_CAN_EFF_FLAG) _ hshort
    rw [host_data, host_len_host_frame hshort, hlength] at hkept
    exact hkept.trans hdata

/-- The 29-bit values themselves as identifiers. -/
def exact_ids : CanIds where
  CanId := { raw : UInt32 // raw.toNat < 2 ^ 29 }
  into := Subtype.val
  try_from raw := if h : raw.toNat < 2 ^ 29 then some ⟨raw, h⟩ else none

theorem exact_ids_exact : exact_ids.Exact := by
  have htry : ∀ raw, exact_ids.try_from raw = if h : raw.toNat < 2 ^ 29 then some ⟨raw, h⟩ else none :=
    fun _ => rfl
  constructor
  · intro raw
    rw [htry]
    by_cases h : raw.toNat < 2 ^ 29
    · rw [dif_pos h]
      exact iff_of_true rfl h
    · rw [dif_neg h]
      exact iff_of_false Bool.false_ne_true h
  · intro raw id hid
    rw [htry] at hid
    split at hid
    · cases hid
      rfl
    · cases hid
  · intro id
    exact dif_pos id.2

/-- A heartbeat of node 42 with five bytes of data. -/
def heartbeat_frame (timestamp : Microseconds32) : Frame exact_ids where
  timestamp := timestamp
  id := ⟨0x101D552A, by decide⟩
  data := [0x01, 0x02, 0x03, 0x04, 0xE0]

theorem host_frame_codec_heartbeat :
    (encode_frame (heartbeat_frame 1000) 42 >>= fun buf => decode_frame exact_ids buf 2000) =
      .ok (some (heartbeat_frame 2000)) :=
  (host_frame_codec exact_ids exact_ids_exact).1 (heartbeat_frame 1000) 42 2000 (by decide)

end cyphal_service.transport.can_gsusb
