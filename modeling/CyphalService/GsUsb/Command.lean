import CyphalService.GsUsb.Requests

open bytes

namespace cyphal_service.transport.can_gsusb

/-- What an adapter can be told. -/
inductive Command where
  | HostFormat (host_config : GsHostConfig)
  | SetBittiming (timing : GsDeviceBittiming)
  | SetMode (gs_mode : GsDeviceMode)
  deriving DecidableEq

def GsHostConfig.from_bytes (buf : List UInt8) : GsHostConfig := ⟨u32.word buf 0⟩

def GsDeviceBittiming.from_bytes (buf : List UInt8) : GsDeviceBittiming :=
  ⟨u32.word buf 0, u32.word buf 1, u32.word buf 2, u32.word buf 3, u32.word buf 4⟩

def GsDeviceMode.from_bytes (buf : List UInt8) : GsDeviceMode := ⟨u32.word buf 0, u32.word buf 1⟩

/-- The packed structure of bit timing constants, after the features of the adapter. -/
def GsDeviceBtConst.to_bytes (feature : UInt32) (bt : GsDeviceBtConst) : List UInt8 :=
  u32.words_to_le_bytes [feature, bt.fclk_can, bt.tseg1_min, bt.tseg1_max, bt.tseg2_min, bt.tseg2_max,
    bt.sjw_max, bt.brp_min, bt.brp_max, bt.brp_inc]

namespace Command

def request : Command → UInt8
  | .HostFormat _ => GS_USB_BREQ_HOST_FORMAT
  | .SetBittiming _ => GS_USB_BREQ_SET_BITTIMING
  | .SetMode _ => GS_USB_BREQ_SET_MODE

def data : Command → List UInt8
  | .HostFormat host_config => host_config.to_bytes
  | .SetBittiming timing => timing.to_bytes
  | .SetMode gs_mode => gs_mode.to_bytes

/-- The command that an adapter reads from a request and its data. -/
def read (request : UInt8) (data : List UInt8) : Option Command :=
  if request = GS_USB_BREQ_HOST_FORMAT ∧ data.length = 4 then some (.HostFormat (.from_bytes data))
  else if request = GS_USB_BREQ_SET_BITTIMING ∧ data.length = 20 then some (.SetBittiming (.from_bytes data))
  else if request = GS_USB_BREQ_SET_MODE ∧ data.length = 8 then some (.SetMode (.from_bytes data))
  else none

def mode? : Command → Option UInt32
  | .SetMode gs_mode => some gs_mode.mode
  | _ => none

def timing? : Command → Option GsDeviceBittiming
  | .SetBittiming timing => some timing
  | _ => none

end Command

section Layout

variable {buf : List UInt8}

theorem GsHostConfig.from_bytes_to_bytes (host_config : GsHostConfig) :
    GsHostConfig.from_bytes host_config.to_bytes = host_config := by
  rw [from_bytes, to_bytes, u32.word_words_to_le_bytes (x := host_config.byte_order) rfl]

theorem GsHostConfig.to_bytes_from_bytes (h : buf.length = 4) : (GsHostConfig.from_bytes buf).to_bytes = buf :=
  u32.words_to_le_bytes_word (n := 1) h

theorem GsDeviceBittiming.from_bytes_to_bytes (timing : GsDeviceBittiming) :
    GsDeviceBittiming.from_bytes timing.to_bytes = timing := by
  rw [from_bytes, to_bytes, u32.word_words_to_le_bytes (x := timing.prop_seg) rfl,
    u32.word_words_to_le_bytes (x := timing.phase_seg1) rfl,
    u32.word_words_to_le_bytes (x := timing.phase_seg2) rfl,
    u32.word_words_to_le_bytes (x := timing.sjw) rfl, u32.word_words_to_le_bytes (x := timing.brp) rfl]

theorem GsDeviceBittiming.to_bytes_from_bytes (h : buf.length = 20) :
    (GsDeviceBittiming.from_bytes buf).to_bytes = buf :=
  u32.words_to_le_bytes_word (n := 5) h

theorem GsDeviceMode.from_bytes_to_bytes (gs_mode : GsDeviceMode) :
    GsDeviceMode.from_bytes gs_mode.to_bytes = gs_mode := by
  rw [from_bytes, to_bytes, u32.word_words_to_le_bytes (x := gs_mode.mode) rfl,
    u32.word_words_to_le_bytes (x := gs_mode.flags) rfl]

theorem GsDeviceMode.to_bytes_from_bytes (h : buf.length = 8) : (GsDeviceMode.from_bytes buf).to_bytes = buf :=
  u32.words_to_le_bytes_word (n := 2) h

/-- The driver reads the constants that an adapter sends, whatever its features. -/
theorem GsDeviceBtConst.from_bytes_to_bytes (feature : UInt32) (bt : GsDeviceBtConst) :
    GsDeviceBtConst.from_bytes (bt.to_bytes feature) = bt := by
  rw [from_bytes, to_bytes, u32.word_words_to_le_bytes (x := bt.fclk_can) rfl,
    u32.word_words_to_le_bytes (x := bt.tseg1_min) rfl, u32.word_words_to_le_bytes (x := bt.tseg1_max) rfl,
    u32.word_words_to_le_bytes (x := bt.tseg2_min) rfl, u32.word_words_to_le_bytes (x := bt.tseg2_max) rfl,
    u32.word_words_to_le_bytes (x := bt.sjw_max) rfl, u32.word_words_to_le_bytes (x := bt.brp_min) rfl,
    u32.word_words_to_le_bytes (x := bt.brp_max) rfl, u32.word_words_to_le_bytes (x := bt.brp_inc) rfl]

end Layout

namespace Command

/-- An adapter reads the command that the driver wrote, from nothing else. -/
theorem read_eq_some_iff {request : UInt8} {data : List UInt8} {command : Command} :
    read request data = some command ↔ request = command.request ∧ data = command.data := by
  have htiming : GS_USB_BREQ_SET_BITTIMING ≠ GS_USB_BREQ_HOST_FORMAT := by decide
  have hmode : GS_USB_BREQ_SET_MODE ≠ GS_USB_BREQ_HOST_FORMAT ∧
      GS_USB_BREQ_SET_MODE ≠ GS_USB_BREQ_SET_BITTIMING := by decide
  constructor
  · intro h
    unfold read at h
    split at h
    · next hread =>
      cases h
      exact ⟨hread.1, (GsHostConfig.to_bytes_from_bytes hread.2).symm⟩
    · split at h
      · next hread =>
        cases h
        exact ⟨hread.1, (GsDeviceBittiming.to_bytes_from_bytes hread.2).symm⟩
      · split at h
        · next hread =>
          cases h
          exact ⟨hread.1, (GsDeviceMode.to_bytes_from_bytes hread.2).symm⟩
        · cases h
  · rintro ⟨rfl, rfl⟩
    cases command with
    | HostFormat host_config =>
      have hlength : host_config.to_bytes.length = 4 := u32.length_words_to_le_bytes _
      rw [read, if_pos ⟨rfl, hlength⟩, data, GsHostConfig.from_bytes_to_bytes]
    | SetBittiming timing =>
      have hlength : timing.to_bytes.length = 20 := u32.length_words_to_le_bytes _
      rw [read, if_neg fun h => htiming h.1, if_pos ⟨rfl, hlength⟩, data, GsDeviceBittiming.from_bytes_to_bytes]
    | SetMode gs_mode =>
      have hlength : gs_mode.to_bytes.length = 8 := u32.length_words_to_le_bytes _
      rw [read, if_neg fun h => hmode.1 h.1, if_neg fun h => hmode.2 h.1, if_pos ⟨rfl, hlength⟩, data,
        GsDeviceMode.from_bytes_to_bytes]

end Command

end cyphal_service.transport.can_gsusb
