import CyphalService.Lib.Utf8Encode
import CyphalService.Transport.Settlement

open effect machine
open cyphal_service.pnp
open cyphal_service.pnp.db cyphal_service.pnp.allocator

namespace cyphal_service.transport

/-- The name under which a node of this service answers GetInfo, before it is cut. -/
def node_name (transport_name : String) : String := s!"org.cyphal_service.{transport_name}"

/-- Build the standard `GetInfoResponse` describing this cyphal_service node, with the unique
ID that was drawn for it. -/
def make_node_info (unique_id : UniqueId) (transport_name : String) : GetInfoResponse where
  hardware_version := ⟨0, 0⟩
  software_version := ⟨0, 1⟩
  unique_id := unique_id
  name := (utf8.encode (node_name transport_name).toList).take 50

/-- What a GetInfo command gets from a node of this service: the name as far as it fits
into fifty bytes, in whole characters, whatever the name of its transport. -/
theorem node_info_shown (setup : Setup) (unique_id : UniqueId) (transport_name : String) (transfer : ServiceTransfer)
    (now : Readings) (self : Worker) (p : PendingGetInfo) (hpending : self.state.pending_get_info = some p)
    (hservice : transfer.service = GET_INFO_SERVICE) (hsource : p.node_id = transfer.source)
    (hresponse : setup.codec.get_info_response transfer.payload = some (make_node_info unique_id transport_name)) :
    ∃ shown, utf8.Truncates 50 (node_name transport_name).toList shown.toList ∧
      (utf8.size (node_name transport_name).toList ≤ 50 → shown = node_name transport_name) ∧
      messages (step setup self (.response transfer now)).1 =
        [(p.reply, .get_info (.ok ⟨p.node_id, shown, (0, 0), (0, 1), unique_id⟩))] := by
  have htruncates := utf8.truncates_decode_take 50 (node_name transport_name).toList
  refine ⟨String.ofList (utf8.decode none (make_node_info unique_id transport_name).name), ?_, ?_, ?_⟩
  · rwa [String.toList_ofList]
  · intro hfits
    exact (congrArg String.ofList (htruncates.eq_of_fits hfits)).trans String.ofList_toList
  · have hstep : step setup self (.response transfer now) =
        ((step setup self (.response transfer now)).1, (step setup self (.response transfer now)).2) := rfl
    rw [(messages_of_answered hstep hpending hservice hsource).1, hresponse, hsource]
    rfl

/-- The fields of a serialized `GetInfo.1.0` response that the worker reads. -/
def get_info_fields (payload : List UInt8) : Option GetInfoResponse :=
  match payload with
  | _ :: _ :: hardware_major :: hardware_minor :: software_major :: software_minor :: rest =>
    some {
      hardware_version := ⟨hardware_major, hardware_minor⟩
      software_version := ⟨software_major, software_minor⟩
      unique_id := Vector.ofFn fun i => rest.getD (8 + i) 0
      name := (rest.drop 25).take (rest.getD 24 0).toNat
    }
  | _ => none

/-- The fiftieth byte is in the middle of a character. -/
theorem node_info_shown_cut :
    let setup := { beating_udp with codec := { beating_udp.codec with get_info_response := get_info_fields } }
    let payload := [1, 0, 0, 0, 0, 1] ++ List.replicate 8 0 ++ List.replicate 16 7 ++
      50 :: (utf8.encode "org.cyphal_service.pont_roulant_des_hangars_nord_".toList ++ [0xC3, 0, 0])
    let worker := (step setup (Worker.start setup none 0) (.command (.GetInfo 5 0) (.ok ()) ⟨0, 0, 0, ""⟩)).2
    ∃ shown, utf8.Truncates 50 (node_name "pont_roulant_des_hangars_nord_été").toList shown.toList ∧
      (utf8.size (node_name "pont_roulant_des_hangars_nord_été").toList ≤ 50 →
        shown = node_name "pont_roulant_des_hangars_nord_été") ∧
      messages (step setup worker (.response ⟨GET_INFO_SERVICE, 5, payload⟩ ⟨0, 0, 0, ""⟩)).1 =
        [(0, .get_info (.ok ⟨5, shown, (0, 0), (0, 1), Vector.replicate 16 7⟩))] :=
  node_info_shown _ (Vector.replicate 16 7) "pont_roulant_des_hangars_nord_été"
    ⟨GET_INFO_SERVICE, 5, _⟩ ⟨0, 0, 0, ""⟩ _ ⟨5, 0, Duration.from_secs 3⟩ rfl rfl rfl rfl

end cyphal_service.transport
