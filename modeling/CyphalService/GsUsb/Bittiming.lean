import CyphalService.GsUsb.Driver
import CyphalService.Lib.Rounding
import CyphalService.Lib.Search

open checked

namespace cyphal_service.transport.can_gsusb

structure GsDeviceBtConst where
  fclk_can : UInt32
  tseg1_min : UInt32
  tseg1_max : UInt32
  tseg2_min : UInt32
  tseg2_max : UInt32
  sjw_max : UInt32
  brp_min : UInt32
  brp_max : UInt32
  brp_inc : UInt32

structure GsDeviceBittiming where
  prop_seg : UInt32
  phase_seg1 : UInt32
  phase_seg2 : UInt32
  sjw : UInt32
  brp : UInt32
  deriving DecidableEq

/-- Round to a multiple of `brp_inc`. -/
def round_brp (bt : GsDeviceBtConst) (brp_exact : UInt32) : Checked UInt32 := do
  let inc := max bt.brp_inc 1
  u32.mul (← u32.div (← u32.add brp_exact (← u32.div inc 2)) inc) inc

/-- Try a rounded prescaler. -/
def try_brp (bitrate : UInt32) (bt : GsDeviceBtConst) (tseg1 tseg2 total_tq brp : UInt32) :
    Checked (Option GsDeviceBittiming) := do
  if brp < bt.brp_min ∨ brp > bt.brp_max then
    return none
  else
    let actual ← u32.div (← u32.div bt.fclk_can brp) total_tq
    if actual = bitrate then
      let sjw := min 1 bt.sjw_max
      let phase_seg1 ← u32.div tseg1 2
      let prop_seg ← u32.sub tseg1 phase_seg1
      return some ⟨prop_seg, phase_seg1, tseg2, sjw, brp⟩
    else
      return none

/-- The body of the inner loop; none goes on with the next segment lengths. -/
def try_segments (bitrate : UInt32) (bt : GsDeviceBtConst) (tseg1 tseg2 : UInt32) :
    Checked (Option GsDeviceBittiming) := do
  let total_tq ← u32.add (← u32.add 1 tseg1) tseg2
  if total_tq = 0 then
    return none
  else
    let brp_exact ← u32.div (← u32.div bt.fclk_can bitrate) total_tq
    if brp_exact = 0 then
      return none
    else
      let brp ← round_brp bt brp_exact
      try_brp bitrate bt tseg1 tseg2 total_tq brp

def compute_bittiming (bitrate : UInt32) (bt : GsDeviceBtConst) : Checked (Option GsDeviceBittiming) :=
  first_some (fun tseg1 => first_some (try_segments bitrate bt tseg1) (u32.rev_range bt.tseg2_min bt.tseg2_max))
    (u32.rev_range bt.tseg1_min bt.tseg1_max)

/-- The bit timing that `open` sets on the device, or the error it returns. -/
def timing_to_set (bitrate : UInt32) (bt_const : GsDeviceBtConst) :
    Checked (Except GsUsbError GsDeviceBittiming) := do
  match ← compute_bittiming bitrate bt_const with
  | some timing => return .ok timing
  | none => return .error (.UnsupportedBitrate bitrate)

/-- The time quanta of a bit with the given segment lengths. -/
def time_quanta (tseg1 tseg2 : UInt32) : Nat := 1 + tseg1.toNat + tseg2.toNat

namespace GsDeviceBtConst

/-- The step of the prescaler. -/
def inc (bt : GsDeviceBtConst) : Nat := max bt.brp_inc.toNat 1

/-- The prescaler for a bit of `tq` time quanta, before it is rounded. -/
def exact_brp (bt : GsDeviceBtConst) (bitrate : UInt32) (tq : Nat) : Nat :=
  bt.fclk_can.toNat / bitrate.toNat / tq

/-- The prescaler for a bit of `tq` time quanta. -/
def rounded_brp (bt : GsDeviceBtConst) (bitrate : UInt32) (tq : Nat) : Nat :=
  round_to bt.inc (bt.exact_brp bitrate tq)

/-- Rounding the prescaler overflows, or gives one that is 0 and in range. -/
def Misrounds (bt : GsDeviceBtConst) (bitrate : UInt32) (tq : Nat) : Prop :=
  0 < bt.exact_brp bitrate tq ∧
    (UInt32.size ≤ bt.exact_brp bitrate tq + bt.inc / 2 ∨
      bt.brp_min.toNat = 0 ∧ bt.exact_brp bitrate tq + bt.inc / 2 < bt.inc)

/-- The rounded prescaler is in range and gives the bitrate. -/
def Hits (bt : GsDeviceBtConst) (bitrate : UInt32) (tq : Nat) : Prop :=
  0 < bt.exact_brp bitrate tq ∧ bt.exact_brp bitrate tq + bt.inc / 2 < UInt32.size ∧
    0 < bt.rounded_brp bitrate tq ∧ bt.brp_min.toNat ≤ bt.rounded_brp bitrate tq ∧
    bt.rounded_brp bitrate tq ≤ bt.brp_max.toNat ∧
    bt.fclk_can.toNat / bt.rounded_brp bitrate tq / tq = bitrate.toNat

theorem inc_pos (bt : GsDeviceBtConst) : 0 < bt.inc := Nat.lt_of_lt_of_le Nat.one_pos (Nat.le_max_right _ _)

theorem toNat_inc (bt : GsDeviceBtConst) : (max bt.brp_inc 1).toNat = bt.inc :=
  UInt32.toNat_max bt.brp_inc 1

end GsDeviceBtConst

/-- What trying two segment lengths gives. -/
inductive Tried (bitrate : UInt32) (bt : GsDeviceBtConst) (tseg1 tseg2 : UInt32) :
    Checked (Option GsDeviceBittiming) → Prop where
  | overlong (h : UInt32.size ≤ time_quanta tseg1 tseg2) : Tried bitrate bt tseg1 tseg2 (.error .Overflow)
  | no_bitrate (hfits : time_quanta tseg1 tseg2 < UInt32.size) (hbitrate : bitrate.toNat = 0) :
      Tried bitrate bt tseg1 tseg2 (.error .DivisionByZero)
  | misrounded {fault : Fault} (hfits : time_quanta tseg1 tseg2 < UInt32.size) (hbitrate : 0 < bitrate.toNat)
      (h : bt.Misrounds bitrate (time_quanta tseg1 tseg2)) (hfault : 0 < bt.brp_min.toNat → fault = .Overflow) :
      Tried bitrate bt tseg1 tseg2 (.error fault)
  | missed (hfits : time_quanta tseg1 tseg2 < UInt32.size) (hbitrate : 0 < bitrate.toNat)
      (hrounds : ¬ bt.Misrounds bitrate (time_quanta tseg1 tseg2))
      (hmisses : ¬ bt.Hits bitrate (time_quanta tseg1 tseg2)) : Tried bitrate bt tseg1 tseg2 (.ok none)
  | hit {timing : GsDeviceBittiming} (hfits : time_quanta tseg1 tseg2 < UInt32.size) (hbitrate : 0 < bitrate.toNat)
      (hhits : bt.Hits bitrate (time_quanta tseg1 tseg2))
      (htseg1 : timing.prop_seg.toNat + timing.phase_seg1.toNat = tseg1.toNat) (htseg2 : timing.phase_seg2 = tseg2)
      (hsjw : timing.sjw.toNat ≤ bt.sjw_max.toNat)
      (hbrp : timing.brp.toNat = bt.rounded_brp bitrate (time_quanta tseg1 tseg2)) :
      Tried bitrate bt tseg1 tseg2 (.ok (some timing))

theorem GsDeviceBtConst.Hits.not_misrounds {bt : GsDeviceBtConst} {bitrate : UInt32} {tq : Nat}
    (h : bt.Hits bitrate tq) : ¬ bt.Misrounds bitrate tq := by
  obtain ⟨-, hfits, hpos, -⟩ := h
  rintro ⟨-, hoverflow | ⟨-, hzero⟩⟩
  · exact absurd hfits (Nat.not_lt.2 hoverflow)
  · exact absurd ((round_to_eq_zero_iff bt.inc_pos _).2 hzero) (Nat.pos_iff_ne_zero.1 hpos)

section Try

variable {bitrate : UInt32} {bt : GsDeviceBtConst} {tseg1 tseg2 : UInt32}

theorem round_brp_spec {brp_exact : UInt32} (h : brp_exact.toNat + bt.inc / 2 < UInt32.size) :
    ∃ brp, round_brp bt brp_exact = .ok brp ∧ brp.toNat = round_to bt.inc brp_exact.toNat := by
  have hinc := bt.toNat_inc
  obtain ⟨half, hhalf, hhalf_val⟩ := @u32.div_spec (max bt.brp_inc 1) 2 (by decide)
  rw [hinc] at hhalf_val
  have htwo : (2 : UInt32).toNat = 2 := rfl
  rw [htwo] at hhalf_val
  obtain ⟨sum, hsum, hsum_val⟩ := @u32.add_spec brp_exact half (by rwa [hhalf_val])
  obtain ⟨steps, hsteps, hsteps_val⟩ := @u32.div_spec sum (max bt.brp_inc 1) (by rw [hinc]; exact bt.inc_pos)
  rw [hsum_val, hhalf_val, hinc] at hsteps_val
  have hproduct : steps.toNat * (max bt.brp_inc 1).toNat = round_to bt.inc brp_exact.toNat := by
    rw [hsteps_val, hinc, round_to]
  obtain ⟨brp, hbrp, hbrp_val⟩ := @u32.mul_spec steps (max bt.brp_inc 1)
    (by rw [hproduct]; exact Nat.lt_of_le_of_lt (round_to_le _ _) h)
  refine ⟨brp, ?_, hbrp_val.trans hproduct⟩
  simp only [round_brp, hhalf, hsum, hsteps, ok_bind, hbrp]

theorem round_brp_overflow {brp_exact : UInt32} (h : UInt32.size ≤ brp_exact.toNat + bt.inc / 2) :
    round_brp bt brp_exact = .error .Overflow := by
  obtain ⟨half, hhalf, hhalf_val⟩ := @u32.div_spec (max bt.brp_inc 1) 2 (by decide)
  have htwo : (2 : UInt32).toNat = 2 := rfl
  rw [bt.toNat_inc, htwo] at hhalf_val
  have hsum : u32.add brp_exact half = .error .Overflow := u32.add_overflow (by rwa [hhalf_val])
  simp only [round_brp, hhalf, hsum, ok_bind, error_bind]

/-- Trying the rounded prescaler. -/
private theorem tried_brp (hfits : time_quanta tseg1 tseg2 < UInt32.size) (hbitrate : 0 < bitrate.toNat)
    (hexact : 0 < bt.exact_brp bitrate (time_quanta tseg1 tseg2))
    (hrounds : bt.exact_brp bitrate (time_quanta tseg1 tseg2) + bt.inc / 2 < UInt32.size)
    {total_tq brp : UInt32} (htotal : total_tq.toNat = time_quanta tseg1 tseg2)
    (hbrp : brp.toNat = bt.rounded_brp bitrate (time_quanta tseg1 tseg2)) :
    Tried bitrate bt tseg1 tseg2 (try_brp bitrate bt tseg1 tseg2 total_tq brp) := by
  have hout_of_range : (brp < bt.brp_min ∨ brp > bt.brp_max) ↔ ¬ (bt.brp_min.toNat ≤ brp.toNat ∧
      brp.toNat ≤ bt.brp_max.toNat) := by
    rw [gt_iff_lt, UInt32.lt_iff_toNat_lt, UInt32.lt_iff_toNat_lt]
    omega
  have hzero : bt.rounded_brp bitrate (time_quanta tseg1 tseg2) = 0 ↔
      bt.exact_brp bitrate (time_quanta tseg1 tseg2) + bt.inc / 2 < bt.inc :=
    round_to_eq_zero_iff bt.inc_pos _
  have htotal_pos : 0 < total_tq.toNat := by
    rw [htotal, time_quanta]
    omega
  unfold try_brp
  by_cases hrange : bt.brp_min.toNat ≤ brp.toNat ∧ brp.toNat ≤ bt.brp_max.toNat
  · rw [if_neg fun hout => hout_of_range.1 hout hrange]
    by_cases hpos : 0 < brp.toNat
    · have hno_misround : ¬ bt.Misrounds bitrate (time_quanta tseg1 tseg2) := by
        rintro ⟨-, hoverflow | ⟨-, hnone⟩⟩
        · omega
        · rw [hbrp, hzero.2 hnone] at hpos
          omega
      obtain ⟨quotient, hquotient, hquotient_val⟩ := @u32.div_spec bt.fclk_can brp hpos
      obtain ⟨actual, hactual, hactual_val⟩ := @u32.div_spec quotient total_tq htotal_pos
      rw [hquotient, ok_bind, hactual, ok_bind]
      rw [hquotient_val, htotal, hbrp] at hactual_val
      rw [hbrp] at hrange hpos
      by_cases hhit : actual = bitrate
      · obtain ⟨phase_seg1, hphase, hphase_val⟩ := @u32.div_spec tseg1 2 (by decide)
        obtain ⟨prop_seg, hprop, hprop_val⟩ := @u32.sub_spec tseg1 phase_seg1
          (by rw [hphase_val]; exact Nat.div_le_self _ _)
        rw [if_pos hhit, hphase, ok_bind, hprop, ok_bind]
        rw [hhit] at hactual_val
        refine .hit hfits hbitrate ⟨hexact, hrounds, hpos, hrange.1, hrange.2, hactual_val.symm⟩ hprop_val rfl ?_ hbrp
        rw [UInt32.toNat_min]
        exact Nat.min_le_right _ _
      · rw [if_neg hhit]
        refine .missed hfits hbitrate hno_misround ?_
        rintro ⟨-, -, -, -, -, hrate⟩
        exact hhit (UInt32.toNat_inj.1 (hactual_val.trans hrate))
    · have hnone : brp.toNat = 0 := Nat.eq_zero_of_not_pos hpos
      rw [u32.div_zero hnone]
      refine .misrounded hfits hbitrate ⟨hexact, .inr ⟨by omega, ?_⟩⟩ (by omega)
      rw [← hzero, ← hbrp, hnone]
  · rw [if_pos (hout_of_range.2 hrange)]
    refine .missed hfits hbitrate ?_ ?_
    · rintro ⟨-, hoverflow | ⟨hmin, hnone⟩⟩
      · omega
      · rw [← hzero, ← hbrp] at hnone
        omega
    · rintro ⟨-, -, -, hmin, hmax, -⟩
      rw [hbrp] at hrange
      exact hrange ⟨hmin, hmax⟩

/-- Trying two segment lengths has one of the outcomes above. -/
theorem tried (bitrate : UInt32) (bt : GsDeviceBtConst) (tseg1 tseg2 : UInt32) :
    Tried bitrate bt tseg1 tseg2 (try_segments bitrate bt tseg1 tseg2) := by
  have hone : (1 : UInt32).toNat = 1 := rfl
  unfold try_segments
  by_cases hfits : time_quanta tseg1 tseg2 < UInt32.size
  · unfold time_quanta at hfits
    obtain ⟨sum, hsum, hsum_val⟩ := @u32.add_spec 1 tseg1 (by omega)
    obtain ⟨total_tq, htotal, htotal_val⟩ := @u32.add_spec sum tseg2 (by omega)
    rw [hsum_val, hone] at htotal_val
    have htotal_pos : 0 < total_tq.toNat := by omega
    have hnonzero : total_tq ≠ 0 := by
      rintro rfl
      exact absurd htotal_pos (Nat.lt_irrefl 0)
    rw [hsum, ok_bind, htotal, ok_bind, if_neg hnonzero]
    by_cases hbitrate : 0 < bitrate.toNat
    · obtain ⟨ratio, hratio, hratio_val⟩ := @u32.div_spec bt.fclk_can bitrate hbitrate
      obtain ⟨brp_exact, hexact, hexact_val⟩ := @u32.div_spec ratio total_tq htotal_pos
      rw [hratio_val, htotal_val] at hexact_val
      rw [hratio, ok_bind, hexact, ok_bind]
      by_cases hslow : brp_exact = 0
      · rw [if_pos hslow]
        have hnone : bt.exact_brp bitrate (time_quanta tseg1 tseg2) = 0 := by
          rw [GsDeviceBtConst.exact_brp, time_quanta, ← hexact_val, hslow]
          rfl
        refine .missed hfits hbitrate ?_ ?_
        · rintro ⟨hpos, -⟩
          omega
        · rintro ⟨hpos, -⟩
          omega
      · have hexact_brp : bt.exact_brp bitrate (time_quanta tseg1 tseg2) = brp_exact.toNat := hexact_val.symm
        have hexact_pos : 0 < bt.exact_brp bitrate (time_quanta tseg1 tseg2) := by
          rw [hexact_brp, Nat.pos_iff_ne_zero]
          exact fun hzero => hslow (UInt32.toNat_inj.1 hzero)
        rw [if_neg hslow]
        by_cases hrounds : brp_exact.toNat + bt.inc / 2 < UInt32.size
        · obtain ⟨brp, hbrp, hbrp_val⟩ := round_brp_spec hrounds
          rw [hbrp, ok_bind]
          rw [← hexact_brp] at hrounds hbrp_val
          exact tried_brp hfits hbitrate hexact_pos hrounds htotal_val hbrp_val
        · have hoverflow := Nat.le_of_not_lt hrounds
          rw [round_brp_overflow hoverflow]
          rw [← hexact_brp] at hoverflow
          exact .misrounded hfits hbitrate ⟨hexact_pos, .inl hoverflow⟩ fun _ => rfl
    · have hzero : bitrate.toNat = 0 := Nat.eq_zero_of_not_pos hbitrate
      rw [u32.div_zero hzero]
      exact .no_bitrate hfits hzero
  · have hoverlong := Nat.le_of_not_lt hfits
    unfold time_quanta at hoverlong
    by_cases hsum_fits : 1 + tseg1.toNat < UInt32.size
    · obtain ⟨sum, hsum, hsum_val⟩ := @u32.add_spec 1 tseg1 hsum_fits
      have hoverflow : u32.add sum tseg2 = .error .Overflow := u32.add_overflow (by rw [hsum_val, hone]; exact hoverlong)
      rw [hsum, ok_bind, hoverflow]
      exact .overlong hoverlong
    · have hoverflow : u32.add 1 tseg1 = .error .Overflow := u32.add_overflow (Nat.le_of_not_lt hsum_fits)
      rw [hoverflow]
      exact .overlong hoverlong

end Try

section Search

variable {bitrate : UInt32} {bt : GsDeviceBtConst}

/-- The segment lengths to try, in the order of the loops. -/
def GsDeviceBtConst.segments (bt : GsDeviceBtConst) : List (UInt32 × UInt32) :=
  u32.rev_range bt.tseg1_min bt.tseg1_max ×ˢ u32.rev_range bt.tseg2_min bt.tseg2_max

/-- The segment lengths are in the range of the device. -/
def GsDeviceBtConst.InRange (bt : GsDeviceBtConst) (tseg1 tseg2 : UInt32) : Prop :=
  (bt.tseg1_min.toNat ≤ tseg1.toNat ∧ tseg1.toNat ≤ bt.tseg1_max.toNat) ∧
    bt.tseg2_min.toNat ≤ tseg2.toNat ∧ tseg2.toNat ≤ bt.tseg2_max.toNat

theorem GsDeviceBtConst.mem_segments {tseg1 tseg2 : UInt32} :
    (tseg1, tseg2) ∈ bt.segments ↔ bt.InRange tseg1 tseg2 := by
  rw [GsDeviceBtConst.segments, List.mem_product, u32.mem_rev_range, u32.mem_rev_range]
  rfl

theorem compute_bittiming_eq (bitrate : UInt32) (bt : GsDeviceBtConst) :
    compute_bittiming bitrate bt =
      first_some (fun segments => try_segments bitrate bt segments.1 segments.2) bt.segments :=
  first_some_product _ _ _

/-- A timing that is found fits the device and gives the bitrate, rounded down. -/
structure Sound (bitrate : UInt32) (bt : GsDeviceBtConst) (timing : GsDeviceBittiming) : Prop where
  tseg1 : bt.tseg1_min.toNat ≤ timing.prop_seg.toNat + timing.phase_seg1.toNat ∧
    timing.prop_seg.toNat + timing.phase_seg1.toNat ≤ bt.tseg1_max.toNat
  tseg2 : bt.tseg2_min.toNat ≤ timing.phase_seg2.toNat ∧ timing.phase_seg2.toNat ≤ bt.tseg2_max.toNat
  brp : bt.brp_min.toNat ≤ timing.brp.toNat ∧ timing.brp.toNat ≤ bt.brp_max.toNat
  brp_pos : 0 < timing.brp.toNat
  brp_inc : max bt.brp_inc.toNat 1 ∣ timing.brp.toNat
  sjw : timing.sjw.toNat ≤ bt.sjw_max.toNat
  rate : bitrate.toNat * timing.brp.toNat *
        (1 + (timing.prop_seg.toNat + timing.phase_seg1.toNat) + timing.phase_seg2.toNat) ≤ bt.fclk_can.toNat ∧
    bt.fclk_can.toNat < (bitrate.toNat + 1) * timing.brp.toNat *
      (1 + (timing.prop_seg.toNat + timing.phase_seg1.toNat) + timing.phase_seg2.toNat)

theorem sound_of_tried {tseg1 tseg2 : UInt32} {timing : GsDeviceBittiming} (hrange : bt.InRange tseg1 tseg2)
    (h : Tried bitrate bt tseg1 tseg2 (.ok (some timing))) : Sound bitrate bt timing := by
  cases h with
  | hit hfits hbitrate hhits htseg1 htseg2 hsjw hbrp =>
    obtain ⟨-, -, hpos, hmin, hmax, hrate⟩ := hhits
    have htq : 0 < time_quanta tseg1 tseg2 := by
      unfold time_quanta
      omega
    have htq_val : time_quanta tseg1 tseg2 =
        1 + (timing.prop_seg.toNat + timing.phase_seg1.toNat) + timing.phase_seg2.toNat := by
      rw [time_quanta, htseg1, htseg2]
    rw [div_div_eq_iff hpos htq, ← hbrp, htq_val] at hrate
    rw [← hbrp] at hpos hmin hmax
    constructor
    · rw [htseg1]
      exact hrange.1
    · rw [htseg2]
      exact hrange.2
    · exact ⟨hmin, hmax⟩
    · exact hpos
    · rw [hbrp]
      exact dvd_round_to _ _
    · exact hsjw
    · exact hrate

/-- What is found is right. -/
theorem compute_bittiming_sound (bitrate : UInt32) (bt : GsDeviceBtConst) (timing : GsDeviceBittiming)
    (h : compute_bittiming bitrate bt = .ok (some timing)) : Sound bitrate bt timing := by
  rw [compute_bittiming_eq] at h
  obtain ⟨⟨tseg1, tseg2⟩, hmem, htimed⟩ := mem_of_first_some h
  have htried := tried bitrate bt tseg1 tseg2
  rw [htimed] at htried
  exact sound_of_tried (GsDeviceBtConst.mem_segments.1 hmem) htried

end Search

/-- A candleLight device with a clock of 48 MHz. -/
def candlelight_48mhz : GsDeviceBtConst where
  fclk_can := 48000000
  tseg1_min := 1
  tseg1_max := 16
  tseg2_min := 1
  tseg2_max := 8
  sjw_max := 4
  brp_min := 1
  brp_max := 512
  brp_inc := 1

theorem compute_bittiming_sound_1mbit : Sound 1000000 candlelight_48mhz ⟨8, 8, 7, 1, 2⟩ :=
  compute_bittiming_sound 1000000 candlelight_48mhz ⟨8, 8, 7, 1, 2⟩ (by decide)

/-- Segment lengths and a prescaler in the ranges of the device that give the
bitrate exactly. -/
structure ExactRate (bitrate : UInt32) (bt : GsDeviceBtConst) (tseg1 tseg2 brp : UInt32) : Prop where
  segments : bt.InRange tseg1 tseg2
  range : bt.brp_min.toNat ≤ brp.toNat ∧ brp.toNat ≤ bt.brp_max.toNat
  step : max bt.brp_inc.toNat 1 ∣ brp.toNat
  rate : bitrate.toNat * brp.toNat * (1 + tseg1.toNat + tseg2.toNat) = bt.fclk_can.toNat

section Exact

variable {bitrate : UInt32} {bt : GsDeviceBtConst} {tseg1 tseg2 brp : UInt32}

/-- The prescaler that is tried is the exact one. -/
theorem ExactRate.exact_brp (h : ExactRate bitrate bt tseg1 tseg2 brp) (hbitrate : 0 < bitrate.toNat) :
    bt.exact_brp bitrate (time_quanta tseg1 tseg2) = brp.toNat := by
  have htq : 0 < time_quanta tseg1 tseg2 := by
    unfold time_quanta
    omega
  have hclock : bt.fclk_can.toNat = brp.toNat * (bitrate.toNat * time_quanta tseg1 tseg2) := by
    rw [← h.rate, time_quanta, Nat.mul_left_comm, Nat.mul_assoc]
  rw [GsDeviceBtConst.exact_brp, Nat.div_div_eq_div_mul, hclock, Nat.mul_div_cancel _ (Nat.mul_pos hbitrate htq)]

theorem ExactRate.rounded_brp (h : ExactRate bitrate bt tseg1 tseg2 brp) (hbitrate : 0 < bitrate.toNat) :
    bt.rounded_brp bitrate (time_quanta tseg1 tseg2) = brp.toNat := by
  rw [GsDeviceBtConst.rounded_brp, h.exact_brp hbitrate]
  exact round_to_of_dvd bt.inc_pos h.step

end Exact

end cyphal_service.transport.can_gsusb
