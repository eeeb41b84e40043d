import CyphalService.GsUsb.Bittiming

open checked

namespace cyphal_service.transport.can_gsusb

/-- The first segment lengths are tried before the second ones. -/
def Before (first second : UInt32 × UInt32) : Prop :=
  second.1.toNat < first.1.toNat ∨ first.1 = second.1 ∧ second.2.toNat < first.2.toNat

/-- There are no segment lengths to try; or there are, the longest bit fits in
32 bits, the bitrate is not 0, and where rounding the prescaler goes wrong a
prescaler is accepted for segment lengths tried before. -/
def Computable (bitrate : UInt32) (bt : GsDeviceBtConst) : Prop :=
  (bt.tseg1_max.toNat < bt.tseg1_min.toNat ∨ bt.tseg2_max.toNat < bt.tseg2_min.toNat) ∨
    (1 + bt.tseg1_max.toNat + bt.tseg2_max.toNat < UInt32.size ∧ 0 < bitrate.toNat ∧
      ∀ segments ∈ bt.segments, bt.Misrounds bitrate (time_quanta segments.1 segments.2) →
        ∃ earlier ∈ bt.segments, Before earlier segments ∧
          bt.Hits bitrate (time_quanta earlier.1 earlier.2))

section Segments

variable {bitrate : UInt32} {bt : GsDeviceBtConst} {tseg1 tseg2 : UInt32}

theorem before_asymm (first second : UInt32 × UInt32) (h : Before first second) : ¬ Before second first := by
  unfold Before at h ⊢
  rw [← UInt32.toNat_inj] at h ⊢
  omega

theorem pairwise_segments (bt : GsDeviceBtConst) : bt.segments.Pairwise Before :=
  pairwise_product (u32.pairwise_rev_range _ _) (u32.pairwise_rev_range _ _)

theorem try_segments_fault_iff :
    (∃ fault, try_segments bitrate bt tseg1 tseg2 = .error fault) ↔
      UInt32.size ≤ time_quanta tseg1 tseg2 ∨ bitrate.toNat = 0 ∨
        bt.Misrounds bitrate (time_quanta tseg1 tseg2) := by
  have htried := tried bitrate bt tseg1 tseg2
  constructor
  · rintro ⟨fault, h⟩
    rw [h] at htried
    cases htried with
    | overlong hlong => exact .inl hlong
    | no_bitrate hfits hzero => exact .inr (.inl hzero)
    | misrounded hfits hpos hmisrounds hfault => exact .inr (.inr hmisrounds)
  · intro hfaults
    cases hresult : try_segments bitrate bt tseg1 tseg2 with
    | error fault => exact ⟨fault, rfl⟩
    | ok found =>
      rw [hresult] at htried
      -- What was tried without a fault fits, and its prescaler is rounded well.
      have hfaultless : time_quanta tseg1 tseg2 < UInt32.size ∧ 0 < bitrate.toNat ∧
          ¬ bt.Misrounds bitrate (time_quanta tseg1 tseg2) := by
        cases htried with
        | missed hfits hpos hrounds hmisses => exact ⟨hfits, hpos, hrounds⟩
        | hit hfits hpos hhits htseg1 htseg2 hsjw hbrp => exact ⟨hfits, hpos, hhits.not_misrounds⟩
      obtain ⟨hfits, hpos, hrounds⟩ := hfaultless
      obtain hlong | hzero | hmisrounds := hfaults
      · omega
      · omega
      · exact absurd hmisrounds hrounds

theorem try_segments_found_iff :
    (∃ timing, try_segments bitrate bt tseg1 tseg2 = .ok (some timing)) ↔
      time_quanta tseg1 tseg2 < UInt32.size ∧ 0 < bitrate.toNat ∧ bt.Hits bitrate (time_quanta tseg1 tseg2) := by
  have htried := tried bitrate bt tseg1 tseg2
  constructor
  · rintro ⟨timing, h⟩
    rw [h] at htried
    cases htried with
    | hit hfits hpos hhits htseg1 htseg2 hsjw hbrp => exact ⟨hfits, hpos, hhits⟩
  · rintro ⟨hfits, hpos, hhits⟩
    generalize try_segments bitrate bt tseg1 tseg2 = result at htried
    cases htried with
    | overlong hlong => omega
    | no_bitrate hfits hzero => omega
    | misrounded hfits hpos hmisrounds hfault => exact absurd hmisrounds hhits.not_misrounds
    | missed hfits hpos hrounds hmisses => exact absurd hhits hmisses
    | hit hfits hpos hhits htseg1 htseg2 hsjw hbrp => exact ⟨_, rfl⟩

/-- The longest bit is tried first. -/
theorem time_quanta_le (h : (tseg1, tseg2) ∈ bt.segments) :
    time_quanta tseg1 tseg2 ≤ 1 + bt.tseg1_max.toNat + bt.tseg2_max.toNat := by
  obtain ⟨⟨-, hmax1⟩, -, hmax2⟩ := GsDeviceBtConst.mem_segments.1 h
  unfold time_quanta
  omega

theorem not_before_first (h : (tseg1, tseg2) ∈ bt.segments) :
    ¬ Before (tseg1, tseg2) (bt.tseg1_max, bt.tseg2_max) := by
  obtain ⟨⟨-, hmax1⟩, -, hmax2⟩ := GsDeviceBtConst.mem_segments.1 h
  rintro (hlater | ⟨-, hlater⟩)
  · exact absurd hmax1 (Nat.not_le.2 hlater)
  · exact absurd hmax2 (Nat.not_le.2 hlater)

end Segments

/-- The computation of the bit timing meets no overflow and no zero divisor in
exactly the cases above. -/
theorem bittiming_faultless_iff (bitrate : UInt32) (bt : GsDeviceBtConst) :
    (∃ timing, compute_bittiming bitrate bt = .ok timing) ↔ Computable bitrate bt := by
  rw [compute_bittiming_eq, first_some_ok_iff before_asymm (pairwise_segments bt)]
  constructor
  · intro hfaultless
    by_cases hempty : bt.tseg1_max.toNat < bt.tseg1_min.toNat ∨ bt.tseg2_max.toNat < bt.tseg2_min.toNat
    · exact .inl hempty
    · have hfirst : (bt.tseg1_max, bt.tseg2_max) ∈ bt.segments := by
        rw [GsDeviceBtConst.mem_segments, GsDeviceBtConst.InRange]
        omega
      have hfirst_faultless : ¬ ∃ fault, try_segments bitrate bt bt.tseg1_max bt.tseg2_max = .error fault := by
        intro hfault
        obtain ⟨earlier, hmem, hbefore, -⟩ := hfaultless _ hfirst hfault
        exact not_before_first hmem hbefore
      rw [try_segments_fault_iff, not_or, not_or] at hfirst_faultless
      obtain ⟨hfits, hbitrate, -⟩ := hfirst_faultless
      refine .inr ⟨Nat.lt_of_not_le hfits, Nat.pos_iff_ne_zero.2 hbitrate, ?_⟩
      intro segments hmem hmisrounds
      obtain ⟨earlier, hmem', hbefore, hfound⟩ :=
        hfaultless segments hmem (try_segments_fault_iff.2 (.inr (.inr hmisrounds)))
      exact ⟨earlier, hmem', hbefore, (try_segments_found_iff.1 hfound).2.2⟩
  · rintro (hempty | ⟨hfits, hbitrate, hrounds⟩)
    · intro segments hmem
      obtain ⟨⟨hmin1, hmax1⟩, hmin2, hmax2⟩ := GsDeviceBtConst.mem_segments.1 hmem
      omega
    · intro segments hmem hfault
      have hshort := Nat.lt_of_le_of_lt (time_quanta_le hmem) hfits
      obtain hlong | hzero | hmisrounds := try_segments_fault_iff.1 hfault
      · omega
      · omega
      · obtain ⟨earlier, hmem', hbefore, hhits⟩ := hrounds segments hmem hmisrounds
        have hshort' := Nat.lt_of_le_of_lt (time_quanta_le hmem') hfits
        exact ⟨earlier, hmem', hbefore, try_segments_found_iff.2 ⟨hshort', hbitrate, hhits⟩⟩

/-- A device that steps its prescaler by one from 1 on never misrounds. -/
theorem not_misrounds_of_step_one {bt : GsDeviceBtConst} (hmin : 1 ≤ bt.brp_min.toNat) (hinc : bt.brp_inc.toNat ≤ 1)
    (bitrate : UInt32) (tq : Nat) : ¬ bt.Misrounds bitrate tq := by
  have hstep : bt.inc = 1 := Nat.max_eq_right hinc
  have hbound : bt.exact_brp bitrate tq ≤ bt.fclk_can.toNat :=
    (Nat.div_le_self _ _).trans (Nat.div_le_self _ _)
  have hclock := bt.fclk_can.toNat_lt
  rintro ⟨-, hoverflow | ⟨hzero, -⟩⟩
  · rw [hstep] at hoverflow
    simp only [UInt32.size] at hoverflow
    omega
  · omega

/-- On such a device only the bitrate 0 and bits that are too long make the
computation fault. -/
theorem computable_of_step_one {bt : GsDeviceBtConst} (hmin : 1 ≤ bt.brp_min.toNat) (hinc : bt.brp_inc.toNat ≤ 1)
    (bitrate : UInt32) : Computable bitrate bt ↔
      (bt.tseg1_max.toNat < bt.tseg1_min.toNat ∨ bt.tseg2_max.toNat < bt.tseg2_min.toNat) ∨
        (1 + bt.tseg1_max.toNat + bt.tseg2_max.toNat < UInt32.size ∧ 0 < bitrate.toNat) := by
  refine or_congr_right (and_congr_right fun _ => and_iff_left ?_)
  intro segments hmem hmisrounds
  exact absurd hmisrounds (not_misrounds_of_step_one hmin hinc bitrate _)

/-- The bitrate 0 is divided by. -/
theorem bittiming_faultless_fails :
    ¬ ∀ (bitrate : UInt32) (bt : GsDeviceBtConst), ∃ timing, compute_bittiming bitrate bt = .ok timing := by
  intro hall
  obtain ⟨timing, htiming⟩ := hall 0 candlelight_48mhz
  have hfault : compute_bittiming 0 candlelight_48mhz = .error .DivisionByZero := by decide
  rw [hfault] at htiming
  cases htiming

end cyphal_service.transport.can_gsusb
