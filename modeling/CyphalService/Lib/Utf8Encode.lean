import CyphalService.Lib.Utf8

namespace utf8

/-- The bytes of a text, as `str::bytes` yields them. -/
def encode (text : List Char) : List UInt8 := text.flatMap String.utf8EncodeChar

/-- The number of bytes of a text. -/
def size : List Char → Nat
  | [] => 0
  | c :: text => c.utf8Size + size text

@[simp] theorem encode_nil : encode [] = [] := rfl

@[simp] theorem encode_cons (c : Char) (text : List Char) :
    encode (c :: text) = String.utf8EncodeChar c ++ encode text := rfl

@[simp] theorem size_nil : size [] = 0 := rfl

@[simp] theorem size_cons (c : Char) (text : List Char) : size (c :: text) = c.utf8Size + size text := rfl

/-- The bytes complete a sequence to a character. -/
inductive Reads : Sequence → List UInt8 → Char → Prop where
  | last {s : Sequence} {b : UInt8} (howed : s.owed = 1) (hrange : s.low ≤ b ∧ b ≤ s.high) :
      Reads s [b] (Char.ofNat (s.bits * 64 + (b.toNat - 0x80)))
  | next {s : Sequence} {b : UInt8} {bytes : List UInt8} {c : Char} (howed : s.owed ≠ 1)
      (hrange : s.low ≤ b ∧ b ≤ s.high)
      (h : Reads ⟨s.bits * 64 + (b.toNat - 0x80), s.owed - 1, 0x80, 0xBF⟩ bytes c) : Reads s (b :: bytes) c

/-- The bytes are read as a character. -/
inductive Encodes (c : Char) : List UInt8 → Prop where
  | single {b : UInt8} (h : lead b = .char c) : Encodes c [b]
  | sequence {b : UInt8} {bytes : List UInt8} {s : Sequence} (h : lead b = .sequence s) (hreads : Reads s bytes c) :
      Encodes c (b :: bytes)

section Decode

variable {s : Sequence} {bytes : List UInt8} {c : Char}

theorem Reads.decode (h : Reads s bytes c) (rest : List UInt8) :
    decode (some s) (bytes ++ rest) = c :: utf8.decode none rest := by
  induction h with
  | last howed hrange =>
    rw [List.singleton_append, utf8.decode, if_pos hrange]
    exact if_pos howed
  | next howed hrange h ih =>
    rw [List.cons_append, utf8.decode, if_pos hrange]
    exact (if_neg howed).trans ih

/-- A sequence that ends before its last byte is one replacement character. -/
theorem Reads.decode_take (h : Reads s bytes c) {n : Nat} (hn : n < bytes.length) :
    utf8.decode (some s) (bytes.take n) = [REPLACEMENT_CHARACTER] := by
  induction h generalizing n with
  | last howed hrange =>
    obtain rfl : n = 0 := by
      rw [List.length_singleton] at hn
      omega
    rfl
  | next howed hrange h ih =>
    cases n with
    | zero => rfl
    | succ n =>
      rw [List.take_succ_cons, utf8.decode, if_pos hrange]
      exact (if_neg howed).trans (ih (Nat.lt_of_succ_lt_succ hn))

theorem Encodes.decode (h : Encodes c bytes) (rest : List UInt8) :
    utf8.decode none (bytes ++ rest) = c :: utf8.decode none rest := by
  cases h with
  | single hlead =>
    rw [List.singleton_append, utf8.decode, begin_at, hlead]
  | sequence hlead hreads =>
    rw [List.cons_append, utf8.decode, begin_at, hlead]
    exact hreads.decode rest

theorem Encodes.decode_take (h : Encodes c bytes) {n : Nat} (hpos : 0 < n) (hn : n < bytes.length) :
    utf8.decode none (bytes.take n) = [REPLACEMENT_CHARACTER] := by
  obtain ⟨n, rfl⟩ := Nat.exists_eq_add_one.2 hpos
  cases h with
  | single hlead => exact absurd hn (Nat.not_lt_of_le (Nat.le_add_left 1 n))
  | sequence hlead hreads =>
    rw [List.take_succ_cons, utf8.decode, begin_at, hlead]
    exact hreads.decode_take (Nat.lt_of_succ_lt_succ hn)

end Decode

/-- A first byte, by its value. -/
theorem lead_ofNat {n : Nat} (hn : n < 256) : lead (UInt8.ofNat n) =
    if n ≤ 0x7F then .char (Char.ofNat n)
    else if n < 0xC2 then .invalid
    else if n ≤ 0xDF then .sequence ⟨n - 0xC0, 1, 0x80, 0xBF⟩
    else if n = 0xE0 then .sequence ⟨0, 2, 0xA0, 0xBF⟩
    else if n = 0xED then .sequence ⟨0xD, 2, 0x80, 0x9F⟩
    else if n ≤ 0xEF then .sequence ⟨n - 0xE0, 2, 0x80, 0xBF⟩
    else if n = 0xF0 then .sequence ⟨0, 3, 0x90, 0xBF⟩
    else if n ≤ 0xF3 then .sequence ⟨n - 0xF0, 3, 0x80, 0xBF⟩
    else if n = 0xF4 then .sequence ⟨4, 3, 0x80, 0x8F⟩
    else .invalid := by
  have hvalue : (UInt8.ofNat n).toNat = n := UInt8.toNat_ofNat_of_lt' hn
  simp only [lead, UInt8.le_iff_toNat_le, UInt8.lt_iff_toNat_lt, ← UInt8.toNat_inj, hvalue]
  rfl

theorem Reads.last_ofNat {s : Sequence} {n : Nat} (howed : s.owed = 1) (hn : n < 256)
    (hrange : s.low.toNat ≤ n ∧ n ≤ s.high.toNat) :
    Reads s [UInt8.ofNat n] (Char.ofNat (s.bits * 64 + (n - 0x80))) := by
  have hvalue : (UInt8.ofNat n).toNat = n := UInt8.toNat_ofNat_of_lt' hn
  have hreads := @Reads.last s (UInt8.ofNat n) howed (by
    rw [UInt8.le_iff_toNat_le, UInt8.le_iff_toNat_le, hvalue]
    exact hrange)
  rwa [hvalue] at hreads

theorem Reads.next_ofNat {s : Sequence} {n : Nat} {bytes : List UInt8} {c : Char} (howed : s.owed ≠ 1) (hn : n < 256)
    (hrange : s.low.toNat ≤ n ∧ n ≤ s.high.toNat)
    (h : Reads ⟨s.bits * 64 + (n - 0x80), s.owed - 1, 0x80, 0xBF⟩ bytes c) :
    Reads s (UInt8.ofNat n :: bytes) c := by
  have hvalue : (UInt8.ofNat n).toNat = n := UInt8.toNat_ofNat_of_lt' hn
  refine .next howed ?_ (hvalue.symm ▸ h)
  rw [UInt8.le_iff_toNat_le, UInt8.le_iff_toNat_le, hvalue]
  exact hrange

/-- The last byte of a character carries its lowest six bits. -/
theorem reads_one (v : Nat) : Reads ⟨v / 64, 1, 0x80, 0xBF⟩ [UInt8.ofNat (v % 64 + 0x80)] (Char.ofNat v) := by
  have hreads : Reads ⟨v / 64, 1, 0x80, 0xBF⟩ [UInt8.ofNat (v % 64 + 0x80)]
      (Char.ofNat (v / 64 * 64 + (v % 64 + 0x80 - 0x80))) := by
    refine .last_ofNat rfl (by omega) ⟨?_, ?_⟩
    · exact Nat.le_add_left _ _
    · change _ ≤ 0xBF
      omega
  have hvalue : v / 64 * 64 + (v % 64 + 0x80 - 0x80) = v := by omega
  rwa [hvalue] at hreads

/-- The last two bytes of a character, the first of them in its range. -/
theorem reads_two {v : Nat} {low high : UInt8} (hlow : low.toNat ≤ v / 64 % 64 + 0x80)
    (hhigh : v / 64 % 64 + 0x80 ≤ high.toNat) :
    Reads ⟨v / 4096, 2, low, high⟩ [UInt8.ofNat (v / 64 % 64 + 0x80), UInt8.ofNat (v % 64 + 0x80)]
      (Char.ofNat v) := by
  refine .next_ofNat (by simp) (by omega) ⟨hlow, hhigh⟩ ?_
  have hbits : v / 4096 * 64 + (v / 64 % 64 + 0x80 - 0x80) = v / 64 := by omega
  dsimp only
  rw [hbits]
  exact reads_one v

theorem reads_three {v : Nat} {low high : UInt8} (hlow : low.toNat ≤ v / 4096 % 64 + 0x80)
    (hhigh : v / 4096 % 64 + 0x80 ≤ high.toNat) :
    Reads ⟨v / 262144, 3, low, high⟩ [UInt8.ofNat (v / 4096 % 64 + 0x80), UInt8.ofNat (v / 64 % 64 + 0x80),
      UInt8.ofNat (v % 64 + 0x80)] (Char.ofNat v) := by
  refine .next_ofNat (by simp) (by omega) ⟨hlow, hhigh⟩ ?_
  have hbits : v / 262144 * 64 + (v / 4096 % 64 + 0x80 - 0x80) = v / 4096 := by omega
  dsimp only
  rw [hbits]
  refine reads_two ?_ ?_
  · exact Nat.le_add_left _ _
  · change _ ≤ 0xBF
    omega

section Encode

variable {v : Nat}

theorem encodes_one (hhigh : v ≤ 0x7F) : Encodes (Char.ofNat v) [UInt8.ofNat v] := by
  refine .single ?_
  rw [lead_ofNat (by omega), if_pos hhigh]

theorem encodes_two (hlow : 0x7F < v) (hhigh : v ≤ 0x7FF) :
    Encodes (Char.ofNat v) [UInt8.ofNat (v / 64 % 32 + 0xC0), UInt8.ofNat (v % 64 + 0x80)] := by
  refine .sequence ?_ (reads_one v)
  have hbits : v / 64 % 32 + 0xC0 - 0xC0 = v / 64 := by omega
  rw [lead_ofNat (by omega), if_neg (by omega), if_neg (by omega), if_pos (by omega), hbits]

/-- The second byte of three keeps overlong forms and surrogates out. -/
theorem encodes_three (hlow : 0x7FF < v) (hhigh : v ≤ 0xFFFF) (hvalid : v < 0xD800 ∨ 0xDFFF < v) :
    Encodes (Char.ofNat v) [UInt8.ofNat (v / 4096 % 16 + 0xE0), UInt8.ofNat (v / 64 % 64 + 0x80),
      UInt8.ofNat (v % 64 + 0x80)] := by
  have htop : v / 4096 % 16 = v / 4096 := by omega
  have hlt : v / 4096 + 0xE0 < 256 := by omega
  rw [htop]
  by_cases hzero : v / 4096 = 0
  · refine @Encodes.sequence _ _ _ ⟨v / 4096, 2, 0xA0, 0xBF⟩ ?_ (reads_two ?_ ?_)
    · rw [lead_ofNat hlt, hzero]
      rfl
    · change 0xA0 ≤ _
      omega
    · change _ ≤ 0xBF
      omega
  · by_cases hsurrogate : v / 4096 = 0xD
    · refine @Encodes.sequence _ _ _ ⟨v / 4096, 2, 0x80, 0x9F⟩ ?_ (reads_two ?_ ?_)
      · rw [lead_ofNat hlt, hsurrogate]
        rfl
      · change 0x80 ≤ _
        omega
      · change _ ≤ 0x9F
        omega
    · refine @Encodes.sequence _ _ _ ⟨v / 4096, 2, 0x80, 0xBF⟩ ?_ (reads_two ?_ ?_)
      · have hbits : v / 4096 + 0xE0 - 0xE0 = v / 4096 := by omega
        rw [lead_ofNat hlt, if_neg (by omega), if_neg (by omega), if_neg (by omega), if_neg (by omega),
          if_neg (by omega), if_pos (by omega), hbits]
      · change 0x80 ≤ _
        omega
      · change _ ≤ 0xBF
        omega

theorem encodes_four (hlow : 0xFFFF < v) (hhigh : v < 0x110000) :
    Encodes (Char.ofNat v) [UInt8.ofNat (v / 262144 % 8 + 0xF0), UInt8.ofNat (v / 4096 % 64 + 0x80),
      UInt8.ofNat (v / 64 % 64 + 0x80), UInt8.ofNat (v % 64 + 0x80)] := by
  have htop : v / 262144 % 8 = v / 262144 := by omega
  have hlt : v / 262144 + 0xF0 < 256 := by omega
  rw [htop]
  by_cases hzero : v / 262144 = 0
  · refine @Encodes.sequence _ _ _ ⟨v / 262144, 3, 0x90, 0xBF⟩ ?_ (reads_three ?_ ?_)
    · rw [lead_ofNat hlt, hzero]
      rfl
    · change 0x90 ≤ _
      omega
    · change _ ≤ 0xBF
      omega
  · by_cases hlast : v / 262144 = 4
    · refine @Encodes.sequence _ _ _ ⟨v / 262144, 3, 0x80, 0x8F⟩ ?_ (reads_three ?_ ?_)
      · rw [lead_ofNat hlt, hlast]
        rfl
      · change 0x80 ≤ _
        omega
      · change _ ≤ 0x8F
        omega
    · refine @Encodes.sequence _ _ _ ⟨v / 262144, 3, 0x80, 0xBF⟩ ?_ (reads_three ?_ ?_)
      · have hbits : v / 262144 + 0xF0 - 0xF0 = v / 262144 := by omega
        rw [lead_ofNat hlt, if_neg (by omega), if_neg (by omega), if_neg (by omega), if_neg (by omega),
          if_neg (by omega), if_neg (by omega), if_neg (by omega), if_pos (by omega), hbits]
      · change 0x80 ≤ _
        omega
      · change _ ≤ 0xBF
        omega

end Encode

/-- A character is read from its own bytes. -/
theorem encodes (c : Char) : Encodes c (String.utf8EncodeChar c) := by
  have hvalid : c.val.toNat < 0xD800 ∨ 0xDFFF < c.val.toNat ∧ c.val.toNat < 0x110000 := c.valid
  have hchar : Char.ofNat c.val.toNat = c := Char.ofNat_toNat c
  unfold String.utf8EncodeChar
  generalize c.val.toNat = v at hvalid hchar
  subst hchar
  dsimp only
  split
  · exact encodes_one ‹_›
  · split
    · exact encodes_two (by omega) ‹_›
    · split
      · exact encodes_three (by omega) ‹_› (by omega)
      · exact encodes_four (by omega) (by omega)

/-- The longest beginning of a text that fits into `n` bytes, and one replacement
character for a character that is cut. -/
def Truncates (n : Nat) (text shown : List Char) : Prop :=
  ∃ before after, text = before ++ after ∧ size before ≤ n ∧ (∀ c ∈ after.head?, n < size before + c.utf8Size) ∧
    shown = before ++ if after = [] ∨ size before = n then [] else [REPLACEMENT_CHARACTER]

theorem size_append (first second : List Char) : size (first ++ second) = size first + size second := by
  induction first with
  | nil => exact (Nat.zero_add _).symm
  | cons c first ih => rw [List.cons_append, size_cons, size_cons, ih, Nat.add_assoc]

/-- A text that fits is shown whole. -/
theorem Truncates.eq_of_fits {n : Nat} {text shown : List Char} (h : Truncates n text shown) (hfits : size text ≤ n) :
    shown = text := by
  obtain ⟨before, after, rfl, -, hmore, rfl⟩ := h
  cases after with
  | nil => rfl
  | cons c after =>
    have hover := hmore c rfl
    rw [size_append, size_cons] at hfits
    omega

/-- Decoding the first bytes of a text. -/
theorem truncates_decode_take (n : Nat) (text : List Char) : Truncates n text (decode none ((encode text).take n)) := by
  induction text generalizing n with
  | nil =>
    refine ⟨[], [], rfl, Nat.zero_le n, nofun, ?_⟩
    rw [encode_nil, List.take_nil]
    rfl
  | cons c text ih =>
    by_cases hfits : c.utf8Size ≤ n
    · obtain ⟨before, after, rfl, hsize, hmore, hshown⟩ := ih (n - c.utf8Size)
      refine ⟨c :: before, after, rfl, ?_, ?_, ?_⟩
      · rw [size_cons]
        omega
      · intro next hnext
        have hlt := hmore next hnext
        rw [size_cons]
        omega
      · have hlength : (String.utf8EncodeChar c).length ≤ n := by rwa [String.length_utf8EncodeChar]
        have hexact : size (c :: before) = n ↔ size before = n - c.utf8Size := by
          rw [size_cons]
          omega
        rw [encode_cons, List.take_append, List.take_of_length_le hlength, (encodes c).decode,
          String.length_utf8EncodeChar, hshown, List.cons_append]
        simp only [hexact]
    · have hlength : n < (String.utf8EncodeChar c).length := by
        rw [String.length_utf8EncodeChar]
        omega
      refine ⟨[], c :: text, rfl, Nat.zero_le n, ?_, ?_⟩
      · intro next hnext
        obtain rfl := Option.some.inj hnext
        rw [size_nil]
        omega
      · rw [encode_cons, List.take_append_of_le_length (Nat.le_of_lt hlength)]
        obtain rfl | hpos := Nat.eq_zero_or_pos n
        · rfl
        · rw [(encodes c).decode_take hpos hlength, if_neg]
          · rfl
          · rw [size_nil]
            simp only [reduceCtorEq, false_or]
            omega

end utf8
