import Mathlib.Data.Nat.Bitwise
import Mathlib.Data.UInt
import Mathlib.Tactic.Common

namespace bytes

/-- The two lower-case hex digits of a byte, high half first. -/
def hex_digits (b : UInt8) : List Char :=
  [Nat.digitChar (b.toNat / 16), Nat.digitChar (b.toNat % 16)]

/-- The bytes of a 64-bit integer, most significant first. -/
def to_be_bytes (x : UInt64) : List UInt8 :=
  [(x >>> 56).toUInt8, (x >>> 48).toUInt8, (x >>> 40).toUInt8, (x >>> 32).toUInt8,
    (x >>> 24).toUInt8, (x >>> 16).toUInt8, (x >>> 8).toUInt8, x.toUInt8]

/-- The `width` low bytes of a number, least significant first. -/
def to_le_bytes : Nat → Nat → List UInt8
  | 0, _ => []
  | width + 1, n => UInt8.ofNat n :: to_le_bytes width (n / 256)

/-- The number with the given bytes, least significant first. -/
def from_le_bytes : List UInt8 → Nat
  | [] => 0
  | b :: rest => b.toNat + 256 * from_le_bytes rest

namespace u32

def to_le_bytes (x : UInt32) : List UInt8 := bytes.to_le_bytes 4 x.toNat

def from_le_bytes (bs : List UInt8) : UInt32 := UInt32.ofNat (bytes.from_le_bytes bs)

end u32

@[simp] theorem length_to_le_bytes (width n : Nat) : (to_le_bytes width n).length = width := by
  induction width generalizing n with
  | zero => rfl
  | succ width ih => rw [to_le_bytes, List.length_cons, ih]

theorem from_le_bytes_to_le_bytes (width n : Nat) : from_le_bytes (to_le_bytes width n) = n % 256 ^ width := by
  induction width generalizing n with
  | zero => rw [Nat.pow_zero, Nat.mod_one, to_le_bytes, from_le_bytes]
  | succ width ih =>
    have hbyte : (UInt8.ofNat n).toNat = n % 256 := UInt8.toNat_ofNat'
    rw [to_le_bytes, from_le_bytes, ih, hbyte, Nat.pow_succ', Nat.mod_mul]

theorem from_le_bytes_lt (bs : List UInt8) : from_le_bytes bs < 256 ^ bs.length := by
  induction bs with
  | nil => exact Nat.one_pos
  | cons b rest ih =>
    have hb := b.toNat_lt
    rw [from_le_bytes, List.length_cons, Nat.pow_succ]
    omega

theorem from_le_bytes_append (low high : List UInt8) :
    from_le_bytes (low ++ high) = from_le_bytes low + 256 ^ low.length * from_le_bytes high := by
  induction low with
  | nil => simp [from_le_bytes]
  | cons b rest ih =>
    rw [List.cons_append, from_le_bytes, from_le_bytes, ih, List.length_cons, Nat.pow_succ', Nat.mul_assoc]
    omega

theorem to_le_bytes_from_le_bytes (bs : List UInt8) : to_le_bytes bs.length (from_le_bytes bs) = bs := by
  induction bs with
  | nil => rfl
  | cons b rest ih =>
    have hb := b.toNat_lt
    have hlow : UInt8.ofNat (b.toNat + 256 * from_le_bytes rest) = b := by
      apply UInt8.toNat_inj.1
      rw [UInt8.toNat_ofNat']
      omega
    have hhigh : (b.toNat + 256 * from_le_bytes rest) / 256 = from_le_bytes rest := by omega
    rw [List.length_cons, to_le_bytes, from_le_bytes, hlow, hhigh, ih]

namespace u32

@[simp] theorem length_to_le_bytes (x : UInt32) : (to_le_bytes x).length = 4 :=
  bytes.length_to_le_bytes 4 x.toNat

theorem toNat_from_le_bytes {bs : List UInt8} (h : bs.length = 4) :
    (from_le_bytes bs).toNat = bytes.from_le_bytes bs := by
  have hlt := from_le_bytes_lt bs
  rw [h] at hlt
  rw [from_le_bytes, UInt32.toNat_ofNat_of_lt' hlt]

@[simp] theorem from_le_bytes_to_le_bytes (x : UInt32) : from_le_bytes (to_le_bytes x) = x := by
  apply UInt32.toNat_inj.1
  rw [toNat_from_le_bytes (length_to_le_bytes x), to_le_bytes, bytes.from_le_bytes_to_le_bytes]
  exact Nat.mod_eq_of_lt x.toNat_lt

theorem to_le_bytes_from_le_bytes {bs : List UInt8} (h : bs.length = 4) :
    to_le_bytes (from_le_bytes bs) = bs := by
  rw [to_le_bytes, toNat_from_le_bytes h, ← h]
  exact bytes.to_le_bytes_from_le_bytes bs

/-- A flag of one bit is clear when that bit of the number is. -/
theorem and_flag_eq_zero {flag : UInt32} {i : Nat} (hflag : flag.toNat = 2 ^ i) (x : UInt32) :
    x &&& flag = 0 ↔ x.toNat / 2 ^ i % 2 = 0 := by
  rw [← UInt32.toNat_inj, UInt32.toNat_and, hflag, Nat.and_two_pow, UInt32.toNat_zero,
    Nat.testBit_eq_decide_div_mod_eq, Nat.mul_eq_zero, Bool.toNat_eq_zero, decide_eq_false_iff_not]
  have hpow := Nat.two_pow_pos i
  omega

theorem toNat_and_mask {mask : UInt32} {i : Nat} (hmask : mask.toNat = 2 ^ i - 1) (x : UInt32) :
    (x &&& mask).toNat = x.toNat % 2 ^ i := by
  rw [UInt32.toNat_and, hmask, Nat.and_two_pow_sub_one_eq_mod]

theorem toNat_or_flag {flag x : UInt32} {i : Nat} (hflag : flag.toNat = 2 ^ i) (hx : x.toNat < 2 ^ i) :
    (x ||| flag).toNat = 2 ^ i + x.toNat := by
  have hadd := Nat.two_pow_add_eq_or_of_lt hx 1
  rw [Nat.mul_one] at hadd
  rw [UInt32.toNat_or, hflag, hadd, Nat.or_comm]

/-- The `i`-th 32-bit word of a buffer. -/
def word (buf : List UInt8) (i : Nat) : UInt32 := from_le_bytes ((buf.drop (4 * i)).take 4)

/-- The bytes of a packed sequence of 32-bit words. -/
def words_to_le_bytes (words : List UInt32) : List UInt8 := words.flatMap to_le_bytes

@[simp] theorem length_words_to_le_bytes (words : List UInt32) :
    (words_to_le_bytes words).length = 4 * words.length := by
  induction words with
  | nil => rfl
  | cons x words ih =>
    rw [words_to_le_bytes] at ih ⊢
    rw [List.flatMap_cons, List.length_append, length_to_le_bytes, ih, List.length_cons]
    omega

theorem drop_words_to_le_bytes (words : List UInt32) (i : Nat) :
    (words_to_le_bytes words).drop (4 * i) = words_to_le_bytes (words.drop i) := by
  induction i generalizing words with
  | zero => rfl
  | succ i ih =>
    cases words with
    | nil => simp [words_to_le_bytes]
    | cons x words =>
      have hsplit : words_to_le_bytes (x :: words) = to_le_bytes x ++ words_to_le_bytes words := rfl
      rw [hsplit, Nat.mul_succ, Nat.add_comm, ← List.drop_drop, List.drop_left' (length_to_le_bytes x), ih,
        List.drop_succ_cons]

/-- Words are read back where they were written. -/
theorem word_words_to_le_bytes {words : List UInt32} {i : Nat} {x : UInt32} (h : words[i]? = some x) :
    word (words_to_le_bytes words) i = x := by
  have hdrop : words.drop i = x :: words.drop (i + 1) := by
    obtain ⟨hi, rfl⟩ := List.getElem?_eq_some_iff.1 h
    exact List.drop_eq_getElem_cons hi
  have hsplit : words_to_le_bytes (x :: words.drop (i + 1)) =
      to_le_bytes x ++ words_to_le_bytes (words.drop (i + 1)) := rfl
  rw [word, drop_words_to_le_bytes, hdrop, hsplit, List.take_left' (length_to_le_bytes x),
    from_le_bytes_to_le_bytes]

/-- A buffer of whole words is the bytes of its words. -/
theorem words_to_le_bytes_word {buf : List UInt8} {n : Nat} (h : buf.length = 4 * n) :
    words_to_le_bytes ((List.range n).map (word buf)) = buf := by
  induction n generalizing buf with
  | zero => exact (List.length_eq_zero_iff.1 h).symm
  | succ n ih =>
    have hfirst : to_le_bytes (word buf 0) = buf.take 4 := by
      have hlength : (buf.take 4).length = 4 := by
        rw [List.length_take]
        omega
      exact to_le_bytes_from_le_bytes hlength
    have hrest : (List.range n).map (word (buf.drop 4)) = (List.range n).map fun i => word buf (i + 1) := by
      refine List.map_congr_left fun i _ => ?_
      rw [word, word, List.drop_drop, Nat.mul_succ, Nat.add_comm]
    have hdrop : (buf.drop 4).length = 4 * n := by
      rw [List.length_drop]
      omega
    have hsplit : words_to_le_bytes ((List.range (n + 1)).map (word buf)) =
        to_le_bytes (word buf 0) ++ words_to_le_bytes ((List.range n).map fun i => word buf (i + 1)) := by
      rw [List.range_succ_eq_map, List.map_cons, List.map_map]
      rfl
    rw [hsplit, hfirst, ← hrest, ih hdrop, List.take_append_drop]

end u32

/-- `as i64` on a `u64` loses nothing. -/
theorem toInt64_injective {x y : UInt64} (h : x.toInt64 = y.toInt64) : x = y := by
  simpa using congrArg Int64.toUInt64 h

private theorem digitChar_injective {m n : Nat} (hm : m < 16) (hn : n < 16)
    (h : Nat.digitChar m = Nat.digitChar n) : m = n := by
  have hall : ∀ a b : Fin 16, Nat.digitChar a = Nat.digitChar b → a = b := by decide
  exact Fin.mk.inj_iff.1 (hall ⟨m, hm⟩ ⟨n, hn⟩ h)

theorem hex_digits_injective {b c : UInt8} (h : hex_digits b = hex_digits c) : b = c := by
  have hb := b.toNat_lt
  have hc := c.toNat_lt
  simp only [hex_digits, List.cons.injEq, and_true] at h
  have hhigh := digitChar_injective (by omega) (by omega) h.1
  have hlow := digitChar_injective (by omega) (by omega) h.2
  apply UInt8.toNat_inj.1
  omega

/-- Fixed-width digits lose nothing: byte strings with the same hex digits are
equal. -/
theorem flatMap_hex_digits_injective {xs ys : List UInt8}
    (h : xs.flatMap hex_digits = ys.flatMap hex_digits) : xs = ys := by
  induction xs generalizing ys with
  | nil =>
    cases ys with
    | nil => rfl
    | cons y ys => simp [hex_digits] at h
  | cons x xs ih =>
    cases ys with
    | nil => simp [hex_digits] at h
    | cons y ys =>
      simp only [List.flatMap_cons] at h
      obtain ⟨hhead, htail⟩ := List.append_inj h rfl
      rw [hex_digits_injective hhead, ih htail]

end bytes
