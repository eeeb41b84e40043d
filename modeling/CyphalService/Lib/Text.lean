import Mathlib.Data.List.DropRight
import Mathlib.Data.Nat.Digits.Defs
import Mathlib.Data.UInt

namespace text

/-- The Unicode property `White_Space`. -/
def is_whitespace (c : Char) : Bool :=
  (0x9 ≤ c.toNat && c.toNat ≤ 0xD) || (0x2000 ≤ c.toNat && c.toNat ≤ 0x200A) ||
    [0x20, 0x85, 0xA0, 0x1680, 0x2028, 0x2029, 0x202F, 0x205F, 0x3000].contains c.toNat

/-- `str::trim_end`. -/
def trim_end (s : List Char) : List Char :=
  s.rdropWhile is_whitespace

/-- `str::trim`. -/
def trim (s : List Char) : List Char :=
  trim_end (s.dropWhile is_whitespace)

/-- `str::split_whitespace`. -/
def split_whitespace (s : List Char) : List (List Char) :=
  (s.splitOnP is_whitespace).filter fun word => word ≠ []

/-- Fill up with blanks on the right. -/
def pad_end (width : Nat) (s : List Char) : List Char :=
  s ++ List.replicate (width - s.length) ' '

/-- `char::to_digit`. -/
def to_digit (radix : Nat) (c : Char) : Option Nat :=
  let digit :=
    if '0' ≤ c ∧ c ≤ '9' then some (c.toNat - '0'.toNat)
    else if 'a' ≤ c ∧ c ≤ 'z' then some (c.toNat - 'a'.toNat + 10)
    else if 'A' ≤ c ∧ c ≤ 'Z' then some (c.toNat - 'A'.toNat + 10)
    else none
  digit.filter fun value => value < radix

/-- Why a text is not a number. -/
inductive IntErrorKind where
  | Empty
  | InvalidDigit
  | PosOverflow
  deriving DecidableEq

/-- Read digits after those of value `result`. -/
def read_digits (size radix : Nat) : Nat → List Char → Except IntErrorKind Nat
  | result, [] => .ok result
  | result, c :: rest =>
    match to_digit radix c with
    | none => .error .InvalidDigit
    | some digit =>
      if result * radix + digit < size then read_digits size radix (result * radix + digit) rest
      else .error .PosOverflow

/-- `u16::from_str_radix`. -/
def u16.from_str_radix (s : List Char) (radix : Nat) : Except IntErrorKind UInt16 :=
  if s = [] then .error .Empty
  else if s = ['+'] ∨ s = ['-'] then .error .InvalidDigit
  else
    -- An unsigned number may have a plus sign, and no minus sign.
    let digits := (['+'].isPrefixOf? s).getD s
    (read_digits UInt16.size radix 0 digits).map UInt16.ofNat

/-- The characters are digits, the most significant first, of the number `n`. -/
def Numeral (radix : Nat) (digits : List Char) (n : Nat) : Prop :=
  digits ≠ [] ∧ ∃ values : List Nat,
    digits.map (to_digit radix) = values.map some ∧ Nat.ofDigits radix values.reverse = n

section Trim

variable {s before after : List Char}

theorem trim_decomposition (s : List Char) :
    ∃ before after, s = before ++ trim s ++ after ∧ (∀ c ∈ before, is_whitespace c) ∧
      ∀ c ∈ after, is_whitespace c := by
  refine ⟨s.takeWhile is_whitespace, (s.dropWhile is_whitespace).rtakeWhile is_whitespace, ?_,
    fun c hc => List.mem_takeWhile_imp hc, fun c hc => List.mem_rtakeWhile_imp hc⟩
  rw [trim, trim_end, List.append_assoc, List.rdropWhile_append_rtakeWhile, List.takeWhile_append_dropWhile]

theorem dropWhile_whitespace_append (hbefore : ∀ c ∈ before, is_whitespace c) (hne : s ≠ [])
    (hs : ∀ c ∈ s, is_whitespace c = false) :
    (before ++ s ++ after).dropWhile is_whitespace = s ++ after := by
  rw [List.append_assoc, List.dropWhile_append_of_pos hbefore]
  cases s with
  | nil => exact absurd rfl hne
  | cons c rest => rw [List.cons_append, List.dropWhile_cons_of_neg (by simp [hs c (List.mem_cons_self ..)])]

/-- Only the white space around a text without any is removed. -/
theorem trim_append (hbefore : ∀ c ∈ before, is_whitespace c) (hafter : ∀ c ∈ after, is_whitespace c)
    (hne : s ≠ []) (hs : ∀ c ∈ s, is_whitespace c = false) : trim (before ++ s ++ after) = s := by
  have hback : (after.reverse ++ s.reverse ++ []).dropWhile is_whitespace = s.reverse ++ [] := by
    apply dropWhile_whitespace_append
    · simpa using hafter
    · simpa using hne
    · simpa using hs
  rw [trim, trim_end, dropWhile_whitespace_append hbefore hne hs, List.rdropWhile, List.reverse_append]
  rw [List.append_nil, List.append_nil] at hback
  rw [hback, List.reverse_reverse]

theorem exists_not_whitespace_of_trim (h : trim s ≠ []) : ∃ c ∈ trim s, is_whitespace c = false := by
  refine ⟨(trim s).getLast h, List.getLast_mem h, ?_⟩
  exact eq_false_of_ne_true (List.rdropWhile_last_not is_whitespace (s.dropWhile is_whitespace) h)

theorem split_whitespace_eq_nil_iff : split_whitespace s = [] ↔ ∀ c ∈ s, is_whitespace c := by
  induction s with
  | nil => exact iff_of_true rfl fun c hc => nomatch hc
  | cons c rest ih =>
    rw [List.forall_mem_cons, ← ih, split_whitespace, split_whitespace, List.splitOnP_cons_eq_if_modifyHead]
    cases hc : is_whitespace c with
    | true => simp
    | false =>
      obtain ⟨word, words, hwords⟩ := List.exists_cons_of_ne_nil (List.splitOnP_ne_nil is_whitespace rest)
      simp [hwords]

end Trim

section Digits

variable {radix size : Nat}

theorem not_whitespace_of_range {c : Char} (h : 0x21 ≤ c.toNat ∧ c.toNat ≤ 0x7E) : is_whitespace c = false := by
  simp only [is_whitespace, Bool.or_eq_false_iff, Bool.and_eq_false_iff, decide_eq_false_iff_not,
    List.contains_eq_mem, List.mem_cons, List.not_mem_nil, or_false]
  omega

theorem is_whitespace_of_to_digit {c : Char} {value : Nat} (h : to_digit radix c = some value) :
    is_whitespace c = false := by
  obtain ⟨hdigit, -⟩ := Option.filter_eq_some_iff.1 h
  apply not_whitespace_of_range
  simp only [Char.le_def, UInt32.le_iff_toNat_le] at hdigit
  split at hdigit
  · next hrange => exact ⟨Nat.le_trans (by decide) hrange.1, Nat.le_trans hrange.2 (by decide)⟩
  split at hdigit
  · next hrange => exact ⟨Nat.le_trans (by decide) hrange.1, Nat.le_trans hrange.2 (by decide)⟩
  split at hdigit
  · next hrange => exact ⟨Nat.le_trans (by decide) hrange.1, Nat.le_trans hrange.2 (by decide)⟩
  · cases hdigit

theorem ofDigits_pair (values : List Nat) (result value : Nat) :
    Nat.ofDigits radix ((value :: values).reverse ++ [result]) =
      Nat.ofDigits radix (values.reverse ++ [result * radix + value]) := by
  have hpair : Nat.ofDigits radix [value, result] = Nat.ofDigits radix [result * radix + value] := by
    rw [Nat.ofDigits_cons, Nat.ofDigits_singleton, Nat.ofDigits_singleton, Nat.mul_comm, Nat.add_comm]
  rw [List.reverse_cons, List.append_assoc, List.singleton_append, Nat.ofDigits_append, hpair, Nat.ofDigits_append]

theorem le_ofDigits_concat (hradix : 0 < radix) (values : List Nat) (result : Nat) :
    result ≤ Nat.ofDigits radix (values.reverse ++ [result]) := by
  rw [Nat.ofDigits_append, Nat.ofDigits_singleton]
  calc result ≤ radix ^ values.reverse.length * result := Nat.le_mul_of_pos_left _ (Nat.pow_pos hradix)
    _ ≤ _ := Nat.le_add_left _ _

/-- The result is the number that the digits write after those already read. -/
theorem read_digits_eq_ok_iff (hradix : 0 < radix) (digits : List Char) {result n : Nat}
    (hresult : result < size) :
    read_digits size radix result digits = .ok n ↔
      n < size ∧ ∃ values : List Nat, digits.map (to_digit radix) = values.map some ∧
        Nat.ofDigits radix (values.reverse ++ [result]) = n := by
  induction digits generalizing result with
  | nil =>
    rw [read_digits, Except.ok.injEq]
    constructor
    · rintro rfl
      exact ⟨hresult, [], rfl, Nat.ofDigits_singleton⟩
    · rintro ⟨-, values, hvalues, rfl⟩
      obtain rfl : values = [] := List.map_eq_nil_iff.1 hvalues.symm
      exact Nat.ofDigits_singleton.symm
  | cons c rest ih =>
    rw [read_digits]
    cases hc : to_digit radix c with
    | none =>
      refine iff_of_false (fun h => nomatch h) ?_
      rintro ⟨-, values, hvalues, -⟩
      rw [List.map_cons, hc] at hvalues
      cases values with
      | nil => cases hvalues
      | cons value values => cases hvalues
    | some value =>
      have hvalues : (∃ values : List Nat, (c :: rest).map (to_digit radix) = values.map some ∧
            Nat.ofDigits radix (values.reverse ++ [result]) = n) ↔
          ∃ values : List Nat, rest.map (to_digit radix) = values.map some ∧
            Nat.ofDigits radix (values.reverse ++ [result * radix + value]) = n := by
        constructor
        · rintro ⟨values, hmap, hn⟩
          cases values with
          | nil => cases hmap
          | cons first values =>
            rw [List.map_cons, List.map_cons, List.cons.injEq, hc, Option.some.injEq] at hmap
            obtain ⟨rfl, hmap⟩ := hmap
            exact ⟨values, hmap, by rw [← hn, ofDigits_pair]⟩
        · rintro ⟨values, hmap, hn⟩
          exact ⟨value :: values, by rw [List.map_cons, List.map_cons, hc, hmap], by rw [← hn, ofDigits_pair]⟩
      rw [hvalues]
      dsimp only
      by_cases hsize : result * radix + value < size
      · rw [if_pos hsize, ih hsize]
      · rw [if_neg hsize]
        refine iff_of_false (fun h => nomatch h) ?_
        rintro ⟨hn, values, -, rfl⟩
        have := le_ofDigits_concat hradix values (result * radix + value)
        omega

theorem Numeral.to_digit_of_mem {digits : List Char} {n : Nat} (h : Numeral radix digits n) {c : Char}
    (hc : c ∈ digits) : ∃ value, to_digit radix c = some value := by
  obtain ⟨-, values, hvalues, -⟩ := h
  have hmem : to_digit radix c ∈ values.map some := hvalues ▸ List.mem_map_of_mem hc
  obtain ⟨value, -, hvalue⟩ := List.mem_map.1 hmem
  exact ⟨value, hvalue.symm⟩

theorem not_numeral_of_head {c : Char} {rest : List Char} {n : Nat} (hc : to_digit radix c = none) :
    ¬ Numeral radix (c :: rest) n := by
  intro h
  obtain ⟨value, hvalue⟩ := h.to_digit_of_mem (List.mem_cons_self ..)
  rw [hc] at hvalue
  cases hvalue

theorem read_all_digits (hradix : 0 < radix) {digits : List Char} (hne : digits ≠ []) {x : UInt16} :
    (read_digits UInt16.size radix 0 digits).map UInt16.ofNat = .ok x ↔ Numeral radix digits x.toNat := by
  have hread : ∀ n, read_digits UInt16.size radix 0 digits = .ok n ↔ n < UInt16.size ∧ Numeral radix digits n := by
    intro n
    simp only [read_digits_eq_ok_iff hradix digits (show 0 < UInt16.size by decide), Nat.ofDigits_append_zero,
      Numeral, ne_eq, hne, not_false_eq_true, true_and]
  constructor
  · intro h
    cases hn : read_digits UInt16.size radix 0 digits with
    | error kind =>
      rw [hn] at h
      cases h
    | ok n =>
      rw [hn] at h
      obtain ⟨hlt, hnumeral⟩ := (hread n).1 hn
      obtain rfl : UInt16.ofNat n = x := Except.ok.inj h
      rwa [UInt16.toNat_ofNat_of_lt' hlt]
  · intro h
    rw [(hread x.toNat).2 ⟨UInt16.toNat_lt_size x, h⟩]
    exact congrArg Except.ok (UInt16.ofNat_toNat)

/-- The numbers that are read: a numeral after an optional plus sign. -/
theorem u16.from_str_radix_eq_ok_iff (hradix : 0 < radix) {s : List Char} {x : UInt16} :
    u16.from_str_radix s radix = .ok x ↔
      ∃ sign digits, s = sign ++ digits ∧ sign ∈ [[], ['+']] ∧ Numeral radix digits x.toNat := by
  have hplus : to_digit radix '+' = none := rfl
  have hminus : to_digit radix '-' = none := rfl
  have hunsigned : (∃ sign digits, s = sign ++ digits ∧ sign ∈ [[], ['+']] ∧ Numeral radix digits x.toNat) ↔
      Numeral radix ((['+'].isPrefixOf? s).getD s) x.toNat := by
    simp only [List.mem_pair]
    cases hs : ['+'].isPrefixOf? s with
    | none =>
      constructor
      · rintro ⟨sign, digits, rfl, rfl | rfl, h⟩
        · exact h
        · rw [List.isPrefixOf?_eq_some_iff_append_eq.2 rfl] at hs
          cases hs
      · intro h
        exact ⟨[], s, rfl, .inl rfl, h⟩
    | some rest =>
      obtain rfl := List.isPrefixOf?_eq_some_iff_append_eq.1 hs
      constructor
      · rintro ⟨sign, digits, happend, rfl | rfl, h⟩
        · obtain rfl : '+' :: rest = digits := happend
          exact absurd h (not_numeral_of_head hplus)
        · rwa [List.append_cancel_left happend]
      · intro h
        exact ⟨['+'], rest, rfl, .inr rfl, h⟩
  rw [hunsigned, u16.from_str_radix]
  by_cases hnil : s = []
  · subst hnil
    exact iff_of_false (fun h => nomatch h) fun h => h.1 rfl
  rw [if_neg hnil]
  by_cases hsign : s = ['+'] ∨ s = ['-']
  · rw [if_pos hsign]
    refine iff_of_false (fun h => nomatch h) ?_
    obtain rfl | rfl := hsign
    · exact fun h => h.1 rfl
    · exact not_numeral_of_head hminus
  rw [if_neg hsign]
  apply read_all_digits hradix
  cases hs : ['+'].isPrefixOf? s with
  | none => exact hnil
  | some rest =>
    obtain rfl := List.isPrefixOf?_eq_some_iff_append_eq.1 hs
    rintro (rfl : rest = [])
    exact hsign (.inl rfl)

end Digits

end text
