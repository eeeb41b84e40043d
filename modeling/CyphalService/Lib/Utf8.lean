import Mathlib.Tactic.Common

namespace utf8

/-- U+FFFD, which stands for each part of the input that is not UTF-8. -/
def REPLACEMENT_CHARACTER : Char := Char.ofNat 0xFFFD

/-- A character whose first bytes were read: their bits, the number of bytes
still owed and the range of the next one. -/
structure Sequence where
  bits : Nat
  owed : Nat
  low : UInt8
  high : UInt8

/-- What a byte between two characters begins. -/
inductive Lead where
  | char (c : Char)
  | sequence (s : Sequence)
  | invalid

def lead (b : UInt8) : Lead :=
  if b ≤ 0x7F then .char (Char.ofNat b.toNat)
  else if b < 0xC2 then .invalid
  else if b ≤ 0xDF then .sequence ⟨b.toNat - 0xC0, 1, 0x80, 0xBF⟩
  else if b = 0xE0 then .sequence ⟨0, 2, 0xA0, 0xBF⟩
  else if b = 0xED then .sequence ⟨0xD, 2, 0x80, 0x9F⟩
  else if b ≤ 0xEF then .sequence ⟨b.toNat - 0xE0, 2, 0x80, 0xBF⟩
  else if b = 0xF0 then .sequence ⟨0, 3, 0x90, 0xBF⟩
  else if b ≤ 0xF3 then .sequence ⟨b.toNat - 0xF0, 3, 0x80, 0xBF⟩
  else if b = 0xF4 then .sequence ⟨4, 3, 0x80, 0x8F⟩
  else .invalid

/-- Read a byte between two characters and go on with `next`. -/
def begin_at (b : UInt8) (next : Option Sequence → List Char) : List Char :=
  match lead b with
  | .char c => c :: next none
  | .sequence s => next (some s)
  | .invalid => REPLACEMENT_CHARACTER :: next none

/-- Decode the bytes that follow an unfinished sequence, if any. A byte that
cannot continue the sequence ends it as one replacement character and is read
again as a first byte. -/
def decode : Option Sequence → List UInt8 → List Char
  | none, [] => []
  | some _, [] => [REPLACEMENT_CHARACTER]
  | none, b :: rest => begin_at b fun s => decode s rest
  | some s, b :: rest =>
    if s.low ≤ b ∧ b ≤ s.high then
      let bits := s.bits * 64 + (b.toNat - 0x80)
      if s.owed = 1 then Char.ofNat bits :: decode none rest
      else decode (some ⟨bits, s.owed - 1, 0x80, 0xBF⟩) rest
    else
      REPLACEMENT_CHARACTER :: begin_at b fun s => decode s rest

/-- `String::from_utf8_lossy`. -/
def from_utf8_lossy (bytes : List UInt8) : String :=
  String.ofList (decode none bytes)

end utf8
