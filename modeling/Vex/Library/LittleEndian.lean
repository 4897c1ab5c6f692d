import Mathlib.Data.List.Basic
import Mathlib.Tactic.Ring

/-!
# Integers written in little-endian bytes

An integer is written in a fixed number of bytes, least significant first. An
integer that does not fit is reduced modulo the power of 256 the bytes can
hold, so a negative one is written in two's complement.

Reading takes the bytes off the front of a list and leaves the rest. The one
law of a reader is `read_eq_some`: a reader returns a value and a rest exactly
when the value fits and the bytes are the value, written, before the rest. It
is the round trip of a single field in both directions, and a layout of several
fields is read back by using it once for each of them.
-/

namespace Vex.Library.LittleEndian

/-- `value` in `width` bytes, least significant first. -/
def encode : Nat → Int → List UInt8
  | 0, _ => []
  | width + 1, value => UInt8.ofNat (value % 256).toNat :: encode width (value / 256)

/-- The unsigned integer the bytes write, least significant first. -/
def decode : List UInt8 → Int
  | [] => 0
  | byte :: bytes => byte.toNat + 256 * decode bytes

/-- An unsigned integer of `width` bytes off the front, and what is left. -/
def read (width : Nat) (bytes : List UInt8) : Option (Int × List UInt8) :=
  if width ≤ bytes.length then some (decode (bytes.take width), bytes.drop width) else none

@[simp] theorem length_encode (width : Nat) (value : Int) :
    (encode width value).length = width := by
  induction width generalizing value with
  | zero => rfl
  | succ width ih => simp [encode, ih]

theorem decode_nonneg (bytes : List UInt8) : 0 ≤ decode bytes := by
  induction bytes with
  | nil => exact le_refl 0
  | cons byte bytes ih =>
    have inFront : 0 ≤ (byte.toNat : Int) := Int.natCast_nonneg _
    simp only [decode]
    omega

theorem decode_lt (bytes : List UInt8) : decode bytes < 256 ^ bytes.length := by
  induction bytes with
  | nil => exact Int.one_pos
  | cons byte bytes ih =>
    have inFront : byte.toNat < 256 := byte.toNat_lt
    have grows : (256 : Int) ^ (byte :: bytes).length = 256 ^ bytes.length * 256 := by
      rw [List.length_cons, pow_succ]
    rw [grows, decode]
    omega

theorem decode_encode (width : Nat) {value : Int} (nonneg : 0 ≤ value)
    (fits : value < 256 ^ width) : decode (encode width value) = value := by
  induction width generalizing value with
  | zero =>
    have below : value < 1 := by simpa using fits
    show 0 = value
    omega
  | succ width ih =>
    have grows : (256 : Int) ^ (width + 1) = 256 ^ width * 256 := pow_succ _ _
    have quotient : value / 256 < 256 ^ width := by
      rw [grows] at fits
      omega
    have remainder : ((UInt8.ofNat (value % 256).toNat).toNat : Int) = value % 256 := by
      rw [UInt8.toNat_ofNat']
      omega
    rw [encode, decode, ih (by omega) quotient, remainder]
    omega

theorem encode_decode (bytes : List UInt8) : encode bytes.length (decode bytes) = bytes := by
  induction bytes with
  | nil => rfl
  | cons byte bytes ih =>
    have inFront : byte.toNat < 256 := byte.toNat_lt
    have quotient : (byte.toNat + 256 * decode bytes) / 256 = decode bytes := by omega
    have remainder : ((byte.toNat + 256 * decode bytes) % 256).toNat = byte.toNat := by omega
    rw [List.length_cons, encode, decode, quotient, remainder, ih, UInt8.ofNat_toNat]

theorem read_eq_some {width : Nat} {bytes rest : List UInt8} {value : Int} :
    read width bytes = some (value, rest) ↔
      0 ≤ value ∧ value < 256 ^ width ∧ bytes = encode width value ++ rest := by
  constructor
  · intro taken
    by_cases enough : width ≤ bytes.length
    · rw [read, if_pos enough, Option.some.injEq, Prod.mk.injEq] at taken
      obtain ⟨rfl, rfl⟩ := taken
      have width_eq : (bytes.take width).length = width := List.length_take_of_le enough
      have written := encode_decode (bytes.take width)
      have below := decode_lt (bytes.take width)
      rw [width_eq] at written below
      exact ⟨decode_nonneg _, below, by rw [written, List.take_append_drop]⟩
    · rw [read, if_neg enough] at taken
      contradiction
  · rintro ⟨nonneg, fits, rfl⟩
    have enough : width ≤ (encode width value ++ rest).length := by
      rw [List.length_append, length_encode]
      exact Nat.le_add_right _ _
    have inFront : (encode width value ++ rest).take width = encode width value :=
      List.take_left' (length_encode width value)
    have behind : (encode width value ++ rest).drop width = rest :=
      List.drop_left' (length_encode width value)
    rw [read, if_pos enough, inFront, behind, decode_encode width nonneg fits]

theorem read_encode (width : Nat) {value : Int} (nonneg : 0 ≤ value)
    (fits : value < 256 ^ width) (rest : List UInt8) :
    read width (encode width value ++ rest) = some (value, rest) :=
  read_eq_some.2 ⟨nonneg, fits, rfl⟩

theorem read_eq_none {width : Nat} {bytes : List UInt8} :
    read width bytes = none ↔ bytes.length < width := by
  rw [read]
  split <;> simp <;> omega

end Vex.Library.LittleEndian
