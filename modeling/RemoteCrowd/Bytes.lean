/-!
Byte strings and their reading as numbers in big-endian order. Writing a number in a fixed
width and reading it back gives the number modulo the width, and reading then writing gives
the bytes themselves.
-/

namespace RemoteCrowd

/-- A byte string, first byte first. -/
abbrev Bytes := List UInt8

/-- What a byte counts in front of `width` others. -/
def byteWeight : Nat → Nat
  | 0 => 1
  | width + 1 => byteWeight width * 256

/-- The last `width` base-256 digits of a number, most significant first. -/
def bigEndian : Nat → Nat → Bytes
  | 0, _ => []
  | width + 1, n => UInt8.ofNat (n / byteWeight width) :: bigEndian width n

/-- The number whose base-256 digits are the given bytes. -/
def ofBigEndian : Bytes → Nat
  | [] => 0
  | b :: rest => b.toNat * byteWeight rest.length + ofBigEndian rest

theorem byteWeight_pos (width : Nat) : 0 < byteWeight width := by
  induction width with
  | zero => decide
  | succ width ih => exact Nat.mul_pos ih (by decide)

@[simp] theorem length_bigEndian (width n : Nat) : (bigEndian width n).length = width := by
  induction width with
  | zero => rfl
  | succ width ih => simp [bigEndian, ih]

theorem ofBigEndian_lt (bytes : Bytes) : ofBigEndian bytes < byteWeight bytes.length := by
  induction bytes with
  | nil => decide
  | cons b rest ih =>
    have top : b.toNat * byteWeight rest.length ≤ 255 * byteWeight rest.length :=
      Nat.mul_le_mul_right _ (by have := b.toNat_lt; omega)
    simp only [ofBigEndian, List.length_cons, byteWeight]
    omega

theorem ofBigEndian_bigEndian (width n : Nat) :
    ofBigEndian (bigEndian width n) = n % byteWeight width := by
  induction width with
  | zero => simp [bigEndian, ofBigEndian, byteWeight, Nat.mod_one]
  | succ width ih =>
    have byte : (UInt8.ofNat (n / byteWeight width)).toNat = n / byteWeight width % 256 := by simp
    rw [bigEndian, ofBigEndian, length_bigEndian, ih, byte, byteWeight, Nat.mod_mul]
    rw [Nat.mul_comm (byteWeight width) (n / byteWeight width % 256), Nat.add_comm]

theorem bigEndian_add_mul (width n k : Nat) :
    bigEndian width (k * byteWeight width + n) = bigEndian width n := by
  induction width generalizing k with
  | zero => rfl
  | succ width ih =>
    have split : k * byteWeight (width + 1) + n = (k * 256) * byteWeight width + n := by
      rw [byteWeight, Nat.mul_assoc, Nat.mul_comm 256]
    rw [split, bigEndian, bigEndian, ih]
    congr 1
    apply UInt8.toNat_inj.mp
    rw [Nat.add_comm, Nat.add_mul_div_right _ _ (byteWeight_pos width)]
    simp

theorem bigEndian_ofBigEndian (bytes : Bytes) :
    bigEndian bytes.length (ofBigEndian bytes) = bytes := by
  induction bytes with
  | nil => rfl
  | cons b rest ih =>
    rw [ofBigEndian, List.length_cons, bigEndian, bigEndian_add_mul, ih]
    rw [Nat.add_comm, Nat.add_mul_div_right _ _ (byteWeight_pos rest.length),
      Nat.div_eq_of_lt (ofBigEndian_lt rest)]
    simp

end RemoteCrowd
