import Mathlib

namespace AdbControl.Framework

/-- The lowest `w` bytes of a number, most significant first. -/
def bigEndian : Nat → Nat → List UInt8
  | 0, _ => []
  | w + 1, n => UInt8.ofNat (n / 256^w) :: bigEndian w n

def ofBigEndian (bytes : List UInt8) : Nat := bytes.foldl (fun n b => n * 256 + b.toNat) 0

@[simp] theorem bigEndian_length (w n : Nat) : (bigEndian w n).length = w := by
  induction w with
  | zero => rfl
  | succ w ih => rw [bigEndian, List.length_cons, ih]

@[simp] theorem ofBigEndian_nil : ofBigEndian [] = 0 := rfl

theorem foldl_ofBigEndian (bytes : List UInt8) (n : Nat) :
    bytes.foldl (fun n b => n * 256 + b.toNat) n = n * 256^bytes.length + ofBigEndian bytes := by
  induction bytes generalizing n with
  | nil => simp
  | cons b bytes ih =>
    have whole := ih b.toNat
    rw [ofBigEndian, List.foldl_cons, List.foldl_cons, ih, Nat.zero_mul, Nat.zero_add, whole,
      List.length_cons, pow_succ]
    ring

@[simp] theorem ofBigEndian_cons (b : UInt8) (bytes : List UInt8) :
    ofBigEndian (b :: bytes) = b.toNat * 256^bytes.length + ofBigEndian bytes := by
  rw [ofBigEndian, List.foldl_cons, Nat.zero_mul, Nat.zero_add, foldl_ofBigEndian]

theorem ofBigEndian_lt (bytes : List UInt8) : ofBigEndian bytes < 256^bytes.length := by
  induction bytes with
  | nil => simp
  | cons b bytes ih =>
    have hb : b.toNat + 1 ≤ 256 := b.toNat_lt
    have hmul := Nat.mul_le_mul_right (256^bytes.length) hb
    rw [ofBigEndian_cons, List.length_cons, pow_succ']
    rw [Nat.add_mul, Nat.one_mul] at hmul
    omega

theorem ofBigEndian_bigEndian (w n : Nat) : ofBigEndian (bigEndian w n) = n % 256^w := by
  induction w with
  | zero => simp [bigEndian, Nat.mod_one]
  | succ w ih =>
    have byte : (UInt8.ofNat (n / 256^w)).toNat = n / 256^w % 256 := UInt8.toNat_ofNat'
    rw [bigEndian, ofBigEndian_cons, bigEndian_length, ih, byte, pow_succ, Nat.mod_mul]
    ring

/-- A number of at most `w` bytes is read back. -/
theorem ofBigEndian_bigEndian_of_lt {w n : Nat} (h : n < 256^w) :
    ofBigEndian (bigEndian w n) = n := by
  rw [ofBigEndian_bigEndian, Nat.mod_eq_of_lt h]

end AdbControl.Framework
