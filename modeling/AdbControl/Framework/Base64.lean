import Mathlib

namespace AdbControl.Framework.Base64

/-- The alphabet of 64 digits -/
def digit (n : Nat) : Char :=
  if n < 26 then Char.ofNat ('A'.toNat + n)
  else if n < 52 then Char.ofNat ('a'.toNat + (n - 26))
  else if n < 62 then Char.ofNat ('0'.toNat + (n - 52))
  else if n = 62 then '+' else '/'

def digit? (c : Char) : Option Nat :=
  if 'A' ≤ c ∧ c ≤ 'Z' then some (c.toNat - 'A'.toNat)
  else if 'a' ≤ c ∧ c ≤ 'z' then some (c.toNat - 'a'.toNat + 26)
  else if '0' ≤ c ∧ c ≤ '9' then some (c.toNat - '0'.toNat + 52)
  else if c = '+' then some 62 else if c = '/' then some 63 else none

/-- Four digits for three bytes, the last of them padded and on one line -/
def encode : List UInt8 → List Char
  | [] => []
  | [a] => [digit (a.toNat / 4), digit (a.toNat % 4 * 16), '=', '=']
  | [a, b] =>
    [digit (a.toNat / 4), digit (a.toNat % 4 * 16 + b.toNat / 16), digit (b.toNat % 16 * 4), '=']
  | a :: b :: c :: bytes =>
    digit (a.toNat / 4) :: digit (a.toNat % 4 * 16 + b.toNat / 16) ::
      digit (b.toNat % 16 * 4 + c.toNat / 64) :: digit (c.toNat % 64) :: encode bytes

/-- The bytes between four digits, each of six bits -/
def firstByte (p q : Nat) : UInt8 := UInt8.ofNat (p * 4 + q / 16)
def secondByte (q r : Nat) : UInt8 := UInt8.ofNat (q % 16 * 16 + r / 4)
def thirdByte (r s : Nat) : UInt8 := UInt8.ofNat (r % 4 * 64 + s)

/-- The decoder that takes the canonical padding only, with the unused bits of the last digit zero -/
def decode : List Char → Option (List UInt8)
  | [] => some []
  | p :: q :: r :: s :: rest => do
    let p ← digit? p
    let q ← digit? q
    if rest = [] ∧ r = '=' ∧ s = '=' then
      if q % 16 = 0 then some [firstByte p q] else none
    else
      let r ← digit? r
      if rest = [] ∧ s = '=' then
        if r % 4 = 0 then some [firstByte p q, secondByte q r] else none
      else
        let s ← digit? s
        let bytes ← decode rest
        some (firstByte p q :: secondByte q r :: thirdByte r s :: bytes)
  | _ => none

theorem digit?_digit : ∀ n < 64, digit? (digit n) = some n := by decide

theorem digit_ne_pad : ∀ n < 64, digit n ≠ '=' := by decide

theorem firstByte_parts (a : UInt8) {n : Nat} (h : n < 16) :
    firstByte (a.toNat / 4) (a.toNat % 4 * 16 + n) = a := by
  have ha := a.toNat_lt
  have parts : a.toNat / 4 * 4 + (a.toNat % 4 * 16 + n) / 16 = a.toNat := by omega
  rw [firstByte, parts, UInt8.ofNat_toNat]

theorem secondByte_parts (m : Nat) (b : UInt8) {n : Nat} (h : n < 4) :
    secondByte (m * 16 + b.toNat / 16) (b.toNat % 16 * 4 + n) = b := by
  have hb := b.toNat_lt
  have parts : (m * 16 + b.toNat / 16) % 16 * 16 + (b.toNat % 16 * 4 + n) / 4 = b.toNat := by omega
  rw [secondByte, parts, UInt8.ofNat_toNat]

theorem thirdByte_parts (m : Nat) (c : UInt8) :
    thirdByte (m * 4 + c.toNat / 64) (c.toNat % 64) = c := by
  have hc := c.toNat_lt
  have parts : (m * 4 + c.toNat / 64) % 4 * 64 + c.toNat % 64 = c.toNat := by omega
  rw [thirdByte, parts, UInt8.ofNat_toNat]

theorem decode_encode (bytes : List UInt8) : decode (encode bytes) = some bytes := by
  induction bytes using encode.induct with
  | case1 => rfl
  | case2 a =>
    have ha := a.toNat_lt
    have hfirst := firstByte_parts a (show 0 < 16 by omega)
    have unused : a.toNat % 4 * 16 % 16 = 0 := by omega
    rw [encode, decode, digit?_digit _ (by omega), digit?_digit _ (by omega)]
    simpa [unused] using hfirst
  | case3 a b =>
    have ha := a.toNat_lt
    have hb := b.toNat_lt
    have hfirst := firstByte_parts a (show b.toNat / 16 < 16 by omega)
    have hsecond := secondByte_parts (a.toNat % 4) b (show 0 < 4 by omega)
    have unused : b.toNat % 16 * 4 % 4 = 0 := by omega
    rw [encode, decode, digit?_digit _ (by omega), digit?_digit _ (by omega), digit?_digit _ (by omega)]
    rw [Nat.add_zero] at hsecond
    simp [digit_ne_pad (b.toNat % 16 * 4) (by omega), unused, hfirst, hsecond]
  | case4 a b c bytes ih =>
    have ha := a.toNat_lt
    have hb := b.toNat_lt
    have hc := c.toNat_lt
    have hfirst := firstByte_parts a (show b.toNat / 16 < 16 by omega)
    have hsecond := secondByte_parts (a.toNat % 4) b (show c.toNat / 64 < 4 by omega)
    have hthird := thirdByte_parts (b.toNat % 16) c
    rw [encode, decode, digit?_digit _ (by omega), digit?_digit _ (by omega), digit?_digit _ (by omega),
      digit?_digit _ (by omega), ih]
    simp [digit_ne_pad (c.toNat % 64) (by omega), hfirst, hsecond, hthird]

end AdbControl.Framework.Base64
