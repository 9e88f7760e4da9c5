/-! The double nearest to a decimal number, ties to the even significand: the way decimal
text is read as a binary double. The value `m · 10^e` is divided exactly into a significand
of 53 bits (fewer below the normal range) and a remainder that decides the rounding. -/
namespace XmlView.Decimal

def nearestBits (m : Nat) (e : Int) : UInt64 :=
  if m == 0 then 0
  else if e > 400 then 0x7FF0000000000000
  else if e < -400 - (Nat.log2 m : Int) then 0
  else
    let num := m * Nat.pow 10 e.toNat
    let den := Nat.pow 10 (-e).toNat
    -- the binary exponent `k` of the last significand bit, so that the significand has 53 bits
    let k0 : Int := (Nat.log2 num : Int) - (Nat.log2 den : Int) - 52
    let quot := fun (k : Int) =>
      if k ≥ 0 then (num / (den * Nat.pow 2 k.toNat), num % (den * Nat.pow 2 k.toNat), den * Nat.pow 2 k.toNat)
      else (num * Nat.pow 2 (-k).toNat / den, num * Nat.pow 2 (-k).toNat % den, den)
    let k1 := if (quot k0).1 < Nat.pow 2 52 then k0 - 1 else k0
    let k2 := if (quot k1).1 ≥ Nat.pow 2 53 then k1 + 1 else k1
    let k := max k2 (-1074)
    let (q, r, d) := quot k
    let q := if 2 * r > d || (2 * r == d && q % 2 == 1) then q + 1 else q
    let (q, k) := if q == Nat.pow 2 53 then (Nat.pow 2 52, k + 1) else (q, k)
    if k + 52 > 1023 then 0x7FF0000000000000
    else if q < Nat.pow 2 52 then q.toUInt64
    else (((k + 1075).toNat * Nat.pow 2 52 + (q - Nat.pow 2 52)) : Nat).toUInt64

def nearest (negative : Bool) (m : Nat) (e : Int) : Float :=
  let bits := nearestBits m e
  Float.ofBits (if negative then bits ||| 0x8000000000000000 else bits)

end XmlView.Decimal
