import XmlView.CodePoint.Table
/-! Decimal digits beyond ASCII: every script's digits zero to nine stand at ten code points
in a row, so a digit's value is its distance from the zero of its run. Number readers take
them as they take `0`–`9`. The table is of Unicode 14.0. -/
namespace XmlView.CodePoint

def digitZeros : Array Nat := naturals
  (" ".intercalate
    ["30 660 6f0 7c0 966 9e6 a66 ae6 b66 be6 c66 ce6 d66 de6 e50 ed0 f20 1040 1090 17e0 1810",
     "1946 19d0 1a80 1a90 1b50 1bb0 1c40 1c50 a620 a8d0 a900 a9d0 a9f0 aa50 abf0 ff10 104a0",
     "10d30 11066 110f0 11136 111d0 112f0 11450 114d0 11650 116c0 11730 118e0 11950 11c50",
     "11d50 11da0 16a60 16ac0 16b50 1d7ce 1d7d8 1d7e2 1d7ec 1d7f6 1e140 1e2f0 1e950 1fbf0"])

def decimal? (p : Nat) : Option Nat :=
  let k := rank digitZeros p
  if k == 0 then none
  else
    let first := digitZeros.getD (k - 1) 0
    if p - first < 10 then some (p - first) else none

end XmlView.CodePoint
