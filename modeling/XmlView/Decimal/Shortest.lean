/-! The shortest decimal digits of a double: the fewest digits that round back to it, and of
those the nearest, found with exact arithmetic on natural numbers. -/
namespace XmlView.Decimal

/-- A double taken apart: sign, and for a finite nonzero value `mantissa · 2^exponent`.
`narrowBelow` marks a power of two whose gap below is half the gap above. -/
inductive Binary where
  | zero (negative : Bool)
  | finite (negative : Bool) (mantissa : Nat) (exponent : Int) (narrowBelow : Bool)
  | infinite (negative : Bool)
  | nan
  deriving DecidableEq, Repr

def Binary.ofBits (bits : UInt64) : Binary :=
  let b := bits.toNat
  let negative := b / Nat.pow 2 63 % 2 == 1
  let e : Nat := b / Nat.pow 2 52 % Nat.pow 2 11
  let f : Nat := b % Nat.pow 2 52
  if e == 2047 then (if f == 0 then .infinite negative else .nan)
  else if e == 0 then (if f == 0 then .zero negative else .finite negative f (-1074) false)
  else .finite negative (f + Nat.pow 2 52) ((e : Int) - 1075) (f == 0 && e > 1)

def Binary.ofFloat (x : Float) : Binary := ofBits x.toBits

def pos (x : Int) : Nat := x.toNat

def neg (x : Int) : Nat := (-x).toNat

def cmpScaled (a : Nat) (s : Int) (b : Nat) (t : Int) : Ordering :=
  compare (a * Nat.pow 2 (pos s) * Nat.pow 10 (neg t)) (b * Nat.pow 10 (pos t) * Nat.pow 2 (neg s))

def floorScaled (m : Nat) (q p : Int) : Nat :=
  (m * Nat.pow 2 (pos q) * Nat.pow 10 (neg p)) / (Nat.pow 2 (neg q) * Nat.pow 10 (pos p))

/-- The decimal exponent `E` with `10^E ≤ m · 2^q < 10^(E+1)`, for `m > 0`. -/
def decimalExponent (m : Nat) (q : Int) : Int :=
  let guess : Int := (((Nat.log2 m : Int) + q) * 30103) / 100000
  let down := fun (e : Int) => if cmpScaled m q 1 e == .lt then e - 1 else e
  let up := fun (e : Int) => if cmpScaled m q 1 (e + 1) != .lt then e + 1 else e
  up (up (down (down guess)))

def trim : Nat → Nat → Int → Nat × Int
  | 0, d, p => (d, p)
  | fuel + 1, d, p => if d ≠ 0 ∧ d % 10 = 0 then trim fuel (d / 10) (p + 1) else (d, p)

/-- The shortest digits of `m · 2^q` as `(d, p)` with value `d · 10^p`. -/
def shortest (m : Nat) (q : Int) (narrowBelow : Bool) : Nat × Int :=
  let low : Nat := 4 * m - (if narrowBelow then 1 else 2)
  let high : Nat := 4 * m + 2
  let closed := m % 2 == 0
  let within := fun (c : Nat) (p : Int) =>
    let a := cmpScaled low (q - 2) c p
    let b := cmpScaled high (q - 2) c p
    (a == .lt || (closed && a == .eq)) && (b == .gt || (closed && b == .eq))
  let e10 := decimalExponent m q
  let attempt := fun (k : Nat) =>
    let p := e10 - k + 1
    let lo := floorScaled m q p
    let hi := lo + 1
    match within lo p, within hi p with
    | true, true =>
      match cmpScaled m (q + 1) (2 * lo + 1) p with
      | .lt => some (lo, p)
      | .gt => some (hi, p)
      | .eq => some (if lo % 2 == 0 then lo else hi, p)
    | true, false => some (lo, p)
    | false, true => some (hi, p)
    | false, false => none
  let found := ((List.range 17).map (· + 1)).findSome? attempt
  let (d, p) := found.getD (floorScaled m q (e10 - 16), e10 - 16)
  trim 20 d p

def digitsOf (d : Nat) : List Char := Nat.toDigits 10 d

end XmlView.Decimal
