import XmlView.Decimal.Shortest
/-! How shortest digits are laid out as text: positional inside a window of decimal-point
positions, scientific outside it, with fixed spellings for infinities and NaN. -/
namespace XmlView.Decimal

/-- A layout of decimal numbers. With the digits `d₁d₂…` and the point after `point` of
them, the number is positional when `lowest < point ≤ highest`. -/
structure Notation where
  lowest : Int
  highest : Int
  pointZero : Bool
  exponentDigits : Nat
  infinity : String
  nan : String

/-- Numbers written so that they read back: positional for points from `-3` to `16`,
`e+XX` outside, `.0` on integers. -/
def Notation.roundTrip : Notation := ⟨-4, 16, true, 2, "inf", "nan"⟩

def Notation.json : Notation := ⟨-4, 16, true, 2, "Infinity", "NaN"⟩

def zeros (n : Nat) : String := String.ofList (List.replicate n '0')

def Notation.layout (n : Notation) (ds : List Char) (point : Int) : String :=
  let s := String.ofList ds
  if n.lowest < point ∧ point ≤ n.highest then
    if point ≤ 0 then "0." ++ zeros point.natAbs ++ s
    else if point.toNat ≥ ds.length then
      s ++ zeros (point.toNat - ds.length) ++ (if n.pointZero then ".0" else "")
    else String.ofList (ds.take point.toNat) ++ "." ++ String.ofList (ds.drop point.toNat)
  else
    let e := point - 1
    let mant := match ds with
      | [] => "0"
      | [d] => String.ofList [d]
      | d :: rest => String.ofList [d] ++ "." ++ String.ofList rest
    let ed := Nat.toDigits 10 e.natAbs
    mant ++ "e" ++ (if e < 0 then "-" else "+") ++
      zeros (n.exponentDigits - ed.length) ++ String.ofList ed

def Notation.write (n : Notation) (x : Float) : String :=
  match Binary.ofFloat x with
  | .nan => n.nan
  | .infinite neg => (if neg then "-" else "") ++ n.infinity
  | .zero neg => (if neg then "-" else "") ++ n.layout ['0'] 1
  | .finite neg m q narrow =>
    let (d, p) := shortest m q narrow
    let ds := digitsOf d
    (if neg then "-" else "") ++ n.layout ds (p + ds.length)

end XmlView.Decimal
