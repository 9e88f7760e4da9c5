/-! Tables of code points kept as text of hexadecimal numbers, read once into an array and
searched by bisection. A table of increasing boundaries `b₀ b₁ …` stands for `[b₀, b₁)`,
`[b₂, b₃)`, …: a code point is in it when an odd number of boundaries are at most it. -/
namespace XmlView.CodePoint

def hexValue (c : Char) : Option Nat :=
  if '0' ≤ c && c ≤ '9' then some (c.toNat - '0'.toNat)
  else if 'a' ≤ c && c ≤ 'f' then some (c.toNat - 'a'.toNat + 10)
  else none

def numbers (s : String) : Array Int :=
  let (out, cur) := s.toList.foldl step (#[], none)
  flush out cur
where
  flush (out : Array Int) : Option (Bool × Nat) → Array Int
    | some (neg, n) => out.push (if neg then -(n : Int) else n)
    | none => out
  step (st : Array Int × Option (Bool × Nat)) (c : Char) : Array Int × Option (Bool × Nat) :=
    let (out, cur) := st
    match hexValue c, cur with
    | some d, some (neg, n) => (out, some (neg, 16 * n + d))
    | some d, none => (out, some (false, d))
    | none, _ => if c == '-' then (flush out cur, some (true, 0)) else (flush out cur, none)

def naturals (s : String) : Array Nat := (numbers s).map Int.toNat

def countAtMost (a : Array Nat) (key : Nat) : Nat → Nat → Nat → Nat
  | 0, lo, _ => lo
  | fuel + 1, lo, hi =>
    if lo < hi then
      let mid := lo + (hi - lo) / 2
      if a.getD mid 0 ≤ key then countAtMost a key fuel (mid + 1) hi
      else countAtMost a key fuel lo mid
    else lo

def rank (a : Array Nat) (key : Nat) : Nat := countAtMost a key (Nat.log2 a.size + 2) 0 a.size

def inRanges (a : Array Nat) (p : Nat) : Bool := rank a p % 2 == 1

end XmlView.CodePoint
