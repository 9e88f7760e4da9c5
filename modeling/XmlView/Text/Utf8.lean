import XmlView.Text.Basic
/-! Reading bytes as UTF-8, strictly: the first malformed sequence stops the reading, and
the failure names the bytes it covers and why. Text read from a file also has its line
ends unified, `\r\n` and a lone `\r` both becoming `\n`. -/
namespace XmlView.Text

/-- Why a run of bytes is not UTF-8: where it starts, where it ends, the byte at the start
and the reason. -/
structure DecodeFault where
  start : Nat
  stop : Nat
  first : UInt8
  reason : String
  deriving DecidableEq, Repr

def hexByte (b : UInt8) : String :=
  let ds := Nat.toDigits 16 b.toNat
  String.ofList (List.replicate (2 - ds.length) '0' ++ ds)

def DecodeFault.message (f : DecodeFault) : String :=
  if f.stop = f.start + 1 then
    "'utf-8' codec can't decode byte 0x" ++ hexByte f.first ++ " in position " ++
      toString f.start ++ ": " ++ f.reason
  else
    "'utf-8' codec can't decode bytes in position " ++ toString f.start ++ "-" ++
      toString (f.stop - 1) ++ ": " ++ f.reason

def within (lo hi : UInt8) (b : UInt8) : Bool := lo ≤ b && b ≤ hi

def secondRange (b : UInt8) : UInt8 × UInt8 :=
  if b == 0xE0 then (0xA0, 0xBF)
  else if b == 0xED then (0x80, 0x9F)
  else if b == 0xF0 then (0x90, 0xBF)
  else if b == 0xF4 then (0x80, 0x8F)
  else (0x80, 0xBF)

def tailLength (b : UInt8) : Option Nat :=
  if b < 0x80 then some 0
  else if b < 0xC2 then none
  else if b < 0xE0 then some 1
  else if b < 0xF0 then some 2
  else if b < 0xF5 then some 3
  else none

def goodTail (b : UInt8) (n : Nat) (rest : List UInt8) : Nat :=
  let (lo, hi) := secondRange b
  let checks := (List.range n).map fun k => if k == 0 then within lo hi else within 0x80 0xBF
  let rec count : List (UInt8 → Bool) → List UInt8 → Nat
    | c :: cs, x :: xs => if c x then count cs xs + 1 else 0
    | _, _ => 0
  count checks rest

def pointOf (b : UInt8) (tail : List UInt8) : Nat :=
  let lead := match tail.length with
    | 0 => b.toNat
    | 1 => b.toNat % 0x20
    | 2 => b.toNat % 0x10
    | _ => b.toNat % 0x08
  tail.foldl (fun acc t => acc * 64 + t.toNat % 64) lead

def decodeFrom (i : Nat) (acc : Array Nat) : List UInt8 → Except DecodeFault (List Nat)
  | [] => .ok acc.toList
  | b :: rest =>
    match tailLength b with
    | none => .error ⟨i, i + 1, b, "invalid start byte"⟩
    | some n =>
      let good := goodTail b n rest
      if good == n then
        decodeFrom (i + 1 + n) (acc.push (pointOf b (rest.take n))) (rest.drop n)
      else if good == rest.length then .error ⟨i, i + 1 + good, b, "unexpected end of data"⟩
      else .error ⟨i, i + 1 + good, b, "invalid continuation byte"⟩
termination_by bs => bs.length
decreasing_by simp only [List.length_drop, List.length_cons]; omega

def decodeUtf8 (bs : List UInt8) : Except DecodeFault Text :=
  (decodeFrom 0 #[] bs).map Text.mk

def unifyLineEnds : List Nat → List Nat
  | 13 :: 10 :: rest => 10 :: unifyLineEnds rest
  | 13 :: rest => 10 :: unifyLineEnds rest
  | c :: rest => c :: unifyLineEnds rest
  | [] => []

end XmlView.Text
