import XmlView.Value.Display
import XmlView.Decimal.Nearest
import XmlView.CodePoint.Digit
/-! Numbers read from text as the standard integer and double readers read them: blanks
around, a sign, digits single underscores may separate, and a base prefix. -/
namespace XmlView

def isDigitPoint (p : Nat) : Bool := 0x30 ≤ p && p ≤ 0x39

def digitIn (base : Nat) (p : Nat) : Option Nat :=
  let d :=
    if isDigitPoint p then some (p - 0x30)
    else if 0x61 ≤ p && p ≤ 0x7A then some (p - 0x61 + 10)
    else if 0x41 ≤ p && p ≤ 0x5A then some (p - 0x41 + 10)
    else none
  d.bind fun d => if d < base then some d else none

def digitsIn (base : Nat) (ps : List Nat) : Option Nat :=
  if ps.isEmpty then none
  else ps.foldlM (fun acc p => (digitIn base p).map fun d => acc * base + d) 0

def splitSign : List Nat → Bool × List Nat
  | 0x2D :: rest => (true, rest)
  | 0x2B :: rest => (false, rest)
  | ps => (false, ps)

def lowerPoints (ps : List Nat) : List Nat :=
  ps.map fun p => if 0x41 ≤ p && p ≤ 0x5A then p + 32 else p

def basePrefix (base : Nat) (ps : List Nat) : Bool :=
  let letter := match base with | 2 => some 0x62 | 8 => some 0x6F | 16 => some 0x78 | _ => none
  match ps, letter with
  | 0x30 :: l :: _, some b => l == b || l == b - 32
  | _, _ => false

def joinDigits (isDigit : Nat → Bool) (leading : Bool) (ps : List Nat) : Option (List Nat) :=
  let rec go (previousDigit : Bool) : List Nat → Option (List Nat)
    | [] => some []
    | 0x5F :: rest =>
      match rest with
      | p :: _ => if previousDigit && isDigit p then go false rest else none
      | [] => none
    | p :: rest => (go (isDigit p) rest).map (p :: ·)
  go leading ps

def asciiPoint (p : Nat) : Option Nat :=
  if p < 0x7F then some p
  else if Text.isSpacePoint p then some 0x20
  else (CodePoint.decimal? p).map (0x30 + ·)

def asciiNumber (ps : List Nat) : List Nat :=
  let kept := ((ps.map asciiPoint).takeWhile Option.isSome).filterMap id
  if kept.length < ps.length then kept ++ [0x3F] else kept

def isAsciiSpace (p : Nat) : Bool := (0x09 ≤ p && p ≤ 0x0D) || p == 0x20

def stripAscii (ps : List Nat) : List Nat :=
  ((ps.dropWhile isAsciiSpace).reverse.dropWhile isAsciiSpace).reverse

def tooManyDigits (n : Nat) : Fault :=
  .badValue ("Exceeds the limit (" ++ toString Value.maxDigits ++
    " digits) for integer string conversion: value has " ++ toString n ++
    " digits; use sys.set_int_max_str_digits() to increase the limit")

/-- An integer written in a base, as the integer reader takes it. In base 10 a run of more
than `Value.maxDigits` digits is refused before what follows it is looked at. -/
def readInt (base : Nat) (ps : List Nat) : Except Fault Int :=
  let (negative, body) := splitSign (stripAscii (asciiNumber ps))
  let isDigit := fun p => (digitIn base p).isSome
  let (leading, body) := if basePrefix base body then (true, body.drop 2) else (false, body)
  let run := body.takeWhile fun p => isDigit p || p == 0x5F
  let count := (run.filter isDigit).length
  if base == 10 && count > Value.maxDigits && (joinDigits isDigit leading run).isSome then
    .error (tooManyDigits count)
  else
    match (joinDigits isDigit leading body).bind (digitsIn base) with
    | some n => .ok (if negative then -(n : Int) else n)
    | none =>
      let shown := String.ofList ((Text.literal ⟨ps⟩).toList.take 200)
      .error (.badValue ("invalid literal for int() with base " ++ toString base ++ ": " ++ shown))

def readDecimal (ps : List Nat) : Option (Nat × Int) :=
  let whole := ps.takeWhile isDigitPoint
  let rest := ps.drop whole.length
  let (fraction, rest) := match rest with
    | 0x2E :: r => let f := r.takeWhile isDigitPoint; (f, r.drop f.length)
    | r => ([], r)
  if whole.isEmpty && fraction.isEmpty then none
  else
    let exponent : Option Int := match rest with
      | [] => some 0
      | e :: r =>
        if e == 0x65 || e == 0x45 then
          let (negative, ds) := splitSign r
          (digitsIn 10 ds).map fun n => if negative then -(n : Int) else n
        else none
    exponent.map fun e =>
      ((digitsIn 10 (whole ++ fraction)).getD 0, e - fraction.length)

def readFloat (ps : List Nat) : Except Fault Float :=
  let (negative, body) := splitSign (stripAscii (asciiNumber ps))
  let word := lowerPoints body
  let named :=
    if word == "inf".toList.map Char.toNat || word == "infinity".toList.map Char.toNat then
      some (if negative then -(1.0 / 0.0) else 1.0 / 0.0)
    else if word == "nan".toList.map Char.toNat then some (0.0 / 0.0)
    else none
  let fail : Except Fault Float :=
    .error (.badValue ("could not convert string to float: " ++ Text.literal ⟨ps⟩))
  match named with
  | some x => .ok x
  | none =>
    match (joinDigits isDigitPoint false body).bind readDecimal with
    | some (m, e) => .ok (Decimal.nearest negative m e)
    | none => fail

end XmlView
