import XmlView.Yaml.Mark
import XmlView.Value.Number
import XmlView.CodePoint.Case
/-! The values scalars of the standard tags stand for: integers, doubles, truth values,
base-64 bytes, dates and date-times, failing as the number and date readers fail. -/
namespace XmlView.Yaml

def splitColons (ps : List Nat) : List (List Nat) :=
  (ps.splitOn 0x3A)

def indexFault : Fault := .badIndex "string index out of range"

/-- An integer scalar: underscores are dropped; after the sign, `0b` is binary, `0x`
hexadecimal, a leading `0` octal, and colons separate base-60 digits. -/
def intOf (ps : List Nat) : Except Fault Int := do
  let ps := ps.filter (· != 0x5F)
  let first ← match ps with | p :: _ => pure p | [] => throw indexFault
  let sign : Int := if first == 0x2D then -1 else 1
  let ps := if first == 0x2D || first == 0x2B then ps.drop 1 else ps
  if ps == [0x30] then return 0
  match ps with
  | 0x30 :: 0x62 :: rest => return sign * (← readInt 2 rest)
  | 0x30 :: 0x78 :: rest => return sign * (← readInt 16 rest)
  | 0x30 :: _ => return sign * (← readInt 8 ps)
  | [] => throw indexFault
  | _ =>
    if ps.contains 0x3A then
      let digits ← (splitColons ps).mapM (readInt 10)
      return sign * digits.reverse.zipIdx.foldl (fun acc (d, k) => acc + d * Int.pow 60 k) 0
    else return sign * (← readInt 10 ps)

/-- A double scalar: underscores are dropped and letters lowered; `.inf` and `.nan` are
the infinities and not-a-number, and colons separate base-60 digits. -/
def floatOf (ps : List Nat) : Except Fault Float := do
  let ps := CodePoint.lower (ps.filter (· != 0x5F))
  let first ← match ps with | p :: _ => pure p | [] => throw indexFault
  let sign : Float := if first == 0x2D then -1 else 1
  let ps := if first == 0x2D || first == 0x2B then ps.drop 1 else ps
  if ps == ".inf".toList.map Char.toNat then return sign * (1.0 / 0.0)
  if ps == ".nan".toList.map Char.toNat then return 0.0 / 0.0
  if ps.contains 0x3A then
    let digits ← (splitColons ps).mapM readFloat
    let (value, _) := digits.reverse.foldl
      (fun (acc : Float × Nat) d => (acc.1 + d * Float.ofNat acc.2, acc.2 * 60)) (0.0, 1)
    return sign * value
  return sign * (← readFloat ps)

/-- A truth value scalar: `yes`, `true` and `on` or `no`, `false` and `off`, in any case. -/
def boolOf (ps : List Nat) : Except Fault Bool :=
  let word := CodePoint.lower ps
  let is := fun (s : String) => word == s.toList.map Char.toNat
  if is "yes" || is "true" || is "on" then .ok true
  else if is "no" || is "false" || is "off" then .ok false
  else .error (.missingKey (Text.literal ⟨word⟩))

def sextet (p : Nat) : Option Nat :=
  if 0x41 ≤ p && p ≤ 0x5A then some (p - 0x41)
  else if 0x61 ≤ p && p ≤ 0x7A then some (p - 0x61 + 26)
  else if isDigitPoint p then some (p - 0x30 + 52)
  else if p == 0x2B then some 62
  else if p == 0x2F then some 63
  else none

def decodeBase64 (ps : List Nat) : Except String (List UInt8) :=
  go ps 0 0 0 #[]
where
  go : List Nat → Nat → Nat → Nat → Array UInt8 → Except String (List UInt8)
  | [], quad, _, _, out =>
    if quad == 0 then .ok out.toList
    else if quad == 1 then
      .error ("Invalid base64-encoded string: number of data characters (" ++
        toString (out.size / 3 * 4 + 1) ++ ") cannot be 1 more than a multiple of 4")
    else .error "Incorrect padding"
  | p :: rest, quad, left, pads, out =>
    if p == 0x3D then
      if quad ≥ 2 then
        if quad + pads + 1 ≥ 4 then .ok out.toList else go rest quad left (pads + 1) out
      else go rest quad left pads out
    else
      match sextet p with
      | none => go rest quad left pads out
      | some v =>
        match quad with
        | 0 => go rest 1 v 0 out
        | 1 => go rest 2 (v % 16) 0 (out.push (left * 4 + v / 16).toUInt8)
        | 2 => go rest 3 (v % 4) 0 (out.push ((left * 16) % 256 + v / 4).toUInt8)
        | _ => go rest 0 0 0 (out.push ((left * 64) % 256 + v).toUInt8)

def asciiFault (ps : List Nat) : Option String :=
  match ps.findIdx? (· ≥ 128) with
  | none => none
  | some i =>
    let run := (ps.drop i).takeWhile (· ≥ 128)
    let head := "'ascii' codec can't encode "
    let reason := ": ordinal not in range(128)"
    some <| match run with
      | [p] =>
        let code :=
          if p ≤ 0xFF then "\\x" ++ hexPadded 2 p
          else if p ≤ 0xFFFF then "\\u" ++ hexPadded 4 p
          else "\\U" ++ hexPadded 8 p
        head ++ "character '" ++ code ++ "' in position " ++ toString i ++ reason
      | _ =>
        head ++ "characters in position " ++ toString i ++ "-" ++ toString (i + run.length - 1) ++
          reason

def bytesOf (ps : List Nat) (start : Mark) : Except Failure (List UInt8) :=
  let fail := fun (problem : String) =>
    Except.error (Failure.marked { problem := problem, problemMark := some start })
  match asciiFault ps with
  | some why => fail ("failed to convert base64 data into ascii: " ++ why)
  | none =>
    match decodeBase64 ps with
    | .ok bs => .ok bs
    | .error why => fail ("failed to decode base64 data: " ++ why)

/-- A time of day as written in a timestamp, with its fraction of a second and its zone:
none, UTC, or a signed offset in hours and minutes. -/
structure Clock where
  hour : Nat
  minute : Nat
  second : Nat
  fraction : List Nat
  zone : Option (Option (Bool × Nat × Nat))

def frontDigits (lo hi : Nat) (ps : List Nat) : Option (Nat × List Nat) :=
  let ds := (ps.takeWhile isDigitPoint).take hi
  if ds.length < lo then none else (digitsIn 10 ds).map fun n => (n, ps.drop ds.length)

def expect (c : Char) : List Nat → Option (List Nat)
  | p :: rest => if p == c.toNat then some rest else none
  | [] => none

def atEnd (ps : List Nat) : Bool := ps == [] || ps == [0x0A]

def isBlankPoint (p : Nat) : Bool := p == 0x20 || p == 0x09

def readZone (ps : List Nat) : Option (Option (Bool × Nat × Nat)) :=
  match ps.dropWhile isBlankPoint with
  | 0x5A :: rest => if atEnd rest then some none else none
  | s :: rest =>
    if s == 0x2D || s == 0x2B then do
      let (h, rest) ← frontDigits 1 2 rest
      match rest with
      | 0x3A :: r =>
        let (m, r) ← frontDigits 2 2 r
        if atEnd r then some (some (s == 0x2D, h, m)) else none
      | r => if atEnd r then some (some (s == 0x2D, h, 0)) else none
    else none
  | [] => none

def readClock (ps : List Nat) : Option Clock := do
  let ps ← match ps with
    | 0x54 :: r | 0x74 :: r => some r
    | p :: r => if isBlankPoint p then some (r.dropWhile isBlankPoint) else none
    | [] => none
  let (hour, ps) ← frontDigits 1 2 ps
  let ps ← expect ':' ps
  let (minute, ps) ← frontDigits 2 2 ps
  let ps ← expect ':' ps
  let (second, ps) ← frontDigits 2 2 ps
  let (fraction, ps) := match ps with
    | 0x2E :: r => let f := r.takeWhile isDigitPoint; (f, r.drop f.length)
    | r => ([], r)
  let zone ← if atEnd ps then some none else (readZone ps).map some
  return ⟨hour, minute, second, fraction, zone⟩

def readStamp (ps : List Nat) : Option (Date × Option Clock) := do
  let (year, ps) ← frontDigits 4 4 ps
  let ps ← expect '-' ps
  let (month, ps) ← frontDigits 1 2 ps
  let ps ← expect '-' ps
  let (day, ps) ← frontDigits 1 2 ps
  if atEnd ps then return (⟨year, month, day⟩, none)
  return (⟨year, month, day⟩, some (← readClock ps))

def isLeap (y : Nat) : Bool := y % 4 == 0 && (y % 100 != 0 || y % 400 == 0)

def daysIn (y m : Nat) : Nat :=
  if m == 2 then (if isLeap y then 29 else 28)
  else if m == 4 || m == 6 || m == 9 || m == 11 then 30
  else 31

def checkDate (d : Date) : Except Fault Date :=
  if d.year < 1 || d.year > 9999 then .error (.badValue ("year " ++ toString d.year ++ " is out of range"))
  else if d.month < 1 || d.month > 12 then .error (.badValue "month must be in 1..12")
  else if d.day < 1 || d.day > daysIn d.year d.month then
    .error (.badValue "day is out of range for month")
  else .ok d

/-- A timestamp scalar: a date, or a date-time whose fraction keeps six digits and whose
zone is an offset of less than a day. -/
def timestampOf (ps : List Nat) : Except Fault Value :=
  match readStamp ps with
  | none => .error (.missingMember "NoneType" "groupdict")
  | some (date, none) => return .date (← checkDate date)
  | some (date, some c) => do
    let micro := (digitsIn 10 ((c.fraction.take 6) ++ List.replicate (6 - c.fraction.length) 0x30)).getD 0
    let offset : Option Int ← match c.zone with
      | none => pure none
      | some none => pure (some 0)
      | some (some (negative, h, m)) =>
        let total : Int := (h * 60 + m : Nat)
        let o := if negative then -total else total
        if o.natAbs ≥ 24 * 60 then
          throw (.badValue ("offset must be a timedelta strictly between -timedelta(hours=24) " ++
            "and timedelta(hours=24), not " ++ Moment.offsetSpan o ++ "."))
        else pure (some o)
    let date ← checkDate date
    if c.hour > 23 then throw (.badValue "hour must be in 0..23")
    if c.minute > 59 then throw (.badValue "minute must be in 0..59")
    if c.second > 59 then throw (.badValue "second must be in 0..59")
    return .moment ⟨date, c.hour, c.minute, c.second, micro, offset⟩

end XmlView.Yaml
