import XmlView.Value.Basic
import XmlView.Decimal.Notation
import XmlView.CodePoint.Printable
/-! The text of a value: `Value.literal` spells it as a literal, `Value.display` is what it
reads as in a message (text itself, dates in ISO form, other values their literal). -/
namespace XmlView

def padded (width n : Nat) : String :=
  let ds := Nat.toDigits 10 n
  String.ofList (List.replicate (width - ds.length) '0' ++ ds)

def hexPadded (width n : Nat) : String :=
  let ds := Nat.toDigits 16 n
  String.ofList (List.replicate (width - ds.length) '0' ++ ds)

namespace Date

def iso (d : Date) : String := padded 4 d.year ++ "-" ++ padded 2 d.month ++ "-" ++ padded 2 d.day

def literal (d : Date) : String :=
  "datetime.date(" ++ toString d.year ++ ", " ++ toString d.month ++ ", " ++ toString d.day ++ ")"

end Date

namespace Moment

def offsetText (o : Int) : String :=
  (if o < 0 then "-" else "+") ++ padded 2 (o.natAbs / 60) ++ ":" ++ padded 2 (o.natAbs % 60)

def iso (m : Moment) (sep : String) : String :=
  m.date.iso ++ sep ++ padded 2 m.hour ++ ":" ++ padded 2 m.minute ++ ":" ++ padded 2 m.second ++
    (if m.micro == 0 then "" else "." ++ padded 6 m.micro) ++
    (match m.offset with | some o => offsetText o | none => "")

def offsetSpan (o : Int) : String :=
  let total := o * 60
  let days := total / 86400
  let seconds := total % 86400
  if total == 0 then "datetime.timedelta(0)"
  else if days == 0 then "datetime.timedelta(seconds=" ++ toString seconds ++ ")"
  else if seconds == 0 then "datetime.timedelta(days=" ++ toString days ++ ")"
  else "datetime.timedelta(days=" ++ toString days ++ ", seconds=" ++ toString seconds ++ ")"

def literal (m : Moment) : String :=
  let time : List Nat :=
    if m.micro != 0 then [m.hour, m.minute, m.second, m.micro]
    else if m.second != 0 then [m.hour, m.minute, m.second]
    else [m.hour, m.minute]
  let fields := [m.date.year, m.date.month, m.date.day] ++ time
  let zone := match m.offset with
    | none => ""
    | some 0 => ", tzinfo=datetime.timezone.utc"
    | some o => ", tzinfo=datetime.timezone(" ++ offsetSpan o ++ ")"
  "datetime.datetime(" ++ ", ".intercalate (fields.map toString) ++ zone ++ ")"

end Moment

/-- The quote for content: `"` when it holds `'` and no `"`, else `'`. -/
def quoteFor (ps : List Nat) : Nat :=
  if ps.contains 39 && !ps.contains 34 then 34 else 39

def escapePoint (quote : Nat) (p : Nat) : String :=
  if p == quote || p == 92 then "\\" ++ String.singleton (Char.ofNat p)
  else if p == 9 then "\\t"
  else if p == 10 then "\\n"
  else if p == 13 then "\\r"
  else if p < 32 || p == 127 then "\\x" ++ hexPadded 2 p
  else if p < 127 then String.singleton (Char.ofNat p)
  else if CodePoint.isPrintable p then String.singleton (Char.ofNat p)
  else if p ≤ 0xFF then "\\x" ++ hexPadded 2 p
  else if p ≤ 0xFFFF then "\\u" ++ hexPadded 4 p
  else "\\U" ++ hexPadded 8 p

def Text.literal (t : Text) : String :=
  let q := quoteFor t.points
  let qs := String.singleton (Char.ofNat q)
  qs ++ String.join (t.points.map (escapePoint q)) ++ qs

def bytesLiteral (bs : List UInt8) : String :=
  let ps := bs.map UInt8.toNat
  let q := quoteFor ps
  let qs := String.singleton (Char.ofNat q)
  let one := fun (p : Nat) =>
    if p == q || p == 92 then "\\" ++ String.singleton (Char.ofNat p)
    else if p == 9 then "\\t"
    else if p == 10 then "\\n"
    else if p == 13 then "\\r"
    else if p < 32 || p ≥ 127 then "\\x" ++ hexPadded 2 p
    else String.singleton (Char.ofNat p)
  "b" ++ qs ++ String.join (ps.map one) ++ qs

def floatLiteral (x : Float) : String := Decimal.Notation.roundTrip.write x

namespace Value

def literal : Value → String
  | .none => "None"
  | .bool b => if b then "True" else "False"
  | .int n => toString n
  | .float x => floatLiteral x
  | .str t => t.literal
  | .bytes bs => bytesLiteral bs
  | .list xs => "[" ++ ", ".intercalate (xs.attach.map fun ⟨x, _⟩ => literal x) ++ "]"
  | .tuple [x] => "(" ++ literal x ++ ",)"
  | .tuple xs => "(" ++ ", ".intercalate (xs.attach.map fun ⟨x, _⟩ => literal x) ++ ")"
  | .dict es =>
    "\x7b" ++ ", ".intercalate (es.attach.map fun ⟨(k, v), _⟩ => literal k ++ ": " ++ literal v) ++
      "\x7d"
  | .set [] => "set()"
  | .set xs => "\x7b" ++ ", ".intercalate (xs.attach.map fun ⟨x, _⟩ => literal x) ++ "\x7d"
  | .date d => d.literal
  | .moment m => m.literal
  | .cyclic d => if d then "\x7b...\x7d" else "[...]"
decreasing_by
  all_goals
    first
    | (have h := List.sizeOf_lt_of_mem ‹_ ∈ _›; simp_all; omega)
    | (simp_all; omega)

/-- The text a value reads as: text itself, a date in ISO form, a date-time in ISO form
with a blank between date and time, and any other value its literal. -/
def display : Value → String
  | .str t => t.toStringLossy
  | .date d => d.iso
  | .moment m => m.iso " "
  | v => v.literal

def maxDigits : Nat := 4300

/-- The least integer too large to be written in decimal: `10 ^ maxDigits`. It is kept
folded, so that reasoning compares with it and never computes it. -/
@[irreducible] def digitBound : Nat := Nat.pow 10 maxDigits

def writeLimitFault : Fault :=
  .badValue ("Exceeds the limit (" ++ toString maxDigits ++
    " digits) for integer string conversion; use sys.set_int_max_str_digits() to increase " ++
    "the limit")

def hasLongInt : Value → Bool
  | .int n => n.natAbs ≥ digitBound
  | .list xs | .tuple xs | .set xs => xs.attach.any fun ⟨x, _⟩ => hasLongInt x
  | .dict es => es.attach.any fun ⟨(k, v), _⟩ => hasLongInt k || hasLongInt v
  | _ => false
decreasing_by
  all_goals
    have h := List.sizeOf_lt_of_mem ‹_ ∈ _›
    simp_all
    omega

def written (v : Value) : Except Fault String :=
  if v.hasLongInt then .error writeLimitFault else .ok v.display

end Value

end XmlView
