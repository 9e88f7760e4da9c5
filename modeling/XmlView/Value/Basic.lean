import XmlView.Text.Basic
import XmlView.Decimal.Shortest
/-! Dynamic values as converters and configuration files hold them. Equality is that of
dictionary keys: numbers by value across kinds, date-times with offsets by their instant. -/
namespace XmlView

structure Date where
  year : Nat
  month : Nat
  day : Nat
  deriving DecidableEq, Repr

/-- A date with a time of day to the microsecond and, if known, an offset from UTC in
minutes. -/
structure Moment where
  date : Date
  hour : Nat
  minute : Nat
  second : Nat
  micro : Nat
  offset : Option Int
  deriving DecidableEq, Repr

namespace Date

def isLeap (y : Nat) : Bool := y % 4 == 0 && (y % 100 != 0 || y % 400 == 0)

def ordinal (d : Date) : Nat :=
  let y := d.year - 1
  let beforeMonth := [0, 31, 59, 90, 120, 151, 181, 212, 243, 273, 304, 334].getD (d.month - 1) 0
  y * 365 + y / 4 - y / 100 + y / 400 + beforeMonth +
    (if isLeap d.year && d.month > 2 then 1 else 0) + d.day

end Date

namespace Moment

def utcMicros (m : Moment) (offset : Int) : Int :=
  (((m.date.ordinal * 24 + m.hour) * 60 + m.minute) * 60 + m.second : Nat) * 1000000 +
    m.micro - offset * 60 * 1000000

/-- Whether two moments are the same: with offsets, the same instant; without, the same
fields; a moment with an offset is never one without. -/
def same (a b : Moment) : Bool :=
  match a.offset, b.offset with
  | some o, some p => a.utcMicros o == b.utcMicros p
  | none, none => a == b
  | _, _ => false

end Moment

inductive Value where
  | none
  | bool (b : Bool)
  | int (n : Int)
  | float (x : Float)
  | str (t : Text)
  | bytes (bs : List UInt8)
  | list (xs : List Value)
  | tuple (xs : List Value)
  | dict (entries : List (Value × Value))
  | set (xs : List Value)
  | date (d : Date)
  | moment (m : Moment)
  /-- A list or dictionary met again inside itself: a reference back to the collection
  around it, which holds what that collection holds. -/
  | cyclic (isDict : Bool)
  deriving Inhabited

/-- Why an operation on values failed: a member the value does not have, a value of the
wrong type, a value of the right type that is unacceptable, a key a mapping lacks (kept as
its literal), a position past the end of a sequence, or a number too large for a machine
integer. -/
inductive Fault where
  | missingMember (owner : String) (member : String)
  | wrongType (message : String)
  | badValue (message : String)
  | missingKey (key : String)
  | badIndex (message : String)
  | tooLarge (message : String)
  deriving DecidableEq, Repr, Inhabited

def Fault.message : Fault → String
  | .missingMember owner member => "'" ++ owner ++ "' object has no attribute '" ++ member ++ "'"
  | .wrongType m => m
  | .badValue m => m
  | .missingKey k => k
  | .badIndex m => m
  | .tooLarge m => m

namespace Value

def ofString (s : String) : Value := .str (Text.ofString s)

def typeName : Value → String
  | .none => "NoneType"
  | .bool _ => "bool"
  | .int _ => "int"
  | .float _ => "float"
  | .str _ => "str"
  | .bytes _ => "bytes"
  | .list _ => "list"
  | .tuple _ => "tuple"
  | .dict _ => "dict"
  | .set _ => "set"
  | .date _ => "date"
  | .moment _ => "datetime"
  | .cyclic d => if d then "dict" else "list"

/-- Values that count as false: none, false, zero, and empty text, bytes and collections. -/
def truthy : Value → Bool
  | .none => false
  | .bool b => b
  | .int n => n != 0
  | .float x => x != 0
  | .str t => !t.isEmpty
  | .bytes bs => !bs.isEmpty
  | .list xs | .tuple xs | .set xs => !xs.isEmpty
  | .dict es => !es.isEmpty
  | .date _ | .moment _ | .cyclic _ => true

def floatRatio (x : Float) : Option (Int × Nat) :=
  match Decimal.Binary.ofFloat x with
  | .zero _ => some (0, 1)
  | .finite neg m q _ =>
    let n : Int := (m * Nat.pow 2 q.toNat : Nat)
    some (if neg then -n else n, Nat.pow 2 (-q).toNat)
  | _ => Option.none

def numeric? : Value → Option (Option (Int × Nat))
  | .bool b => some (some (if b then 1 else 0, 1))
  | .int n => some (some (n, 1))
  | .float x => some (floatRatio x)
  | _ => Option.none

mutual
/-- Key equality: numbers by value across kinds, text and bytes by content, tuples
item by item; values of other kinds never equal values of a different kind. -/
def same : Value → Value → Bool
  | .none, .none => true
  | .str a, .str b => a == b
  | .bytes a, .bytes b => a == b
  | .tuple xs, .tuple ys => sameList xs ys
  | .list xs, .list ys => sameList xs ys
  | .date a, .date b => a == b
  | .moment a, .moment b => a.same b
  | .float a, .float b => a == b
  | a, b =>
    match numeric? a, numeric? b with
    | some (some (p, q)), some (some (r, s)) => p * s == r * q
    | _, _ => false

def sameList : List Value → List Value → Bool
  | [], [] => true
  | x :: xs, y :: ys => same x y && sameList xs ys
  | _, _ => false
end

def unhashable? : Value → Option String
  | .list _ => some "list"
  | .dict _ => some "dict"
  | .set _ => some "set"
  | .cyclic d => some (if d then "dict" else "list")
  | .tuple xs => (xs.attach.map fun ⟨x, _⟩ => unhashable? x).findSome? id
  | _ => Option.none

end Value

end XmlView
