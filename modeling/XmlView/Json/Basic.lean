import XmlView.Text.Basic
import XmlView.Decimal.Notation
/-! JSON documents and their text. Objects keep their members in order; strings are
`Text`, so an unpaired surrogate can be carried and, when the text is kept to ASCII,
written as an escape. The layout follows one rule set: members separated by `", "` on one
line, or by `","` and a line break with the indent unit repeated once per level. -/
namespace XmlView

inductive Json where
  | null
  | bool (b : Bool)
  | int (n : Int)
  | float (x : Float)
  | str (t : Text)
  | arr (xs : List Json)
  | obj (members : List (Text × Json))
  deriving Inhabited

namespace Json

/-- How a document is laid out: on one line, or indented by a unit of code points per
level; and whether every character outside printable ASCII is escaped. -/
structure Layout where
  indent : Option (List Nat)
  asciiOnly : Bool

def pushString (acc : Array Nat) (s : String) : Array Nat :=
  s.toList.foldl (fun a c => a.push c.toNat) acc

def hexDigits (n : Nat) : List Nat :=
  let ds := Nat.toDigits 16 n
  (List.replicate (4 - ds.length) '0' ++ ds).map Char.toNat

def pushUnit (acc : Array Nat) (u : Nat) : Array Nat :=
  (hexDigits u).foldl Array.push ((acc.push 92).push 117)

def pushPoint (asciiOnly : Bool) (acc : Array Nat) (p : Nat) : Array Nat :=
  if p == 34 then (acc.push 92).push 34
  else if p == 92 then (acc.push 92).push 92
  else if p == 10 then (acc.push 92).push 110
  else if p == 13 then (acc.push 92).push 114
  else if p == 9 then (acc.push 92).push 116
  else if p == 8 then (acc.push 92).push 98
  else if p == 12 then (acc.push 92).push 102
  else if p < 32 then pushUnit acc p
  else if asciiOnly && p > 126 then
    if p ≥ 0x10000 then
      let v := p - 0x10000
      pushUnit (pushUnit acc (0xD800 + v / 1024)) (0xDC00 + v % 1024)
    else pushUnit acc p
  else acc.push p

def pushQuoted (asciiOnly : Bool) (acc : Array Nat) (t : Text) : Array Nat :=
  (t.points.foldl (pushPoint asciiOnly) (acc.push 34)).push 34

def newline (layout : Layout) (level : Nat) (acc : Array Nat) : Array Nat :=
  match layout.indent with
  | none => acc
  | some unit => (List.replicate level unit).flatten.foldl Array.push (acc.push 10)

/-- Separator between items: `", "` on one line, `","` before a line break. -/
def separator (layout : Layout) (acc : Array Nat) : Array Nat :=
  match layout.indent with
  | none => pushString acc ", "
  | some _ => acc.push 44

mutual
def push (layout : Layout) (level : Nat) (acc : Array Nat) : Json → Array Nat
  | .null => pushString acc "null"
  | .bool b => pushString acc (if b then "true" else "false")
  | .int n => pushString acc (toString n)
  | .float x => pushString acc (Decimal.Notation.json.write x)
  | .str t => pushQuoted layout.asciiOnly acc t
  | .arr [] => pushString acc "[]"
  | .arr (x :: xs) =>
    let acc := push layout (level + 1) (newline layout (level + 1) (acc.push 91)) x
    let acc := pushItems layout level acc xs
    (newline layout level acc).push 93
  | .obj [] => pushString acc "{}"
  | .obj ((k, v) :: ms) =>
    let acc := pushQuoted layout.asciiOnly (newline layout (level + 1) (acc.push 123)) k
    let acc := push layout (level + 1) (pushString acc ": ") v
    let acc := pushMembers layout level acc ms
    (newline layout level acc).push 125

def pushItems (layout : Layout) (level : Nat) (acc : Array Nat) : List Json → Array Nat
  | [] => acc
  | x :: xs =>
    let acc := push layout (level + 1) (newline layout (level + 1) (separator layout acc)) x
    pushItems layout level acc xs

def pushMembers (layout : Layout) (level : Nat) (acc : Array Nat) :
    List (Text × Json) → Array Nat
  | [] => acc
  | (k, v) :: ms =>
    let acc := pushQuoted layout.asciiOnly (newline layout (level + 1) (separator layout acc)) k
    let acc := push layout (level + 1) (pushString acc ": ") v
    pushMembers layout level acc ms
end

def write (layout : Layout) (j : Json) : Text := ⟨(push layout 0 #[] j).toList⟩

end Json

end XmlView
