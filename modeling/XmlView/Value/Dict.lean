import XmlView.Value.Basic
/-! Insertion-ordered dictionaries of values. A key that equals one already present
keeps that key and its position and takes the new value; `update` merges a mapping, or a
sequence of two-item sequences, entry by entry. -/
namespace XmlView

abbrev Dict := List (Value × Value)

namespace Dict

def get? (d : Dict) (k : Value) : Option Value :=
  (d.find? fun e => Value.same e.1 k).map (·.2)

def contains (d : Dict) (k : Value) : Bool := d.any fun e => Value.same e.1 k

/-- Put a value under a key: in place if an equal key is present, else at the end. -/
def put (d : Dict) (k v : Value) : Dict :=
  if d.contains k then d.map fun e => if Value.same e.1 k then (e.1, v) else e
  else d ++ [(k, v)]

def erase (d : Dict) (k : Value) : Dict := d.filter fun e => !Value.same e.1 k

def keys (d : Dict) : List Value := d.map (·.1)

def putChecked (d : Dict) (k v : Value) : Except Fault Dict :=
  match k.unhashable? with
  | some t => .error (.wrongType ("unhashable type: '" ++ t ++ "'"))
  | none => .ok (d.put k v)

def items? : Value → Option (List Value)
  | .list xs | .tuple xs | .set xs => some xs
  | .dict es => some (es.map (·.1))
  | .str t => some (t.points.map fun p => .str ⟨[p]⟩)
  | .bytes bs => some (bs.map fun b => .int b.toNat)
  | _ => none

def mergePairs (d : Dict) (i : Nat) : List Value → Except Fault Dict
  | [] => .ok d
  | x :: xs =>
    match items? x with
    | none => .error (.wrongType ("cannot convert dictionary update sequence element #" ++
        toString i ++ " to a sequence"))
    | some [k, v] => do
      let d' ← d.putChecked k v
      mergePairs d' (i + 1) xs
    | some ys => .error (.badValue ("dictionary update sequence element #" ++ toString i ++
        " has length " ++ toString ys.length ++ "; 2 is required"))

/-- Merge a value into the dictionary: a dictionary entry by entry, anything else as a
sequence of two-item sequences. -/
def update (d : Dict) : Value → Except Fault Dict
  | .dict es => .ok (es.foldl (fun acc e => acc.put e.1 e.2) d)
  | v =>
    match items? v with
    | some xs => mergePairs d 0 xs
    | none => .error (.wrongType ("'" ++ v.typeName ++ "' object is not iterable"))

end Dict

end XmlView
