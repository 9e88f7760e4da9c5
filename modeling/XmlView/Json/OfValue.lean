import XmlView.Json.Basic
import XmlView.Value.Display
/-! Values as JSON documents: lists and tuples as arrays, dictionaries as objects with text
keys, any other value as the text it reads as. A key of another kind, an over-long integer
or a collection that holds itself cannot be written. -/
namespace XmlView.Json

def keyText : Value → Except Fault Text
  | .str t => .ok t
  | .float x => .ok (Text.ofString (Decimal.Notation.json.write x))
  | .bool b => .ok (Text.ofString (if b then "true" else "false"))
  | .none => .ok (Text.ofString "null")
  | .int n =>
    if n.natAbs ≥ Value.digitBound then .error Value.writeLimitFault
    else .ok (Text.ofString (toString n))
  | v => .error (.wrongType ("keys must be str, int, float, bool or None, not " ++ v.typeName))

def ofValue : Value → Except Fault Json
  | .none => .ok .null
  | .bool b => .ok (.bool b)
  | .int n => if n.natAbs ≥ Value.digitBound then .error Value.writeLimitFault else .ok (.int n)
  | .float x => .ok (.float x)
  | .str t => .ok (.str t)
  | .list xs => Except.map Json.arr (xs.attach.mapM fun ⟨x, _⟩ => ofValue x)
  | .tuple xs => Except.map Json.arr (xs.attach.mapM fun ⟨x, _⟩ => ofValue x)
  | .dict es =>
    Except.map Json.obj (es.attach.mapM fun ⟨(k, v), _⟩ => do
      return (← keyText k, ← ofValue v))
  | .cyclic _ => .error (.badValue "Circular reference detected")
  | v => v.written.map fun s => .str (Text.ofString s)
decreasing_by
  all_goals
    have h := List.sizeOf_lt_of_mem ‹_ ∈ _›
    simp only [Value.list.sizeOf_spec, Value.tuple.sizeOf_spec, Value.dict.sizeOf_spec,
      Prod.mk.sizeOf_spec] at h ⊢
    omega

end XmlView.Json
