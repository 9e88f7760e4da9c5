import XmlView.Text.Basic
import XmlView.Markup.Reader.Prolog
/-! Reading a text as an XML document: written as UTF-8 first, then accepted only when the
reader reports nothing at all, warnings included. -/
namespace XmlView.Markup

open Reader in
def readChars (cs : List Char) : Array Diagnostic × Option Node :=
  let (cs, mark) := match cs with
    | '\uFEFF' :: rest => if rest.isEmpty then (cs, 0) else (rest, utf8Width '\uFEFF')
    | _ => (cs, 0)
  -- the byte order mark counts among the bytes read
  let src := Source.ofText cs .document
  let start : Reader := { src := { src with bytes := src.bytes + mark } }
  let r := (readDocument.run start).2
  (r.diags, r.root)

def parseDocument (t : Text) : Except ParseError Node :=
  match t.encode with
  | .error fault => .error ⟨[⟨.fatal, fault.message, 0, 0⟩]⟩
  | .ok s =>
    let (diags, root) := readChars s.toList
    if !diags.isEmpty then .error ⟨latest diags.toList⟩
    else match root with
      | some n => .ok n
      | none => .error ⟨[⟨.fatal, "Document has no root element", 0, 0⟩]⟩

end XmlView.Markup
