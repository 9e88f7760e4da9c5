import XmlView.Yaml.Construct
/-! Reading a YAML text into a value: the text must hold only printable characters, and
at most one document; no document reads as none. -/
namespace XmlView.Yaml

/-- Why a text could not be read: the text is not valid YAML, with the message that says
where; or it spells a value that cannot be made. -/
inductive LoadError where
  | invalid (message : String)
  | fault (f : Fault)
  deriving Inhabited

/-- Characters a YAML text may hold: tab, the line breaks, the printable ASCII
characters, next line and every character above it except surrogates and the
noncharacters `0xFFFE` and `0xFFFF`. -/
def isPrintable (c : Char) : Bool :=
  let p := c.toNat
  p == 0x09 || p == 0x0A || p == 0x0D || (0x20 ≤ p && p ≤ 0x7E) || p == 0x85 ||
    (0xA0 ≤ p && p ≤ 0xD7FF) || (0xE000 ≤ p && p ≤ 0xFFFD) || 0x10000 ≤ p

def load (text : List Char) : Except LoadError Value :=
  match text.findIdx? (fun c => !isPrintable c) with
  | some i =>
    .error (.invalid ("unacceptable character #x" ++ hexPadded 4 (text.getD i ' ').toNat ++
      ": special characters are not allowed\n  in \"<unicode string>\", position " ++ toString i))
  | none =>
    let buf := text.toArray
    let failed := fun (f : Failure) =>
      match f with
      | .marked e => LoadError.invalid (e.render buf)
      | .fault f => LoadError.fault f
    let composer : Composer := { parser := { scanner := Scanner.start buf } }
    match Composer.singleNode.run composer with
    | .error f => .error (failed f)
    | .ok (none, _) => .ok .none
    | .ok (some root, _) => (construct root (buf.size + 2)).mapError failed

end XmlView.Yaml
