import XmlView.Markup.Diagnostic
import XmlView.Value.Basic
/-! Why an operation of the library failed, one constructor for each cause, and the
message that reports it. -/
namespace XmlView

inductive Problem where
  | invalidRegistry (message : String)
  | invalidXml (e : Markup.ParseError)
  | config (message : String) (field : Option String)
  | filesystem (path operation : String) (reason : Option String)
  | input (path : String) (reason : Option String)
  | output (path : String) (reason : Option String)
  | command (message : String)
  | general (message : String)
  | fault (f : Fault)
  | undecodable (message : String)
  deriving Inhabited

namespace Problem

def because : Option String → String
  | some r => if r.isEmpty then "" else ": " ++ r
  | none => ""

def message : Problem → String
  | .invalidRegistry m => m
  | .invalidXml e => e.message
  | .config m field =>
    match field with
    | some f =>
      if f.isEmpty then "Configuration error: " ++ m
      else "Configuration error in field '" ++ f ++ "': " ++ m
    | none => "Configuration error: " ++ m
  | .filesystem path op reason =>
    "Filesystem operation '" ++ op ++ "' failed for " ++ path ++ because reason
  | .input path reason => "Cannot read XML input " ++ path ++ because reason
  | .output path reason => "Cannot write output " ++ path ++ because reason
  | .command m => m
  | .general m => m
  | .fault f => f.message
  | .undecodable m => m

end Problem

end XmlView
