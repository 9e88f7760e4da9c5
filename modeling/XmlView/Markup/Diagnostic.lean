/-! What the reader reports about a text: diagnostics with a level, a message and the
line and column at which it stood. A text is accepted as a document only if the reader
reports nothing at all, warnings included; otherwise the diagnostics are the reason. -/
namespace XmlView.Markup

inductive Level where
  | warning
  | error
  | fatal
  deriving DecidableEq, Repr, Inhabited

def Level.name : Level → String
  | .warning => "warning"
  | .error => "error"
  | .fatal => "fatal"

structure Diagnostic where
  level : Level
  message : String
  line : Int
  column : Int
  deriving DecidableEq, Repr, Inhabited

def hexByte (b : UInt8) : String :=
  let d := "0123456789abcdef".toList
  String.ofList [d.getD (b.toNat / 16) '0', d.getD (b.toNat % 16) '0']

/-- A message given as bytes: read as UTF-8 when they are valid, and otherwise with each
byte from `0x80` on written as `\xhh`. -/
def messageOfBytes (bs : ByteArray) : String :=
  match String.fromUTF8? bs with
  | some s => s
  | none => String.join (bs.toList.map fun b =>
      if b < 0x80 then (Char.ofNat b.toNat).toString else "\\x" ++ hexByte b)

def clippedMessage (before quoted after : String) (n : Nat) : String :=
  messageOfBytes (before.toUTF8 ++ quoted.toUTF8.extract 0 n ++ after.toUTF8)

def logSize : Nat := 100

def latest (ds : List Diagnostic) : List Diagnostic := ds.drop (ds.length - logSize)

/-- Why a text was not accepted: the diagnostics, in the order they were reported. -/
structure ParseError where
  diagnostics : List Diagnostic
  deriving DecidableEq, Repr, Inhabited

def ParseError.message : ParseError → String
  | ⟨[]⟩ => "Invalid XML"
  | ⟨d :: ds⟩ =>
    "Invalid XML: " ++ d.message ++ " (line " ++ toString d.line ++ ", column " ++
      toString d.column ++ ")" ++
      (if ds.isEmpty then "" else " and " ++ toString ds.length ++ " more diagnostic(s)")

end XmlView.Markup
