import XmlView.Yaml.Mark
/-! The tokens of a YAML text: indicators, the ends of indented blocks, directives,
anchors, aliases, tags and scalars, each with the marks of its start and end. -/
namespace XmlView.Yaml

/-- The value of a directive: the version of `%YAML`, the handle and prefix of `%TAG`, or
nothing for any other directive. -/
inductive Directive where
  | version (major minor : Nat)
  | tagPrefix (handle pre : String)
  | other
  deriving Inhabited

inductive TokenKind where
  | streamStart
  | streamEnd
  | directive (name : String) (value : Directive)
  | documentStart
  | documentEnd
  | blockSequenceStart
  | blockMappingStart
  | blockEnd
  | flowSequenceStart
  | flowMappingStart
  | flowSequenceEnd
  | flowMappingEnd
  | key
  | value
  | blockEntry
  | flowEntry
  | alias (name : String)
  | anchor (name : String)
  | tag (handle : Option String) (suffix : String)
  /-- A scalar: its code points, whether it was written plain, and its quote or block
  indicator otherwise. -/
  | scalar (text : List Nat) (plain : Bool) (style : Option Char)
  deriving Inhabited

structure Token where
  kind : TokenKind
  start : Mark
  stop : Mark
  deriving Inhabited

namespace TokenKind

def id : TokenKind → String
  | .streamStart => "<stream start>"
  | .streamEnd => "<stream end>"
  | .directive .. => "<directive>"
  | .documentStart => "<document start>"
  | .documentEnd => "<document end>"
  | .blockSequenceStart => "<block sequence start>"
  | .blockMappingStart => "<block mapping start>"
  | .blockEnd => "<block end>"
  | .flowSequenceStart => "["
  | .flowMappingStart => "\x7b"
  | .flowSequenceEnd => "]"
  | .flowMappingEnd => "\x7d"
  | .key => "?"
  | .value => ":"
  | .blockEntry => "-"
  | .flowEntry => ","
  | .alias _ => "<alias>"
  | .anchor _ => "<anchor>"
  | .tag .. => "<tag>"
  | .scalar .. => "<scalar>"

inductive Class where
  | streamEnd | directive | documentStart | documentEnd | blockSequenceStart
  | blockMappingStart | blockEnd | flowSequenceStart | flowMappingStart | flowSequenceEnd
  | flowMappingEnd | key | value | blockEntry | flowEntry | alias | anchor | tag | scalar
  deriving DecidableEq

def classOf : TokenKind → Option Class
  | .streamStart => none
  | .streamEnd => some .streamEnd
  | .directive .. => some .directive
  | .documentStart => some .documentStart
  | .documentEnd => some .documentEnd
  | .blockSequenceStart => some .blockSequenceStart
  | .blockMappingStart => some .blockMappingStart
  | .blockEnd => some .blockEnd
  | .flowSequenceStart => some .flowSequenceStart
  | .flowMappingStart => some .flowMappingStart
  | .flowSequenceEnd => some .flowSequenceEnd
  | .flowMappingEnd => some .flowMappingEnd
  | .key => some .key
  | .value => some .value
  | .blockEntry => some .blockEntry
  | .flowEntry => some .flowEntry
  | .alias _ => some .alias
  | .anchor _ => some .anchor
  | .tag .. => some .tag
  | .scalar .. => some .scalar

def isOneOf (k : TokenKind) (cs : List Class) : Bool :=
  match classOf k with
  | some c => cs.contains c
  | none => false

end TokenKind

def quotedId (k : TokenKind) : String := "'" ++ k.id ++ "'"

end XmlView.Yaml
