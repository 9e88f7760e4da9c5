/-! Character classes of XML 1.0 (fifth edition) as the reader uses them: document
characters, blanks, name characters, and the plain characters that the fast scans of
character data, comments and public identifiers accept. -/
namespace XmlView.Markup

/-- `Char` of the grammar: tab, line feed, carriage return and the scalar values from
`0x20` on, less the surrogates and `0xFFFE`, `0xFFFF`. -/
def isDocChar (n : Nat) : Bool :=
  n == 0x9 || n == 0xA || n == 0xD || (0x20 ≤ n && n ≤ 0xD7FF) ||
    (0xE000 ≤ n && n ≤ 0xFFFD) || (0x10000 ≤ n && n ≤ 0x10FFFF)

def isBlank (c : Char) : Bool := c == ' ' || c == '\t' || c == '\n' || c == '\r'

def isByteChar (c : Char) : Bool := c.toNat ≥ 0x20 || c == '\t' || c == '\n' || c == '\r'

def isAsciiLetter (c : Char) : Bool := ('a' ≤ c && c ≤ 'z') || ('A' ≤ c && c ≤ 'Z')

def isAsciiDigit (c : Char) : Bool := '0' ≤ c && c ≤ '9'

def isNameStart (c : Char) : Bool :=
  let n := c.toNat
  c != ' ' && c != '>' && c != '/' &&
  (isAsciiLetter c || c == '_' || c == ':' ||
    (0xC0 ≤ n && n ≤ 0xD6) || (0xD8 ≤ n && n ≤ 0xF6) || (0xF8 ≤ n && n ≤ 0x2FF) ||
    (0x370 ≤ n && n ≤ 0x37D) || (0x37F ≤ n && n ≤ 0x1FFF) || (0x200C ≤ n && n ≤ 0x200D) ||
    (0x2070 ≤ n && n ≤ 0x218F) || (0x2C00 ≤ n && n ≤ 0x2FEF) || (0x3001 ≤ n && n ≤ 0xD7FF) ||
    (0xF900 ≤ n && n ≤ 0xFDCF) || (0xFDF0 ≤ n && n ≤ 0xFFFD) || (0x10000 ≤ n && n ≤ 0xEFFFF))

def isNameChar (c : Char) : Bool :=
  let n := c.toNat
  isNameStart c || isAsciiDigit c || c == '-' || c == '.' || n == 0xB7 ||
    (0x300 ≤ n && n ≤ 0x36F) || (0x203F ≤ n && n ≤ 0x2040)

def isPlainNameChar (c : Char) : Bool :=
  isAsciiLetter c || isAsciiDigit c || c == '_' || c == '-' || c == ':' || c == '.'

def isPlainData (c : Char) : Bool :=
  c == '\t' || (0x20 ≤ c.toNat && c.toNat ≤ 0x7F && c != '<' && c != '&' && c != ']')

def isPubidChar (c : Char) : Bool :=
  c == ' ' || c == '\r' || c == '\n' || isAsciiLetter c || isAsciiDigit c ||
    "-'()+,./:=?;!*#@$_%".toList.contains c

def hexValue (c : Char) : Option Nat :=
  if isAsciiDigit c then some (c.toNat - '0'.toNat)
  else if 'a' ≤ c && c ≤ 'f' then some (c.toNat - 'a'.toNat + 10)
  else if 'A' ≤ c && c ≤ 'F' then some (c.toNat - 'A'.toNat + 10)
  else none

def spanName (first rest : Char → Bool) : List Char → List Char
  | c :: cs => if first c then c :: cs.takeWhile rest else []
  | [] => []

def utf8Width (c : Char) : Nat :=
  let n := c.toNat
  if n < 0x80 then 1 else if n < 0x800 then 2 else if n < 0x10000 then 3 else 4

end XmlView.Markup
