import XmlView.Yaml.Mark
/-! The tag a plain scalar gets from its text by the YAML 1.1 forms, written with pattern
combinators that give every rest of the input a pattern can leave. -/
namespace XmlView.Yaml

/-- A pattern: the rests it can leave of an input. -/
abbrev Pattern := List Char → List (List Char)

namespace Pattern

def char (p : Char → Bool) : Pattern
  | c :: rest => if p c then [rest] else []
  | [] => []

def lit (s : String) : Pattern := fun cs =>
  if s.toList.isPrefixOf cs then [cs.drop s.length] else []

def empty : Pattern := fun cs => [cs]

def seq (a b : Pattern) : Pattern := fun cs => (a cs).flatMap b

def alt (a b : Pattern) : Pattern := fun cs => a cs ++ b cs

def opt (a : Pattern) : Pattern := alt a empty

def star (a : Pattern) : Pattern := fun cs =>
  let rec go : Nat → List Char → List (List Char)
    | 0, cs => [cs]
    | fuel + 1, cs => cs :: ((a cs).filter (·.length < cs.length)).flatMap (go fuel)
  go (cs.length + 1) cs

def plus (a : Pattern) : Pattern := seq a (star a)

def all (ps : List Pattern) : Pattern := ps.foldr seq empty

def any (ps : List Pattern) : Pattern := ps.foldr alt (fun _ => [])

def full (p : Pattern) (cs : List Char) : Bool := (p cs).any List.isEmpty

end Pattern

open Pattern

def isDigit (c : Char) : Bool := '0' ≤ c && c ≤ '9'

def digit : Pattern := char isDigit

def digitOrUnderscore : Pattern := char fun c => isDigit c || c == '_'

def sign : Pattern := opt (char fun c => c == '-' || c == '+')

def exponent : Pattern :=
  all [char (fun c => c == 'e' || c == 'E'), char (fun c => c == '-' || c == '+'), plus digit]

def sexagesimal : Pattern :=
  plus (all [char (· == ':'), opt (char fun c => '0' ≤ c && c ≤ '5'), digit])

def boolForm (cs : List Char) : Bool :=
  ["yes", "Yes", "YES", "no", "No", "NO", "true", "True", "TRUE", "false", "False", "FALSE",
    "on", "On", "ON", "off", "Off", "OFF"].contains (String.ofList cs)

def floatForm : Pattern := any [
  all [sign, digit, star digitOrUnderscore, char (· == '.'), star digitOrUnderscore, opt exponent],
  all [char (· == '.'), digit, star digitOrUnderscore, opt exponent],
  all [sign, digit, star digitOrUnderscore, sexagesimal, char (· == '.'), star digitOrUnderscore],
  all [sign, char (· == '.'), any [lit "inf", lit "Inf", lit "INF"]],
  all [char (· == '.'), any [lit "nan", lit "NaN", lit "NAN"]]]

def intForm : Pattern := any [
  all [sign, lit "0b", plus (char fun c => c == '0' || c == '1' || c == '_')],
  all [sign, char (· == '0'), plus (char fun c => ('0' ≤ c && c ≤ '7') || c == '_')],
  all [sign, alt (char (· == '0')) (all [char (fun c => '1' ≤ c && c ≤ '9'), star digitOrUnderscore])],
  all [sign, lit "0x", plus (char fun c => isDigit c || ('a' ≤ c && c ≤ 'f') || ('A' ≤ c && c ≤ 'F') || c == '_')],
  all [sign, char (fun c => '1' ≤ c && c ≤ '9'), star digitOrUnderscore, sexagesimal]]

def nullForm (cs : List Char) : Bool := ["~", "null", "Null", "NULL", ""].contains (String.ofList cs)

def blanks : Pattern := plus (char fun c => c == ' ' || c == '\t')

def oneOrTwoDigits : Pattern := seq digit (opt digit)

def timestampForm : Pattern := any [
  all [digit, digit, digit, digit, char (· == '-'), digit, digit, char (· == '-'), digit, digit],
  all [digit, digit, digit, digit, char (· == '-'), oneOrTwoDigits, char (· == '-'), oneOrTwoDigits,
    alt (char fun c => c == 'T' || c == 't') blanks,
    oneOrTwoDigits, char (· == ':'), digit, digit, char (· == ':'), digit, digit,
    opt (seq (char (· == '.')) (star digit)),
    opt (all [star (char fun c => c == ' ' || c == '\t'),
      alt (char (· == 'Z'))
        (all [char (fun c => c == '-' || c == '+'), oneOrTwoDigits,
          opt (all [char (· == ':'), digit, digit])])])]]

def tagPrefix : String := "tag:yaml.org,2002:"

/-- The tag of a plain scalar: the empty text is null; otherwise the forms its first
character allows are tried in the order truth value, double, integer, merge, null,
timestamp and value, and the first that fits the whole text wins. -/
def resolvePlain (cs : List Char) : String :=
  match cs with
  | [] => tagPrefix ++ "null"
  | c :: _ =>
    let tries : List (String × (List Char → Bool)) :=
      (if "yYnNtTfFoO".toList.contains c then [("bool", boolForm)] else []) ++
      (if "-+0123456789.".toList.contains c then [("float", full floatForm)] else []) ++
      (if "-+0123456789".toList.contains c then [("int", full intForm)] else []) ++
      (if c == '<' then [("merge", fun cs => cs == ['<', '<'])] else []) ++
      (if "~nN".toList.contains c then [("null", nullForm)] else []) ++
      (if isDigit c then [("timestamp", full timestampForm)] else []) ++
      (if c == '=' then [("value", fun cs => cs == ['='])] else [])
    match tries.find? (fun (_, test) => test cs) with
    | some (name, _) => tagPrefix ++ name
    | none => tagPrefix ++ "str"

end XmlView.Yaml
