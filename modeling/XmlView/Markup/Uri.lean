import XmlView.Markup.Char
/-! URI references as a namespace declaration checks them (RFC 3986, read by a scanner that
never backs up): whether a text is one at all, and whether it names a scheme. -/
namespace XmlView.Markup.Uri

def isHex (c : Char) : Bool := isAsciiDigit c || ('a' ≤ c && c ≤ 'f') || ('A' ≤ c && c ≤ 'F')

def isUnreserved (c : Char) : Bool :=
  isAsciiLetter c || isAsciiDigit c || c == '-' || c == '.' || c == '_' || c == '~'

def isSubDelim (c : Char) : Bool := "!$&'()*+,;=".toList.contains c

def isPathChar (c : Char) : Bool := isUnreserved c || isSubDelim c || c == ':' || c == '@'

def skip (ok : Char → Bool) : List Char → List Char
  | '%' :: a :: b :: rest =>
    if isHex a && isHex b then skip ok rest else '%' :: a :: b :: rest
  | c :: rest => if ok c then skip ok rest else c :: rest
  | [] => []

def path (cs : List Char) : List Char := skip (fun c => isPathChar c || c == '/') cs

/-- The digits of a port: at least one, worth at most `2 ^ 31 - 1`. -/
def port (cs : List Char) : Option (List Char) :=
  let digits := cs.takeWhile isAsciiDigit
  let value := digits.foldl (fun n d => 10 * n + (d.toNat - '0'.toNat)) 0
  if digits.isEmpty || value ≥ Nat.pow 2 31 then none else some (cs.drop digits.length)

def host : List Char → Option (List Char)
  | '[' :: rest =>
    match rest.dropWhile (· != ']') with
    | ']' :: after => some after
    | _ => none
  | cs => some (skip (fun c => isUnreserved c || isSubDelim c) cs)

def authority (cs : List Char) : Option (List Char) :=
  let start := match skip (fun c => isUnreserved c || isSubDelim c || c == ':') cs with
    | '@' :: after => after
    | _ => cs
  match host start with
  | some (':' :: rest) => port rest
  | r => r

def tailOk (cs : List Char) : Bool :=
  let cs := match cs with
    | '?' :: rest => skip (fun c => isPathChar c || c == '/' || c == '?') rest
    | _ => cs
  match cs with
  | '#' :: rest =>
    (skip (fun c => isPathChar c || c == '/' || c == '?' || c == '[' || c == ']') rest).isEmpty
  | _ => cs.isEmpty

def pathAfterAuthority : List Char → List Char
  | '/' :: rest => path ('/' :: rest)
  | cs => cs

def hierOk : List Char → Bool
  | '/' :: '/' :: rest =>
    match authority rest with
    | some after => tailOk (pathAfterAuthority after)
    | none => false
  | cs => tailOk (path cs)

def relativeOk : List Char → Bool
  | '/' :: rest => hierOk ('/' :: rest)
  | cs => tailOk (pathAfterAuthority (skip (fun c => isPathChar c && c != ':') cs))

def schemeLength : List Char → Option Nat
  | c :: rest =>
    if isAsciiLetter c then
      let n := (rest.takeWhile fun d => isAsciiLetter d || isAsciiDigit d || d == '+' ||
        d == '-' || d == '.').length
      match rest.drop n with
      | ':' :: _ => some (n + 1)
      | _ => none
    else none
  | [] => none

/-- What a text is as a URI reference: `none` if it is none, else whether it names a
scheme. A text that starts like a scheme but does not go on as a URI is read again as a
relative reference. -/
def classify (s : String) : Option Bool :=
  let cs := s.toList
  let absolute := match schemeLength cs with
    | some n => hierOk (cs.drop (n + 1))
    | none => false
  if absolute then some true else if relativeOk cs then some false else none

end XmlView.Markup.Uri
