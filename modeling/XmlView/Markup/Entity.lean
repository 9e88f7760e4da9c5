import XmlView.Markup.Char
/-! Entities and their replacement text, kept as stored after declaration and read as a list
of characters, character references and entity references. -/
namespace XmlView.Markup

inductive EntityKind where
  | predefined
  | internal
  | external
  | unparsed
  deriving DecidableEq, Inhabited

structure Entity where
  name : String
  kind : EntityKind
  text : String
  deriving Inhabited

namespace Entity

def predefined (name : String) : Option Entity :=
  match name with
  | "lt" => some ⟨"lt", .predefined, "<"⟩
  | "gt" => some ⟨"gt", .predefined, ">"⟩
  | "amp" => some ⟨"amp", .predefined, "&"⟩
  | "apos" => some ⟨"apos", .predefined, "'"⟩
  | "quot" => some ⟨"quot", .predefined, "\""⟩
  | _ => none

def redeclares (pre : Entity) (text : String) : Bool :=
  let c := pre.text.toList.headD ' '
  let code := c.toNat
  let hex := "0123456789ABCDEF".toList
  let hexRef := [hex.getD (code / 16 % 16) '0', hex.getD (code % 16) '0', ';']
  let decRef := [Char.ofNat ('0'.toNat + code / 10 % 10), Char.ofNat ('0'.toNat + code % 10), ';']
  let lower (cs : List Char) := cs.map Char.toLower
  match text.toList with
  | [d] => d == c && (c == '>' || c == '\'' || c == '"')
  | '&' :: '#' :: 'x' :: '0' :: rest => lower rest == lower hexRef
  | '&' :: '#' :: 'x' :: rest => lower rest == lower hexRef
  | '&' :: '#' :: rest => rest == decRef
  | _ => false

end Entity

def refDigits (hex : Bool) : List Char → Nat → Nat → Nat × Nat × Bool
  | ';' :: _, v, n => (v, n, true)
  | c :: r, v, n =>
    let d := if hex then hexValue c else if isAsciiDigit c then some (c.toNat - '0'.toNat) else none
    match d with
    | some d => refDigits hex r (min (v * (if hex then 16 else 10) + d) 0x110000) (n + 1)
    | none => (v, n, false)
  | [], v, n => (v, n, false)

inductive Piece where
  | char (c : Char)
  /-- `&#…;` (`&#x…;` when `hex`); `closed` is false when something other than a digit
  stopped the number. -/
  | charRef (value : Nat) (hex : Bool) (closed : Bool)
  /-- `&name;`; the name is missing, or `closed` false, when the reference is malformed. -/
  | generalRef (name : Option String) (closed : Bool)
  /-- `%name;`, read only where parameter entities may be referred to. -/
  | paramRef (name : Option String) (closed : Bool)
  deriving Inhabited

def pieces (params : Bool) : List Char → List Piece
  | [] => []
  | '&' :: '#' :: 'x' :: rest =>
    let (v, n, ok) := refDigits true rest 0 0
    if ok then .charRef v true true :: pieces params (rest.drop (n + 1)) else [.charRef 0 true false]
  | '&' :: '#' :: rest =>
    let (v, n, ok) := refDigits false rest 0 0
    if ok then .charRef v false true :: pieces params (rest.drop (n + 1)) else [.charRef 0 false false]
  | '&' :: rest =>
    let name := spanName isNameStart isNameChar rest
    if name.isEmpty then [.generalRef none false]
    else match rest.drop name.length with
      | ';' :: _ => .generalRef (some (String.ofList name)) true ::
          pieces params (rest.drop (name.length + 1))
      | _ => [.generalRef (some (String.ofList name)) false]
  | '%' :: rest =>
    if params then
      let name := spanName isNameStart isNameChar rest
      if name.isEmpty then [.paramRef none false]
      else match rest.drop name.length with
        | ';' :: _ => .paramRef (some (String.ofList name)) true ::
            pieces params (rest.drop (name.length + 1))
        | _ => [.paramRef (some (String.ofList name)) false]
    else .char '%' :: pieces params rest
  | c :: rest => .char c :: pieces params rest
termination_by cs => cs.length
decreasing_by all_goals simp only [List.length_drop, List.length_cons]; omega

/-- The text an entity gives an attribute value in the tree: character references and
references to other internal entities replaced, everything else kept. An entity already
being expanded gives nothing, and so does one nested deeper than `fuel`. -/
def decodeText (general : List Entity) : Nat → List String → String → String
  | 0, _, _ => ""
  | fuel + 1, seen, text =>
    List.foldl (fun acc p =>
      match p with
      | .char c => acc.push c
      | .charRef v _ true => if isDocChar v then acc.push (Char.ofNat v) else acc
      | .generalRef (some n) true =>
        match Entity.predefined n with
        | some e => acc ++ e.text
        | none =>
          if seen.contains n then acc
          else match general.find? (·.name == n) with
            | some e =>
              if e.kind == .internal then acc ++ decodeText general fuel (n :: seen) e.text
              else acc
            | none => acc
      | _ => acc) "" (pieces false text.toList)

end XmlView.Markup
