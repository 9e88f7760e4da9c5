import XmlView.Json.Basic
import XmlView.Decimal.Nearest
/-! Reading JSON text. Strings may hold `\u` escapes of unpaired surrogates, which are
kept as such; an escaped pair becomes the one character it encodes. A number with a
fraction or an exponent is read as the nearest double, any other as an integer. The names
`NaN`, `Infinity` and `-Infinity` stand for the doubles of those names. -/
namespace XmlView.Json

def skipWs : List Char → List Char
  | c :: cs => if c == ' ' || c == '\t' || c == '\n' || c == '\r' then skipWs cs else c :: cs
  | [] => []

def hexDigit (c : Char) : Option Nat :=
  if '0' ≤ c && c ≤ '9' then some (c.toNat - '0'.toNat)
  else if 'a' ≤ c && c ≤ 'f' then some (c.toNat - 'a'.toNat + 10)
  else if 'A' ≤ c && c ≤ 'F' then some (c.toNat - 'A'.toNat + 10)
  else none

def hex4 (a b c d : Char) : Option Nat :=
  match hexDigit a, hexDigit b, hexDigit c, hexDigit d with
  | some w, some x, some y, some z => some (((w * 16 + x) * 16 + y) * 16 + z)
  | _, _, _, _ => none

/-- The code point of a high surrogate `u` followed by the escape `rest`: the pair's
character when `rest` opens with the escape of a low surrogate, which is then consumed. -/
def pairWith (u : Nat) : List Char → Nat × List Char
  | '\\' :: 'u' :: a :: b :: c :: d :: more =>
    match hex4 a b c d with
    | some l =>
      if 0xDC00 ≤ l && l < 0xE000 then (0x10000 + (u - 0xD800) * 1024 + (l - 0xDC00), more)
      else (u, '\\' :: 'u' :: a :: b :: c :: d :: more)
    | none => (u, '\\' :: 'u' :: a :: b :: c :: d :: more)
  | rest => (u, rest)

theorem pairWith_length_le (u : Nat) (cs : List Char) : (pairWith u cs).2.length ≤ cs.length := by
  unfold pairWith
  split
  · split
    · split
      · -- the pair's four hex digits and the escape before them are consumed
        simp only [List.length_cons]
        omega
      · exact Nat.le_refl _
    · exact Nat.le_refl _
  · exact Nat.le_refl _

def readString (acc : Array Nat) : List Char → Option (Text × List Char)
  | [] => none
  | '"' :: rest => some (⟨acc.toList⟩, rest)
  | '\\' :: 'u' :: a :: b :: c :: d :: rest =>
    match hex4 a b c d with
    | none => none
    | some u =>
      if 0xD800 ≤ u && u < 0xDC00 then
        have := pairWith_length_le u rest
        readString (acc.push (pairWith u rest).1) (pairWith u rest).2
      else readString (acc.push u) rest
  | '\\' :: c :: rest =>
    match escaped c with
    | some v => readString (acc.push v) rest
    | none => none
  | c :: rest => if c.toNat < 0x20 then none else readString (acc.push c.toNat) rest
termination_by cs => cs.length
decreasing_by all_goals simp_all <;> omega
where
  escaped (c : Char) : Option Nat :=
    match c with
    | '"' => some 34
    | '\\' => some 92
    | '/' => some 47
    | 'b' => some 8
    | 'f' => some 12
    | 'n' => some 10
    | 'r' => some 13
    | 't' => some 9
    | _ => none

def readNumber (cs : List Char) : Option (Json × List Char) :=
  let (negative, cs) := match cs with
    | '-' :: rest => (true, rest)
    | _ => (false, cs)
  let intPart := cs.takeWhile Char.isDigit
  let cs := cs.drop intPart.length
  if intPart.isEmpty || (intPart.length > 1 && intPart.head? == some '0') then none
  else
    let (frac, cs) := match cs with
      | '.' :: rest =>
        let f := rest.takeWhile Char.isDigit
        (some f, rest.drop f.length)
      | _ => (none, cs)
    let (expo, cs) := match cs with
      | e :: rest =>
        if e == 'e' || e == 'E' then
          let (sign, rest) := match rest with
            | '-' :: r => (-1, r)
            | '+' :: r => (1, r)
            | r => ((1 : Int), r)
          let d := rest.takeWhile Char.isDigit
          (some (sign, d), rest.drop d.length)
        else (none, cs)
      | [] => (none, cs)
    let digitsValue := fun (ds : List Char) => ds.foldl (fun n c => n * 10 + (c.toNat - '0'.toNat)) 0
    match frac, expo with
    | none, none =>
      let n : Int := digitsValue intPart
      some (.int (if negative then -n else n), cs)
    | some f, _ =>
      if f.isEmpty then none
      else
        match expo with
        | some (_, []) => none
        | _ =>
          let e : Int := match expo with
            | some (s, d) => s * (digitsValue d : Int)
            | none => 0
          some (.float (Decimal.nearest negative (digitsValue (intPart ++ f)) (e - f.length)), cs)
    | none, some (s, d) =>
      if d.isEmpty then none
      else some (.float (Decimal.nearest negative (digitsValue intPart) (s * (digitsValue d : Int))), cs)

mutual
def readValue : Nat → List Char → Option (Json × List Char)
  | 0, _ => none
  | fuel + 1, cs =>
    match skipWs cs with
    | '{' :: rest => readMembers fuel [] true (skipWs rest)
    | '[' :: rest => readItems fuel [] true (skipWs rest)
    | '"' :: rest => (readString #[] rest).map fun (t, r) => (.str t, r)
    | 't' :: 'r' :: 'u' :: 'e' :: rest => some (.bool true, rest)
    | 'f' :: 'a' :: 'l' :: 's' :: 'e' :: rest => some (.bool false, rest)
    | 'n' :: 'u' :: 'l' :: 'l' :: rest => some (.null, rest)
    | 'N' :: 'a' :: 'N' :: rest => some (.float (0.0 / 0.0), rest)
    | 'I' :: 'n' :: 'f' :: 'i' :: 'n' :: 'i' :: 't' :: 'y' :: rest => some (.float (1.0 / 0.0), rest)
    | '-' :: 'I' :: 'n' :: 'f' :: 'i' :: 'n' :: 'i' :: 't' :: 'y' :: rest =>
      some (.float (-1.0 / 0.0), rest)
    | cs => readNumber cs

def readItems : Nat → List Json → Bool → List Char → Option (Json × List Char)
  | 0, _, _, _ => none
  | _, acc, true, ']' :: rest => some (.arr acc.reverse, rest)
  | fuel + 1, acc, first, cs =>
    let cs := if first then cs else match skipWs cs with
      | ',' :: r => r
      | _ => []
    if !first && cs.isEmpty then none
    else
      match readValue fuel cs with
      | none => none
      | some (v, rest) =>
        match skipWs rest with
        | ']' :: r => some (.arr (v :: acc).reverse, r)
        | ',' :: r => readItems fuel (v :: acc) false (',' :: r)
        | _ => none

def readMembers : Nat → List (Text × Json) → Bool → List Char → Option (Json × List Char)
  | 0, _, _, _ => none
  | _, acc, true, '}' :: rest => some (.obj acc.reverse, rest)
  | fuel + 1, acc, first, cs =>
    let cs := if first then cs else match skipWs cs with
      | ',' :: r => skipWs r
      | _ => []
    match cs with
    | '"' :: rest =>
      match readString #[] rest with
      | none => none
      | some (k, rest) =>
        match skipWs rest with
        | ':' :: rest =>
          match readValue fuel rest with
          | none => none
          | some (v, rest) =>
            match skipWs rest with
            | '}' :: r => some (.obj ((k, v) :: acc).reverse, r)
            | ',' :: r => readMembers fuel ((k, v) :: acc) false (',' :: r)
            | _ => none
        | _ => none
    | _ => none
end

def parse (s : String) : Option Json :=
  let cs := s.toList
  match readValue (cs.length + 1) cs with
  | some (j, rest) => if (skipWs rest).isEmpty then some j else none
  | none => none

end XmlView.Json
