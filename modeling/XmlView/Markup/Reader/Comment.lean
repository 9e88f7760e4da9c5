import XmlView.Markup.Reader.Name
/-! Comments and processing instructions: a quick scan over plain characters hands over to
a checking scan; both refuse `--` inside a comment. -/
namespace XmlView.Markup.Reader

def isPlainComment (c : Char) : Bool :=
  c == '\t' || (0x20 ≤ c.toNat && c.toNat ≤ 0x7F && c != '-')

def commentRest (buf : String) : ReadM Unit := do
  match ← current with
  | none => fatal "Comment not terminated"
  | some q =>
    if !isDocChar q.toNat then
      fatal ("xmlParseComment: invalid xmlChar value " ++ toString q.toNat); return
    step
    match ← current with
    | none => fatal "Comment not terminated"
    | some r =>
      if !isDocChar r.toNat then
        fatal ("xmlParseComment: invalid xmlChar value " ++ toString r.toNat); return
      step
      match ← current with
      | none => fatal "Comment not terminated"
      | some c =>
        let (buf, last) ← loop q r c buf (← budget)
        if ← stopped then return
        match last with
        | none => report .fatal (clippedMessage "Comment not terminated \n<!--" buf "" 50)
        | some c =>
          if !isDocChar c.toNat then
            fatal ("xmlParseComment: invalid xmlChar value " ++ toString c.toNat)
          else
            next
            addChild (.comment buf)
where
  loop (q r c : Char) (buf : String) : Nat → ReadM (String × Option Char)
    | 0 => pure (buf, some c)
    | fuel + 1 => do
      if !isDocChar c.toNat || (c == '>' && r == '-' && q == '-') then return (buf, some c)
      if q == '-' && r == '-' then fatal "Comment must not contain '--' (double-hyphen)"
      step
      match ← current with
      | none => return (buf.push q, none)
      | some d => loop r c d (buf.push q) fuel

def readComment : ReadM Unit := do
  skip 4
  fast "" (← budget)
where
  fast (buf : String) : Nat → ReadM Unit
    | 0 => commentRest buf
    | fuel + 1 => do
      let k ← cursor
      match k.rest with
      | '\n' :: _ => next; fast (buf.push '\n') fuel
      | '\r' :: '\n' :: _ => next; fast (buf.push '\n') fuel
      | '-' :: '-' :: '>' :: _ => skip 3; addChild (.comment buf)
      | '-' :: '-' :: _ =>
        if buf.isEmpty then fatal "Double hyphen within comment"
        else report .fatal (clippedMessage "Double hyphen within comment: <!--" buf "" 50)
        if ← stopped then return
        skip 2
        fast (buf ++ "--") fuel
      | '-' :: _ => skip 1; fast (buf.push '-') fuel
      | c :: _ =>
        if isPlainComment c then skip 1; fast (buf.push c) fuel
        else commentRest buf
      | [] => commentRest buf

/-- The target of a processing instruction; names that start with `xml` in any case are
reserved, apart from a few that stylesheets and schemas use. -/
def readTarget : ReadM (Option String) := do
  match ← readName with
  | none => return none
  | some n =>
    let lower := n.toList.map Char.toLower
    if lower.take 3 == ['x', 'm', 'l'] then
      if n == "xml" then
        fatal "XML declaration allowed only at the start of the document"
        return some n
      if n.length == 3 then
        fatal "Invalid PI name"
        return some n
      if n != "xml-stylesheet" && n != "xml-model" then
        warning "xmlParsePITarget: invalid name prefix 'xml'"
    if n.toList.contains ':' then
      error ("colons are forbidden from PI names '" ++ n ++ "'")
    return some n

def readInstruction : ReadM Unit := do
  skip 2
  match ← readTarget with
  | none => fatal "xmlParsePI : no target name"
  | some target =>
    if ← looking "?>" then
      skip 2
      addChild (.instruction target "")
      return
    if (← skipBlanks) == 0 then
      fatal ("ParsePI: PI " ++ target ++ " space expected")
    let (buf, closed) ← loop "" (← budget)
    if ← stopped then return
    if !closed then fatal ("ParsePI: PI " ++ target ++ " never end ...")
    else
      skip 2
      addChild (.instruction target buf)
where
  loop (buf : String) : Nat → ReadM (String × Bool)
    | 0 => pure (buf, false)
    | fuel + 1 => do
      match ← current with
      | none => return (buf, false)
      | some c =>
        if !isDocChar c.toNat then return (buf, false)
        if c == '?' && (← peekAt 1) == some '>' then return (buf, true)
        step
        loop (buf.push c) fuel

end XmlView.Markup.Reader
