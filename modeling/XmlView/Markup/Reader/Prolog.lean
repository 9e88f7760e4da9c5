import XmlView.Markup.Reader.Subset
/-! The prolog and the document as a whole: an optional XML declaration, then comments,
processing instructions and a document type declaration, the root element, and only
comments, processing instructions and blanks after it. -/
namespace XmlView.Markup.Reader

def quoted (body : ReadM (Option String)) : ReadM (Option String) := do
  match ← peek with
  | some q =>
    if q == '"' || q == '\'' then
      next
      let v ← body
      if (← peek) != some q then fatal "String not closed expecting \" or '"
      else next
      return v
    else
      fatal "String not started expecting ' or \""
      return none
  | none =>
    fatal "String not started expecting ' or \""
    return none

def readEq : ReadM Bool := do
  let _ ← skipBlanks
  if (← peek) != some '=' then
    fatal "expected '='"
    return false
  next
  let _ ← skipBlanks
  return true

def readVersionNum : ReadM (Option String) := do
  let k ← cursor
  match k.rest with
  | d :: '.' :: rest =>
    if !isAsciiDigit d then return none
    let digits := rest.takeWhile isAsciiDigit
    skip (2 + digits.length)
    return some (String.ofList (d :: '.' :: digits))
  | d :: _ =>
    if isAsciiDigit d then next
    return none
  | [] => return none

def readVersionInfo : ReadM (Option String) := do
  if !(← looking "version") then return none
  skip 7
  if !(← readEq) then return none
  quoted readVersionNum

def readEncName : ReadM (Option String) := do
  let k ← cursor
  match k.rest with
  | c :: rest =>
    if isAsciiLetter c then
      let more := rest.takeWhile fun d =>
        isAsciiLetter d || isAsciiDigit d || d == '.' || d == '_' || d == '-'
      skip (1 + more.length)
      return some (String.ofList (c :: more))
    fatal "Invalid XML encoding name"
    return none
  | [] =>
    fatal "Invalid XML encoding name"
    return none

def readEncodingDecl : ReadM Unit := do
  let _ ← skipBlanks
  if !(← looking "encoding") then return
  skip 8
  if !(← readEq) then return
  let q ← peek
  if q == some '"' || q == some '\'' then
    next
    let name ← readEncName
    if (← peek) != q then
      fatal "String not closed expecting \" or '"
      return
    next
    if name.isSome then modify fun r => { r with declaredEncoding := true }
  else fatal "String not started expecting ' or \""

/-- `standalone = "yes"|"no"`, if present: `1`, `0`, or `-2` when absent or malformed. -/
def readSDDecl : ReadM Int := do
  let _ ← skipBlanks
  if !(← looking "standalone") then return -2
  skip 10
  let _ ← skipBlanks
  if (← peek) != some '=' then
    fatal "expected '='"
    return -2
  next
  let _ ← skipBlanks
  match ← peek with
  | some q =>
    if q == '"' || q == '\'' then
      next
      let mut value : Int := -2
      if ← looking "no" then
        skip 2
        value := 0
      else if ← looking "yes" then
        skip 3
        value := 1
      else fatal "standalone accepts only 'yes' or 'no'"
      if (← peek) != some q then fatal "String not closed expecting \" or '"
      else next
      return value
    fatal "String not started expecting ' or \""
    return -2
  | none =>
    fatal "String not started expecting ' or \""
    return -2

def readXmlDecl : ReadM Unit := do
  modify fun r => { r with standalone := -2 }
  skip 5
  if !((← peek).map isBlank).getD false then fatal "Blank needed after '<?xml'"
  let _ ← skipBlanks
  match ← readVersionInfo with
  | none => fatal "Malformed declaration expecting version"
  | some v =>
    if v != "1.0" then
      if v.startsWith "1." then warning ("Unsupported version '" ++ v ++ "'")
      else fatal ("Unsupported version '" ++ v ++ "'")
  if !((← peek).map isBlank).getD false then
    if ← looking "?>" then skip 2; return
    fatal "Blank needed here"
  readEncodingDecl
  if (← get).declaredEncoding && !((← peek).map isBlank).getD false then
    if ← looking "?>" then skip 2; return
    fatal "Blank needed here"
  let _ ← skipBlanks
  let sd ← readSDDecl
  modify fun r => { r with standalone := sd }
  let _ ← skipBlanks
  if ← looking "?>" then skip 2
  else if (← peek) == some '>' then
    fatal "parsing XML declaration: '?>' expected"
    next
  else
    fatal "parsing XML declaration: '?>' expected"
    skipPast (← budget)
where
  skipPast : Nat → ReadM Unit
    | 0 => pure ()
    | fuel + 1 => do
      if ← stopped then return
      match ← peek with
      | none => pure ()
      | some c =>
        next
        if c != '>' then skipPast fuel

def readMisc : Nat → ReadM Unit
  | 0 => pure ()
  | fuel + 1 => do
    if ← stopped then return
    let _ ← skipBlanks
    if ← looking "<?" then readInstruction; readMisc fuel
    else if ← looking "<!--" then readComment; readMisc fuel
    else pure ()

def readDocument : ReadM Unit := do
  let size := (← cursor).rest.length
  if size == 0 then
    fatal "Document is empty"
    return
  let k ← cursor
  match k.rest with
  | '<' :: '?' :: 'x' :: 'm' :: 'l' :: c :: _ =>
    if isBlank c then
      readXmlDecl
      let _ ← skipBlanks
  | _ => pure ()
  readMisc (size + 1)
  if ← looking "<!DOCTYPE" then
    readDoctype
    if ← stopped then return
    readMisc (size + 1)
  if (← peek) != some '<' then
    if ← isWellFormed then fatal "Start tag expected, '<' not found"
    return
  readElement (2 * size + 64)
  readMisc (size + 1)
  if !(← atEnd) then
    if ← isWellFormed then fatal "Extra content at the end of the document"

end XmlView.Markup.Reader
