import XmlView.Markup.Reader.Literal
import XmlView.Markup.Uri
/-! Start and end tags. A start tag binds its namespace declarations, then those given by
default, resolves the prefixes of its attributes, and refuses an attribute written twice. -/
namespace XmlView.Markup.Reader

/-- The namespace that the `xmlns` prefix stands for, which nothing may be bound to. -/
def xmlnsNamespace : String := "http://www.w3.org/2000/xmlns/"

structure Written where
  pre : Option String
  name : String
  value : String
  deriving Inhabited

/-- Bind a prefix on the element being read, whose first `onThis` bindings are its own; a
prefix bound twice on one element is refused, silently when a default binds it. -/
def declare (pre : Option String) (uri : String) (onThis : Nat) (byDefault : Bool) :
    ReadM Bool := do
  let r ← get
  if pre == some "xml" then return false
  if (r.bindings.take onThis).any (·.pre == pre) then
    if !byDefault then
      match pre with
      | none => fatal "Attribute xmlns redefined"
      | some p => fatal ("Attribute xmlns:" ++ p ++ " redefined")
    return false
  set { r with bindings := ⟨pre, uri⟩ :: r.bindings }
  return true

def checkDefaultDecl (uri : String) : ReadM Bool := do
  if uri.isEmpty then return true
  match Uri.classify uri with
  | none => error ("xmlns: '" ++ uri ++ "' is not a valid URI")
  | some false => warning ("xmlns: URI " ++ uri ++ " is not absolute")
  | some true => pure ()
  if uri == xmlNamespace then
    error "xml namespace URI cannot be the default namespace"
    return false
  if uri == xmlnsNamespace then
    error "reuse of the xmlns namespace name is forbidden"
    return false
  return true

def checkPrefixDecl (pre uri : String) : ReadM Bool := do
  if pre == "xml" then
    if uri != xmlNamespace then error "xml namespace prefix mapped to wrong URI"
    return false
  if uri == xmlNamespace then
    error "xml namespace URI mapped to wrong prefix"
    return false
  if pre == "xmlns" then
    error "redefinition of the xmlns prefix is forbidden"
    return false
  if uri == xmlnsNamespace then
    error "reuse of the xmlns namespace name is forbidden"
    return false
  if uri.isEmpty then
    error ("xmlns:" ++ pre ++ ": Empty XML namespace is not allowed")
    return false
  if Uri.classify uri == none then
    error ("xmlns:" ++ pre ++ ": '" ++ uri ++ "' is not a valid URI")
  return true

def folds (element attr : String) : ReadM Bool := do
  match (← get).special.find? fun s => s.element == element && s.attr == attr with
  | some s => return !s.cdata
  | none => return false

def readAttribute (element : String) : ReadM (Option (Option String × String × Option String)) := do
  match ← readQName with
  | none => fatal "error parsing attribute name"; return none
  | some (pre, name) =>
    let normalize ← folds element (qualified (pre, name))
    let _ ← skipBlanks
    if (← peek) != some '=' then
      fatal ("Specification mandates value for attribute " ++ name)
      return some (pre, name, none)
    next
    let _ ← skipBlanks
    let isNamespace := (pre.isNone && name == "xmlns") || pre == some "xmlns"
    let value ← readAttValue normalize isNamespace
    if pre == some "xml" && name == "space" then
      match value with
      | some v =>
        if v != "default" && v != "preserve" then
          warning ("Invalid value \"" ++ v ++ "\" for xml:space : \"default\" or \"preserve\" expected")
      | none => pure ()
    return some (pre, name, value)

/-- The attributes of a start tag, read up to `>` or `/>`: those kept, and how many
namespaces the tag bound. -/
def readAttributes (element : String) (acc : List Written) (count : Nat) :
    Nat → ReadM (List Written × Nat)
  | 0 => pure (acc.reverse, count)
  | fuel + 1 => do
    let k ← cursor
    let atEndOfTag := k.peek == some '>' || (k.peek == some '/' && k.peekAt 1 == some '>')
    if atEndOfTag || !(k.peek.map isByteChar).getD false || (← stopped) then
      return (acc.reverse, count)
    match ← readAttribute element with
    | none => return (acc.reverse, count)
    | some (pre, name, value) =>
      let (acc, count) ← match value with
        | none => pure (acc, count)
        | some v =>
          if pre.isNone && name == "xmlns" then do
            if ← checkDefaultDecl v then
              if ← declare none v count false then pure (acc, count + 1) else pure (acc, count)
            else pure (acc, count)
          else if pre == some "xmlns" then do
            if ← checkPrefixDecl name v then
              if ← declare (some name) v count false then pure (acc, count + 1)
              else pure (acc, count)
            else pure (acc, count)
          else pure (⟨pre, name, v⟩ :: acc, count)
      if ← stopped then return (acc.reverse, count)
      let k ← cursor
      if k.peek == some '>' || (k.peek == some '/' && k.peekAt 1 == some '>') then
        return (acc.reverse, count)
      if (← skipBlanks) == 0 then
        fatal "attributes construct error"
        return (acc.reverse, count)
      readAttributes element acc count fuel

def bindDefaults (element : String) (count : Nat) : ReadM Nat := do
  let defaults := (← get).defaults.filter (·.element == element)
  List.foldlM (fun n d => do
    if d.attr == "xmlns" then
      if ← declare none d.value n true then return n + 1 else return n
    else if d.attr.startsWith "xmlns:" then
      if ← declare (some (String.ofList (d.attr.toList.drop 6))) d.value n true then return n + 1
      else return n
    else return n) count defaults

def resolveAttr (pre : Option String) (name element : String) : ReadM (Option String × Bool) := do
  match pre with
  | none => return (none, true)
  | some "xml" => return (some xmlNamespace, true)
  | some p =>
    match ← lookupBinding pre with
    | some uri => return (some uri, true)
    | none =>
      error ("Namespace prefix " ++ p ++ " for " ++ name ++ " on " ++ element ++ " is not defined")
      return (none, false)

/-- Refuse attributes written twice: same local name and namespace. -/
def checkDuplicates : List (Attribute × Bool) → List Attribute → ReadM Unit
  | [], _ => pure ()
  | (a, bound) :: rest, seen => do
    if !bound then checkDuplicates rest seen
    else
      match seen.find? fun b => b.name == a.name && b.uri == a.uri with
      | some b =>
        if b.pre == a.pre then
          match a.pre with
          | none => fatal ("Attribute " ++ a.name ++ " redefined")
          | some p => fatal ("Attribute " ++ p ++ ":" ++ a.name ++ " redefined")
        else
          error ("Namespaced Attribute " ++ a.name ++ " in '" ++ (a.uri.getD "") ++ "' redefined")
        checkDuplicates rest seen
      | none => checkDuplicates rest (seen ++ [a])

def splitDeclared (n : String) : Option String × String :=
  match n.toList.span (· != ':') with
  | (p, ':' :: l) => if p.isEmpty || l.isEmpty then (none, n) else (some (String.ofList p), String.ofList l)
  | _ => (none, n)

def checkDefaulted (element name : String) (written : List Attribute) : ReadM Unit := do
  let defaults := (← get).defaults.filter fun d =>
    d.element == element && d.attr != "xmlns" && !d.attr.startsWith "xmlns:"
  for d in defaults do
    let (pre, lname) := splitDeclared d.attr
    let (uri, _) ← resolveAttr pre lname name
    match written.find? fun b => b.name == lname && b.uri == uri with
    | some b =>
      if b.pre != pre then
        error ("Namespaced Attribute " ++ lname ++ " in '" ++ (uri.getD "") ++ "' redefined")
    | none => pure ()

/-- Read a start tag at `<`, and open its element. The result describes the open element;
`none` when no element name follows `<`. -/
def readStartTag : ReadM (Option OpenTag) := do
  let line := (← cursor).line
  skip 1
  match ← readQName with
  | none => fatal "StartTag: invalid element name"; return none
  | some (pre, name) =>
    let element := qualified (pre, name)
    let _ ← skipBlanks
    let (written, count) ← readAttributes element [] 0 (← budget)
    let count ← bindDefaults element count
    let resolved ← written.mapM fun w => do
      let (uri, bound) ← resolveAttr w.pre w.name name
      return ((⟨w.pre, w.name, uri, w.value⟩ : Attribute), bound)
    checkDuplicates resolved []
    let attrs := resolved.map (·.1)
    checkDefaulted element name attrs
    let uri ← match pre with
      | none => do
        match ← lookupBinding none with
        | some u => pure (if u.isEmpty then none else some u)
        | none => pure none
      | some p => do
        match ← lookupBinding pre with
        | some u => pure (some u)
        | none =>
          error ("Namespace prefix " ++ p ++ " on " ++ name ++ " is not defined")
          pure none
    let decls := ((← get).bindings.take count).reverse
    openElement ⟨pre, name, uri, decls, attrs, #[]⟩
    return some ⟨pre, name, line, count⟩

def unbind (n : Nat) : ReadM Unit := modify fun r => { r with bindings := r.bindings.drop n }

def compareEndName (tag : OpenTag) : ReadM (Option String) := do
  let k ← cursor
  let written := qualified (tag.pre, tag.name)
  let quick := written.toList.isPrefixOf k.rest &&
    match k.rest.drop written.length with
    | c :: _ => c == '>' || isBlank c
    | [] => false
  if quick then
    setCursor ⟨k.rest.drop written.length, k.line, k.col + written.utf8ByteSize⟩
    return none
  match tag.pre with
  | none =>
    match ← readName with
    | some n => return if n == tag.name then none else some n
    | none => return some "unparsable"
  | some _ =>
    match ← readQName with
    | some (p, n) => return if n == tag.name && p == tag.pre then none else some n
    | none => return some "unparsable"

def readEndTag (tag : OpenTag) : ReadM Unit := do
  skip 2
  let other ← compareEndName tag
  if ← stopped then return
  let _ ← skipBlanks
  if (← peek) != some '>' then fatal "expected '>'" else skip 1
  match other with
  | some n =>
    fatal ("Opening and ending tag mismatch: " ++ tag.name ++ " line " ++ toString tag.line ++
      " and " ++ n)
  | none => pure ()
  closeElement
  unbind tag.bindings

end XmlView.Markup.Reader
