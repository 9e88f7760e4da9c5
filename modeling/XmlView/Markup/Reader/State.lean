import XmlView.Markup.Char
import XmlView.Markup.Tree
import XmlView.Markup.Diagnostic
import XmlView.Markup.Entity
/-! The state of the document reader and its primitive moves. After the first fatal
diagnostic the reader stops building the tree but goes on reading and reporting. -/
namespace XmlView.Markup

/-- A place in a text: what is left to read, and the line and column counted so far. -/
structure Cursor where
  rest : List Char
  line : Nat
  col : Nat
  deriving Inhabited

namespace Cursor

def peek (c : Cursor) : Option Char := c.rest.head?

def peekAt (c : Cursor) (n : Nat) : Option Char := c.rest[n]?

def next (c : Cursor) : Cursor :=
  match c.rest with
  | [] => c
  | '\n' :: r => ⟨r, c.line + 1, 1⟩
  | '\r' :: '\n' :: r => ⟨r, c.line + 1, 1⟩
  | '\r' :: r => ⟨r, c.line + 1, 1⟩
  | _ :: r => ⟨r, c.line, c.col + 1⟩

def step (c : Cursor) : Cursor :=
  match c.rest with
  | [] => c
  | '\n' :: r => ⟨r, c.line + 1, 1⟩
  | _ :: r => ⟨r, c.line, c.col + 1⟩

def skip (c : Cursor) (n : Nat) : Cursor := ⟨c.rest.drop n, c.line, c.col + n⟩

def stepBytes (c : Cursor) : Cursor :=
  match c.rest with
  | [] => c
  | '\n' :: r => ⟨r, c.line + 1, 1⟩
  | ch :: r => ⟨r, c.line, c.col + utf8Width ch⟩

def skipBlanks (c : Cursor) : Nat × Cursor :=
  go c.rest c.line c.col 0
where
  go : List Char → Nat → Nat → Nat → Nat × Cursor
    | ch :: r, line, col, n =>
      if ch == '\n' then go r (line + 1) 1 (n + 1)
      else if isBlank ch then go r line (col + 1) (n + 1)
      else (n, ⟨ch :: r, line, col⟩)
    | [], line, col, n => (n, ⟨[], line, col⟩)

/-- The character at the cursor with line ends folded to a line feed: a carriage return
before a line feed is passed over. -/
def current (c : Cursor) : Option Char × Cursor :=
  match c.rest with
  | '\r' :: '\n' :: r => (some '\n', { c with rest := '\n' :: r })
  | '\r' :: _ => (some '\n', c)
  | ch :: _ => (some ch, c)
  | [] => (none, c)

def startsWith (c : Cursor) (s : String) : Bool := s.toList.isPrefixOf c.rest

end Cursor

/-- Where a text comes from: the document, or the replacement text of a general or a
parameter entity. -/
inductive Origin where
  | document
  | general (name : String)
  | parameter (name : String)
  deriving DecidableEq, Inhabited

def utf8Size (cs : List Char) : Nat := cs.foldl (fun n c => n + utf8Width c) 0

structure Source where
  cursor : Cursor
  origin : Origin
  size : Nat
  bytes : Nat
  deriving Inhabited

def Source.ofText (cs : List Char) (origin : Origin) : Source :=
  ⟨⟨cs, 1, 1⟩, origin, cs.length, utf8Size cs⟩

def Source.consumed (s : Source) : Nat := s.bytes - utf8Size s.cursor.rest

structure OpenTag where
  pre : Option String
  name : String
  line : Nat
  bindings : Nat
  deriving Inhabited

/-- An element of the tree under construction, with its children so far. -/
structure Frame where
  pre : Option String
  name : String
  uri : Option String
  decls : List Binding
  attrs : List Attribute
  children : Array Node
  deriving Inhabited

def Frame.close (f : Frame) : Node :=
  .element f.pre f.name f.uri f.decls f.attrs f.children.toList

/-- A declared attribute: the element and attribute names as written in the declaration,
and whether its type is `CDATA`; values of the other types have their spaces folded. -/
structure Special where
  element : String
  attr : String
  cdata : Bool
  deriving Inhabited

structure AttrDefault where
  element : String
  attr : String
  value : String
  deriving Inhabited

structure Reader where
  src : Source
  outer : List Source := []
  diags : Array Diagnostic := #[]
  wellFormed : Bool := true
  quiet : Bool := false
  halted : Bool := false
  errors : Nat := 0
  warnings : Nat := 0
  inSubset : Nat := 0
  hasExternalSubset : Bool := false
  hasPERefs : Bool := false
  standalone : Int := -1
  declaredEncoding : Bool := false
  general : List Entity := []
  params : List Entity := []
  expanding : List String := []
  expandingParams : List String := []
  parsed : List String := []
  checked : List String := []
  expandedSizes : List (String × Nat) := []
  sized : List String := []
  copied : Nat := 0
  special : List Special := []
  defaults : List AttrDefault := []
  elements : List String := []
  attrDecls : List (String × String) := []
  /-- For each element, the local names of its declared attributes in the order the
  declarations keep them, each with whether it is an `ID`. -/
  idLists : List (String × List (String × Bool)) := []
  bindings : List Binding := []
  nsFloor : Nat := 0
  tags : List OpenTag := []
  frames : List Frame := []
  building : Bool := true
  depth : Nat := 0
  root : Option Node := none
  deriving Inhabited

abbrev ReadM := StateM Reader

namespace Reader

def maxDepth : Nat := 2048

def maxReports : Nat := 100

def cursor : ReadM Cursor := return (← get).src.cursor

def setCursor (c : Cursor) : ReadM Unit :=
  modify fun r => { r with src := { r.src with cursor := c } }

def moveBy (f : Cursor → Cursor) : ReadM Unit :=
  modify fun r => { r with src := { r.src with cursor := f r.src.cursor } }

def peek : ReadM (Option Char) := return (← cursor).peek

def peekAt (n : Nat) : ReadM (Option Char) := return (← cursor).peekAt n

def budget : ReadM Nat := return (← get).src.size + 1

def atEnd : ReadM Bool := return (← cursor).rest.isEmpty

def isChar (c : Char) : ReadM Bool := return (← peek) == some c

def looking (s : String) : ReadM Bool := return (← cursor).startsWith s

def next : ReadM Unit := moveBy Cursor.next

def step : ReadM Unit := moveBy Cursor.step

def skip (n : Nat) : ReadM Unit := moveBy (·.skip n)

def skipBlanks : ReadM Nat := do
  let (n, c) := (← cursor).skipBlanks
  setCursor c
  return n

/-- The current character with line ends folded, committing a passed-over carriage return. -/
def current : ReadM (Option Char) := do
  let (ch, c) := (← cursor).current
  setCursor c
  return ch

def stopped : ReadM Bool := return (← get).halted

def halt : ReadM Unit := modify fun r => { r with halted := true }

def position (r : Reader) : Nat × Nat :=
  match r.outer with
  | [] => (r.src.cursor.line, r.src.cursor.col)
  | s :: _ => (s.cursor.line, s.cursor.col)

def report (level : Level) (message : String) : ReadM Unit := modify fun r =>
  if r.halted then r
  else
    let admitted := match level with
      | .warning => r.warnings < maxReports
      | _ => r.errors < maxReports || (level == .fatal && r.wellFormed)
    if !admitted then r
    else
      let (line, col) := r.position
      let r := match level with
        | .warning => { r with warnings := r.warnings + 1 }
        | _ => { r with errors := r.errors + 1 }
      let r := { r with diags := r.diags.push ⟨level, message, line, col⟩ }
      if level == .fatal then { r with wellFormed := false, quiet := true } else r

def fatal (message : String) : ReadM Unit := report .fatal message

def unregistered : String := "Unregistered error message"

def error (message : String) : ReadM Unit := report .error message

def warning (message : String) : ReadM Unit := report .warning message

def isWellFormed : ReadM Bool := return (← get).wellFormed

/-! ### Expansion of entities -/

def expansionAllowance : Nat := 1000000

def amplification : Nat := 5

def referenceCost : Nat := 20

def expandedSize (name : String) : ReadM Nat :=
  return (((← get).expandedSizes.find? (·.1 == name)).map (·.2)).getD 0

def setExpandedSize (name : String) (n : Nat) : ReadM Unit := modify fun r =>
  { r with expandedSizes := (name, n) :: r.expandedSizes.filter (·.1 != name) }

def isSized (name : String) : ReadM Bool := return (← get).sized.contains name

def markSized (name : String) : ReadM Unit := modify fun r =>
  if r.sized.contains name then r else { r with sized := name :: r.sized }

/-- Charge a reference that expands to `extra` bytes to the text being read: to the entity
whose replacement text it is, unless that entity's size is final, or else to the document.
The document is refused once the charge passes the allowance and is more than
`amplification` times the bytes read of that text. -/
def chargeExpansion (extra : Nat) : ReadM Unit := do
  let r ← get
  let total? ← match r.src.origin with
    | .document =>
      let t := r.copied + extra + referenceCost
      set { r with copied := t }
      pure (some t)
    | .general n =>
      if r.sized.contains n then pure none
      else
        let t := (← expandedSize n) + extra + referenceCost
        setExpandedSize n t
        pure (some t)
    | .parameter _ => pure none
  if let some t := total? then
    if t > expansionAllowance && t / amplification > r.src.consumed then
      fatal ("Maximum entity amplification factor exceeded, see " ++
        "xmlCtxtSetMaxAmplification.")
      halt

/-! ### Building the tree -/

def appendChild (n : Node) (f : Frame) : Frame :=
  let children := f.children
  let f := { f with children := #[] }
  match n, children.back? with
  | .text s, some (.text t) => { f with children := children.pop.push (.text (t ++ s)) }
  | _, _ => { f with children := children.push n }

/-- Add a child to the element under construction, merging adjacent text. -/
def addChild (n : Node) : ReadM Unit := modify fun r =>
  if r.quiet || !r.building then r
  else
    let frames := r.frames
    let r := { r with frames := [] }
    match frames with
    | f :: fs => { r with frames := appendChild n f :: fs }
    | [] => r

def characters (s : String) : ReadM Unit :=
  if s.isEmpty then pure () else addChild (.text s)

/-- Open an element in the tree; past the deepest nesting the reader stops. -/
def openElement (f : Frame) : ReadM Unit := do
  let r ← get
  if r.quiet then return
  if r.depth ≥ maxDepth then
    fatal ("Excessive depth in document: " ++ toString maxDepth ++
      ", use XML_PARSE_HUGE option")
    halt
  else
    set { r with depth := r.depth + 1,
                 frames := if r.building then f :: r.frames else r.frames }

def closeElement : ReadM Unit := modify fun r =>
  if r.quiet then r
  else
    let r := { r with depth := r.depth - 1 }
    if !r.building then r
    else
      let frames := r.frames
      let r := { r with frames := [] }
      match frames with
      | f :: g :: fs => { r with frames := appendChild f.close g :: fs }
      | [f] => { r with root := some f.close }
      | [] => r

/-! ### Sources -/

def pushSource (s : Source) : ReadM Unit :=
  modify fun r => { r with src := s, outer := r.src :: r.outer }

def popSource : ReadM Unit := modify fun r =>
  match r.outer with
  | s :: ss => { r with src := s, outer := ss }
  | [] => r

/-! ### Namespaces -/

def xmlNamespace : String := "http://www.w3.org/XML/1998/namespace"

/-- The URI a prefix is bound to in scope; `xml` is always bound. -/
def lookupBinding (pre : Option String) : ReadM (Option String) := do
  let r ← get
  if pre == some "xml" then return some xmlNamespace
  let visible := r.bindings.take (r.bindings.length - r.nsFloor)
  return (visible.find? (·.pre == pre)).map (·.uri)

end Reader

end XmlView.Markup
