import XmlView.Markup.Reader.Tag
import XmlView.Markup.Reader.Comment
/-! The content of elements. Nesting is kept on a stack of open tags, so one loop reads a
whole element; recursion happens only at the first reference to an internal entity, whose
replacement text is read as content in its own right and charged for its expansion. -/
namespace XmlView.Markup.Reader

/-- Read character data up to the next `<` or `&`. Line ends become line feeds; `]]>` and
characters that are not allowed in a document are refused. -/
def readCharData : ReadM Unit := do
  let text ← loop "" (← budget)
  characters text
where
  loop (acc : String) : Nat → ReadM String
    | 0 => pure acc
    | fuel + 1 => do
      let k ← cursor
      match k.rest with
      | [] => return acc
      | '<' :: _ | '&' :: _ => return acc
      | ']' :: ']' :: '>' :: _ =>
        fatal "Sequence ']]>' not allowed in content"
        step
        loop (acc.push ']') fuel
      | '\r' :: '\n' :: _ => moveBy fun k => { k with rest := k.rest.drop 1 }; loop acc fuel
      | '\r' :: _ => step; loop (acc.push '\n') fuel
      | c :: _ =>
        if isDocChar c.toNat then
          step
          loop (acc.push c) fuel
        else
          characters acc
          fatal ("PCDATA invalid Char value " ++ toString c.toNat)
          step
          return ""

/-- Read a CDATA section at `<![CDATA[`; its text joins the character data around it. A
section that ends before two characters of it are read gets the diagnostic that has no text
of its own. -/
def readCData : ReadM Unit := do
  skip 9
  match ← current with
  | none => fatal unregistered
  | some r =>
    if !isDocChar r.toNat then fatal unregistered; return
    step
    match ← current with
    | none => fatal unregistered
    | some s =>
      if !isDocChar s.toNat then fatal unregistered; return
      step
      let (buf, last) ← loop r s "" (← budget)
      if last == some '>' then
        step
        characters buf
      else report .fatal (clippedMessage "CData section not finished\n" buf "" 50)
where
  loop (r s : Char) (buf : String) : Nat → ReadM (String × Option Char)
    | 0 => pure (buf, none)
    | fuel + 1 => do
      match ← current with
      | none => return (buf, none)
      | some c =>
        if !isDocChar c.toNat then return (buf, some c)
        if r == ']' && s == ']' && c == '>' then return (buf, some c)
        step
        loop s c (buf.push r) fuel

/-- What a reference in content asks of the reader after it has been read. -/
inductive Referral where
  | done
  | expand (e : Entity)
  | again (e : Entity)
  | note (name : String)

def readReference : ReadM Referral := do
  if (← peekAt 1) == some '#' then
    let v ← readCharRef
    if v != 0 then characters (Char.ofNat v).toString
    return .done
  match ← readEntityRefName with
  | none => return .done
  | some name =>
    match ← lookupGeneral name false with
    | none => return .note name
    | some e =>
      if !(← isWellFormed) then return .done
      if e.kind == .predefined then
        characters e.text
        return .done
      let r ← get
      if e.kind != .internal then return .note name
      if r.parsed.contains name then return .again e
      if r.expanding.contains name then
        fatal "Detected an entity reference loop"
        halt
        return .done
      return .expand e

def noteReference (name : String) : ReadM Unit := addChild (.reference name)

def pushTag (t : OpenTag) : ReadM Unit := modify fun r => { r with tags := t :: r.tags }

def popTag : ReadM Unit := modify fun r => { r with tags := r.tags.drop 1 }

inductive Opening where
  | failed
  | empty
  | opened

def startElement : ReadM Opening := do
  let depth := (← get).tags.length
  if depth > maxDepth then
    fatal ("Excessive depth in document: " ++ toString depth ++ " use XML_PARSE_HUGE option")
    halt
    return .failed
  match ← readStartTag with
  | none => return .failed
  | some tag =>
    pushTag tag
    if ← looking "/>" then
      skip 2
      closeElement
      popTag
      unbind tag.bindings
      return .empty
    if (← peek) == some '>' then
      skip 1
      return .opened
    fatal ("Couldn't find end of Start Tag " ++ tag.name ++ " line " ++ toString tag.line)
    modify fun r => { r with depth := r.depth - 1, frames := if r.building then r.frames.drop 1 else r.frames }
    popTag
    unbind tag.bindings
    return .failed

def endElement : ReadM Unit := do
  match (← get).tags with
  | t :: _ =>
    readEndTag t
    popTag
  | [] => pure ()

def closeOpen (floor depth : Nat) : ReadM Unit := do
  let r ← get
  if r.tags.length > floor && (← atEnd) && r.wellFormed then
    match r.tags with
    | t :: _ => fatal ("Premature end of data in tag " ++ t.name ++ " line " ++ toString t.line)
    | [] => pure ()
  let r ← get
  let above := r.tags.take (r.tags.length - floor)
  let n := above.foldl (fun n t => n + t.bindings) 0
  set { r with tags := r.tags.drop above.length, bindings := r.bindings.drop n,
               depth := min r.depth depth }

def enterEntity (e : Entity) : ReadM (Bool × Nat) := do
  let r ← get
  let saved := (r.building, r.nsFloor)
  pushSource (Source.ofText e.text.toList (.general e.name))
  modify fun r => { r with expanding := e.name :: r.expanding, building := false,
                           tags := ⟨none, "#root", 0, 0⟩ :: r.tags,
                           nsFloor := r.bindings.length }
  let r ← get
  if r.depth ≥ maxDepth then
    fatal ("Excessive depth in document: " ++ toString maxDepth ++ ", use XML_PARSE_HUGE option")
    halt
  else set { r with depth := r.depth + 1 }
  return saved

/-- Finish reading the replacement text of an entity. Unless its size was already final,
the entity's own bytes are added to what it expands to, and the size becomes final. -/
def leaveEntity (e : Entity) (saved : Bool × Nat) : ReadM Unit := do
  if !(← atEnd) then fatal "chunk is not well balanced"
  modify fun r => { r with
    depth := r.depth - 1, tags := r.tags.drop 1, building := saved.1, nsFloor := saved.2,
    expanding := r.expanding.erase e.name, parsed := e.name :: r.parsed }
  if !(← isSized e.name) then
    setExpandedSize e.name ((← expandedSize e.name) + (← get).src.bytes)
    markSized e.name
  popSource

def contentLoop (floor : Nat) : Nat → ReadM Unit
  | 0 => pure ()
  | fuel + 1 => do
    if ← stopped then return
    let k ← cursor
    match k.rest with
    | [] => return
    | '<' :: '?' :: _ => readInstruction; contentLoop floor fuel
    | '<' :: '!' :: '[' :: 'C' :: 'D' :: 'A' :: 'T' :: 'A' :: '[' :: _ =>
      readCData; contentLoop floor fuel
    | '<' :: '!' :: '-' :: '-' :: _ => readComment; contentLoop floor fuel
    | '<' :: '/' :: _ =>
      if (← get).tags.length ≤ floor then return
      endElement
      contentLoop floor fuel
    | '<' :: _ => let _ ← startElement; contentLoop floor fuel
    | '&' :: _ =>
      match ← readReference with
      | .done => pure ()
      | .note name => noteReference name
      | .again e =>
        chargeExpansion (← expandedSize e.name)
        noteReference e.name
      | .expand e =>
        if (← get).outer.length + 1 ≥ entityDepthLimit then
          fatal "Maximum entity nesting depth exceeded"
          halt
        else
          let saved ← enterEntity e
          let depth := (← get).depth
          let inner := (← get).tags.length
          contentLoop inner fuel
          closeOpen inner depth
          leaveEntity e saved
          chargeExpansion (← expandedSize e.name)
          noteReference e.name
      contentLoop floor fuel
    | _ => readCharData; contentLoop floor fuel

def readContent (fuel : Nat) : ReadM Unit := do
  let floor := (← get).tags.length
  let depth := (← get).depth
  contentLoop floor fuel
  closeOpen floor depth
  if ← atEnd then
    let r ← get
    if r.wellFormed then
      match r.tags with
      | t :: _ => fatal ("Premature end of data in tag " ++ t.name ++ " line " ++ toString t.line)
      | [] => pure ()
    return
  endElement

def readElement (fuel : Nat) : ReadM Unit := do
  match ← startElement with
  | .opened => readContent fuel
  | _ => pure ()

end XmlView.Markup.Reader
