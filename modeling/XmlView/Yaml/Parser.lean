import XmlView.Yaml.Scanner
/-! The events of a YAML text, read from its tokens by a machine whose state is the step
it takes next and a stack of steps to return to. -/
namespace XmlView.Yaml

inductive EventKind where
  | streamStart
  | streamEnd
  | documentStart (explicit : Bool)
  | documentEnd (explicit : Bool)
  | alias (anchor : String)
  /-- A scalar; `plainImplicit` when its tag may be read off a plain value, `quotedImplicit`
  when it is a string for lack of a tag. -/
  | scalar (anchor tag : Option String) (plainImplicit quotedImplicit : Bool) (value : List Nat)
  | sequenceStart (anchor tag : Option String)
  | sequenceEnd
  | mappingStart (anchor tag : Option String)
  | mappingEnd
  deriving Inhabited

structure Event where
  kind : EventKind
  start : Mark
  stop : Mark
  deriving Inhabited

namespace Event

def anchor? (e : Event) : Option String :=
  match e.kind with
  | .scalar a .. | .sequenceStart a _ | .mappingStart a _ => a
  | _ => none

def isSequenceEnd (e : Event) : Bool := match e.kind with | .sequenceEnd => true | _ => false

def isMappingEnd (e : Event) : Bool := match e.kind with | .mappingEnd => true | _ => false

def isStreamEnd (e : Event) : Bool := match e.kind with | .streamEnd => true | _ => false

end Event

inductive Step where
  | streamStart
  | implicitDocumentStart
  | documentStart
  | documentEnd
  | documentContent
  | blockNode
  | blockSequenceFirstEntry
  | blockSequenceEntry
  | indentlessSequenceEntry
  | blockMappingFirstKey
  | blockMappingKey
  | blockMappingValue
  | flowSequenceFirstEntry
  | flowSequenceEntry
  | flowSequenceEntryMappingKey
  | flowSequenceEntryMappingValue
  | flowSequenceEntryMappingEnd
  | flowMappingFirstKey
  | flowMappingKey
  | flowMappingValue
  | flowMappingEmptyValue
  deriving Inhabited

structure Parser where
  scanner : Scanner
  current : Option Event := none
  step : Option Step := some .streamStart
  steps : List Step := []
  marks : List Mark := []
  tagHandles : List (String × String) := []
  yamlVersion : Option (Nat × Nat) := none
  deriving Inhabited

abbrev ParseM := StateT Parser (Except Failure)

def defaultTagHandles : List (String × String) := [("!", "!"), ("!!", "tag:yaml.org,2002:")]

namespace Parser

def scan (x : ScanM α) : ParseM α := fun p => do
  let (a, s) ← x.run p.scanner
  return (a, { p with scanner := s })

def peekTok : ParseM Token := do
  return (← scan Scanner.peekToken).getD default

def nextTok : ParseM Token := do
  return (← scan Scanner.getToken).getD default

def check (cs : List TokenKind.Class) : ParseM Bool := scan (Scanner.checkToken cs)

def fail (context : Option String) (contextMark : Option Mark) (problem : String) (m : Mark) :
    ParseM α := do
  let e : MarkedError := {
    context := context
    contextMark := contextMark
    problem := problem
    problemMark := some m }
  throw (.marked e)

def goTo (st : Step) : ParseM Unit := modify fun p => { p with step := some st }

def pushStep (st : Step) : ParseM Unit := modify fun p => { p with steps := st :: p.steps }

def popStep : ParseM Unit := modify fun p =>
  match p.steps with
  | st :: rest => { p with step := some st, steps := rest }
  | [] => { p with step := none }

def pushMark (m : Mark) : ParseM Unit := modify fun p => { p with marks := m :: p.marks }

def popMark : ParseM Unit := modify fun p => { p with marks := p.marks.drop 1 }

def topMark : ParseM Mark := do return (← get).marks.headD default

def emptyScalar (m : Mark) : Event := ⟨.scalar none none true false [], m, m⟩

def streamStart : ParseM Event := do
  let t ← nextTok
  goTo .implicitDocumentStart
  return ⟨.streamStart, t.start, t.stop⟩

def processDirectives : ParseM Unit := do
  modify fun p => { p with yamlVersion := none, tagHandles := [] }
  let bound ← scan Scanner.fuel
  for _ in [0:bound] do
    if !(← check [.directive]) then break
    let t ← nextTok
    match t.kind with
    | .directive "YAML" (.version major minor) =>
      if (← get).yamlVersion.isSome then
        fail none none "found duplicate YAML directive" t.start
      if major != 1 then
        fail none none "found incompatible YAML document (version 1.* is required)" t.start
      modify fun p => { p with yamlVersion := some (major, minor) }
    | .directive "TAG" (.tagPrefix handle pre) =>
      if ((← get).tagHandles.lookup handle).isSome then
        fail none none ("duplicate tag handle " ++ (Text.ofString handle).literal) t.start
      modify fun p => { p with tagHandles := p.tagHandles ++ [(handle, pre)] }
    | _ => pure ()
  modify fun p => { p with tagHandles := p.tagHandles ++
    defaultTagHandles.filter fun (h, _) => (p.tagHandles.lookup h).isNone }

def documentStart : ParseM Event := do
  let bound ← scan Scanner.fuel
  for _ in [0:bound] do
    if !(← check [.documentEnd]) then break
    let _ ← nextTok
  if !(← check [.streamEnd]) then
    let startMark := (← peekTok).start
    processDirectives
    if !(← check [.documentStart]) then
      let t ← peekTok
      fail none none ("expected '<document start>', but found " ++ quotedId t.kind) t.start
    let t ← nextTok
    pushStep .documentEnd
    goTo .documentContent
    return ⟨.documentStart true, startMark, t.stop⟩
  else
    let t ← nextTok
    modify fun p => { p with step := none }
    return ⟨.streamEnd, t.start, t.stop⟩

def node (block indentlessSequence : Bool) : ParseM Event := do
  if ← check [.alias] then
    let t ← nextTok
    popStep
    match t.kind with
    | .alias name => return ⟨.alias name, t.start, t.stop⟩
    | _ => return ⟨.alias "", t.start, t.stop⟩
  let mut anchor : Option String := none
  let mut tag : Option (Option String × String) := none
  let mut startMark : Option Mark := none
  let mut endMark : Option Mark := none
  let mut tagMark : Option Mark := none
  if ← check [.anchor] then
    let t ← nextTok
    startMark := some t.start
    endMark := some t.stop
    if let .anchor a := t.kind then anchor := some a
    if ← check [.tag] then
      let t ← nextTok
      tagMark := some t.start
      endMark := some t.stop
      if let .tag h s := t.kind then tag := some (h, s)
  else if ← check [.tag] then
    let t ← nextTok
    startMark := some t.start
    tagMark := some t.start
    endMark := some t.stop
    if let .tag h s := t.kind then tag := some (h, s)
    if ← check [.anchor] then
      let t ← nextTok
      endMark := some t.stop
      if let .anchor a := t.kind then anchor := some a
  let mut resolved : Option String := none
  if let some (handle, suffix) := tag then
    match handle with
    | some h =>
      match (← get).tagHandles.lookup h with
      | some pre => resolved := some (pre ++ suffix)
      | none =>
        fail (some "while parsing a node") startMark
          ("found undefined tag handle " ++ (Text.ofString h).literal) (tagMark.getD default)
    | none => resolved := some suffix
  let here := (← peekTok).start
  let first := startMark.getD here
  let last := endMark.getD here
  let implicit := resolved.isNone || resolved == some "!"
  if indentlessSequence && (← check [.blockEntry]) then
    goTo .indentlessSequenceEntry
    return ⟨.sequenceStart anchor resolved, first, (← peekTok).stop⟩
  let t ← peekTok
  match t.kind with
  | .scalar value plain _ =>
    let _ ← nextTok
    let (plainImplicit, quotedImplicit) :=
      if (plain && resolved.isNone) || resolved == some "!" then (true, false)
      else if resolved.isNone then (false, true)
      else (false, false)
    popStep
    return ⟨.scalar anchor resolved plainImplicit quotedImplicit value, first, t.stop⟩
  | .flowSequenceStart =>
    goTo .flowSequenceFirstEntry
    return ⟨.sequenceStart anchor resolved, first, t.stop⟩
  | .flowMappingStart =>
    goTo .flowMappingFirstKey
    return ⟨.mappingStart anchor resolved, first, t.stop⟩
  | .blockSequenceStart =>
    if block then
      goTo .blockSequenceFirstEntry
      return ⟨.sequenceStart anchor resolved, first, t.start⟩
    emptyOrFail t first last anchor resolved implicit
  | .blockMappingStart =>
    if block then
      goTo .blockMappingFirstKey
      return ⟨.mappingStart anchor resolved, first, t.start⟩
    emptyOrFail t first last anchor resolved implicit
  | _ => emptyOrFail t first last anchor resolved implicit
where
  emptyOrFail (t : Token) (startMark endMark : Mark) (anchor resolved : Option String)
      (implicit : Bool) : ParseM Event := do
    if anchor.isSome || resolved.isSome then
      popStep
      return ⟨.scalar anchor resolved implicit false [], startMark, endMark⟩
    fail (some ("while parsing a " ++ (if block then "block" else "flow") ++ " node")) (some startMark)
      ("expected the node content, but found " ++ quotedId t.kind) t.start

def implicitDocumentStart : ParseM Event := do
  if !(← check [.directive, .documentStart, .streamEnd]) then
    modify fun p => { p with tagHandles := defaultTagHandles }
    let t ← peekTok
    pushStep .documentEnd
    goTo .blockNode
    return ⟨.documentStart false, t.start, t.start⟩
  documentStart

def documentEnd : ParseM Event := do
  let t ← peekTok
  let startMark := t.start
  let mut endMark := t.start
  let mut explicit := false
  if ← check [.documentEnd] then
    let t ← nextTok
    endMark := t.stop
    explicit := true
  goTo .documentStart
  return ⟨.documentEnd explicit, startMark, endMark⟩

def documentContent : ParseM Event := do
  if ← check [.directive, .documentStart, .documentEnd, .streamEnd] then
    let e := emptyScalar (← peekTok).start
    popStep
    return e
  node true false

def blockSequenceEntry : ParseM Event := do
  if ← check [.blockEntry] then
    let t ← nextTok
    if !(← check [.blockEntry, .blockEnd]) then
      pushStep .blockSequenceEntry
      return ← node true false
    goTo .blockSequenceEntry
    return emptyScalar t.stop
  if !(← check [.blockEnd]) then
    let t ← peekTok
    fail (some "while parsing a block collection") (some (← topMark))
      ("expected <block end>, but found " ++ quotedId t.kind) t.start
  let t ← nextTok
  popStep
  popMark
  return ⟨.sequenceEnd, t.start, t.stop⟩

def indentlessSequenceEntry : ParseM Event := do
  if ← check [.blockEntry] then
    let t ← nextTok
    if !(← check [.blockEntry, .key, .value, .blockEnd]) then
      pushStep .indentlessSequenceEntry
      return ← node true false
    goTo .indentlessSequenceEntry
    return emptyScalar t.stop
  let t ← peekTok
  popStep
  return ⟨.sequenceEnd, t.start, t.start⟩

def blockMappingKey : ParseM Event := do
  if ← check [.key] then
    let t ← nextTok
    if !(← check [.key, .value, .blockEnd]) then
      pushStep .blockMappingValue
      return ← node true true
    goTo .blockMappingValue
    return emptyScalar t.stop
  if !(← check [.blockEnd]) then
    let t ← peekTok
    fail (some "while parsing a block mapping") (some (← topMark))
      ("expected <block end>, but found " ++ quotedId t.kind) t.start
  let t ← nextTok
  popStep
  popMark
  return ⟨.mappingEnd, t.start, t.stop⟩

def blockMappingValue : ParseM Event := do
  if ← check [.value] then
    let t ← nextTok
    if !(← check [.key, .value, .blockEnd]) then
      pushStep .blockMappingKey
      return ← node true true
    goTo .blockMappingKey
    return emptyScalar t.stop
  goTo .blockMappingKey
  return emptyScalar (← peekTok).start

def flowSequenceEntry (first : Bool) : ParseM Event := do
  if !(← check [.flowSequenceEnd]) then
    if !first then
      if ← check [.flowEntry] then
        let _ ← nextTok
      else
        let t ← peekTok
        fail (some "while parsing a flow sequence") (some (← topMark))
          ("expected ',' or ']', but got " ++ quotedId t.kind) t.start
    if ← check [.key] then
      let t ← peekTok
      goTo .flowSequenceEntryMappingKey
      return ⟨.mappingStart none none, t.start, t.stop⟩
    if !(← check [.flowSequenceEnd]) then
      pushStep .flowSequenceEntry
      return ← node false false
  let t ← nextTok
  popStep
  popMark
  return ⟨.sequenceEnd, t.start, t.stop⟩

def flowSequenceEntryMappingKey : ParseM Event := do
  let t ← nextTok
  if !(← check [.value, .flowEntry, .flowSequenceEnd]) then
    pushStep .flowSequenceEntryMappingValue
    return ← node false false
  goTo .flowSequenceEntryMappingValue
  return emptyScalar t.stop

def flowSequenceEntryMappingValue : ParseM Event := do
  if ← check [.value] then
    let t ← nextTok
    if !(← check [.flowEntry, .flowSequenceEnd]) then
      pushStep .flowSequenceEntryMappingEnd
      return ← node false false
    goTo .flowSequenceEntryMappingEnd
    return emptyScalar t.stop
  goTo .flowSequenceEntryMappingEnd
  return emptyScalar (← peekTok).start

def flowSequenceEntryMappingEnd : ParseM Event := do
  goTo .flowSequenceEntry
  let t ← peekTok
  return ⟨.mappingEnd, t.start, t.start⟩

def flowMappingKey (first : Bool) : ParseM Event := do
  if !(← check [.flowMappingEnd]) then
    if !first then
      if ← check [.flowEntry] then
        let _ ← nextTok
      else
        let t ← peekTok
        fail (some "while parsing a flow mapping") (some (← topMark))
          ("expected ',' or '\x7d', but got " ++ quotedId t.kind) t.start
    if ← check [.key] then
      let t ← nextTok
      if !(← check [.value, .flowEntry, .flowMappingEnd]) then
        pushStep .flowMappingValue
        return ← node false false
      goTo .flowMappingValue
      return emptyScalar t.stop
    if !(← check [.flowMappingEnd]) then
      pushStep .flowMappingEmptyValue
      return ← node false false
  let t ← nextTok
  popStep
  popMark
  return ⟨.mappingEnd, t.start, t.stop⟩

def flowMappingValue : ParseM Event := do
  if ← check [.value] then
    let t ← nextTok
    if !(← check [.flowEntry, .flowMappingEnd]) then
      pushStep .flowMappingKey
      return ← node false false
    goTo .flowMappingKey
    return emptyScalar t.stop
  goTo .flowMappingKey
  return emptyScalar (← peekTok).start

def flowMappingEmptyValue : ParseM Event := do
  goTo .flowMappingKey
  return emptyScalar (← peekTok).start

def opening : ParseM Unit := do
  let t ← nextTok
  pushMark t.start

def run : Step → ParseM Event
  | .streamStart => streamStart
  | .implicitDocumentStart => implicitDocumentStart
  | .documentStart => documentStart
  | .documentEnd => documentEnd
  | .documentContent => documentContent
  | .blockNode => node true false
  | .blockSequenceFirstEntry => do opening; blockSequenceEntry
  | .blockSequenceEntry => blockSequenceEntry
  | .indentlessSequenceEntry => indentlessSequenceEntry
  | .blockMappingFirstKey => do opening; blockMappingKey
  | .blockMappingKey => blockMappingKey
  | .blockMappingValue => blockMappingValue
  | .flowSequenceFirstEntry => do opening; flowSequenceEntry true
  | .flowSequenceEntry => flowSequenceEntry false
  | .flowSequenceEntryMappingKey => flowSequenceEntryMappingKey
  | .flowSequenceEntryMappingValue => flowSequenceEntryMappingValue
  | .flowSequenceEntryMappingEnd => flowSequenceEntryMappingEnd
  | .flowMappingFirstKey => do opening; flowMappingKey true
  | .flowMappingKey => flowMappingKey false
  | .flowMappingValue => flowMappingValue
  | .flowMappingEmptyValue => flowMappingEmptyValue

def peekEvent : ParseM (Option Event) := do
  let p ← get
  match p.current with
  | some e => return some e
  | none =>
    match p.step with
    | some st =>
      let e ← run st
      modify fun p => { p with current := some e }
      return some e
    | none => return none

def getEvent : ParseM (Option Event) := do
  let e ← peekEvent
  modify fun p => { p with current := none }
  return e

end Parser

end XmlView.Yaml
