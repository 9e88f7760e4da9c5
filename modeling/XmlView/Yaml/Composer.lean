import XmlView.Yaml.Parser
import XmlView.Yaml.Resolver
/-! The node graph of a YAML text: scalars, sequences and mappings, each with its tag. An
alias stands for its anchor's node; inside that node's own collection it is a `cycle`. -/
namespace XmlView.Yaml

inductive Node where
  | scalar (tag : String) (value : List Nat) (start : Mark)
  | sequence (tag : String) (items : List Node) (start : Mark)
  | mapping (tag : String) (pairs : List (Node × Node)) (start : Mark)
  /-- An alias inside the collection its anchor names: the collection, a mapping or a
  sequence with this tag that starts at `start`, holds itself here. -/
  | cycle (tag : String) (isMapping : Bool) (start : Mark)
  deriving Inhabited

namespace Node

def tag : Node → String
  | .scalar t .. | .sequence t .. | .mapping t .. | .cycle t .. => t

def start : Node → Mark
  | .scalar _ _ m | .sequence _ _ m | .mapping _ _ m | .cycle _ _ m => m

def kindName : Node → String
  | .scalar .. => "scalar"
  | .sequence .. => "sequence"
  | .mapping .. => "mapping"
  | .cycle _ isMapping _ => if isMapping then "mapping" else "sequence"

def withTag (n : Node) (t : String) : Node :=
  match n with
  | .scalar _ v m => .scalar t v m
  | .sequence _ v m => .sequence t v m
  | .mapping _ v m => .mapping t v m
  | .cycle _ k m => .cycle t k m

end Node

/-- What an anchor names: its node when complete, else the collection being read, by its
tag and kind; and where it was set. -/
structure Anchored where
  name : String
  node : Option Node
  pending : String × Bool := ("", false)
  start : Mark

structure Composer where
  parser : Parser
  anchors : List Anchored := []
  deriving Inhabited

abbrev ComposeM := StateT Composer (Except Failure)

instance : Inhabited Anchored := ⟨⟨"", none, ("", false), default⟩⟩

namespace Composer

def parse (x : ParseM α) : ComposeM α := fun c => do
  let (a, p) ← x.run c.parser
  return (a, { c with parser := p })

def peekEvent : ComposeM Event := do return (← parse Parser.peekEvent).getD default

def getEvent : ComposeM Event := do return (← parse Parser.getEvent).getD default

def fail (context : Option String) (contextMark : Option Mark) (problem : String) (m : Mark) :
    ComposeM α := do
  let e : MarkedError := {
    context := context
    contextMark := contextMark
    problem := problem
    problemMark := some m }
  throw (.marked e)

def setAnchor (name : Option String) (node : Option Node) (start : Mark)
    (pending : String × Bool) : ComposeM Unit :=
  match name with
  | some a => modify fun c =>
    { c with anchors := (c.anchors.filter (·.name != a)) ++ [⟨a, node, pending, start⟩] }
  | none => pure ()

def bound : ComposeM Nat := do
  let s := (← get).parser.scanner
  return 4 * (s.buf.size + 2 - s.pos) + 8

def scalarTag (tag : Option String) (plainImplicit : Bool) (value : List Nat) : String :=
  match tag with
  | some t =>
    if t != "!" then t
    else if plainImplicit then resolvePlain (value.filterMap Text.charOf?)
    else tagPrefix ++ "str"
  | none =>
    if plainImplicit then resolvePlain (value.filterMap Text.charOf?) else tagPrefix ++ "str"

def collectionTag (tag : Option String) (default : String) : String :=
  match tag with
  | some t => if t != "!" then t else default
  | none => default

def node : Nat → ComposeM Node
  | 0 => pure default
  | fuel + 1 => do
    let e ← peekEvent
    if let .alias name := e.kind then
      let _ ← getEvent
      match (← get).anchors.find? (·.name == name) with
      | some a => return a.node.getD (.cycle a.pending.1 a.pending.2 a.start)
      | none => fail none none ("found undefined alias " ++ (Text.ofString name).literal) e.start
    if let some a := e.anchor? then
      if let some first := (← get).anchors.find? (·.name == a) then
        fail (some ("found duplicate anchor " ++ (Text.ofString a).literal ++ "; first occurrence"))
          (some first.start) "second occurrence" e.start
    match e.kind with
    | .scalar anchor tag plainImplicit _ value =>
      let _ ← getEvent
      let n := Node.scalar (scalarTag tag plainImplicit value) value e.start
      setAnchor anchor (some n) e.start ("", false)
      return n
    | .sequenceStart anchor tag =>
      let _ ← getEvent
      setAnchor anchor none e.start (collectionTag tag (tagPrefix ++ "seq"), false)
      let mut items : Array Node := #[]
      for _ in [0:(← bound)] do
        if (← peekEvent).isSequenceEnd then break
        items := items.push (← node fuel)
      let _ ← getEvent
      let n := Node.sequence (collectionTag tag (tagPrefix ++ "seq")) items.toList e.start
      setAnchor anchor (some n) e.start ("", false)
      return n
    | .mappingStart anchor tag =>
      let _ ← getEvent
      setAnchor anchor none e.start (collectionTag tag (tagPrefix ++ "map"), true)
      let mut pairs : Array (Node × Node) := #[]
      for _ in [0:(← bound)] do
        if (← peekEvent).isMappingEnd then break
        let k ← node fuel
        let v ← node fuel
        pairs := pairs.push (k, v)
      let _ ← getEvent
      let n := Node.mapping (collectionTag tag (tagPrefix ++ "map")) pairs.toList e.start
      setAnchor anchor (some n) e.start ("", false)
      return n
    | _ =>
      let _ ← getEvent
      return default

def singleNode : ComposeM (Option Node) := do
  let _ ← getEvent
  let mut document : Option Node := none
  if !(← peekEvent).isStreamEnd then
    let _ ← getEvent
    let n ← node (← bound)
    let _ ← getEvent
    modify fun c => { c with anchors := [] }
    document := some n
  if !(← peekEvent).isStreamEnd then
    let e ← getEvent
    fail (some "expected a single document in the stream") (document.map Node.start)
      "but found another document" e.start
  let _ ← getEvent
  return document

end Composer

end XmlView.Yaml
