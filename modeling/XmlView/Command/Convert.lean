import XmlView.Command.Console
import XmlView.Config.Load
import XmlView.Conversion.Visit
import XmlView.Json.OfValue
/-! Converting one XML file with the converters of a configuration file and writing the tree
as JSON. A tree whose root is no element ends the command with code 2; a failing step ends
it with code 1 after one error line naming the kind of failure. -/
namespace XmlView.Command

open Conversion Files

/-- How the JSON text is laid out: on one line, with a unit of indentation repeated for
each level, or with a unit of a type that cannot be repeated, named here, which fails. -/
inductive Layout where
  | oneLine
  | indented (unit : List Nat)
  | unrepeatable (typeName : String)
  deriving Inhabited

/-- What to convert and how. -/
structure Options where
  configPath : String
  xmlPath : String
  output : Option String := none
  indent : Layout := .indented [32, 32]
  verbosity : Int := 0
  /-- Whether standard output takes bytes, so that what is written there must be UTF-8;
  otherwise it takes text as it is. -/
  encodedOutput : Bool := false
  /-- Whether the status writer replaces emoji codes, as it does unless it is set not to. -/
  emoji : Bool := true
  deriving Inhabited

/-- What a command did: its exit code and what it wrote. -/
structure Report where
  exit : Nat
  console : Console

/-- Why a conversion stopped. -/
inductive Stop where
  | problem (p : Problem)
  | noTree

/-- The JSON text of a tree. A unit of indentation that cannot be repeated fails before
anything of the tree is written. -/
def treeText (tree : Descriptor) : Layout → Except Fault Text
  | .unrepeatable name =>
    .error (.wrongType ("can't multiply sequence by non-int of type '" ++ name ++ "'"))
  | .oneLine => (Json.ofValue tree.asValue).map (Json.write { indent := none, asciiOnly := false })
  | .indented u =>
    (Json.ofValue tree.asValue).map (Json.write { indent := some u, asciiOnly := false })

def readXml (path : String) (read : Except OsError (List UInt8)) : Except Problem Text :=
  match read with
  | .error e =>
    .error (.input path (some (if e.kind == .notFound then "File not found" else e.message)))
  | .ok bytes =>
    match Text.decodeUtf8 bytes with
    | .ok t => .ok ⟨Text.unifyLineEnds t.points⟩
    | .error _ => .error (.input path (some "File is not valid UTF-8"))

variable {m : Type → Type} [Monad m] [FileSystem m]

abbrev Steps (m : Type → Type) := ExceptT Stop (StateT Console m)

def say (f : Console → Console) : Steps m Unit := modify f

def check (r : Except Problem α) : Steps m α :=
  match r with
  | .ok a => pure a
  | .error p => throw (.problem p)

def encodingHint : String :=
  "*** You may need to add PYTHONIOENCODING=utf-8 to your environment ***"

def makeParents (path : String) : Steps m Unit := do
  let dir := Disk.dirName path
  if !dir.isEmpty then
    match ← (FileSystem.makeDirs dir : m _) with
    | .ok () => pure ()
    | .error e => throw (.problem (.output path (some e.message)))

def openOutput (path : String) : Steps m Unit := do
  makeParents path
  match ← (FileSystem.create path : m _) with
  | .ok () => pure ()
  | .error e => throw (.problem (.output path (some e.message)))

def writeFile (path : String) (text : Text) : Steps m Unit :=
  match text.encode with
  | .ok s => (FileSystem.append path (s ++ "\n").toUTF8.toList : m Unit)
  | .error f => throw (.problem (.general f.message))

/-- Show text on standard output; one that takes bytes refuses text that is not UTF-8. -/
def showData (o : Options) (text : Text) : Steps m Unit :=
  match o.encodedOutput, Text.firstFault 0 (onTerminal text.points) with
  | true, some f => throw (.problem (.general (f.message ++ "\n" ++ encodingHint)))
  | _, _ => say (·.data text)

def wroteNote (path : String) : String := "Wrote element tree to " ++ path

def writeTree (o : Options) (text : Text) : Steps m Unit :=
  match o.output with
  | none => showData o text
  | some path => do
    openOutput path
    writeFile path text
    say (·.success (wroteNote path))

def loadRegistry (o : Options) : Steps m (Registry (Except Fault)) := do
  let config ← check (← (Config.load o.configPath : m _))
  check (Registry.make (Config.offer config : Offer (Except Fault)))

def readNote (o : Options) (xml : Text) : String :=
  "Read " ++ toString xml.length ++ " characters from " ++ o.xmlPath

def readInput (o : Options) : Steps m Text := do
  let xml ← check (readXml o.xmlPath (← (FileSystem.read o.xmlPath : m _)))
  say (·.debug (readNote o xml))
  return xml

def convertInput (reg : Registry (Except Fault)) (xml : Text) : Steps m Descriptor := do
  let outcome ← check ((convert reg (.str xml) .none).mapError Problem.fault)
  say fun c => outcome.warnings.foldl Console.record c
  match outcome.tree with
  | .element .. => return outcome.tree
  | _ => throw .noTree

def skippedNote (o : Options) (n : Nat) : String :=
  toString n ++ " node(s) in " ++ o.xmlPath ++ " had no converter and were left out"

def showCounts (o : Options) (tree : Descriptor) : Steps m Unit := do
  let counts := Summary.ofDescriptor tree
  if counts.skipped > 0 then
    say (·.warning (skippedNote o counts.skipped))
  say (·.summary counts)

def steps (o : Options) : Steps m Unit := do
  let reg ← loadRegistry o
  let xml ← readInput o
  let tree ← convertInput reg xml
  let text ← check ((treeText tree o.indent).mapError Problem.fault)
  writeTree o text
  showCounts o tree

def report (o : Options) (s : Stop) (c : Console) : Nat × Console :=
  match s with
  | .noTree =>
    (2, (c.record ("No element tree produced for " ++ o.xmlPath)).error ("Could not convert " ++
      o.xmlPath ++ ": invalid XML or no converter for the root element"))
  | .problem p =>
    let m := p.message
    match p with
    | .config .. | .invalidRegistry _ =>
      (1, (c.record ("Configuration error: " ++ m)).error ("Configuration error: " ++ m))
    | .filesystem .. => (1, (c.record ("Filesystem error: " ++ m)).error m)
    | .input .. | .output .. | .command _ =>
      (1, (c.record ("CLI error: " ++ m)).error ("Error: " ++ m))
    | _ => (1, (c.record "Unexpected error during conversion").error ("Unexpected error: " ++ m))

def runAfter (o : Options) (console : Console) : m Report := do
  let (r, c) ← (steps o).run.run console
  match r with
  | .ok () => return ⟨0, c⟩
  | .error s =>
    let (code, c) := report o s c
    return ⟨code, c⟩

def run (o : Options) : m Report := runAfter o { verbosity := o.verbosity, emoji := o.emoji }

end XmlView.Command
