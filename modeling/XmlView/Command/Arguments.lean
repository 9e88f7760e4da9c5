import XmlView.Command.Convert
import XmlView.Value.Number
/-! The command line: one XML file, `--config`/`-c` (required), `--output`/`-o`, `--indent`,
`--logdir`, `--verbosity`/`-v`, `--no-color` and `--version`/`-V`. The version option is
honoured before anything but the form of the line is checked. -/
namespace XmlView.Command

/-- What the command line asks for. -/
inductive Request where
  | version
  | convert (o : Options) (logDir : Option String)
  | usage (message : String)
  deriving Inhabited

def valued : List (String × String) :=
  [("--config", "config"), ("-c", "config"), ("--output", "output"), ("-o", "output"),
    ("--indent", "indent"), ("--logdir", "logdir"), ("--verbosity", "verbosity"),
    ("-v", "verbosity")]

def flags : List (String × String) :=
  [("--no-color", "no-color"), ("--version", "version"), ("-V", "version")]

/-- What reading the arguments gathers: options by field, the last value winning, and
positional arguments. -/
structure Gathered where
  values : List (String × String) := []
  seen : List String := []
  positional : List String := []

namespace Gathered

def setValue (g : Gathered) (field value : String) : Gathered :=
  { g with values := (g.values.filter (·.1 != field)) ++ [(field, value)] }

def setFlag (g : Gathered) (field : String) : Gathered := { g with seen := g.seen ++ [field] }

def value? (g : Gathered) (field : String) : Option String :=
  (g.values.find? (·.1 == field)).map (·.2)

end Gathered

def shortGroup (g : Gathered) (chars : List Char) (rest : List String) :
    Except String (Gathered × List String) :=
  let rec go : List Char → Gathered → List String → Except String (Gathered × List String)
    | [], g, rest => .ok (g, rest)
    | c :: more, g, rest =>
      let name := String.ofList ['-', c]
      match valued.lookup name with
      | some field =>
        if !more.isEmpty then .ok (g.setValue field (String.ofList more), rest)
        else
          match rest with
          | v :: rest => .ok (g.setValue field v, rest)
          | [] => .error ("Option '" ++ name ++ "' requires an argument.")
      | none =>
        match flags.lookup name with
        | some field => go more (g.setFlag field) rest
        | none => .error ("No such option: " ++ name)
  go chars g rest

def gather : Nat → Gathered → List String → Except String Gathered
  | 0, g, _ => .ok g
  | _ + 1, g, [] => .ok g
  | fuel + 1, g, arg :: rest =>
    if arg == "--" then .ok { g with positional := g.positional ++ rest }
    else if arg.startsWith "--" then
      let (name, explicit) := match arg.splitOn "=" with
        | n :: v :: more => (n, some ("=".intercalate (v :: more)))
        | _ => (arg, none)
      match valued.lookup name, flags.lookup name with
      | some field, _ =>
        match explicit, rest with
        | some v, rest => gather fuel (g.setValue field v) rest
        | none, v :: rest => gather fuel (g.setValue field v) rest
        | none, [] => .error ("Option '" ++ name ++ "' requires an argument.")
      | none, some field =>
        if explicit.isSome then .error ("Option '" ++ name ++ "' does not take a value.")
        else gather fuel (g.setFlag field) rest
      | none, none => .error ("No such option: " ++ name)
    else if arg.startsWith "-" && arg.length > 1 then do
      let (g, rest) ← shortGroup g (arg.toList.drop 1) rest
      gather fuel g rest
    else gather fuel { g with positional := g.positional ++ [arg] } rest

def integer (name : String) (text : String) : Except String Int :=
  match readInt 10 (Text.ofString text).points with
  | .ok n => .ok n
  | .error _ =>
    .error ("Invalid value for '" ++ name ++ "': " ++ (Text.ofString text).literal ++
      " is not a valid integer.")

def parseArguments (args : List String) : Request :=
  match gather (args.length + 1) {} args with
  | .error m => .usage m
  | .ok g =>
    if g.seen.contains "version" then .version
    else
      let checked : Except String Request := do
        let xml ← match g.positional with
          | x :: _ => pure x
          | [] => throw "Missing argument 'XML_FILE'."
        let config ← match g.value? "config" with
          | some c => pure c
          | none => throw "Missing option '--config' / '-c'."
        let indent ← match g.value? "indent" with
          | some t => integer "--indent" t
          | none => pure 2
        let verbosity ← match g.value? "verbosity" with
          | some t => integer "--verbosity" t
          | none => pure 0
        if g.positional.length > 1 then
          throw ("Got unexpected extra argument (" ++ " ".intercalate (g.positional.drop 1) ++ ")")
        return .convert {
          configPath := config
          xmlPath := xml
          output := g.value? "output"
          indent := if indent > 0 then .indented (List.replicate indent.toNat 32) else .oneLine
          verbosity := verbosity
          encodedOutput := true } (g.value? "logdir")
      match checked with
      | .ok r => r
      | .error m => .usage m

def versionLine : String := "xml-to-elements version 0.1.0"

end XmlView.Command
