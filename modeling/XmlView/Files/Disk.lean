import XmlView.Value.Display
/-! Files and directories under a working directory, and the errors operations on them
report. Paths skip empty components and `.`, `..` goes up, and every component but the last
must be a directory; missing parents are made first. -/
namespace XmlView.Files

inductive ErrorKind where
  | notFound
  | permission
  | alreadyExists
  | notDirectory
  | isDirectory
  | other (code : Nat) (text : String)
  deriving DecidableEq, Inhabited

/-- An operation on a path that failed: why, and the path as the caller wrote it. -/
structure OsError where
  kind : ErrorKind
  path : String
  deriving Inhabited

namespace OsError

def code : ErrorKind → Nat
  | .notFound => 2
  | .permission => 13
  | .alreadyExists => 17
  | .notDirectory => 20
  | .isDirectory => 21
  | .other c _ => c

def reason : ErrorKind → String
  | .notFound => "No such file or directory"
  | .permission => "Permission denied"
  | .alreadyExists => "File exists"
  | .notDirectory => "Not a directory"
  | .isDirectory => "Is a directory"
  | .other _ t => t

/-- `[Errno N] reason: 'path'`. -/
def message (e : OsError) : String :=
  "[Errno " ++ toString (code e.kind) ++ "] " ++ reason e.kind ++ ": " ++
    (Text.ofString e.path).literal

end OsError

inductive Entry where
  | file (bytes : List UInt8)
  | directory
  deriving Inhabited

/-- The entries under the working directory, each by its components. -/
structure Disk where
  entries : List (List String × Entry) := []
  deriving Inhabited

def slashRuns : List Char → List Char → List (List Char)
  | [], run => if run.isEmpty then [] else [run]
  | c :: cs, run =>
    if c == '/' then (if run.isEmpty then slashRuns cs [] else run :: slashRuns cs [])
    else slashRuns cs (run ++ [c])

def components (path : String) : List String := (slashRuns path.toList []).map String.ofList

namespace Disk

def lookup (d : Disk) (place : List String) : Option Entry :=
  if place.isEmpty then some .directory else (d.entries.find? (·.1 == place)).map (·.2)

def isDirectoryAt (d : Disk) (place : List String) : Bool :=
  match d.lookup place with
  | some .directory => true
  | _ => false

/-- Where the components lead, each before the last being a directory; `..` goes up and
`.` stays, so that a component followed by either must be a directory too. -/
def walk (d : Disk) (here : List String) : List String → Except ErrorKind (List String)
  | [] => .ok here
  | c :: rest =>
    if c == ".." then walk d here.dropLast rest
    else if c == "." then walk d here rest
    else
      let next := here ++ [c]
      if rest.isEmpty then .ok next
      else
        match d.lookup next with
        | some .directory => walk d next rest
        | some (.file _) => .error .notDirectory
        | none => .error .notFound

def locate (d : Disk) (path : String) : Except ErrorKind (List String) :=
  if path.isEmpty then .error .notFound else walk d [] (components path)

def read (d : Disk) (path : String) : Except OsError (List UInt8) :=
  let fail := fun k => Except.error (OsError.mk k path)
  match d.locate path with
  | .error k => fail k
  | .ok place =>
    match d.lookup place with
    | some (.file bs) => if path.endsWith "/" then fail .notDirectory else .ok bs
    | some .directory => fail .isDirectory
    | none => fail .notFound

def present (d : Disk) (path : String) : Bool :=
  match d.locate path with
  | .ok place => (d.lookup place).isSome
  | .error _ => false

def put (d : Disk) (place : List String) (e : Entry) : Disk :=
  { entries := (d.entries.filter (·.1 != place)) ++ [(place, e)] }

def makeDir (d : Disk) (path : String) : Except OsError Disk :=
  let fail := fun k => Except.error (OsError.mk k path)
  match d.locate path with
  | .error k => fail k
  | .ok place =>
    match d.lookup place with
    | some .directory => .ok d
    | some (.file _) => fail .alreadyExists
    | none =>
      if d.isDirectoryAt place.dropLast then .ok (d.put place .directory) else fail .notFound

def splitPath (path : String) : String × String :=
  let cs := path.toList
  let i := cs.length - (cs.reverse.takeWhile (· != '/')).length
  let head := cs.take i
  let tail := cs.drop i
  let head := if head.all (· == '/') then head else (head.reverse.dropWhile (· == '/')).reverse
  (String.ofList head, String.ofList tail)

def dirName (path : String) : String := (splitPath path).1

/-- Make a directory and the missing directories above it; fuel bounds the depth. -/
def makeDirs : Nat → Disk → String → Except OsError Disk
  | 0, d, path => d.makeDir path
  | fuel + 1, d, path => do
    let (head, tail) := splitPath path
    let (head, tail) := if tail.isEmpty then splitPath head else (head, tail)
    let mut d := d
    if !head.isEmpty && !tail.isEmpty && !d.present head then
      match makeDirs fuel d head with
      | .ok d' => d := d'
      | .error e => if e.kind != .alreadyExists then throw e
      if tail == "." then return d
    d.makeDir path

/-- Open a file for writing: an existing file is emptied, a missing one made. -/
def create (d : Disk) (path : String) : Except OsError Disk :=
  let fail := fun k => Except.error (OsError.mk k path)
  match d.locate path with
  | .error k => fail k
  | .ok place =>
    match d.lookup place with
    | some .directory => fail .isDirectory
    | some (.file _) => if path.endsWith "/" then fail .notDirectory else .ok (d.put place (.file []))
    | none =>
      if path.endsWith "/" then fail .isDirectory
      else if d.isDirectoryAt place.dropLast then .ok (d.put place (.file []))
      else fail .notFound

def append (d : Disk) (path : String) (bs : List UInt8) : Disk :=
  match d.locate path with
  | .ok place =>
    match d.lookup place with
    | some (.file old) => d.put place (.file (old ++ bs))
    | _ => d
  | .error _ => d

end Disk

/-- What running a command needs of the files: reading a file, making directories,
opening a file for writing and writing to it. -/
class FileSystem (m : Type → Type) where
  read : String → m (Except OsError (List UInt8))
  makeDirs : String → m (Except OsError Unit)
  create : String → m (Except OsError Unit)
  append : String → List UInt8 → m Unit

instance : FileSystem (StateM Disk) where
  read path := do return (← get).read path
  makeDirs path := do
    let d ← get
    match Disk.makeDirs ((components path).length + 2) d path with
    | .ok d' => set d'; return .ok ()
    | .error e => return .error e
  create path := do
    match (← get).create path with
    | .ok d' => set d'; return .ok ()
    | .error e => return .error e
  append path bs := modify fun d => d.append path bs

end XmlView.Files
