import XmlView.Command.Program
/-! The command line program: the files are the real ones, standard output gets the data
and standard error the status lines, and the exit code is the command's. -/
open XmlView XmlView.Command XmlView.Files

def osErrorOf (path : String) (e : IO.Error) : OsError :=
  let kind : ErrorKind := match e with
    | .noFileOrDirectory .. => .notFound
    | .permissionDenied .. => .permission
    | .alreadyExists .. => .alreadyExists
    | .inappropriateType _ code _ =>
      if code == 20 then .notDirectory else if code == 21 then .isDirectory else .other code.toNat (toString e)
    | e => .other 0 (toString e)
  ⟨kind, path⟩

instance : FileSystem IO where
  read path := do
    try return .ok (← IO.FS.readBinFile path).toList
    catch e => return .error (osErrorOf path e)
  makeDirs path := do
    try
      IO.FS.createDirAll path
      return .ok ()
    catch e => return .error (osErrorOf path e)
  create path := do
    try
      IO.FS.writeBinFile path ByteArray.empty
      return .ok ()
    catch e => return .error (osErrorOf path e)
  append path bytes := do
    try
      let h ← IO.FS.Handle.mk path .append
      h.write (ByteArray.mk bytes.toArray)
    catch _ => pure ()

/-- Text as UTF-8 bytes, leaving out unpaired surrogates. -/
def utf8Bytes (t : Text) : ByteArray := t.toStringLossy.toUTF8

def main (args : List String) : IO UInt32 := do
  match ← program args with
  | .report r =>
    let out ← IO.getStdout
    out.write (utf8Bytes r.console.stdout)
    out.flush
    let err ← IO.getStderr
    err.putStr r.console.stderr
    err.flush
    return r.exit.toUInt32
  | .raised e =>
    IO.eprintln e.message
    return 1
