import XmlView.Config.Parse
import XmlView.Yaml.Load
import XmlView.Text.Utf8
import XmlView.Files.Disk
/-! Reading a configuration file: UTF-8 text with unified line ends, holding one YAML
document that is a dictionary. Unreadable files are file system problems; everything else
that goes wrong is a configuration problem. -/
namespace XmlView.Config

def readReason (e : Files.OsError) : String :=
  match e.kind with
  | .notFound => "Configuration file not found"
  | .permission => "Permission denied"
  | _ => e.message

def ofFile (path : String) (read : Except Files.OsError (List UInt8)) : Except Problem Mappings := do
  let bytes ← match read with
    | .ok bs => pure bs
    | .error e => throw (.filesystem path "read" (some (readReason e)))
  let text ← match Text.decodeUtf8 bytes with
    | .ok t => pure t
    | .error f => throw (.undecodable f.message)
  let chars := (Text.unifyLineEnds text.points).filterMap Text.charOf?
  let value ← match Yaml.load chars with
    | .ok v => pure v
    | .error (.invalid m) => throw (.config ("Invalid YAML syntax: " ++ m) none)
    | .error (.fault f) => throw (.fault f)
  match value with
  | .none => throw (.config "Configuration file is empty" none)
  | .dict _ => parse value
  | v => throw (.config ("Configuration must be a YAML dictionary, got " ++ v.typeName) none)

def load [Monad m] [Files.FileSystem m] (path : String) : m (Except Problem Mappings) := do
  return ofFile path (← Files.FileSystem.read path)

end XmlView.Config
