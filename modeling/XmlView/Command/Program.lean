import XmlView.Command.Arguments
/-! The whole program: read the command line, then show the version, refuse a line of the
wrong form with exit code 2, or make the log directory if one is named and convert. -/
namespace XmlView.Command

open Files

/-- What the program did: the report of the command, or the error that stopped it before
the command could report anything. -/
inductive Ending where
  | report (r : Report)
  | raised (e : OsError)

def program [Monad m] [FileSystem m] (args : List String) : m Ending := do
  match parseArguments args with
  | .usage message => return .report ⟨2, ({} : Console).line ("Error: " ++ message)⟩
  | .version => return .report ⟨0, ({} : Console).data (Text.ofString versionLine)⟩
  | .convert o logDir =>
    -- an empty directory name asks for no log file
    if let some dir := logDir.filter (!·.isEmpty) then
      if let .error e ← (FileSystem.makeDirs dir : m _) then return .raised e
    let console := ({ verbosity := o.verbosity, emoji := o.emoji } : Console).info
      ("Converting " ++ o.xmlPath ++ " with " ++ o.configPath)
    return .report (← runAfter o console)

end XmlView.Command
