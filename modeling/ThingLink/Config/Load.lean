import ThingLink.Config.Document
import ThingLink.Config.Layers
import ThingLink.Files

/-!
# Loading a configuration

A configuration file is read and parsed, and variables go over what it says.  Without
a file, they go over the defaults.
-/

namespace ThingLink

inductive ConfigError where
  | read (path : String) (cause : FileError)
  | malformed (path : String)
  | unfit (path : String) (fault : DocumentFault)
  | invalid (problem : ConfigProblem)
  deriving DecidableEq, Repr

namespace ConfigError

/-- What stands in front of the fault of a configuration file. -/
def parseIntro (path : String) : String :=
  "failed to parse config file '" ++ path ++ "': "

def message : ConfigError → String
  | read path cause => "failed to read config file '" ++ path ++ "': " ++ cause.message
  | malformed path => parseIntro path ++ "malformed document"
  | unfit path fault => parseIntro path ++ fault.message
  | invalid problem => "configuration validation failed: " ++ problem.message

end ConfigError

namespace Config

def ofFile (files : Files) (path : String) : Except ConfigError Config :=
  match files.read path with
  | .error e => .error (.read path e)
  | .ok text =>
      match Yaml.Node.ofText? text with
      | none => .error (.malformed path)
      | some n =>
          match ofNode n with
          | .error fault => .error (.unfit path fault)
          | .ok c => .ok c

/-- The configuration of a run: from the file if there is one, with the variables
over it. -/
def load (files : Files) (lookup : Variables) (path : Option String) : Except ConfigError Config := do
  let base ← match path with
    | some path => ofFile files path
    | none => .ok {}
  pure (base.withVariables lookup)

end Config

end ThingLink
