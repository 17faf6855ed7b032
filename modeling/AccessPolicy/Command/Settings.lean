import AccessPolicy.Command.EnvFile
import AccessPolicy.File.Directory
import AccessPolicy.Text.Case

/-! Settings from the environment, or else from a file `.env`, or else as they are given
here. The case of names does not count. -/

namespace AccessPolicy.Command

structure Settings where
  environment : String := "local"
  logLevel : String := "info"
  policyFile : Option String := none
  deriving DecidableEq, Repr

namespace Settings

/-- The last binding of the given name, which is in lower case. -/
def find? {α : Type} (name : String) (bindings : List (String × α)) : Option α :=
  (bindings.reverse.find? fun (given, _) => Text.lowercase given = name).map Prod.snd

/-- A variable of the environment counts before one of the file. -/
def setting? (environment : List (String × String)) (file : List (String × Option String))
    (name : String) : Option String :=
  match find? name environment with
  | some value => some value
  | none => (find? name file).join

def read (environment : List (String × String)) (file : EnvFile) : Settings :=
  let given := setting? environment file.values
  let default : Settings := {}
  { environment := (given "access_env").getD default.environment
    logLevel := (given "access_log_level").getD default.logLevel
    policyFile := given "access_policy_file" }

end Settings

/-- The file `.env` of a directory, for an environment that its values may refer to. There
need not be one. -/
def EnvFile.find (environment : List (String × String)) (directory : File.Directory) :
    Except Text.Utf8Fault EnvFile :=
  match directory.entry? [".env"] with
  | some (.file content) => (File.textOf content).map (EnvFile.read environment)
  | _ => .ok {}

end AccessPolicy.Command
