import AccessPolicy.Command.Run

/-! The command as a program: it reads the environment and files, and prints. -/

namespace AccessPolicy.Command

def readFile (path : File.Path) : IO (Except File.Fault (List UInt8)) := do
  if let some fault := File.Directory.pathFault? path then return .error fault
  try
    return .ok (← IO.FS.readBinFile (Text.Surrogate.shown path.text)).toList
  catch
    | .invalidArgument _ 36 _ => return .error (.tooLong path)
    | .noFileOrDirectory .. => return .error (.missing path)
    | .inappropriateType _ code _ =>
      return .error (if code = 21 then .isDirectory path else .notDirectory path)
    | fault => throw fault

/-- The variables that settings are read from, under their usual spellings. -/
def readEnvironment : IO (List (String × String)) := do
  let names := ["access_env", "access_log_level", "access_policy_file"]
  let found ← (names ++ names.map Text.uppercase).mapM fun name => do
    return (← IO.getEnv name).map fun value => (name, Text.Surrogate.ofPlain value)
  return found.filterMap id

def readDirectory : IO File.Directory := do
  match ← readFile (File.Path.parse ".env") with
  | .ok content => return ⟨[([".env"], content)]⟩
  | .error _ => return {}

/-- Print what a run leaves; a fault without an exit code ends the program with one. -/
def conclude (result : Result) : IO UInt32 := do
  let out ← IO.getStdout
  let err ← IO.getStderr
  for event in result.log do
    err.putStrLn (event.record.line .ascii)
  out.putStr (Text.Surrogate.shown result.output)
  err.putStr (Text.Surrogate.shown result.errors)
  match result.ending with
  | .ok code => return code.toUInt32
  | .error fault =>
    err.putStrLn (Text.Surrogate.shown fault.message)
    return 1

end AccessPolicy.Command

open AccessPolicy Command in
def main (arguments : List String) : IO UInt32 := do
  let environment ← readEnvironment
  let file := EnvFile.find environment (← readDirectory)
  match Plan.make environment file (arguments.map Text.Surrogate.ofPlain) with
  | .finished result => conclude result
  | .reads path next => conclude (next (← readFile path))
