import AccessPolicy.Command.Arguments
import AccessPolicy.Command.Report
import AccessPolicy.Command.Settings
import AccessPolicy.Policy.Source

/-! The command: it reads a policy file and prints a summary of it, or why it is refused. -/

namespace AccessPolicy.Command

/-- What a run leaves: its end, what it printed and what it logged. Errors are given as they are
told; of surrogates in them escapes are written. -/
structure Result where
  ending : Except RunFault Nat
  output : String := ""
  errors : String := ""
  log : List LogEvent := []

def levels : List (String × Nat) :=
  [("CRITICAL", 50), ("FATAL", 50), ("ERROR", 40), ("WARN", 30), ("WARNING", 30), ("INFO", 20),
   ("DEBUG", 10), ("NOTSET", 0)]

/-- The case of a level's name does not count. Two names stand for something else than a
level. -/
def threshold (name : String) : Except RunFault Nat :=
  let name := Text.uppercase name
  match levels.lookup name with
  | some rank => .ok rank
  | none =>
    if name = "BASIC_FORMAT" then .error (.levelIsText "%(levelname)s:%(name)s:%(message)s")
    else if name = "_STYLES" then .error .levelIsTable
    else .error (.unknownLevel name)

def refuse (label : String) (json : Bool) (session : Session) (fault : Fault) (code : String) :
    Result :=
  let (logged, session) := (Action.emit (.policyRejected label code)).run session
  match logged with
  | .error fault => ⟨.error (.policy fault), "", "", session.log⟩
  | .ok () =>
    if json then
      match Response.ofReport (Report.ofFault code fault) >>= Response.text with
      | .ok text => ⟨.ok 1, text ++ "\n", "", session.log⟩
      | .error fault => ⟨.error (.response fault), "", "", session.log⟩
    else ⟨.ok 1, "", "[policy] " ++ fault.message ++ "\n", session.log⟩

/-- The summary of the tables in print, up to where it cannot be written. A document of ASCII
always can. -/
def present (label : String) (json : Bool) (tables : Tables) : String × Option RunFault :=
  match tables.summary with
  | .error fault => ("", some (.policy fault))
  | .ok summary =>
    if json then
      match summary.json with
      | .error fault => ("", some (.policy fault))
      | .ok document => (document.indented .ascii 0 ++ "\n", none)
    else printed (reportLines label tables.roleTitles summary)

def readPolicy (label : String) (json : Bool) (threshold : Nat) (content : List UInt8) : Result :=
  let (result, session) := (Action.parseFile content label).run { sink := .text threshold }
  match result with
  | .error fault =>
    match fault.code? with
    | some code => refuse label json session fault code
    | none => ⟨.error (.policy fault), "", "", session.log⟩
  | .ok () =>
    let (output, fault?) := present label json session.reader.tables.sealed
    ⟨match fault? with
      | none => .ok 0
      | some fault => .error fault, output, "", session.log⟩

/-- What a run comes to: its end, or a file to read and what its content leads to. -/
inductive Plan where
  | finished (result : Result)
  | reads (path : File.Path) (next : Except File.Fault (List UInt8) → Result)

namespace Plan

def ends (code : Nat) (output errors : String) : Plan := .finished ⟨.ok code, output, errors, []⟩

def fails (fault : RunFault) : Plan := .finished ⟨.error fault, "", "", []⟩

def afterReading (path : File.Path) (json : Bool) (threshold : Nat)
    (content : Except File.Fault (List UInt8)) : Result :=
  match content with
  | .ok content => readPolicy path.text json threshold content
  | .error fault =>
    if fault.isOfName then ⟨.error (.file fault), "", "", []⟩
    else ⟨.ok 1, "", "[policy] cannot read " ++ path.text ++ ": " ++ fault.message ++ "\n", []⟩

def forFile (file : Option String) (level : String) (json : Bool) : Plan :=
  match threshold level with
  | .error fault => fails fault
  | .ok threshold =>
    match file with
    | none => ends 2 "" "[policy] no policy file given and ACCESS_POLICY_FILE is not set\n"
    | some file =>
      let path := File.Path.parse file
      .reads path (afterReading path json threshold)

def preceded (text : String) : Plan → Plan
  | .finished result => .finished { result with errors := text ++ result.errors }
  | .reads path next => .reads path fun content =>
      let result := next content
      { result with errors := text ++ result.errors }

/-- Arguments count before settings; an empty setting names no file. -/
def ofSettings (settings : Settings) (arguments : List String) : Plan :=
  match readArguments arguments with
  | .error fault => ends 2 "" (refusal fault)
  | .ok .help => ends 0 help ""
  | .ok (.run arguments) =>
    let configured := settings.policyFile.filter (!·.isEmpty)
    forFile (arguments.file <|> configured) (arguments.logLevel.getD settings.logLevel)
      arguments.json

/-- The plan for an environment and what the file of settings holds; the lines of the file
that cannot be read are told first. -/
def make (environment : List (String × String)) (file : Except Text.Utf8Fault EnvFile)
    (arguments : List String) : Plan :=
  match file with
  | .error fault => fails (.settings fault)
  | .ok file => (ofSettings (Settings.read environment file) arguments).preceded file.warnings

end Plan

def run (environment : List (String × String)) (directory : File.Directory)
    (arguments : List String) : Result :=
  match Plan.make environment (EnvFile.find environment directory) arguments with
  | .finished result => result
  | .reads path next => next (directory.read path)

end AccessPolicy.Command
