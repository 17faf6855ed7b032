import AccessPolicy.File.Directory
import AccessPolicy.Policy.Snapshot
import AccessPolicy.Policy.Statement
import AccessPolicy.Yaml.Document

/-! Reading of policies from sources: streams of documents, and files that hold them. -/

namespace AccessPolicy

namespace Document

def streamProgram (documents : Yaml.Documents) : Program :=
  documents.values.flatMap program ++
    documents.fault?.toList.map fun fault => .refuse (.document fault)

end Document

namespace Action

/-- The documents of a source; serials of the session are used up. -/
def documents (source : Yaml.Source) : Action Yaml.Documents :=
  modifyGet fun session =>
    let documents := source.documents session.serial
    (documents, { session with serial := documents.serial })

/-- Name the source in a fault that makes it illegal, after logging the fault. -/
def blameSource (label : Option String) (fault : Fault) : Action Unit := do
  if fault.makesIllegal then
    emit (.sourceIllegal label fault)
    refuse (.illegal label fault)
  else refuse fault

/-- Read the documents of a stream on top of what has been read. -/
def readDocuments (documents : Yaml.Documents) (label : Option String) : Action Unit := do
  tryCatch (Program.run (Document.streamProgram documents)) (blameSource label)
  match (← get).sizes with
  | .ok (privileges, roles, rules) => emit (.sourceRead label privileges roles rules)
  | .error fault => refuse fault

def parse (source : Yaml.Source) (label : Option String) : Action Unit := do
  readDocuments (← documents source) label

def parseFile (content : List UInt8) (label : String) : Action Unit :=
  match File.textOf content with
  | .ok text => parse (.text text) (some label)
  | .error fault => refuse (.illegal (some label) (.encoding fault))

end Action

/-- The tables of a policy read on its own, and what was logged. -/
def compile (source : Yaml.Source) (label : Option String) :
    Except Fault Tables × List LogEvent :=
  let (result, session) := (Action.parse source label).run {}
  (result.map fun _ => session.reader.tables.sealed, session.log)

inductive LoadFault where
  | file (fault : File.Fault)
  | policy (fault : Fault)
  deriving Repr

def load (directory : File.Directory) (path : String) :
    Except LoadFault Tables × List LogEvent :=
  match directory.read (File.Path.parse path) with
  | .error fault => (.error (.file fault), [])
  | .ok content =>
    let (result, session) := (Action.parseFile content path).run {}
    match result with
    | .ok _ => (.ok session.reader.tables.sealed, session.log)
    | .error fault => (.error (.policy fault), session.log)

end AccessPolicy
