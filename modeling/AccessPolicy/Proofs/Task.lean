import AccessPolicy.Proofs.Reporting

/-! What a run of the command reads. A run that gets as far as the content of a policy file is told
by a task, which says what is read and how it is reported; what reading comes to is concluded from
there alone. -/

namespace AccessPolicy.Command

open Course

/-- What is read in a run, from which rank on events are logged, and how it is reported. -/
structure Task where
  label : String
  json : Bool
  rank : Nat
  content : List UInt8
  /-- What has been told of the file of settings. -/
  warnings : String

def task? (environment : List (String × String)) (directory : File.Directory)
    (arguments : List String) : Option Task :=
  match EnvFile.find environment directory, readArguments arguments with
  | .ok configured, .ok (.run given) =>
    let settings := Settings.read environment configured
    match threshold (given.logLevel.getD settings.logLevel),
      given.file <|> settings.policyFile.filter (!·.isEmpty) with
    | .ok rank, some file =>
      match directory.read (File.Path.parse file) with
      | .ok content =>
        some ⟨(File.Path.parse file).text, given.json, rank, content, configured.warnings⟩
      | .error _ => none
    | _, _ => none
  | _, _ => none

def rejection (json : Bool) (fault : Fault) (code : String) : Result :=
  if json then
    match Response.ofReport (Report.ofFault code fault) >>= Response.text with
    | .ok text => { ending := .ok 1, output := text ++ "\n" }
    | .error fault => { ending := .error (.response fault) }
  else { ending := .ok 1, errors := "[policy] " ++ fault.message ++ "\n" }

/-- What a reader has come to is presented, or what it has failed for is reported. -/
def verdict (label : String) (json : Bool) (came : Except Fault Unit) (reader : Reader) : Result :=
  match came with
  | .error fault =>
    match fault.code? with
    | some code => rejection json fault code
    | none => { ending := .error (.policy fault) }
  | .ok () =>
    let (output, fault?) := present label json reader.tables.sealed
    { ending := match fault? with
        | none => .ok 0
        | some fault => .error fault
      output }

def closingEvents (label : String) : Except Fault Unit → List LogEvent
  | .error fault => (fault.code?.map (.policyRejected label)).toList
  | .ok () => []

theorem obstacle?_policyRejected (sink : Sink) (label code : String) :
    sink.obstacle? (.policyRejected label code) = none := by
  cases sink <;> rfl

/-- A refusal is logged if a sink accepts it, and reported whatever came before it. -/
theorem refuse_eq (label : String) (json : Bool) {s : Session} (intact : s.Intact) (fault : Fault)
    (code : String) : refuse label json s fault code =
      { rejection json fault code with
        log := s.log ++ [.policyRejected label code].filter s.sink.accepts } := by
  have logged : (Action.emit (.policyRejected label code)).run s =
      (.ok (), { s with log := s.log ++ [.policyRejected label code].filter s.sink.accepts }) := by
    simp only [Action.emit, Action.run_bind, Action.run_get, intact.loggerFault?]
    by_cases accepts : s.sink.accepts (.policyRejected label code)
    · simp [accepts, obstacle?_policyRejected, Action.run_modify]
    · simp [accepts, Action.run_pure]
  unfold refuse rejection
  rw [logged]
  cases json with
  | false => rfl
  | true => cases Response.ofReport (Report.ofFault code fault) >>= Response.text <;> rfl

namespace Task

def read (task : Task) (sink : Sink) : Except Fault Unit × Session :=
  (Action.parseFile task.content task.label).run { sink }

theorem intact_of_read (task : Task) (sink : Sink) : (task.read sink).2.Intact := by
  unfold read Action.parseFile
  split
  · exact Action.intact_of_parse ⟨rfl, rfl⟩ rfl
  · exact ⟨rfl, rfl⟩

theorem sink_of_read (task : Task) (sink : Sink) : (task.read sink).2.sink = sink := by
  unfold read Action.parseFile
  split
  · rw [Action.run_parse]
    exact (Action.readDocuments_follows ..).sink ⟨rfl, rfl⟩
  · rfl

def resultBy (task : Task) (sink : Sink) : Result :=
  let (came, session) := task.read sink
  let verdict := verdict task.label task.json came session.reader
  { verdict with
    errors := task.warnings ++ verdict.errors
    log := session.log ++ (closingEvents task.label came).filter sink.accepts }

def result (task : Task) : Result := task.resultBy (.text task.rank)

theorem result_eq (task : Task) :
    let result := readPolicy task.label task.json task.rank task.content
    task.result = { result with errors := task.warnings ++ result.errors } := by
  have intact := task.intact_of_read (.text task.rank)
  have sink := task.sink_of_read (.text task.rank)
  unfold result resultBy readPolicy
  rw [read] at intact sink ⊢
  rcases ran : (Action.parseFile task.content task.label).run { sink := .text task.rank } with
    ⟨fault | _, session⟩ <;> rw [ran] at intact sink
  · cases coded : fault.code? with
    | none => simp [verdict, closingEvents, coded]
    | some code =>
      simp [verdict, closingEvents, coded, refuse_eq task.label task.json intact,
        show session.sink = _ from sink]
  · rcases presented : present task.label task.json session.reader.tables.sealed with
      ⟨output, _ | fault⟩ <;> simp [verdict, closingEvents, presented]

end Task

variable {environment : List (String × String)} {directory : File.Directory}
  {arguments : List String} {task : Task}

/-- A run with a task does what the task says. -/
theorem run_of_task (found : task? environment directory arguments = some task) :
    run environment directory arguments = task.result := by
  unfold task? at found
  split at found
  · rename_i configured given settings asked
    dsimp only at found
    split at found
    · rename_i rank file level named
      split at found <;> cases found
      rename_i content readable
      simp only [run, Plan.make, settings, Plan.ofSettings, asked, Plan.forFile, level, named,
        Plan.preceded, Plan.afterReading, readable, Task.result_eq]
    · cases found
  · cases found

end AccessPolicy.Command
