import AccessPolicy.Proofs.Task

/-! What the level decides from which on events are logged. A level above debugging selects events
and nothing else. For debugging the values that a policy declares are written out, and a policy that
declares one that cannot be written is refused. -/

namespace AccessPolicy

open Course

namespace Document

variable {documents : Yaml.Documents} {label : Option String} {sink : Sink} {m : Moment}

theorem blameCourse_hears (label : Option String) (fault : Fault) :
    (blameCourse label fault).Hears := by
  unfold blameCourse
  split
  · exact (Hears.emit _).andThen (.refuse _)
  · exact .refuse _

theorem readCourse_hears (label : Option String) : (readCourse label).Hears :=
  fun m sink kept => Hears.emit _ m sink kept

theorem streamProgram_hears (source : Yaml.Source) (serial : Nat) :
    (Program.course (streamProgram (source.documents serial))).Hears := by
  rw [streamProgram, Program.course_append]
  refine (documents_composed source serial).hears.andThen ?_
  cases (source.documents serial).fault? with
  | none => exact .done
  | some fault => exact (Hears.refuse _).andThen .done

theorem takesAll_blameCourse (label : Option String) (fault : Fault) (m : Moment) (sink : Sink) :
    sink.TakesAll (blameCourse label fault m).journal.events := by
  unfold blameCourse
  split
  · have logged := takesAll_emit m (obstacle?_sourceIllegal sink label fault)
    cases came : (emit (.sourceIllegal label fault) m).result with
    | error => simpa only [andThen, came] using logged
    | ok =>
      simp only [andThen, came, Journal.events_append, Sink.takesAll_append]
      exact ⟨logged, Sink.takesAll_nil sink⟩
  · exact Sink.takesAll_nil sink

/-- The events of a stream are those of its program and of the blame for what this failed for. -/
theorem events_streamCourse (documents : Yaml.Documents) (label : Option String) (m : Moment) :
    ∃ more, (streamCourse documents label m).journal.events =
        (Program.course (streamProgram documents) m).journal.events ++ more ∧
      ∀ sink : Sink, sink.TakesAll more := by
  unfold streamCourse recover
  split
  · exact ⟨[], (List.append_nil _).symm, Sink.takesAll_nil⟩
  · exact ⟨_, Journal.events_append .., takesAll_blameCourse label _ _⟩

/-- The events of a stream that is read, and of its being read, follow those of its program. -/
theorem events_course (documents : Yaml.Documents) (label : Option String) (m : Moment) :
    ∃ more, (course documents label m).journal.events =
        (Program.course (streamProgram documents) m).journal.events ++ more ∧
      ∀ sink : Sink, sink.TakesAll more := by
  obtain ⟨more, events, takes⟩ := events_streamCourse documents label m
  unfold course andThen
  split
  · have read (sink : Sink) : sink.TakesAll (readCourse label
        (m.after (streamCourse documents label m).journal)).journal.events :=
      takesAll_emit _ (Sink.obstacle?_sourceRead ..)
    simp only [Journal.events_append, events, List.append_assoc]
    exact ⟨_, rfl, fun sink => Sink.takesAll_append.mpr ⟨takes sink, read sink⟩⟩
  · exact ⟨more, events, takes⟩

/-- Where the program of a stream is heard to the end, so is the stream. -/
theorem streamCourse_heard (hears : (Program.course (streamProgram documents)).Hears)
    (kept : m.sink = .memory)
    (taken : (sink.hear (Program.course (streamProgram documents) m).journal.events).2 = none) :
    HeardBy sink m (streamCourse documents label m)
      (streamCourse documents label (m.heardBy sink)) := by
  have walked := hears m sink kept
  obtain ⟨result, moment⟩ := walked.same taken
  cases came : (Program.course (streamProgram documents) m).result with
  | ok =>
    rw [came] at result
    simpa only [streamCourse, recover, came, result] using walked
  | error fault =>
    rw [came] at result
    have blamed := walked.append taken
      (blameCourse_hears label fault _ sink ((Moment.sink_after ..).trans kept))
    rw [← moment] at blamed
    simpa only [streamCourse, recover, came, result] using blamed

/-- A stream is heard to its end, or it is refused for the first event that cannot be written. -/
theorem course_heard (hears : (Program.course (streamProgram documents)).Hears)
    (label : Option String) (kept : m.sink = .memory) (sink : Sink) :
    let events := (course documents label m).journal.events
    (sink.hear events).2 = none ∧
      HeardBy sink m (course documents label m) (course documents label (m.heardBy sink)) ∨
    ∃ fault, (sink.hear events).2 = some fault ∧
      (course documents label (m.heardBy sink)).result = .error (.illegal label fault) := by
  intro events
  obtain ⟨more, whole, takes⟩ := events_course documents label m
  cases untaken : (sink.hear (Program.course (streamProgram documents) m).journal.events).2 with
  | none =>
    refine .inl ⟨?_, (streamCourse_heard hears kept untaken).andThen kept (readCourse_hears label)⟩
    rw [show events = _ from whole, Sink.hear_append_of_none untaken _]
    exact Sink.hear_eq_none_iff.mpr (takes sink)
  | some fault =>
    refine .inr ⟨fault, ?_, ?_⟩
    · rw [show events = _ from whole, Sink.hear_append_of_some untaken]
    · have failed := (hears m sink kept).fails fault untaken
      obtain ⟨event, obstacle⟩ := Sink.obstacle?_of_hear untaken
      obtain ⟨n, told⟩ := streamCourse_of_error label failed
      rw [course, result_andThen_of_error (told.trans
        (blameCourse_of_makesIllegal label (Sink.blamed_of_obstacle? obstacle).1 n))]

end Document

namespace Action

/-- A source that is read where events go to a sink comes to what it comes to where all of them are
kept, or it is refused for the first event that cannot be written. -/
theorem parse_heard (source : Yaml.Source) (label : Option String) (sink : Sink) :
    let kept := (parse source label).run {}
    let heard := (parse source label).run { sink }
    (sink.hear kept.2.log).2 = none ∧ heard.1 = kept.1 ∧ heard.2.reader = kept.2.reader ∧
      heard.2.log = (sink.hear kept.2.log).1 ∨
    ∃ fault, (sink.hear kept.2.log).2 = some fault ∧ heard.1 = .error (.illegal label fault) := by
  intro kept heard
  let documents := source.documents 0
  let m : Moment := ⟨{}, documents.serial, .memory⟩
  have intact (sink : Sink) : Session.Intact { sink, serial := documents.serial } := ⟨rfl, rfl⟩
  have keptAdvance := ((readDocuments_follows documents label).yields _ (intact .memory)).advance
  have heardAdvance := ((readDocuments_follows documents label).yields _ (intact sink)).advance
  have keptResult : kept.1 = (Document.course documents label m).result :=
    (readDocuments_run (intact .memory) documents label).1.trans (Document.course_eq ..).1.symm
  have heardResult : heard.1 = (Document.course documents label (m.heardBy sink)).result :=
    (readDocuments_run (intact sink) documents label).1.trans (Document.course_eq ..).1.symm
  have keptLog : kept.2.log = (Document.course documents label m).journal.events :=
    keptAdvance.log.trans (List.nil_append _)
  have heardLog : heard.2.log =
      (Document.course documents label (m.heardBy sink)).journal.events :=
    heardAdvance.log.trans (List.nil_append _)
  have hears := Document.streamProgram_hears source 0
  rcases Document.course_heard hears label (m := m) rfl sink with ⟨taken, same⟩ | ⟨fault, told⟩
  · obtain ⟨result, moment⟩ := same.same taken
    have readers := congrArg Moment.reader moment
    refine .inl ⟨by rw [keptLog, taken], by rw [heardResult, result, keptResult], ?_, ?_⟩
    · exact (congrArg Moment.reader heardAdvance.moment).trans
        (readers.trans (congrArg Moment.reader keptAdvance.moment).symm)
    · rw [heardLog, keptLog, same.events]
  · exact .inr ⟨fault, by rw [keptLog, told.1], heardResult.trans told.2⟩

/-- Content of a file is read as its text, if it has one. -/
theorem parseFile_heard (content : List UInt8) (label : String) (sink : Sink) :
    let kept := (parseFile content label).run {}
    let heard := (parseFile content label).run { sink }
    (sink.hear kept.2.log).2 = none ∧ heard.1 = kept.1 ∧ heard.2.reader = kept.2.reader ∧
      heard.2.log = (sink.hear kept.2.log).1 ∨
    ∃ fault, (sink.hear kept.2.log).2 = some fault ∧
      heard.1 = .error (.illegal (some label) fault) := by
  unfold parseFile
  split
  · exact parse_heard ..
  · exact .inl ⟨rfl, rfl, rfl, rfl⟩

end Action

namespace Command

namespace Task

theorem takesAll_closingEvents (label : String) (came : Except Fault Unit) (sink : Sink) :
    sink.TakesAll (closingEvents label came) := by
  intro event held _
  cases came with
  | ok => cases held
  | error fault =>
    obtain ⟨code, -, rfl⟩ := Option.map_eq_some_iff.mp (Option.mem_toList.mp held)
    exact obstacle?_policyRejected sink label code

/-- A task comes to what it comes to where all events are kept, with those in its log that are
accepted; or its policy is refused for the first event that cannot be written. -/
theorem result_heard (task : Task) :
    let kept := task.resultBy .memory
    let heard := (Sink.text task.rank).hear kept.log
    heard.2 = none ∧ task.result = { kept with log := heard.1 } ∨
    ∃ fault log, heard.2 = some fault ∧
      let told := rejection task.json (.illegal (some task.label) fault) "DSL_SYNTAX_ERROR"
      task.result = { told with errors := task.warnings ++ told.errors, log } := by
  intro kept heard
  let sink := Sink.text task.rank
  let came := (task.read .memory).1
  have closing := takesAll_closingEvents task.label came sink
  have log : kept.log = (task.read .memory).2.log ++ closingEvents task.label came :=
    congrArg (_ ++ ·) (List.filter_eq_self.mpr fun _ _ => rfl)
  rcases Action.parseFile_heard task.content task.label sink with
    ⟨taken, result, reader, events⟩ | ⟨fault, untaken, result⟩
  · have whole : heard = ((sink.hear (task.read .memory).2.log).1 ++
        (sink.hear (closingEvents task.label came)).1,
        (sink.hear (closingEvents task.label came)).2) := by
      rw [show heard = sink.hear kept.log from rfl, log]
      exact Sink.hear_append_of_none taken _
    refine .inl ⟨by rw [whole]; exact Sink.hear_eq_none_iff.mpr closing, ?_⟩
    rw [whole, Sink.hear_of_takesAll closing]
    simp only [Task.result, resultBy, read, kept, came, sink] at result reader events ⊢
    simp only [result, reader, events]
  · refine .inr ⟨fault, task.result.log, ?_, ?_⟩
    · rw [show heard = sink.hear kept.log from rfl, log]
      exact congrArg Prod.snd (Sink.hear_append_of_some untaken)
    · simp only [Task.result, resultBy, read, sink] at result ⊢
      simp only [result, verdict, Fault.code?]

/-- Where all events are taken that are accepted, they are selected and nothing else changes. -/
theorem result_of_takesAll (task : Task)
    (takes : (Sink.text task.rank).TakesAll (task.resultBy .memory).log) :
    task.result = { task.resultBy .memory with
      log := (task.resultBy .memory).log.filter (Sink.text task.rank).accepts } := by
  rcases task.result_heard with ⟨-, same⟩ | ⟨fault, -, untaken, -⟩
  · rw [same, Sink.hear_of_takesAll takes]
  · rw [Sink.hear_eq_none_iff.mpr takes] at untaken
    cases untaken

end Task

def levelNames : List String := ["debug", "info", "warning", "error", "critical"]

/-- Only debugging is at or below the rank of what a policy declares. -/
theorem threshold_of_mem {level : String} (known : level ∈ levelNames) :
    ∃ rank, threshold level = .ok rank ∧
      (if level = "debug" then rank = Level.debug.rank else Level.debug.rank < rank) := by
  simp only [levelNames, List.mem_cons, List.not_mem_nil, or_false] at known
  rcases known with rfl | rfl | rfl | rfl | rfl
  · exact ⟨10, rfl, rfl⟩
  · exact ⟨20, rfl, by decide⟩
  · exact ⟨30, rfl, by decide⟩
  · exact ⟨40, rfl, by decide⟩
  · exact ⟨50, rfl, by decide⟩

/-- Arguments that ask for the same, each at its own level, or for nothing that is run. -/
inductive AlikeButLevel (level level' : String) :
    Except ArgumentFault Request → Except ArgumentFault Request → Prop
  | run (given : Arguments) : AlikeButLevel level level'
      (.ok (.run { given with logLevel := some level }))
      (.ok (.run { given with logLevel := some level' }))
  | help : AlikeButLevel level level' (.ok .help) (.ok .help)
  | refused (fault fault' : ArgumentFault) : AlikeButLevel level level' (.error fault)
      (.error fault')

/-- Runs whose arguments are alike but for the level have tasks that are, or come to the same. -/
theorem tasks_of_alike {first second : List String} {level level' : String}
    (alike : AlikeButLevel level level' (readArguments first) (readArguments second))
    {rank rank' : Nat} (ranked : threshold level = .ok rank) (ranked' : threshold level' = .ok rank')
    (environment : List (String × String)) (directory : File.Directory) :
    (∃ task : Task, task? environment directory first = some { task with rank := rank } ∧
      task? environment directory second = some { task with rank := rank' }) ∨
    task? environment directory first = none ∧
      let result := run environment directory first
      let other := run environment directory second
      result.ending = other.ending ∧ result.output = other.output ∧
        result.log = [] ∧ other.log = [] ∧
        ((readArguments first).isOk → result.errors = other.errors) := by
  cases configured : EnvFile.find environment directory with
  | error fault =>
    refine .inr ?_
    simp [task?, run, Plan.make, configured, Plan.fails]
  | ok settings =>
    simp only [task?, run, Plan.make, configured, Plan.ofSettings]
    generalize readArguments first = asked, readArguments second = asked' at alike
    cases alike with
    | run given =>
      simp only [Option.getD_some, ranked, ranked', Plan.forFile]
      generalize (given.file <|> (Settings.read environment settings).policyFile.filter
        (!·.isEmpty)) = file?
      cases file? with
      | none => simp [Plan.ends, Plan.preceded]
      | some file =>
        cases readable : directory.read (File.Path.parse file) with
        | ok content =>
          simp only [readable]
          exact .inl ⟨⟨(File.Path.parse file).text, given.json, 0, content, settings.warnings⟩,
            rfl, rfl⟩
        | error fault =>
          refine .inr ?_
          simp only [Plan.preceded, readable, Plan.afterReading]
          cases fault.isOfName <;> simp
    | help => simp [Plan.ends, Plan.preceded]
    | refused fault fault' =>
      simp [Plan.ends, Plan.preceded, Except.isOk, Except.toBool]

/-- All that a run has to log, on whatever level. -/
def declared (environment : List (String × String)) (directory : File.Directory)
    (arguments : List String) : List LogEvent :=
  (task? environment directory arguments).elim [] fun task => (task.resultBy .memory).log

/-- Why what a run has to log cannot all be written for debugging. -/
def unloggable? (environment : List (String × String)) (directory : File.Directory)
    (arguments : List String) : Option Fault :=
  ((Sink.text Level.debug.rank).hear (declared environment directory arguments)).2

/-- The level does not matter to the result of a run, and selects the records that are logged, if
all that is to be logged can be written or neither run is for debugging. Otherwise a run for
debugging refuses the policy for the first value that cannot be written. Both runs are taken to
visit the members of sets in one order, also of sets whose hashes differ from run to run. -/
theorem run_levels {first second : List String} {level level' : String}
    (alike : AlikeButLevel level level' (readArguments first) (readArguments second))
    (known : level ∈ levelNames) (known' : level' ∈ levelNames)
    (environment : List (String × String)) (directory : File.Directory) :
    let result := run environment directory first
    let other := run environment directory second
    let events := declared environment directory first
    let untaken := unloggable? environment directory first
    (untaken = none ∨ level ≠ "debug" ∧ level' ≠ "debug" →
      result.ending = other.ending ∧ result.output = other.output ∧
        ((readArguments first).isOk → result.errors = other.errors) ∧
        (∀ rank, threshold level = .ok rank →
          result.log = events.filter (Sink.text rank).accepts) ∧
        ∀ rank, threshold level' = .ok rank →
          other.log = events.filter (Sink.text rank).accepts) ∧
    ∀ fault, untaken = some fault → level = "debug" →
      ∃ task, task? environment directory first = some task ∧
        let told := rejection task.json (.illegal (some task.label) fault) "DSL_SYNTAX_ERROR"
        result.ending = told.ending ∧ result.output = told.output ∧
          result.errors = task.warnings ++ told.errors := by
  intro result other events untaken
  obtain ⟨rank, ranked, low⟩ := threshold_of_mem known
  obtain ⟨rank', ranked', low'⟩ := threshold_of_mem known'
  have takes {level : String} {rank : Nat} (low : if level = "debug" then rank = Level.debug.rank
      else Level.debug.rank < rank) (writable : untaken = none ∨ level ≠ "debug") :
      (Sink.text rank).TakesAll events := by
    by_cases loud : level = "debug"
    · rw [if_pos loud] at low
      exact low ▸ Sink.hear_eq_none_iff.mp (writable.resolve_right (absurd loud))
    · rw [if_neg loud] at low
      exact fun event _ => Sink.text_takes low event
  rcases tasks_of_alike alike ranked ranked' environment directory with
    ⟨task, first, second⟩ | ⟨none, ending, output, log, log', errors⟩
  · have ran : result = { task with rank }.result := run_of_task first
    have ran' : other = { task with rank := rank' }.result := run_of_task second
    have kept : events = (task.resultBy .memory).log := by
      simp only [events, declared, first, Option.elim_some]
      rfl
    constructor
    · intro quiet
      have same := Task.result_of_takesAll { task with rank }
        (kept ▸ takes low (quiet.imp_right And.left))
      have same' := Task.result_of_takesAll { task with rank := rank' }
        (kept ▸ takes low' (quiet.imp_right And.right))
      rw [ran, ran', same, same', ranked, ranked', kept]
      refine ⟨rfl, rfl, fun _ => rfl, ?_, ?_⟩ <;> rintro _ ⟨⟩ <;> rfl
    · intro fault unwritable loud
      rw [if_pos loud] at low
      have untaken : ((Sink.text rank).hear (task.resultBy .memory).log).2 = some fault :=
        (congrArg (fun r => ((Sink.text r).hear (task.resultBy .memory).log).2) low).trans
          (kept ▸ unwritable)
      rcases Task.result_heard { task with rank } with ⟨taken, -⟩ | ⟨other, log, same, told⟩
      · cases taken.symm.trans untaken
      · cases same.symm.trans untaken
        rw [ran, told]
        exact ⟨_, first, rfl, rfl, rfl⟩
  · have quiet : events = [] := by simp only [events, declared, none, Option.elim_none]
    constructor
    · intro _
      rw [quiet]
      exact ⟨ending, output, errors, fun _ _ => log, fun _ _ => log'⟩
    · intro fault unwritable
      rw [show untaken = (Sink.hear _ events).2 from rfl, quiet] at unwritable
      cases unwritable

def datedPolicy : String :=
  "authorization:\n- role: keeper\n  body:\n  - has_permission_on: \x7b2020-01-01: x\x7d\n    to: read\n"

def levelArguments (level : String) : List String := ["--log-level", level, "policy.yml"]

theorem alike_levelArguments (level level' : String) (known : level ∈ levelNames)
    (known' : level' ∈ levelNames) : AlikeButLevel level level'
      (readArguments (levelArguments level)) (readArguments (levelArguments level')) := by
  have each : ∀ level ∈ levelNames, readArguments (levelArguments level) =
      .ok (.run { file := some "policy.yml", logLevel := some level }) := by decide +kernel
  rw [each level known, each level' known']
  exact .run { file := some "policy.yml" }

theorem ending_info_dated :
    (run [] (policyDirectory datedPolicy) (levelArguments "info")).ending.toOption = some 0 := by
  decide +kernel

/-- The policy is refused for debugging, and on other levels it is reported alike. -/
theorem run_levels_dated :
    let result (level : String) := run [] (policyDirectory datedPolicy) (levelArguments level)
    (unloggable? [] (policyDirectory datedPolicy) (levelArguments "debug")).isSome ∧
      (result "debug").ending.toOption = some 1 ∧ (result "info").ending.toOption = some 0 ∧
      (result "info").ending = (result "critical").ending ∧
      (result "info").output = (result "critical").output ∧
      (result "info").errors = (result "critical").errors := by
  intro result
  have untaken : (unloggable? [] (policyDirectory datedPolicy) (levelArguments "debug")).isSome := by
    decide +kernel
  obtain ⟨fault, unwritable⟩ := Option.isSome_iff_exists.mp untaken
  have loud := run_levels (alike_levelArguments "debug" "info"
    (by decide) (by decide)) (by decide) (by decide) [] (policyDirectory datedPolicy)
  have quiet := run_levels (alike_levelArguments "info" "critical"
    (by decide) (by decide)) (by decide) (by decide) [] (policyDirectory datedPolicy)
  obtain ⟨ending, output, errors, -⟩ := quiet.1 (.inr ⟨by decide, by decide⟩)
  obtain ⟨task, found, refused, -⟩ := loud.2 fault unwritable rfl
  have plain : task.json = false := by
    have asked : (task? [] (policyDirectory datedPolicy) (levelArguments "debug")).any (·.json) =
        false := by decide +kernel
    rwa [found] at asked
  refine ⟨untaken, ?_, ending_info_dated, ending, output, errors (by decide +kernel)⟩
  rw [show (result "debug").ending = _ from refused, plain]
  rfl

/-- The level does not select records only. -/
theorem run_level_decides :
    ¬ ∀ (environment : List (String × String)) (directory : File.Directory)
      (first second : List String) (level level' : String),
      AlikeButLevel level level' (readArguments first) (readArguments second) →
      level ∈ levelNames → level' ∈ levelNames →
      (run environment directory first).ending = (run environment directory second).ending ∧
      (run environment directory first).output = (run environment directory second).output := by
  intro every
  have same := (every [] (policyDirectory datedPolicy) (levelArguments "debug")
    (levelArguments "info") "debug" "info" (alike_levelArguments _ _ (by decide) (by decide))
    (by decide) (by decide)).1
  have refused : (run [] (policyDirectory datedPolicy) (levelArguments "debug")).ending.toOption =
      some 1 := by decide +kernel
  rw [same, ending_info_dated] at refused
  cases refused

end Command

end AccessPolicy
