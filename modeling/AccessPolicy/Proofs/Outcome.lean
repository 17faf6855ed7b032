import AccessPolicy.Proofs.Trail

/-! How the reading of a source is closed in the log: by one event if it has been read or is
illegal, and by none if a fault of scope ends it or a misspelling that nothing catches. -/

namespace AccessPolicy

open Course

namespace Statement

/-- Nothing is caught within statements, and only blocks register roles. -/
theorem program_settles (block : Block) (value : Value) :
    (Program.course (program block value)).Settles true [] [] := by
  refine course_induction .done .refuse (fun first second => first.andThen second)
    (fun makes inner => ?_) value
  cases makes with
  | refused fault => exact .refuse fault
  | privilege => exact Privilege.course_settles _ _ _ _ inner
  | includePrivileges => exact .of_silent (Privilege.includesCourse_silent _)
  | role => exact Role.course_settles _ _ _ inner
  | includeRoles | title | description =>
    exact .of_silent (Role.currentCourse_silent fun _ => .keyed _ rfl)
  | grant => exact Grant.course_settles _ _ inner
  | addPrivileges => exact .of_silent (Grant.addPrivilegesCourse_silent _)
  | restrict => exact .of_silent (Grant.restrictCourse_silent ..)

end Statement

namespace Document

theorem blockProgram_settles (name statements : Value) :
    (Program.course (blockProgram name statements)).Settles true [] [] := by
  unfold blockProgram
  split
  · exact Statement.program_settles ..
  · exact Statement.program_settles ..
  · exact .done
  · exact .andThen (.refuse _) .done

theorem program_settles (value : Value) : (Program.course (program value)).Settles true [] [] := by
  cases form : blocksOf? value with
  | none =>
    rw [program_of_none form]
    exact .andThen (.refuse _) .done
  | some blocks =>
    rw [program_of_blocks form]
    exact Program.course_flatMap .done Settles.andThen fun b _ => blockProgram_settles b.1 b.2

theorem streamProgram_settles (documents : Yaml.Documents) :
    (Program.course (streamProgram documents)).Settles true [] [] := by
  rw [streamProgram, Program.course_append]
  refine Settles.andThen
    (Program.course_flatMap .done Settles.andThen fun d _ => program_settles d) ?_
  cases documents.fault? with
  | none => exact .done
  | some fault => exact .andThen (.refuse _) .done

/-- The events that close the reading of a source, by what it has come to. -/
inductive Closing (label : Option String) (t : Tables) :
    Except Fault Unit → List LogEvent → Prop
  | read : Closing label t (.ok ())
    [.sourceRead label t.privileges.length t.roles.length t.rules.length]
  | illegal (cause : Fault) :
    Closing label t (.error (.illegal label cause)) [.sourceIllegal label cause]
  | scope (problem : ScopeFault) : Closing label t (.error (.scope problem)) []
  | uncaught {problem : Yaml.Fault} (uncaught : problem.isUncaught) :
    Closing label t (.error (.document problem)) []

/-- None of them is for debugging. -/
theorem Closing.level {label : Option String} {t : Tables} {came : Except Fault Unit}
    {closing : List LogEvent} (closes : Closing label t came closing) :
    ∀ event ∈ closing, event.level ≠ .debug := by
  cases closes <;> simp [LogEvent.level]

variable {documents : Yaml.Documents} {m : Moment} {fault : Fault}

/-- What a stream fails for is a refusal, or what ends its documents. -/
theorem streamProgram_fault
    (composed : (Program.course (documents.values.flatMap program)).Composed)
    (failed : (Program.course (streamProgram documents) m).result = .error fault) :
    fault.isRefusal ∨ ∃ problem, fault = .document problem := by
  rw [streamProgram_result] at failed
  cases walked : (Program.course (documents.values.flatMap program) m).result with
  | error other =>
    rw [walked] at failed
    cases failed
    exact .inl (composed.isRefusal walked)
  | ok =>
    cases ends : documents.fault? with
    | none => simp [walked, ends] at failed
    | some problem =>
      simp only [walked, ends, Except.error.injEq] at failed
      exact .inr ⟨problem, failed.symm⟩

/-- A fault is logged with the name of the source if it makes this illegal, and only then. -/
theorem blameCourse_closing (known : fault.isRefusal ∨ ∃ problem, fault = .document problem)
    (label : Option String) (m : Moment) (t : Tables) :
    Journal.due (blameCourse label fault m).journal = [] ∧
      ∃ closing, Closing label t (blameCourse label fault m).result closing ∧
        (blameCourse label fault m).journal.events = closing.filter m.sink.accepts := by
  by_cases illegal : fault.makesIllegal
  · have result := blameCourse_of_makesIllegal label illegal m
    have journal : (blameCourse label fault m).journal =
        (emit (.sourceIllegal label fault) m).journal := by
      rw [blameCourse, if_pos illegal]
      unfold andThen
      split
      · exact List.append_nil _
      · rfl
    have writable : m.sink.writes (.sourceIllegal label fault) = _ :=
      Sink.writes_of_writable (obstacle?_sourceIllegal ..)
    rw [result, journal, due_emit, events_emit]
    refine ⟨rfl, _, .illegal fault, ?_⟩
    simp only [List.filter_cons, List.filter_nil, writable]
  · rw [blameCourse, if_neg illegal]
    refine ⟨rfl, [], ?_, rfl⟩
    rcases known with refusal | ⟨problem, rfl⟩
    · cases fault with
      | scope problem => exact .scope problem
      | _ => exact absurd refusal illegal
    · rw [problem.makesIllegal_iff] at illegal
      exact .uncaught (by simpa using illegal)

theorem course_of_error (label : Option String)
    (failed : (Program.course (streamProgram documents) m).result = .error fault) :
    let walked := (Program.course (streamProgram documents) m).journal
    let blamed := blameCourse label fault (m.after walked)
    course documents label m = ⟨blamed.result, walked ++ blamed.journal⟩ := by
  intro walked blamed
  have stream : streamCourse documents label m = ⟨blamed.result, walked ++ blamed.journal⟩ := by
    simp only [streamCourse, recover, failed, walked, blamed]
  cases came : blamed.result with
  | ok => exact (not_completes_blameCourse label fault ⟨came, rfl⟩).elim
  | error other => simp only [course, andThen, stream, came]

theorem course_of_ok (label : Option String)
    (completed : (Program.course (streamProgram documents) m).result = .ok ()) :
    let walked := (Program.course (streamProgram documents) m).journal
    course documents label m =
      ⟨.ok (), walked ++ (readCourse label (m.after walked)).journal⟩ := by
  intro walked
  have stream : streamCourse documents label m = ⟨.ok (), walked⟩ := by
    simp only [streamCourse, recover, completed]
    rw [← completed]
  have read : (readCourse label (m.after walked)).result = .ok () :=
    (completes_readCourse label).result
  simp only [course, andThen, stream, read]

/-- The reading of a stream logs what falls due in it, and then the event that closes it. -/
theorem course_closing (composed : (Program.course (documents.values.flatMap program)).Composed)
    (label : Option String) (m : Moment) :
    let run := course documents label m
    ∃ closing, Closing label (m.after run.journal).reader.tables run.result closing ∧
      run.journal.events = (Journal.due run.journal).filter m.sink.writes ++
        closing.filter m.sink.accepts := by
  have logged := ((streamProgram_settles documents).at_ m).logged
  cases came : (Program.course (streamProgram documents) m).result with
  | error fault =>
    rw [course_of_error label came]
    have known := streamProgram_fault composed came
    obtain ⟨due, closing, closes, events⟩ := blameCourse_closing known label
      (m.after (Program.course (streamProgram documents) m).journal) _
    rw [Moment.sink_after] at events
    refine ⟨closing, closes, ?_⟩
    rw [Journal.events_append, Journal.due_append, logged, events, due, List.append_nil,
      List.nil_append]
  | ok =>
    rw [course_of_ok label came]
    -- Logging leaves the tables that the event counts as they are.
    let n := m.after (Program.course (streamProgram documents) m).journal
    have stays : n.after (readCourse label n).journal = n := moment_after_emit _ n
    refine ⟨_, .read, ?_⟩
    rw [Moment.after_append, stays, Journal.events_append, Journal.due_append, logged]
    simp only [readCourse, due_emit, events_emit, List.nil_append, List.append_nil,
      List.filter_cons, List.filter_nil, Sink.writes_of_writable (Sink.obstacle?_sourceRead ..),
      Moment.sink_after, n]

/-- If the stream has been read, all is logged that falls due and that the sink accepts, and the
roles that are registered are those that are declared. -/
theorem course_whole {label : Option String}
    (completed : (course documents label m).result = .ok ()) :
    let journal := (course documents label m).journal
    m.sink.TakesAll (Journal.due journal) ∧
      Journal.roles journal = (Journal.due journal).filterMap LogEvent.role? := by
  obtain ⟨-, taken, declared⟩ := (streamProgram_settles documents).at_ m
  cases came : (Program.course (streamProgram documents) m).result with
  | error fault =>
    rw [course_of_error label came] at completed
    exact (not_completes_blameCourse label fault ⟨completed, rfl⟩).elim
  | ok =>
    rw [course_of_ok label came]
    simp only [Journal.due_append, Journal.roles_append, readCourse, due_emit, roles_emit,
      List.append_nil]
    exact ⟨taken rfl came, declared rfl came⟩

end Document

namespace Turn

variable {source : Yaml.Source} {label : Option String} {m : Moment}

/-- The documents of a source are read when its serials have been used up. -/
theorem parse_closing (source : Yaml.Source) (label : Option String) (m : Moment) :
    let run := (Turn.parse source label).course m
    ∃ closing, Document.Closing label (m.after run.journal).reader.tables run.result closing ∧
      run.journal.events = (Journal.due run.journal).filter m.sink.writes ++
        closing.filter m.sink.accepts :=
  Document.course_closing (Document.documents_composed source m.serial) label
    ((Update.serial (source.documents m.serial).serial).moment m)

theorem parse_whole (completed : ((Turn.parse source label).course m).result = .ok ()) :
    let journal := ((Turn.parse source label).course m).journal
    m.sink.TakesAll (Journal.due journal) ∧
      Journal.roles journal = (Journal.due journal).filterMap LogEvent.role? :=
  Document.course_whole (m := (Update.serial (source.documents m.serial).serial).moment m)
    completed

end Turn

namespace Action

/-- Wherever a session has come to, the reading of a source logs what it declares, for debugging,
and then the event that closes it: one at info if the source has been read, a warning with its
name if it is illegal, and none for a fault of scope or a misspelling that nothing catches. -/
theorem parse_closes (source : Yaml.Source) (label : Option String) {s : Session}
    (reached : s.Reached) :
    let came := (parse source label).run s
    ∃ declared closing : List LogEvent, (∀ event ∈ declared, event.level = .debug) ∧
      Document.Closing label came.2.reader.tables came.1 closing ∧
      came.2.log = s.log ++ declared ++ closing.filter s.sink.accepts := by
  intro came
  have yields := (Turn.action_follows (.parse source label)).yields s reached.intact
  obtain ⟨closing, closes, events⟩ := Turn.parse_closing source label s.moment
  rw [← yields.fst_eq, ← yields.advance.reader] at closes
  refine ⟨(Journal.due ((Turn.parse source label).course s.moment).journal).filter s.sink.writes,
    closing, fun event held => ?_, closes, ?_⟩
  · exact Journal.level_of_mem_due (List.mem_filter.mp held).1
  · rw [List.append_assoc]
    exact yields.advance.log.trans (congrArg (s.log ++ ·) events)

def unknownSource : Yaml.Source :=
  .text "authorization:\n- role: guest\n---\nauthorization:\n- permit: read\n"

/-- Within a role that callers have entered, the second document is refused: the first has been
told of, and one warning closes both. -/
theorem parse_closes_unknown :
    ∃ (t : Session) (cause : Fault) (declared : List LogEvent),
      (parse unknownSource (some "policy.yml")).run (Session.keeping .memory) =
        (.error (.illegal (some "policy.yml") cause), t) ∧
      (∀ event ∈ declared, event.level = .debug) ∧
      t.log = declared ++ [.sourceIllegal (some "policy.yml") cause] := by
  have codes : (faultsOf ((parse unknownSource (some "policy.yml")).run
      (Session.keeping .memory)).1).map Fault.code? = [some "DSL_SYNTAX_ERROR"] := by
    decide +kernel
  have start : (Session.keeping .memory).log = [] := rfl
  have sink : (Session.keeping .memory).sink = .memory := rfl
  obtain ⟨declared, closing, debugging, closes, log⟩ :=
    parse_closes unknownSource (some "policy.yml") (Session.reached_keeping .memory)
  rw [start, sink, (Sink.filter_memory closing).1, List.nil_append] at log
  generalize (parse unknownSource (some "policy.yml")).run (Session.keeping .memory) = came
    at codes closes log ⊢
  obtain ⟨ended, t⟩ := came
  cases closes with
  | illegal cause => exact ⟨t, cause, declared, rfl, debugging, log⟩
  | read => cases codes
  | scope problem => simp [faultsOf, Fault.code?] at codes
  | uncaught => cases codes

def titleSource : Yaml.Source := .text "authorization:\n- title: Keeper\n"

/-- A fault of scope ends the reading without a warning. -/
theorem parse_scope_unlogged :
    ¬ ∀ (source : Yaml.Source) (label : Option String) (s : Session), s.Reached →
      let came := (parse source label).run s
      let logged := came.2.log.drop s.log.length
      (came.1 = .ok () → (logged.filter (·.level = .info)).length = 1 ∧
        logged.filter (·.level = .warning) = []) ∧
      ∀ fault, came.1 = .error fault → fault.code?.isSome →
        (∃ cause, logged.filter (·.level = .warning) = [.sourceIllegal label cause]) ∧
          logged.filter (·.level = .info) = [] := by
  intro every
  have coded : (faultsOf ((parse titleSource none).run {}).1).map Fault.code? =
      [some "DSL_ERROR"] := by decide +kernel
  have silent : ((parse titleSource none).run {}).2.log.length = 0 := by decide +kernel
  cases came : ((parse titleSource none).run {}).1 with
  | ok =>
    rw [came] at coded
    cases coded
  | error fault =>
    rw [came] at coded
    have code : fault.code?.isSome := by
      rw [List.head_eq_of_cons_eq coded]
      rfl
    obtain ⟨⟨cause, warned⟩, -⟩ :=
      (every titleSource none {} Session.reached_default).2 fault came code
    rw [List.eq_nil_of_length_eq_zero silent] at warned
    cases warned

end Action

end AccessPolicy
