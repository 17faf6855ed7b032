import AccessPolicy.Proofs.Act
import AccessPolicy.Proofs.Composition
import AccessPolicy.Proofs.Construction

/-! What comes of reading a source. A fault of scope is told as it is, and a fault that makes a
source illegal is told with the name of the source; but some scalars fail in a way that nothing
catches. -/

namespace AccessPolicy

open Course

namespace Statement

theorem isRecordless_of_statements {value : Value} {statements : List Value}
    (form : statementsOf? value = some statements) (recordless : value.isRecordless) :
    ∀ s ∈ statements, s.isRecordless := by
  unfold statementsOf? at form
  split at form <;> cases form
  · exact nofun
  · exact Value.areRecordless_iff.mp recordless
  · exact Value.areRecordless_iff.mp recordless

theorem isRecordless_of_parts {value keyword argument : Value} {options : List (Value × Value)}
    (form : partsOf? value = some (keyword, argument, options)) (recordless : value.isRecordless) :
    ∀ o ∈ options, o.2.isRecordless := by
  have all : Value.entriesAreRecordless ((keyword, argument) :: options) := by
    unfold partsOf? at form
    split at form <;> cases form <;> exact recordless
  exact (List.forall_mem_cons.mp (Value.entriesAreRecordless_iff.mp all)).2

/-- Statements without records fail for refusals only. -/
theorem program_composed (block : Block) {value : Value} (recordless : value.isRecordless) :
    (Program.course (program block value)).Composed := by
  refine (nesting_induction
    (fun value => value.isRecordless → (Program.course (program block value)).Composed)
    (fun value => value.isRecordless → (Program.stepCourse (stepOf block value)).Composed)
    (fun value statements form ih recordless => ?_) (fun value form _ => ?_)
    (fun value keyword argument options form ih recordless => ?_)
    (fun value form _ => ?_)).1 value recordless
  · have each := isRecordless_of_statements form recordless
    rw [program_of_statements form]
    clear form
    induction statements with
    | nil => exact .done
    | cons s rest others =>
      obtain ⟨first, each⟩ := List.forall_mem_cons.mp each
      exact (ih s (by simp) first).andThen
        (others (fun s member => ih s (by simp [member])) each)
  · rw [program_of_none form]
    exact .andThen (.refuse rfl) .done
  · have each := isRecordless_of_parts form recordless
    rw [stepOf_of_parts form]
    exact step_composed block keyword argument (fun o held => ih o held (each o held))
      fun o held => Value.ne_record_of_isRecordless (each o held)
  · rw [stepOf_of_none form]
    exact .refuse rfl

end Statement

namespace Document

theorem blockProgram_composed (name : Value) {statements : Value}
    (recordless : statements.isRecordless) :
    (Program.course (blockProgram name statements)).Composed := by
  unfold blockProgram
  split
  · exact Statement.program_composed _ recordless
  · exact Statement.program_composed _ recordless
  · exact .done
  · exact .andThen (.refuse rfl) .done

theorem program_composed {value : Value} (recordless : value.isRecordless) :
    (Program.course (program value)).Composed := by
  cases form : blocksOf? value with
  | none =>
    rw [program_of_none form]
    exact .andThen (.refuse rfl) .done
  | some blocks =>
    rw [program_of_blocks form]
    have each : ∀ b ∈ blocks, b.2.isRecordless := by
      unfold blocksOf? at form
      split at form <;> cases form
      · exact nofun
      · exact Value.entriesAreRecordless_iff.mp recordless
      · exact Value.entriesAreRecordless_iff.mp recordless
    exact Program.course_flatMap .done .andThen fun b held =>
      blockProgram_composed b.1 (each b held)

/-- The documents of a source fail for refusals only. -/
theorem documents_composed (source : Yaml.Source) (serial : Nat) :
    (Program.course ((source.documents serial).values.flatMap program)).Composed :=
  Program.course_flatMap .done .andThen fun value held =>
    program_composed (source.isRecordless_of_documents serial value held)

theorem obstacle?_sourceIllegal (sink : Sink) (label : Option String) (cause : Fault) :
    sink.obstacle? (.sourceIllegal label cause) = none := by
  cases sink with
  | memory => rfl
  | text => cases label <;> rfl

theorem blameCourse_of_makesIllegal (label : Option String) {fault : Fault}
    (illegal : fault.makesIllegal) (m : Moment) :
    (blameCourse label fault m).result = .error (.illegal label fault) := by
  have logged : (emit (.sourceIllegal label fault)).Completes m m :=
    completes_emit fun _ => obstacle?_sourceIllegal ..
  rw [blameCourse, if_pos illegal, result_andThen logged]
  rfl

theorem blameCourse_of_not_makesIllegal (label : Option String) {fault : Fault}
    (other : ¬ fault.makesIllegal) (m : Moment) :
    (blameCourse label fault m).result = .error fault.told := by
  rw [blameCourse, if_neg other]
  rfl

/-- A fault that comes up in a stream is told by the name of the source. -/
theorem streamCourse_of_error {documents : Yaml.Documents} (label : Option String) {m : Moment}
    {fault : Fault} (failed : (Program.course (streamProgram documents) m).result = .error fault) :
    ∃ n, (streamCourse documents label m).result = (blameCourse label fault n).result := by
  simp only [streamCourse, recover, failed]
  exact ⟨_, rfl⟩

theorem streamCourse_of_ok {documents : Yaml.Documents} (label : Option String) {m : Moment}
    (read : (Program.course (streamProgram documents) m).result = .ok ()) :
    (streamCourse documents label m).result = .ok () := by
  simp only [streamCourse, recover, read]

/-- The documents of a stream are walked first, and then the fault comes that ends it. -/
theorem streamProgram_result (documents : Yaml.Documents) (m : Moment) :
    (Program.course (streamProgram documents) m).result =
      match (Program.course (documents.values.flatMap program) m).result, documents.fault? with
      | .error fault, _ => .error fault
      | .ok _, none => .ok ()
      | .ok _, some problem => .error (.document problem) := by
  rw [streamProgram, Program.course_append]
  cases walked : (Program.course (documents.values.flatMap program) m).result with
  | error fault => rw [result_andThen_of_error walked]
  | ok _ =>
    rw [result_andThen ⟨walked, rfl⟩]
    cases documents.fault? <;> rfl

/-- A refusal of the walk is told as it is, or by the name of the source. -/
theorem streamCourse_of_refusal {documents : Yaml.Documents} (label : Option String) {m : Moment}
    {fault : Fault} (refusal : fault.isRefusal)
    (walked : (Program.course (documents.values.flatMap program) m).result = .error fault) :
    (∃ problem, fault = .scope problem ∧
      (streamCourse documents label m).result = .error (.scope problem)) ∨
    (fault.makesIllegal ∧
      (streamCourse documents label m).result = .error (.illegal label fault)) := by
  have failed := streamProgram_result documents m
  rw [walked] at failed
  obtain ⟨n, told⟩ := streamCourse_of_error label failed
  rw [told]
  by_cases illegal : fault.makesIllegal
  · exact .inr ⟨illegal, blameCourse_of_makesIllegal label illegal n⟩
  · rw [blameCourse_of_not_makesIllegal label illegal]
    cases fault with
    | scope problem => exact .inl ⟨problem, rfl, rfl⟩
    | _ => exact absurd refusal illegal

end Document

/-- A misspelling that nothing catches: the text was not looked at before it was read. -/
def Yaml.Fault.isUncaught : Yaml.Fault → Bool
  | .misspelled problem => !problem.isRefusal
  | _ => false

theorem Yaml.Fault.makesIllegal_iff (problem : Yaml.Fault) :
    (Fault.document problem).makesIllegal = !problem.isUncaught := by
  cases problem <;> simp [Fault.makesIllegal, isUncaught]

theorem Session.Intact.withSerial {s : Session} (intact : s.Intact) (serial : Nat) :
    Session.Intact { s with serial := serial } := ⟨intact.changes, intact.stray⟩

theorem Session.reached_default : Session.Reached {} :=
  ⟨{}, .fresh Session.fresh_default, .turn (.build [] rfl), [], List.nil_prefix,
    .refl Session.fresh_default.intact⟩

namespace Action

/-- What comes of walking the documents of a source, whose serials have been used up. -/
def walked (source : Yaml.Source) (s : Session) : Except Fault Unit :=
  let documents := source.documents s.serial
  ((Program.run (documents.values.flatMap Document.program)).run
    { s with serial := documents.serial }).1

theorem walked_eq (source : Yaml.Source) {s : Session} (intact : s.Intact) :
    walked source s = (Program.course ((source.documents s.serial).values.flatMap Document.program)
      ⟨s.reader, (source.documents s.serial).serial, s.sink⟩).result := by
  have operational := Document.isOperational_flatMap Document.program_isOperational
    (source.documents s.serial).values
  exact ((Program.run_follows _ operational).yields _
    (intact.withSerial (source.documents s.serial).serial)).fst_eq

theorem parse_result (source : Yaml.Source) (label : Option String) {s : Session}
    (intact : s.Intact) :
    ((parse source label).run s).1 = (Document.streamCourse (source.documents s.serial) label
      ⟨s.reader, (source.documents s.serial).serial, s.sink⟩).result :=
  (readDocuments_run (intact.withSerial _) _ label).1

/-- Wherever a session has come to, a source is read without a fault if its documents are walked
without one and the stream ends without one. A fault of the walk is one of scope, which is told as
it is, or it makes the source illegal, which is told by the name of the source; so is a fault that
ends the stream, but for misspellings that nothing catches. -/
theorem parse_outcome (source : Yaml.Source) (label : Option String) {s : Session}
    (reached : s.Reached) :
    let ends := (source.documents s.serial).fault?
    let came := ((parse source label).run s).1
    (walked source s = .ok () → ends = none → came = .ok ()) ∧
    (∀ fault, walked source s = .error fault →
      (∃ problem, fault = .scope problem ∧ came = .error (.scope problem)) ∨
      (fault.makesIllegal ∧ came = .error (.illegal label fault))) ∧
    ∀ problem, walked source s = .ok () → ends = some problem →
      came = .error (if problem.isUncaught then .document problem
        else .illegal label (.document problem)) := by
  intro ends came
  have intact := reached.intact
  have composed := Document.documents_composed source s.serial
  have stream := Document.streamProgram_result (source.documents s.serial)
    ⟨s.reader, (source.documents s.serial).serial, s.sink⟩
  have result : came = _ := parse_result source label intact
  rw [walked_eq source intact, result]
  refine ⟨fun walked ended => ?_, fun fault walked => ?_, fun problem walked ended => ?_⟩
  · rw [walked, show (source.documents s.serial).fault? = none from ended] at stream
    exact Document.streamCourse_of_ok label stream
  · exact Document.streamCourse_of_refusal label (composed.isRefusal walked) walked
  · rw [walked, show (source.documents s.serial).fault? = some problem from ended] at stream
    obtain ⟨n, told⟩ := Document.streamCourse_of_error label stream
    rw [told]
    have caught := problem.makesIllegal_iff
    cases uncaught : problem.isUncaught with
    | false =>
      rw [uncaught] at caught
      exact Document.blameCourse_of_makesIllegal label caught n
    | true =>
      rw [uncaught] at caught
      exact Document.blameCourse_of_not_makesIllegal label (by rw [caught]; nofun) n

def unspelledSource : Yaml.Source := .text "privileges:\n- privilege: !!bool maybe\n"

/-- The document is walked no further than its scalar, and what this fails for is not caught. -/
theorem parse_outcome_unspelled :
    walked unspelledSource {} = .ok () ∧
      ((parse unspelledSource (some "policy.yml")).run {}).1 =
        .error (.document (.misspelled (.boolean "maybe"))) := by
  have reached : Session.Reached {} := Session.reached_default
  have read : walked unspelledSource {} = .ok () := by
    have ok : (walked unspelledSource {}).isOk := by decide +kernel
    cases came : walked unspelledSource {} with
    | error => rw [came] at ok; cases ok
    | ok => rfl
  have ends : (unspelledSource.documents 0).fault? = some (.misspelled (.boolean "maybe")) := by
    decide +kernel
  exact ⟨read, (parse_outcome unspelledSource (some "policy.yml") reached).2.2 _ read ends⟩

/-- What comes out of it is none of the faults that this library has codes for. -/
theorem parse_raises_other :
    ¬ ∀ (source : Yaml.Source) (label : Option String) (s : Session), s.Reached →
      ((parse source label).run s).1 = .ok () ∨
        ∃ fault, ((parse source label).run s).1 = .error fault ∧ fault.code?.isSome := by
  intro every
  have fails : ((parse unspelledSource none).run {}).1.isOk = false := by decide +kernel
  have uncoded : ∀ fault ∈ faultsOf ((parse unspelledSource none).run {}).1,
      fault.code?.isSome = false := by decide +kernel
  rcases every unspelledSource none {} Session.reached_default with ok | ⟨fault, failed, coded⟩
  · rw [ok] at fails
    cases fails
  · rw [failed] at uncoded
    exact Bool.noConfusion (coded.symm.trans (uncoded fault (List.mem_singleton.mpr rfl)))

end Action

end AccessPolicy
