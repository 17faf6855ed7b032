import AccessPolicy.Proofs.Reading

/-! Courses that complete, and what they have come to then. A completed course tells a moment from
the one it started at, so that what it declares can be compared with a text. -/

namespace AccessPolicy

def Sink.Takes (sink : Sink) : Prop := ∀ event, sink.accepts event → sink.obstacle? event = none

theorem Sink.memory_takes : Sink.memory.Takes := fun _ _ => rfl

/-- Only what a policy declares may be impossible to write, and that is for debugging. -/
theorem Sink.text_takes {threshold : Nat} (quiet : Level.debug.rank < threshold) :
    (Sink.text threshold).Takes := by
  intro event accepts
  have loud : threshold ≤ event.level.rank := of_decide_eq_true accepts
  cases event with
  | privilegeDeclared | roleDeclared | permissionGranted => exact absurd loud (Nat.not_le.mpr quiet)
  | sourceRead | policyRejected => rfl
  | sourceIllegal label cause => cases label <;> rfl

theorem Sink.obstacle?_sourceRead (sink : Sink) (label : Option String)
    (privileges roles rules : Nat) :
    sink.obstacle? (.sourceRead label privileges roles rules) = none := by
  cases sink <;> rfl

namespace Course

structure Completes (c : Course) (m n : Moment) : Prop where
  result : (c m).result = .ok ()
  moment : m.after (c m).journal = n

variable {c d : Course} {m n : Moment}

theorem completes_done : done.Completes m n ↔ n = m :=
  ⟨fun completes => completes.moment.symm, fun same => ⟨rfl, same.symm⟩⟩

theorem not_completes_refuse {fault : Fault} : ¬ (refuse fault).Completes m n :=
  fun completes => nomatch completes.result

theorem completes_make {journal : Journal} :
    (make journal).Completes m n ↔ n = m.after journal :=
  ⟨fun completes => completes.moment.symm, fun same => ⟨rfl, same.symm⟩⟩

theorem completes_andThen :
    (c.andThen d).Completes m n ↔ ∃ k, c.Completes m k ∧ d.Completes k n := by
  cases came : (c m).result with
  | error fault =>
    constructor
    · intro completes
      have result := completes.result
      simp [andThen, came] at result
    · rintro ⟨k, first, -⟩
      rw [first.result] at came
      cases came
  | ok _ =>
    constructor
    · intro completes
      obtain ⟨result, moment⟩ := completes
      simp only [andThen, came, Moment.after_append] at result moment
      exact ⟨_, ⟨came, rfl⟩, result, moment⟩
    · rintro ⟨k, ⟨-, rfl⟩, second⟩
      constructor <;> simp only [andThen, came, Moment.after_append]
      · exact second.result
      · exact second.moment

theorem result_andThen (completes : c.Completes m n) : ((c.andThen d) m).result = (d n).result := by
  obtain ⟨result, rfl⟩ := completes
  simp only [andThen, result]

theorem result_andThen_of_error {fault : Fault} (failed : (c m).result = .error fault) :
    ((c.andThen d) m).result = .error fault := by
  simp only [andThen, failed]

theorem completes_ending {last : Update} :
    (c.ending last).Completes m n ↔ ∃ k, c.Completes m k ∧ n = last.moment k := by
  constructor
  · rintro ⟨result, rfl⟩
    exact ⟨_, ⟨result, rfl⟩, by simp [ending]⟩
  · rintro ⟨k, ⟨result, rfl⟩, rfl⟩
    exact ⟨result, by simp [ending]⟩

theorem emit_cases (event : LogEvent) (m : Moment) :
    emit event m = done m ∨ emit event m = make [.event event] m ∨
      ∃ fault, emit event m = refuse fault m := by
  unfold emit
  split
  · split
    · exact .inr (.inr ⟨_, rfl⟩)
    · exact .inr (.inl rfl)
  · exact .inl rfl

theorem completes_emit {event : LogEvent}
    (takes : m.sink.accepts event → m.sink.obstacle? event = none) :
    (emit event).Completes m m := by
  unfold emit
  by_cases accepts : m.sink.accepts event
  · constructor
    · simp [accepts, takes accepts, make]
    · simp only [accepts, if_true, takes accepts, make]
      rfl
  · constructor <;> simp [accepts, done]

theorem Completes.of_emit {event : LogEvent} (completes : (emit event).Completes m n) : n = m := by
  obtain ⟨result, rfl⟩ := completes
  rcases emit_cases event m with same | same | ⟨fault, same⟩ <;> rw [same] at result ⊢
  · rfl
  · rfl
  · cases result

/-- Where a fault is always told again, nothing but the course itself completes. -/
theorem Completes.of_recover {handle : Fault → Course}
    (completes : (c.recover handle).Completes m n)
    (fails : ∀ fault k n, ¬ (handle fault).Completes k n) : c.Completes m n := by
  obtain ⟨result, moment⟩ := completes
  cases came : (c m).result with
  | ok _ =>
    simp only [recover, came] at result moment
    exact ⟨came, moment⟩
  | error fault =>
    simp only [recover, came] at result
    exact (fails fault _ _ ⟨result, rfl⟩).elim

end Course

open Course

variable {m n : Moment}

theorem Role.completes_currentCourse {fault : ScopeFault} {next : Value → Course}
    (completes : (currentCourse fault next).Completes m n) :
    ∃ role, m.reader.role = some role ∧ (next role).Completes m n := by
  obtain ⟨result, moment⟩ := completes
  cases role : m.reader.role with
  | none =>
    simp only [currentCourse, role] at result
    cases result
  | some role' =>
    simp only [currentCourse, role] at result moment
    exact ⟨role', rfl, result, moment⟩

theorem Grant.completes_currentCourse {fault : ScopeFault} {next : Nat → Course}
    (completes : (currentCourse fault next).Completes m n) :
    ∃ place, m.reader.rule = some place ∧ (next place).Completes m n := by
  obtain ⟨result, moment⟩ := completes
  cases rule : m.reader.rule with
  | none =>
    simp only [currentCourse, rule] at result
    cases result
  | some place =>
    simp only [currentCourse, rule] at result moment
    exact ⟨place, rfl, result, moment⟩

theorem Privilege.completes_includesCourse {names : List Value}
    (completes : (includesCourse names).Completes m n) :
    ∃ name, m.reader.privilege = some name ∧
      (includeCourse name m.reader.context (Value.leavesOf names)).Completes m n := by
  obtain ⟨result, moment⟩ := completes
  cases name : m.reader.privilege with
  | none =>
    simp only [includesCourse, name] at result
    cases result
  | some name' =>
    simp only [includesCourse, name] at result moment
    exact ⟨name', rfl, result, moment⟩

theorem Grant.completes_closing {body : Course} (completes : (closing body).Completes m n) :
    ∃ k, body.Completes m k ∧ n = Update.completeGrant.moment k := by
  obtain ⟨result, moment⟩ := completes
  cases came : (body m).result with
  | ok _ =>
    simp only [closing, came, Moment.after_append] at moment
    exact ⟨_, ⟨came, rfl⟩, moment.symm⟩
  | error fault =>
    simp only [closing, came] at result
    cases result

theorem Grant.completes_blockCourse {place : Nat} {body : Course}
    (completes : (blockCourse place (some body)).Completes m n) :
    ∃ k, body.Completes ((Update.enterGrant place).moment m) k ∧
      n = Update.completeGrant.moment k := by
  obtain ⟨k, entered, closes⟩ := completes_andThen.mp
    (show ((make [.enterGrant place]).andThen (closing body)).Completes m n from completes)
  obtain rfl := completes_make.mp entered
  exact completes_closing closes

/-- The body of a grant runs where its rule has been appended. -/
theorem Grant.completes_ruleCourse {rule : Rule} {body : Option Course}
    (completes : (ruleCourse rule body).Completes m n) :
    (blockCourse m.reader.tables.rules.length body).Completes
      ((Update.rule rule).moment m) n := by
  have parted : ((make [.rule rule]).andThen
      ((emit (.permissionGranted rule.role rule.context rule.privileges)).andThen
        (blockCourse m.reader.tables.rules.length body))).Completes m n :=
    ⟨completes.result, completes.moment⟩
  obtain ⟨k, appended, rest⟩ := completes_andThen.mp parted
  obtain rfl := completes_make.mp appended
  obtain ⟨l, logged, within⟩ := completes_andThen.mp rest
  obtain rfl := logged.of_emit
  exact within

namespace Program

theorem course_append (p q : List Step) : course (p ++ q) = (course p).andThen (course q) := by
  induction p with
  | nil => rfl
  | cons step rest ih => rw [List.cons_append, course, course, ih, andThen_assoc]

theorem course_flatMap {α : Type} {holds : Course → Prop} (nothing : holds done)
    (andThen : ∀ {c d}, holds c → holds d → holds (c.andThen d)) {f : α → Program}
    {values : List α} (each : ∀ a ∈ values, holds (course (f a))) :
    holds (course (values.flatMap f)) := by
  induction values with
  | nil => exact nothing
  | cons a rest ih =>
    obtain ⟨first, others⟩ := List.forall_mem_cons.mp each
    rw [List.flatMap_cons, course_append]
    exact andThen first (ih others)

end Program

namespace Document

theorem not_completes_blameCourse (label : Option String) (fault : Fault) :
    ¬ (blameCourse label fault).Completes m n := by
  intro completes
  unfold blameCourse at completes
  split at completes
  · obtain ⟨k, -, refused⟩ := completes_andThen.mp completes
    exact not_completes_refuse refused
  · exact not_completes_refuse completes

variable {documents : Yaml.Documents}

theorem streamCourse_eq (label : Option String) (ends : documents.fault? = none)
    (walked : (Program.course (documents.values.flatMap program)).Completes m n) :
    streamCourse documents label m = Program.course (documents.values.flatMap program) m := by
  have whole : streamProgram documents = documents.values.flatMap program := by
    simp [streamProgram, ends]
  simp only [streamCourse, recover, whole, walked.result]

/-- A stream is read if its program completes and no fault ends it. -/
theorem completes_streamCourse {label : Option String} :
    (streamCourse documents label).Completes m n ↔ documents.fault? = none ∧
      (Program.course (documents.values.flatMap program)).Completes m n := by
  constructor
  · intro read
    have completed := read.of_recover fun fault _ _ => not_completes_blameCourse label fault
    rw [streamProgram, Program.course_append] at completed
    obtain ⟨l, values, fault⟩ := completes_andThen.mp completed
    cases ends : documents.fault? with
    | none =>
      simp only [ends, Option.toList_none, List.map_nil, Program.course, completes_done] at fault
      exact ⟨rfl, fault ▸ values⟩
    | some cause =>
      simp only [ends, Option.toList_some, List.map_cons, List.map_nil, Program.course,
        Program.stepCourse, andThen_done] at fault
      exact (not_completes_refuse fault).elim
  · rintro ⟨ends, walked⟩
    have same := streamCourse_eq label ends walked
    exact ⟨same ▸ walked.result, same ▸ walked.moment⟩

theorem completes_readCourse (label : Option String) : (readCourse label).Completes m m := by
  let tables := m.reader.tables
  have read : (emit (.sourceRead label tables.privileges.length tables.roles.length
      tables.rules.length)).Completes m m := completes_emit fun _ => Sink.obstacle?_sourceRead ..
  exact ⟨read.result, read.moment⟩

/-- The event for a stream that has been read can always be written. -/
theorem completes_course {label : Option String} :
    (course documents label).Completes m n ↔ documents.fault? = none ∧
      (Program.course (documents.values.flatMap program)).Completes m n := by
  rw [← @completes_streamCourse _ _ _ label]
  constructor
  · intro completes
    obtain ⟨k, read, logged⟩ := completes_andThen.mp completes
    obtain rfl := Completes.of_emit
      (show (emit _).Completes k n from ⟨logged.result, logged.moment⟩)
    exact read
  · intro read
    exact completes_andThen.mpr ⟨n, read, completes_readCourse label⟩

/-- The event for a stream that has been read neither fails nor changes anything. -/
theorem course_eq (documents : Yaml.Documents) (label : Option String) (m : Moment) :
    (course documents label m).result = (streamCourse documents label m).result ∧
      ∀ t : Tables, Journal.tables (course documents label m).journal t =
        Journal.tables (streamCourse documents label m).journal t := by
  let k := m.after (streamCourse documents label m).journal
  cases came : (streamCourse documents label m).result with
  | error fault => simp [course, andThen, came]
  | ok _ =>
    have logged : (readCourse label k).result = .ok () := (completes_readCourse label).result
    have quiet (t : Tables) : Journal.tables (readCourse label k).journal t = t := by
      rcases emit_cases _ k with same | same | ⟨fault, same⟩ <;>
        rw [show readCourse label k = _ from same] <;> rfl
    refine ⟨?_, fun t => ?_⟩
    · simpa only [course, andThen, came] using logged
    · simpa only [course, andThen, came, Journal.tables_append] using quiet _

end Document

/-- The result and the tables of a stream that is read are those of its course. -/
theorem readDocuments_run {s : Session} (intact : s.Intact)
    (documents : Yaml.Documents) (label : Option String) :
    ((Action.readDocuments documents label).run s).1 =
        (Document.streamCourse documents label s.moment).result ∧
      ((Action.readDocuments documents label).run s).2.reader.tables =
        Journal.tables (Document.streamCourse documents label s.moment).journal s.reader.tables := by
  have yields := (Action.readDocuments_follows documents label).yields s intact
  obtain ⟨same, tables⟩ := Document.course_eq documents label s.moment
  exact ⟨yields.fst_eq.trans same, yields.advance.tables.trans (tables _)⟩

end AccessPolicy
