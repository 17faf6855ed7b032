import AccessPolicy.Proofs.Completion

/-! How courses are put together. What a course comes to is shown once for all the ways of putting
courses together: which faults it may fail for, and that it matters little where events go. -/

namespace AccessPolicy

def faultsOf {α : Type} : Except Fault α → List Fault
  | .ok _ => []
  | .error fault => [fault]

/-- A fault of scope, or one that makes a source illegal. -/
def Fault.isRefusal : Fault → Bool
  | .scope _ => true
  | fault => fault.makesIllegal

theorem Fault.isRefusal_of_makesIllegal {fault : Fault} (illegal : fault.makesIllegal) :
    fault.isRefusal := by
  unfold isRefusal
  split
  · rfl
  · exact illegal

theorem Fault.isRefusal_told {fault : Fault} (refusal : fault.isRefusal) :
    fault.told.isRefusal := by
  unfold told
  split
  · rfl
  · exact refusal

theorem eq_some_of_orElse {α : Type} {a b : Option α} {x : α} (found : (a <|> b) = some x) :
    a = some x ∨ b = some x := by
  cases a with
  | some => exact .inl found
  | none => exact .inr found

namespace Value

theorem blamed_of_keyWritingFault? {key : Value} {fault : Fault}
    (unwritable : key.keyWritingFault? = some fault) : fault.makesIllegal ∧ fault.told = fault := by
  unfold keyWritingFault? at unwritable
  split at unwritable
  · split at unwritable <;> cases unwritable
    exact ⟨rfl, rfl⟩
  all_goals cases unwritable
  all_goals exact ⟨rfl, rfl⟩

/-- A value that cannot be written out is refused for it, and this is told as it is. -/
theorem blamed_of_writingFault? : ∀ (value : Value) (fault : Fault),
    value.writingFault? = some fault → fault.makesIllegal ∧ fault.told = fault := by
  refine writingFault?.induct
    (fun value => ∀ fault, value.writingFault? = some fault →
      fault.makesIllegal ∧ fault.told = fault)
    (fun entries => ∀ fault, entriesWritingFault? entries = some fault →
      fault.makesIllegal ∧ fault.told = fault)
    (fun items => ∀ fault, itemsWritingFault? items = some fault →
      fault.makesIllegal ∧ fault.told = fault)
    ?_ ?_ ?_ ?_ ?_ ?_ ?_ ?_ ?_ ?_
  · intro items each fault failed
    exact each fault (by rwa [writingFault?] at failed)
  · intro items each fault failed
    exact each fault (by rwa [writingFault?] at failed)
  · intro entries each fault failed
    exact each fault (by rwa [writingFault?] at failed)
  · intro serial value within fault failed
    rw [writingFault?] at failed
    rcases eq_some_of_orElse failed with inner | itself
    · exact within fault inner
    · cases itself
      exact ⟨rfl, rfl⟩
  · intro value notList notTuple notMap notCyclic long fault failed
    rw [writingFault?, if_pos long] at failed <;> try assumption
    cases failed
    exact ⟨rfl, rfl⟩
  · intro value notList notTuple notMap notCyclic short fault failed
    rw [writingFault?, if_neg short] at failed <;> try assumption
    cases failed
  · intro fault failed
    cases failed
  · intro item rest first others fault failed
    rw [itemsWritingFault?] at failed
    rcases eq_some_of_orElse failed with here | later
    · exact first fault here
    · exact others fault later
  · intro fault failed
    cases failed
  · intro key value rest first others fault failed
    rw [entriesWritingFault?] at failed
    rcases eq_some_of_orElse failed with here | later
    · exact blamed_of_keyWritingFault? here
    · rcases eq_some_of_orElse later with here | later
      · exact first fault here
      · exact others fault later

end Value

theorem Sink.blamed_of_obstacle? {sink : Sink} {event : LogEvent} {fault : Fault}
    (unwritable : sink.obstacle? event = some fault) : fault.makesIllegal ∧ fault.told = fault := by
  unfold obstacle? at unwritable
  split at unwritable
  · cases unwritable
  · split at unwritable
    · cases unwritable
    · obtain ⟨field, -, failed⟩ := List.exists_of_findSome?_eq_some unwritable
      exact Value.blamed_of_writingFault? _ _ failed

namespace Course

/-- The courses that are put together from updates, events and refusals; what comes next is chosen
by the reader and the serial. -/
inductive Composed : Course → Prop
  | done : Composed done
  | refuse {fault : Fault} : fault.isRefusal → Composed (refuse fault)
  | make {journal : Journal} : journal.events = [] → Composed (make journal)
  | emit (event : LogEvent) : Composed (emit event)
  | andThen {c d : Course} : Composed c → Composed d → Composed (c.andThen d)
  | ending {c : Course} {last : Update} : last.event? = none → Composed c →
    Composed (c.ending last)
  | closing {c : Course} : Composed c → Composed (Grant.closing c)
  | chosen {c : Course} (next : Reader → Nat → Course) : (∀ r n, Composed (next r n)) →
    (∀ m, c m = next m.reader m.serial m) → Composed c

/-- A composed course fails for a refusal only. -/
theorem Composed.isRefusal {c : Course} (composed : Composed c) {m : Moment} {fault : Fault}
    (failed : (c m).result = .error fault) : fault.isRefusal := by
  induction composed generalizing m with
  | done => cases failed
  | refuse refusal =>
    cases failed
    exact Fault.isRefusal_told refusal
  | make => cases failed
  | emit event =>
    unfold Course.emit at failed
    split at failed
    · split at failed
      · rename_i obstacle
        cases failed
        exact Fault.isRefusal_told
          (Fault.isRefusal_of_makesIllegal (Sink.blamed_of_obstacle? obstacle).1)
      · cases failed
    · cases failed
  | @andThen c d _ _ first second =>
    cases came : (c m).result with
    | error earlier =>
      rw [result_andThen_of_error came] at failed
      cases failed
      exact first came
    | ok _ =>
      rw [result_andThen ⟨came, rfl⟩] at failed
      exact second failed
  | ending _ _ ih => exact ih failed
  | @closing c _ ih =>
    cases came : (c m).result with
    | error earlier =>
      simp only [Grant.closing, came] at failed
      cases failed
      exact ih came
    | ok _ =>
      simp only [Grant.closing, came] at failed
      cases failed
  | chosen next _ same ih =>
    rw [same] at failed
    exact ih _ _ failed

end Course

def Moment.heardBy (m : Moment) (sink : Sink) : Moment := { m with sink := sink }

namespace Moment

theorem heardBy_moment (m : Moment) (sink : Sink) (u : Update) :
    u.moment (m.heardBy sink) = (u.moment m).heardBy sink := by
  cases u <;> rfl

theorem heardBy_after (m : Moment) (sink : Sink) (j : Journal) :
    (m.heardBy sink).after j = (m.after j).heardBy sink := by
  induction j generalizing m with
  | nil => rfl
  | cons u j ih => rw [after_cons, after_cons, heardBy_moment, ih]

end Moment

/-- Of all that is logged, the sink takes what it accepts. -/
def Sink.TakesAll (sink : Sink) (events : List LogEvent) : Prop :=
  ∀ event ∈ events, sink.accepts event → sink.obstacle? event = none

theorem Sink.takesAll_nil (sink : Sink) : sink.TakesAll [] := nofun

theorem Sink.takesAll_append {sink : Sink} {events more : List LogEvent} :
    sink.TakesAll (events ++ more) ↔ sink.TakesAll events ∧ sink.TakesAll more := by
  simp only [TakesAll, List.forall_mem_append]

namespace Sink

variable {sink : Sink}

/-- What a sink makes of events in turn: it writes those it accepts, up to one that it cannot
write. -/
def hear (sink : Sink) : List LogEvent → List LogEvent × Option Fault
  | [] => ([], none)
  | event :: rest =>
    if sink.accepts event then
      match sink.obstacle? event with
      | some fault => ([], some fault)
      | none => (event :: (sink.hear rest).1, (sink.hear rest).2)
    else sink.hear rest

theorem hear_append (events more : List LogEvent) :
    sink.hear (events ++ more) = match (sink.hear events).2 with
      | some fault => ((sink.hear events).1, some fault)
      | none => ((sink.hear events).1 ++ (sink.hear more).1, (sink.hear more).2) := by
  induction events with
  | nil => rfl
  | cons event rest ih =>
    simp only [List.cons_append, hear, ih]
    split
    · split
      · rfl
      · cases (sink.hear rest).2 <;> rfl
    · rfl

theorem hear_append_of_none {events : List LogEvent} (heard : (sink.hear events).2 = none)
    (more : List LogEvent) :
    sink.hear (events ++ more) = ((sink.hear events).1 ++ (sink.hear more).1, (sink.hear more).2) := by
  rw [hear_append, heard]

theorem hear_append_of_some {events more : List LogEvent} {fault : Fault}
    (heard : (sink.hear events).2 = some fault) :
    sink.hear (events ++ more) = ((sink.hear events).1, some fault) := by
  rw [hear_append, heard]

/-- Nothing stands in the way if all that is accepted is taken. -/
theorem hear_eq_none_iff {events : List LogEvent} :
    (sink.hear events).2 = none ↔ sink.TakesAll events := by
  induction events with
  | nil => exact ⟨fun _ => nofun, fun _ => rfl⟩
  | cons event rest ih =>
    simp only [hear, TakesAll, List.forall_mem_cons, ← show _ ↔ ∀ event ∈ rest, _ from ih]
    by_cases accepts : sink.accepts event
    · cases sink.obstacle? event <;> simp [accepts]
    · simp [accepts]

theorem obstacle?_of_hear {events : List LogEvent} {fault : Fault}
    (heard : (sink.hear events).2 = some fault) : ∃ event, sink.obstacle? event = some fault := by
  induction events with
  | nil => cases heard
  | cons event rest ih =>
    unfold hear at heard
    split at heard
    · split at heard
      · cases heard
        exact ⟨event, ‹_›⟩
      · exact ih heard
    · exact ih heard

/-- Events that are taken are those that are accepted. -/
theorem hear_of_takesAll {events : List LogEvent} (takes : sink.TakesAll events) :
    (sink.hear events).1 = events.filter sink.accepts := by
  induction events with
  | nil => rfl
  | cons event rest ih =>
    obtain ⟨first, others⟩ := List.forall_mem_cons.mp takes
    by_cases accepts : sink.accepts event
    · simp only [hear, accepts, if_true, first accepts, List.filter_cons, ih others]
    · simp [hear, accepts, ih others]

end Sink

namespace Course

theorem takesAll_emit {event : LogEvent} (m : Moment) {sink : Sink}
    (never : sink.obstacle? event = none) : sink.TakesAll (emit event m).journal.events := by
  intro other held _
  rcases emit_cases event m with same | same | ⟨fault, same⟩ <;> rw [same] at held
  · cases held
  · cases List.mem_singleton.mp held
    exact never
  · cases held

/-- How a course goes with a sink, compared with how it goes where all events are kept: it comes
to the same up to an event that cannot be written, and fails for that. -/
structure HeardBy (sink : Sink) (m : Moment) (kept heard : Run) : Prop where
  events : heard.journal.events = (sink.hear kept.journal.events).1
  same : (sink.hear kept.journal.events).2 = none → heard.result = kept.result ∧
    (m.heardBy sink).after heard.journal = (m.after kept.journal).heardBy sink
  fails : ∀ fault, (sink.hear kept.journal.events).2 = some fault → heard.result = .error fault

/-- What follows on a run whose events can all be written. -/
theorem HeardBy.append {sink : Sink} {m : Moment} {kept heard next next' : Run}
    (begun : HeardBy sink m kept heard) (taken : (sink.hear kept.journal.events).2 = none)
    (later : HeardBy sink (m.after kept.journal) next next') :
    HeardBy sink m ⟨next.result, kept.journal ++ next.journal⟩
      ⟨next'.result, heard.journal ++ next'.journal⟩ := by
  have hear := Sink.hear_append_of_none taken next.journal.events
  constructor <;> simp only [Journal.events_append, hear]
  · rw [begun.events, later.events]
  · intro all
    obtain ⟨result, moment⟩ := later.same all
    refine ⟨result, ?_⟩
    simp only [Moment.after_append, (begun.same taken).2]
    exact moment
  · exact later.fails

/-- Where events go matters to the course only in that some may not be writable. -/
def Hears (c : Course) : Prop :=
  ∀ (m : Moment) (sink : Sink), m.sink = .memory → HeardBy sink m (c m) (c (m.heardBy sink))

theorem HeardBy.andThen {c d : Course} {sink : Sink} {m : Moment}
    (begun : HeardBy sink m (c m) (c (m.heardBy sink))) (kept : m.sink = .memory)
    (second : Hears d) : HeardBy sink m (c.andThen d m) (c.andThen d (m.heardBy sink)) := by
  cases obstacle : (sink.hear (c m).journal.events).2 with
  | some fault =>
    have failed := begun.fails fault obstacle
    have heard : c.andThen d (m.heardBy sink) = c (m.heardBy sink) := by
      simp only [Course.andThen, failed]
      rw [← failed]
    have whole : sink.hear (c.andThen d m).journal.events =
        ((sink.hear (c m).journal.events).1, some fault) := by
      cases came : (c m).result with
      | error => simp only [Course.andThen, came, ← obstacle]
      | ok =>
        simp only [Course.andThen, came, Journal.events_append, Sink.hear_append_of_some obstacle]
    rw [heard]
    constructor <;> rw [whole]
    · exact begun.events
    · rintro ⟨⟩
    · rintro _ ⟨⟩
      exact failed
  | none =>
    obtain ⟨result, moment⟩ := begun.same obstacle
    cases came : (c m).result with
    | error fault =>
      rw [came] at result
      have heard : c.andThen d (m.heardBy sink) = c (m.heardBy sink) := by
        simp only [Course.andThen, result]
        rw [← result]
      have whole : c.andThen d m = c m := by
        simp only [Course.andThen, came]
        rw [← came]
      rw [heard, whole]
      exact begun
    | ok _ =>
      rw [came] at result
      have more := begun.append obstacle (second _ sink ((Moment.sink_after ..).trans kept))
      rw [← moment] at more
      simpa only [Course.andThen, came, result] using more

namespace Hears

variable {c d : Course}

/-- A course without events that does not look at the sink. -/
theorem of_quiet (quiet : ∀ m, (c m).journal.events = [])
    (same : ∀ m sink, c (m.heardBy sink) = c m) : Hears c := by
  intro m sink _
  rw [same]
  refine ⟨?_, fun _ => ⟨rfl, m.heardBy_after sink _⟩, ?_⟩ <;> rw [quiet]
  · rfl
  · exact nofun

theorem done : Hears done := of_quiet (fun _ => rfl) fun _ _ => rfl

theorem refuse (fault : Fault) : Hears (refuse fault) := of_quiet (fun _ => rfl) fun _ _ => rfl

theorem make {journal : Journal} (quiet : journal.events = []) : Hears (make journal) :=
  of_quiet (fun _ => quiet) fun _ _ => rfl

theorem emit (event : LogEvent) : Hears (emit event) := by
  intro m sink kept
  have noted : Course.emit event m = Course.make [.event event] m := by
    simp [Course.emit, kept, Sink.accepts, Sink.obstacle?]
  have events (k : Moment) : (Course.make [.event event] k).journal.events = [event] := rfl
  have sinks : (m.heardBy sink).sink = sink := rfl
  by_cases accepts : sink.accepts event
  · cases obstacle : sink.obstacle? event with
    | none =>
      have heard : Course.emit event (m.heardBy sink) = Course.make [.event event] (m.heardBy sink) := by
        simp only [Course.emit, sinks, accepts, obstacle, if_true]
      have hear : sink.hear [event] = ([event], none) := by simp [Sink.hear, accepts, obstacle]
      rw [noted, heard]
      refine ⟨?_, fun _ => ⟨rfl, rfl⟩, ?_⟩ <;> simp only [events, hear]
      rintro _ ⟨⟩
    | some fault =>
      have heard : Course.emit event (m.heardBy sink) = Course.refuse fault (m.heardBy sink) := by
        simp only [Course.emit, sinks, accepts, obstacle, if_true]
      have told := (Sink.blamed_of_obstacle? obstacle).2
      have hear : sink.hear [event] = ([], some fault) := by simp [Sink.hear, accepts, obstacle]
      rw [noted, heard]
      constructor <;> simp only [events, hear]
      · rfl
      · rintro ⟨⟩
      · rintro _ ⟨⟩
        simp only [Course.refuse, told]
  · have heard : Course.emit event (m.heardBy sink) = Course.done (m.heardBy sink) := by
      simp only [Course.emit, sinks, accepts, if_false, Bool.false_eq_true]
    have hear : sink.hear [event] = ([], none) := by simp [Sink.hear, accepts]
    rw [noted, heard]
    refine ⟨?_, fun _ => ⟨rfl, rfl⟩, ?_⟩ <;> simp only [events, hear]
    · rfl
    · rintro _ ⟨⟩

theorem andThen (first : Hears c) (second : Hears d) : Hears (c.andThen d) :=
  fun m sink kept => (first m sink kept).andThen kept second

/-- Updates that are no events may follow, whatever they depend on. -/
theorem followed {e : Course} (hears : Hears c) (last : Except Fault Unit → Update)
    (quiet : ∀ result, (last result).event? = none)
    (ends : ∀ m, e m = ⟨(c m).result, (c m).journal ++ [last (c m).result]⟩) : Hears e := by
  intro m sink kept
  obtain ⟨events, same, fails⟩ := hears m sink kept
  have silent (run : Run) :
      Journal.events (run.journal ++ [last run.result]) = run.journal.events := by
    simp [Journal.events, quiet]
  rw [ends, ends]
  constructor <;> simp only [silent]
  · exact events
  · intro taken
    obtain ⟨result, moment⟩ := same taken
    refine ⟨result, ?_⟩
    simp only [Moment.after_append, moment, result]
    exact Moment.heardBy_moment _ _ _
  · exact fails

end Hears

/-- Where events go matters to a composed course only in that some may not be writable. -/
theorem Composed.hears {c : Course} (composed : Composed c) : Hears c := by
  induction composed with
  | done => exact .done
  | refuse => exact .refuse _
  | make quiet => exact .make quiet
  | emit event => exact .emit event
  | andThen _ _ first second => exact first.andThen second
  | @ending c last quiet _ ih => exact ih.followed (fun _ => last) (fun _ => quiet) fun _ => rfl
  | @closing c _ ih =>
    refine ih.followed (fun result => if result.isOk then .completeGrant else .abandonGrant)
      (fun result => by cases result <;> rfl) fun m => ?_
    cases came : (c m).result <;> simp only [Grant.closing, came] <;> rfl
  | @chosen c next _ same ih =>
    intro m sink kept
    rw [same, same]
    exact ih _ _ m sink kept

/-- Where a sink takes what is otherwise kept, a course comes to the same with it. -/
theorem Composed.heardBy {c : Course} (composed : Composed c) {m : Moment} (kept : m.sink = .memory)
    {sink : Sink} (takes : sink.TakesAll (c m).journal.events) :
    (c (m.heardBy sink)).result = (c m).result ∧
      (m.heardBy sink).after (c (m.heardBy sink)).journal =
        (m.after (c m).journal).heardBy sink :=
  (composed.hears m sink kept).same (Sink.hear_eq_none_iff.mpr takes)

/-- A sink at which a course completes has taken what is otherwise kept. -/
theorem Composed.takesAll {c : Course} (composed : Composed c) {m n : Moment}
    (kept : m.sink = .memory) {sink : Sink} (completes : c.Completes (m.heardBy sink) n) :
    sink.TakesAll (c m).journal.events := by
  refine Sink.hear_eq_none_iff.mp (Option.eq_none_iff_forall_ne_some.mpr fun fault untaken => ?_)
  have failed := (composed.hears m sink kept).fails fault untaken
  rw [completes.result] at failed
  cases failed

end Course

open Course

theorem Course.composed_keyed (key : Value) {u : Update} (quiet : u.event? = none) :
    (keyed key u).Composed := by
  unfold keyed
  split
  · exact .refuse rfl
  · exact .make (by simp [Journal.events, quiet])

/-- A course for what is open, if anything is. -/
theorem Course.composed_of_open {α : Type} {c : Course} (isOpen : Reader → Option α)
    (fault : ScopeFault) (next : Reader → α → Course) (each : ∀ r a, (next r a).Composed)
    (without : ∀ m, isOpen m.reader = none → c m = refuse (.scope fault) m)
    (within : ∀ m a, isOpen m.reader = some a → c m = next m.reader a m) : c.Composed := by
  refine .chosen (fun r _ => (isOpen r).elim (refuse (.scope fault)) (next r)) (fun r _ => ?_)
    fun m => ?_
  · cases isOpen r with
    | none => exact .refuse rfl
    | some a => exact each r a
  · cases found : isOpen m.reader with
    | none => exact without m found
    | some a => exact within m a found

variable {body : Option Course}

namespace Privilege

theorem includeCourse_composed (name context : Value) (names : List Value) :
    (includeCourse name context names).Composed := by
  induction names with
  | nil => exact .done
  | cons lower rest ih => exact (Composed.make rfl).andThen ((composed_keyed name rfl).andThen ih)

theorem includesCourse_composed (names : List Value) : (includesCourse names).Composed := by
  refine composed_of_open Reader.privilege (.includesOutsidePrivilege names)
    (fun r name => includeCourse name r.context (Value.leavesOf names))
    (fun r name => includeCourse_composed ..) (fun m none => ?_) fun m name some => ?_
  · simp only [includesCourse, none]
  · simp only [includesCourse, some]

theorem includeGivenCourse_composed (options : Table Value) :
    (includeGivenCourse options).Composed :=
  of_includeGivenCourse .done includesCourse_composed options

/-- Options that are no record are a map, or they are of a wrong type. -/
theorem makesIllegal_of_optionEntries {options : Value} {fault : Fault}
    (table : ∀ fields, options ≠ .record fields) (failed : optionEntries options = .error fault) :
    fault.makesIllegal := by
  have unkeyed : options.keyedEntries? = none := by
    unfold Value.keyedEntries?
    split
    · exact absurd rfl (table _)
    · rfl
  unfold optionEntries at failed
  rw [unkeyed] at failed
  split at failed
  · cases failed
  · contradiction
  · contradiction
  · contradiction
  · split at failed <;> cases failed
    rfl

theorem courseIn_composed (inner : ∀ c ∈ body, c.Composed) (name context : Value) {options : Value}
    (table : ∀ fields, options ≠ .record fields) (extra : List (String × Value)) :
    (courseIn name context options extra body).Composed := by
  obtain ⟨fault, failed | ⟨keys, rfl⟩, same⟩ | ⟨entries, -, same⟩ :=
    courseIn_cases name context options extra
  · rw [same]
    exact .refuse (Fault.isRefusal_of_makesIllegal (makesIllegal_of_optionEntries table failed))
  · rw [same]
    exact .refuse rfl
  · rw [same]
    refine (Composed.make rfl).andThen (.ending rfl ((Composed.make rfl).andThen ?_))
    exact (Composed.emit _).andThen
      ((of_getD .done inner).andThen (includeGivenCourse_composed _))

theorem course_composed (inner : ∀ c ∈ body, c.Composed) (name context : Value) {options : Value}
    (table : ∀ fields, options ≠ .record fields) (extra : List (String × Value)) :
    (course name context options extra body).Composed := by
  unfold course
  split
  · rename_i isMap
    refine courseIn_composed inner name .null (fun fields same => ?_) extra
    rw [same] at isMap
    cases isMap
  · exact courseIn_composed inner name context table extra

end Privilege

namespace Role

theorem givenCourse_composed {set : Course} (composed : set.Composed) (text : Value) :
    (givenCourse text set).Composed := of_givenCourse .done composed text

theorem course_composed (inner : ∀ c ∈ body, c.Composed) (role title description : Value) :
    (course role title description body).Composed := by
  have registers : (registerCourse role title description).Composed :=
    (Composed.make rfl).andThen ((givenCourse_composed (composed_keyed role rfl) title).andThen
      (givenCourse_composed (composed_keyed role rfl) description))
  exact registers.andThen ((Composed.make rfl).andThen
    (.ending rfl ((Composed.emit _).andThen (of_getD .done inner))))

theorem currentCourse_composed {fault : ScopeFault} {next : Value → Course}
    (each : ∀ role, (next role).Composed) : (currentCourse fault next).Composed := by
  refine composed_of_open Reader.role fault (fun _ => next) (fun _ => each) (fun m none => ?_)
    fun m role some => ?_
  · simp only [currentCourse, none]
  · simp only [currentCourse, some]

end Role

namespace Grant

theorem blockCourse_composed (inner : ∀ c ∈ body, c.Composed) (place : Nat) :
    (blockCourse place body).Composed := by
  cases body with
  | none => exact .done
  | some c => exact (Composed.make rfl).andThen (.closing (inner c rfl))

theorem course_composed (inner : ∀ c ∈ body, c.Composed) (context privileges : Value) :
    (course context privileges body).Composed := by
  refine Role.currentCourse_composed fun role => ?_
  split
  · exact .refuse rfl
  · refine .chosen (fun r _ => (make [.rule _]).andThen ((emit (.permissionGranted _ _ _)).andThen
      (blockCourse r.tables.rules.length body))) (fun r _ => ?_) fun m => rfl
    exact (Composed.make rfl).andThen ((Composed.emit _).andThen (blockCourse_composed inner _))

theorem currentCourse_composed {fault : ScopeFault} {next : Nat → Course}
    (each : ∀ place, (next place).Composed) : (currentCourse fault next).Composed := by
  refine composed_of_open Reader.rule fault (fun _ => next) (fun _ => each) (fun m none => ?_)
    fun m place some => ?_
  · simp only [currentCourse, none]
  · simp only [currentCourse, some]

theorem conditionsCourse_composed (given : Value) (place : Nat) :
    (conditionsCourse given place).Composed := by
  refine .chosen (fun _ n m => conditionsCourse given place { m with serial := n })
    (fun _ n => ?_) fun m => rfl
  cases read : Conditions.read n given with
  | error fault =>
    have same : (fun m : Moment => conditionsCourse given place { m with serial := n }) =
        refuse fault := by
      funext m
      simp only [conditionsCourse, read]
      rfl
    rw [same]
    unfold Conditions.read at read
    split at read <;> cases read
    exact .refuse rfl
  | ok came =>
    have same : (fun m : Moment => conditionsCourse given place { m with serial := n }) =
        make [.serial came.2, .conditions place came.1] := by
      funext m
      simp only [conditionsCourse, read]
      rfl
    rw [same]
    exact .make rfl

end Grant

namespace Statement

variable {options : List (Value × Value)}

/-- An option is no record if none of the values given is one. -/
theorem option_ne_record (tables : ∀ o ∈ options, ∀ fields, o.2 ≠ .record fields) (name : String)
    (fields : List (String × Value)) : option name options ≠ .record fields := by
  cases found : option? name options with
  | none => simp [option, found]
  | some value =>
    obtain ⟨o, held, rfl⟩ := mem_of_option? found
    simpa [option, found] using tables o held fields

/-- The course of a statement is composed if those of its bodies are, and none of its options is a
record. -/
theorem step_composed (block : Block) (keyword argument : Value)
    (bodies : ∀ o ∈ options, (Program.course (program block o.2)).Composed)
    (tables : ∀ o ∈ options, ∀ fields, o.2 ≠ .record fields) :
    (Program.stepCourse (step block keyword argument (arguments block options))).Composed := by
  have inner := forall_optionBody bodies
  have refused (fault : Fault) (illegal : fault.makesIllegal) : (refuse fault).Composed :=
    .refuse (Fault.isRefusal_of_makesIllegal illegal)
  cases known : keyword? block keyword with
  | none =>
    rw [stepCourse_unknown known]
    exact refused _ rfl
  | some found =>
    obtain ⟨name, shape⟩ := found
    obtain ⟨rfl, isKeyword⟩ := isKeyword_of_keyword? known
    cases isKeyword with
    | privilege =>
      refine stepCourse_of_block refused rfl rfl fun ⟨named, keyed, fits⟩ => ?_
      rw [stepCourse_privilege keyed fits]
      exact Privilege.course_composed inner _ _ (option_ne_record tables _) _
    | includePrivileges =>
      exact stepCourse_of_names refused rfl rfl fun _ _ => Privilege.includesCourse_composed _
    | role =>
      refine stepCourse_of_block refused rfl rfl fun ⟨named, keyed, fits⟩ => ?_
      rw [stepCourse_role keyed fits]
      exact Role.course_composed inner ..
    | includeRoles =>
      exact stepCourse_of_names refused rfl rfl fun _ _ =>
        Role.currentCourse_composed fun role => composed_keyed role rfl
    | title | description =>
      exact stepCourse_of_bare refused rfl (by simp) fun _ =>
        Role.currentCourse_composed fun role => composed_keyed role rfl
    | grant =>
      refine stepCourse_of_block refused rfl rfl fun ⟨named, keyed, fits⟩ => ?_
      rw [stepCourse_grant keyed fits]
      exact Grant.course_composed inner ..
    | addPrivileges =>
      exact stepCourse_of_names refused rfl rfl fun _ _ =>
        Grant.currentCourse_composed fun _ => .make rfl
    | restrict =>
      exact stepCourse_of_bare refused rfl (by simp) fun _ =>
        Grant.currentCourse_composed (Grant.conditionsCourse_composed _)

end Statement

end AccessPolicy
