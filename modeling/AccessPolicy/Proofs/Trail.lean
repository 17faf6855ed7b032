import AccessPolicy.Proofs.Refusal

/-! The trail that a run leaves in the log. An event falls due where a privilege or a role is
entered and where a rule is appended; what falls due in a run is what it logs, as far as the sink
can write it. -/

namespace AccessPolicy

open Course

/-- The sink accepts the event, and nothing keeps it from being written. -/
def Sink.writes (sink : Sink) (event : LogEvent) : Bool :=
  sink.accepts event && (sink.obstacle? event).isNone

theorem Sink.writes_of_writable {sink : Sink} {event : LogEvent}
    (never : sink.obstacle? event = none) : sink.writes event = sink.accepts event := by
  simp [writes, never]

/-- Where all events are kept, all of them are accepted and written. -/
theorem Sink.filter_memory (events : List LogEvent) :
    events.filter Sink.memory.accepts = events ∧ events.filter Sink.memory.writes = events :=
  ⟨List.filter_eq_self.mpr fun _ _ => rfl, List.filter_eq_self.mpr fun _ _ => rfl⟩

namespace Update

def due? : Update → Option LogEvent
  | .enterPrivilege name context => some (.privilegeDeclared name context)
  | .enterRole name => some (.roleDeclared name)
  | .rule made => some (.permissionGranted made.role made.context made.privileges)
  | _ => none

def role? : Update → Option Value
  | .role name => some name
  | _ => none

/-- Nothing is logged with the update, nothing falls due, and no role is registered. -/
def isSilent : Update → Bool
  | .event _ | .enterPrivilege .. | .enterRole _ | .rule _ | .role _ => false
  | _ => true

theorem of_isSilent {u : Update} (silent : u.isSilent) :
    u.event? = none ∧ u.due? = none ∧ u.role? = none := by
  cases u <;> first | exact ⟨rfl, rfl, rfl⟩ | cases silent

end Update

def LogEvent.role? : LogEvent → Option Value
  | .roleDeclared name => some name
  | _ => none

namespace Journal

variable {j : Journal}

def due (journal : Journal) : List LogEvent := journal.filterMap Update.due?

def roles (journal : Journal) : List Value := journal.filterMap Update.role?

@[simp] theorem due_append (j k : Journal) :
    Journal.due (j ++ k) = Journal.due j ++ Journal.due k := List.filterMap_append

@[simp] theorem roles_append (j k : Journal) :
    Journal.roles (j ++ k) = Journal.roles j ++ Journal.roles k := List.filterMap_append

theorem of_silent (silent : ∀ u ∈ j, u.isSilent) :
    Journal.events j = [] ∧ Journal.due j = [] ∧ Journal.roles j = [] := by
  simp only [Journal.events, due, roles, List.filterMap_eq_nil_iff]
  have each (u : Update) (held : u ∈ j) := Update.of_isSilent (silent u held)
  exact ⟨fun u held => (each u held).1, fun u held => (each u held).2.1,
    fun u held => (each u held).2.2⟩

/-- Whatever falls due is for debugging. -/
theorem level_of_mem_due {event : LogEvent} (held : event ∈ Journal.due j) :
    event.level = .debug := by
  obtain ⟨u, -, due⟩ := List.mem_filterMap.mp held
  cases u <;> cases due <;> rfl

end Journal

namespace Course

structure Silent (c : Course) : Prop where
  updates : ∀ m, ∀ u ∈ (c m).journal, u.isSilent

namespace Silent

variable {c d : Course}

theorem congr_at (same : ∀ m, ∃ d : Course, d.Silent ∧ c m = d m) : c.Silent := by
  constructor
  intro m
  obtain ⟨d, silent, same⟩ := same m
  rw [same]
  exact silent.updates m

theorem done : Silent done := ⟨fun _ => nofun⟩

theorem refuse (fault : Fault) : Silent (refuse fault) := ⟨fun _ => nofun⟩

theorem make {journal : Journal} (silent : journal.all Update.isSilent) : Silent (make journal) :=
  ⟨fun _ => List.all_eq_true.mp silent⟩

theorem keyed (key : Value) {u : Update} (silent : u.isSilent) : Silent (keyed key u) := by
  unfold Course.keyed
  split
  · exact refuse _
  · exact make (by simpa using silent)

theorem andThen (first : c.Silent) (second : d.Silent) : (c.andThen d).Silent := by
  constructor
  intro m
  unfold Course.andThen
  split
  · exact List.forall_mem_append.mpr ⟨first.updates m, second.updates _⟩
  · exact first.updates m

end Silent

theorem events_emit (event : LogEvent) (m : Moment) :
    (emit event m).journal.events = [event].filter m.sink.writes := by
  unfold emit Sink.writes
  by_cases accepts : m.sink.accepts event
  · cases obstacle : m.sink.obstacle? event <;> simp [accepts, obstacle, refuse, make]
    rfl
  · simp [accepts, done]

theorem due_emit (event : LogEvent) (m : Moment) : Journal.due (emit event m).journal = [] := by
  rcases emit_cases event m with same | same | ⟨fault, same⟩ <;> rw [same] <;> rfl

theorem roles_emit (event : LogEvent) (m : Moment) : Journal.roles (emit event m).journal = [] := by
  rcases emit_cases event m with same | same | ⟨fault, same⟩ <;> rw [same] <;> rfl

/-- An event that is accepted has been written when its course completes. -/
theorem takesAll_of_emit {event : LogEvent} {m : Moment}
    (logged : (emit event m).result = .ok ()) : m.sink.TakesAll [event] := by
  intro other held accepts
  obtain rfl := List.mem_singleton.mp held
  cases obstacle : m.sink.obstacle? other with
  | none => rfl
  | some fault =>
    simp only [emit, accepts, if_true, obstacle] at logged
    cases logged

/-- How a run settles what is owed where it starts and what falls due in it: what it logs are these
events, as far as the sink writes them. If it is to be whole and completes, all that the sink
accepts of them has been written; and the roles that it registers, behind those that have been
registered for it, are the ones that fall due to be declared. -/
structure Settled (whole : Bool) (names : List Value) (owed : List LogEvent) (sink : Sink)
    (run : Run) : Prop where
  logged : run.journal.events = (owed ++ run.journal.due).filter sink.writes
  taken : whole → run.result = .ok () → sink.TakesAll (owed ++ run.journal.due)
  declared : whole → run.result = .ok () →
    names ++ run.journal.roles = run.journal.due.filterMap LogEvent.role?

structure Settles (whole : Bool) (names : List Value) (owed : List LogEvent) (c : Course) :
    Prop where
  at_ : ∀ m, Settled whole names owed m.sink (c m)

namespace Settles

variable {whole : Bool} {names : List Value} {owed : List LogEvent} {c d : Course}

theorem congr_at (same : ∀ m, ∃ d : Course, d.Settles whole names owed ∧ c m = d m) :
    c.Settles whole names owed := by
  constructor
  intro m
  obtain ⟨d, settles, same⟩ := same m
  rw [same]
  exact settles.at_ m

theorem of_silent (silent : c.Silent) : c.Settles whole [] [] := by
  constructor
  intro m
  obtain ⟨events, due, roles⟩ := Journal.of_silent (silent.updates m)
  constructor <;> simp only [events, due, roles]
  · rfl
  · exact fun _ _ => Sink.takesAll_nil _
  · exact fun _ _ => rfl

theorem done : Settles whole [] [] done := of_silent .done

theorem refuse (fault : Fault) : Settles whole names [] (refuse fault) :=
  ⟨fun _ => ⟨rfl, fun _ => nofun, fun _ => nofun⟩⟩

theorem emit (event : LogEvent) : Settles whole [] [event] (emit event) := by
  constructor
  intro m
  constructor <;> simp only [due_emit, roles_emit, List.append_nil]
  · exact events_emit event m
  · exact fun _ logged => takesAll_of_emit logged
  · exact fun _ _ => rfl

/-- If a course need not be whole, the names that it declares do not matter. -/
theorem undeclared (settles : c.Settles false names owed) {others : List Value} :
    c.Settles false others owed :=
  ⟨fun m => ⟨(settles.at_ m).logged, nofun, nofun⟩⟩

/-- What comes behind a course that settles all that is owed. -/
theorem andThen (first : c.Settles whole names owed) (second : d.Settles whole [] []) :
    (c.andThen d).Settles whole names owed := by
  constructor
  intro m
  obtain ⟨logged, taken, declared⟩ := first.at_ m
  obtain ⟨logged', taken', declared'⟩ := second.at_ (m.after (c m).journal)
  rw [Moment.sink_after] at logged' taken'
  cases came : (c m).result with
  | error =>
    constructor <;> simp only [Course.andThen, came]
    · exact logged
    all_goals
      intro _ completed
      cases completed
  | ok =>
    constructor <;> simp only [Course.andThen, came, Journal.events_append, Journal.due_append,
      Journal.roles_append, List.filterMap_append, ← List.append_assoc]
    · rw [logged, logged', List.nil_append, List.filter_append (owed ++ _)]
    · exact fun asked completed =>
        Sink.takesAll_append.mpr ⟨taken asked came, taken' asked completed⟩
    · exact fun asked completed => by
        rw [declared asked came, ← declared' asked completed, List.nil_append]

/-- What comes behind a course that owes nothing and leaves nothing owed. -/
theorem behind_silent (first : c.Silent) (second : d.Settles whole names []) :
    (c.andThen d).Settles whole names [] := by
  constructor
  intro m
  obtain ⟨events, due, roles⟩ := Journal.of_silent (first.updates m)
  obtain ⟨logged, taken, declared⟩ := second.at_ (m.after (c m).journal)
  rw [Moment.sink_after] at logged taken
  cases came : (c m).result with
  | error => constructor <;> simp [Course.andThen, came, events, due]
  | ok =>
    constructor <;> simp only [Course.andThen, came, Journal.events_append, Journal.due_append,
      Journal.roles_append, events, due, roles, List.nil_append]
    · exact logged
    · exact taken
    · exact declared

/-- An update leaves its event owed, or the role that it registers, to the course behind it. -/
theorem behind_make {u : Update} {before : List Value} (quiet : u.event? = none)
    (same : before ++ u.role?.toList = u.due?.toList.filterMap LogEvent.role? ++ names)
    (settles : c.Settles whole names (owed ++ u.due?.toList)) :
    ((make [u]).andThen c).Settles whole before owed := by
  have events : Journal.events [u] = [] := by simp [Journal.events, quiet]
  have due : Journal.due [u] = u.due?.toList := by
    cases falls : u.due? <;> simp [Journal.due, falls]
  have roles : Journal.roles [u] = u.role?.toList := by
    cases registers : u.role? <;> simp [Journal.roles, registers]
  constructor
  intro m
  obtain ⟨logged, taken, declared⟩ := settles.at_ (m.after [u])
  rw [Moment.sink_after, List.append_assoc] at logged taken
  constructor <;> simp only [Course.andThen, Course.make, Journal.events_append,
    Journal.due_append, Journal.roles_append, events, due, roles, List.nil_append]
  · exact logged
  · exact taken
  · intro asked completed
    rw [← List.append_assoc, same, List.filterMap_append, ← declared asked completed,
      List.append_assoc]

theorem ending (settles : c.Settles whole names owed) (last : Update) (silent : last.isSilent) :
    (c.ending last).Settles whole names owed := by
  obtain ⟨events, due, roles⟩ := Journal.of_silent (j := [last]) fun u held =>
    List.mem_singleton.mp held ▸ silent
  constructor
  intro m
  constructor <;> simp only [Course.ending, Journal.events_append, Journal.due_append,
    Journal.roles_append, events, due, roles, List.append_nil]
  · exact (settles.at_ m).logged
  · exact (settles.at_ m).taken
  · exact (settles.at_ m).declared

/-- However it ends, a body that is closed settles what it would settle otherwise. -/
theorem closing (settles : c.Settles whole names owed) :
    (Grant.closing c).Settles whole names owed := by
  refine congr_at fun m => ?_
  unfold Grant.closing
  cases came : (c m).result with
  | ok =>
    exact ⟨_, settles.ending .completeGrant rfl, by simp only [Course.ending, came]⟩
  | error =>
    exact ⟨_, settles.ending .abandonGrant rfl, by simp only [Course.ending, came]⟩

/-- Of what is caught no more is known than what it has logged. -/
theorem recover {handle : Fault → Course} (first : c.Settles false [] [])
    (handles : ∀ fault, (handle fault).Settles false [] []) :
    (c.recover handle).Settles false [] [] := by
  constructor
  intro m
  refine ⟨?_, nofun, nofun⟩
  unfold Course.recover
  cases came : (c m).result with
  | ok => exact (first.at_ m).logged
  | error fault =>
    simp only [Journal.events_append, Journal.due_append, (first.at_ m).logged,
      ((handles fault).at_ _).logged, Moment.sink_after, List.nil_append, List.filter_append]

end Settles

end Course

variable {whole : Bool} {body : Option Course}

theorem settles_getD (inner : ∀ c ∈ body, c.Settles whole [] []) :
    (body.getD done).Settles whole [] [] := of_getD .done inner

namespace Privilege

theorem includeCourse_silent (name context : Value) (names : List Value) :
    (includeCourse name context names).Silent := by
  induction names with
  | nil => exact .done
  | cons lower rest ih => exact (Silent.make rfl).andThen ((Silent.keyed _ rfl).andThen ih)

theorem includesCourse_silent (names : List Value) : (includesCourse names).Silent := by
  refine Silent.congr_at fun m => ?_
  unfold includesCourse
  split
  · exact ⟨_, .refuse _, rfl⟩
  · exact ⟨_, includeCourse_silent .., rfl⟩

theorem includeGivenCourse_silent (options : Table Value) :
    (includeGivenCourse options).Silent := of_includeGivenCourse .done includesCourse_silent options

/-- The event of a privilege falls due when it is entered, and is logged when its name has been
registered. -/
theorem blockCourse_settles (inner : ∀ c ∈ body, c.Settles whole [] []) (name context : Value)
    (options : Table Value) : (blockCourse name context options body).Settles whole [] [] := by
  refine .behind_make rfl rfl (Settles.ending ?_ .leavePrivilege rfl)
  refine .behind_make rfl rfl ((Settles.emit (.privilegeDeclared name context)).andThen ?_)
  exact (settles_getD inner).andThen (.of_silent (includeGivenCourse_silent options))

theorem course_settles (name context options : Value) (extra : List (String × Value))
    (inner : ∀ c ∈ body, c.Settles whole [] []) :
    (course name context options extra body).Settles whole [] [] := by
  obtain ⟨fault, same⟩ | ⟨within, known, same⟩ := course_cases name context options extra
  · rw [same]
    exact .refuse fault
  · rw [same]
    exact blockCourse_settles inner ..

end Privilege

namespace Role

theorem givenCourse_silent {set : Course} (silent : set.Silent) (text : Value) :
    (givenCourse text set).Silent := of_givenCourse .done silent text

/-- The texts of a role that is registered. -/
theorem textsCourse_silent (role title description : Value) :
    ((givenCourse title (keyed role (.title role title))).andThen
      (givenCourse description (keyed role (.description role description)))).Silent :=
  (givenCourse_silent (.keyed role rfl) title).andThen
    (givenCourse_silent (.keyed role rfl) description)

/-- A role that has been registered is declared when it is entered. -/
theorem blockCourse_settles (inner : ∀ c ∈ body, c.Settles whole [] []) (role : Value) :
    (blockCourse role body).Settles whole [role] [] :=
  .behind_make rfl rfl
    (((Settles.emit (.roleDeclared role)).andThen (settles_getD inner)).ending .leaveRole rfl)

theorem course_settles (role title description : Value)
    (inner : ∀ c ∈ body, c.Settles whole [] []) :
    (course role title description body).Settles whole [] [] := by
  rw [course, registerCourse, andThen_assoc]
  exact .behind_make rfl rfl
    (.behind_silent (textsCourse_silent role title description) (blockCourse_settles inner role))

/-- A role may be registered without being declared. -/
theorem registerCourse_settles (role title description : Value) :
    (registerCourse role title description).Settles false [] [] :=
  .behind_make rfl rfl
    (Settles.of_silent (textsCourse_silent role title description)).undeclared

theorem currentCourse_silent {fault : ScopeFault} {next : Value → Course}
    (each : ∀ role, (next role).Silent) : (currentCourse fault next).Silent := by
  refine Silent.congr_at fun m => ?_
  unfold currentCourse
  split
  · exact ⟨_, .refuse _, rfl⟩
  · exact ⟨_, each _, rfl⟩

end Role

namespace Grant

theorem blockCourse_settles (inner : ∀ c ∈ body, c.Settles whole [] []) (place : Nat) :
    (blockCourse place body).Settles whole [] [] := by
  cases body with
  | none => exact .done
  | some c => exact .behind_make rfl rfl (inner c rfl).closing

/-- A rule is told of when it has been appended. -/
theorem ruleCourse_settles (inner : ∀ c ∈ body, c.Settles whole [] []) (rule : Rule) :
    (ruleCourse rule body).Settles whole [] [] := by
  refine Settles.congr_at fun m => ⟨(make [.rule rule]).andThen
    ((emit (.permissionGranted rule.role rule.context rule.privileges)).andThen
      (blockCourse m.reader.tables.rules.length body)), ?_, rfl⟩
  exact .behind_make rfl rfl ((Settles.emit _).andThen (blockCourse_settles inner _))

theorem course_settles (context privileges : Value) (inner : ∀ c ∈ body, c.Settles whole [] []) :
    (course context privileges body).Settles whole [] [] := by
  refine Settles.congr_at fun m => ?_
  unfold course Role.currentCourse
  split
  · exact ⟨_, .refuse _, rfl⟩
  · refine ⟨_, ?_, rfl⟩
    split
    · exact .refuse _
    · exact ruleCourse_settles inner _

theorem currentCourse_silent {fault : ScopeFault} {next : Nat → Course}
    (each : ∀ place, (next place).Silent) : (currentCourse fault next).Silent := by
  refine Silent.congr_at fun m => ?_
  unfold currentCourse
  split
  · exact ⟨_, .refuse _, rfl⟩
  · exact ⟨_, each _, rfl⟩

theorem conditionsCourse_silent (given : Value) (place : Nat) :
    (conditionsCourse given place).Silent := by
  refine Silent.congr_at fun m => ?_
  unfold conditionsCourse
  split
  · exact ⟨_, .refuse _, rfl⟩
  · exact ⟨_, .make rfl, rfl⟩

theorem addPrivilegesCourse_silent (names : List Value) : (addPrivilegesCourse names).Silent :=
  currentCourse_silent fun _ => .make rfl

theorem restrictCourse_silent (given : Value) (extra : List (String × Value)) :
    (restrictCourse given extra).Silent :=
  currentCourse_silent (conditionsCourse_silent _)

theorem extendCourse_silent (names : Value) (place : Nat) : (extendCourse names place).Silent := by
  unfold extendCourse
  split
  · exact .make rfl
  · exact .refuse _

theorem numberedCourse_silent {number : Int} {next : Nat → Course}
    (each : ∀ place, (next place).Silent) : (numberedCourse number next).Silent := by
  refine Silent.congr_at fun m => ?_
  unfold numberedCourse
  split
  · exact ⟨_, .refuse _, rfl⟩
  · exact ⟨_, each _, rfl⟩

end Grant

theorem Access.followCourse_silent (block : Block) (path : String) :
    (followCourse block path).Silent := by
  refine Silent.congr_at fun m => ?_
  unfold followCourse
  split
  · exact ⟨_, .done, rfl⟩
  · exact ⟨_, .refuse _, rfl⟩

namespace Program

theorem closed_settles : Closed fun c => c.Settles false [] [] where
  done := .done
  refuse := .refuse
  andThen := .andThen
  attempt settles := settles.recover fun _ => .done
  follow block path := .of_silent (Access.followCourse_silent block path)
  registerPrivilege _ := .of_silent (.make rfl)
  privilege := Privilege.course_settles
  includePrivileges names := .of_silent (Privilege.includesCourse_silent names)
  registerRole := Role.registerCourse_settles
  role := Role.course_settles
  includeRoles _ := .of_silent (Role.currentCourse_silent fun _ => .keyed _ rfl)
  title _ := .of_silent (Role.currentCourse_silent fun _ => .keyed _ rfl)
  description _ := .of_silent (Role.currentCourse_silent fun _ => .keyed _ rfl)
  grant := Grant.course_settles
  addPrivileges names := .of_silent (Grant.addPrivilegesCourse_silent names)
  restrict given extra := .of_silent (Grant.restrictCourse_silent given extra)

/-- A program logs what falls due in it, whatever comes of it. -/
theorem course_settles (steps : List Step) : (course steps).Settles false [] [] :=
  closed_settles.course_holds steps

end Program

end AccessPolicy
