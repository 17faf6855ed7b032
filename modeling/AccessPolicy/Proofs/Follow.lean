import AccessPolicy.Proofs.Action
import AccessPolicy.Proofs.Course

/-! Every program follows its course: run in an intact session, it comes to what its course
comes to, and changes the reader by the updates of its course. -/

namespace AccessPolicy

def Session.moment (s : Session) : Moment := ⟨s.reader, s.serial, s.sink⟩

/-- One session has become another by a journal. What callers are told stands apart. -/
structure Session.Advances (s t : Session) (journal : Journal) : Prop where
  intact : t.Intact
  moment : t.moment = s.moment.after journal
  log : t.log = s.log ++ Journal.events journal
  retired : t.retired = s.retired

namespace Session.Advances

variable {s t u : Session} {j k : Journal}

theorem refl (intact : s.Intact) : s.Advances s [] := ⟨intact, rfl, by simp, rfl⟩

theorem trans (first : s.Advances t j) (second : t.Advances u k) : s.Advances u (j ++ k) where
  intact := second.intact
  moment := by rw [second.moment, first.moment, Moment.after_append]
  log := by rw [second.log, first.log, Journal.events_append, List.append_assoc]
  retired := second.retired.trans first.retired

theorem reader (advance : s.Advances t j) : t.reader = (s.moment.after j).reader :=
  congrArg Moment.reader advance.moment

theorem tables (advance : s.Advances t j) :
    t.reader.tables = Journal.tables j s.reader.tables := by
  rw [advance.reader, Moment.tables_after]; rfl

end Session.Advances

/-- A single change of the reader. -/
theorem Session.advances_update {s : Session} (intact : s.Intact) (u : Update)
    (quiet : u.event? = none) (reading : u.moment s.moment = ⟨u.reader s.reader, s.serial, s.sink⟩) :
    s.Advances { s with reader := u.reader s.reader } [u] where
  intact := ⟨intact.changes, intact.stray⟩
  moment := reading.symm
  log := by simp [Journal.events, quiet]
  retired := rfl

namespace Action

variable {α β : Type}

structure Yields (action : Action α) (s : Session) (run : Course.Run) : Prop where
  result : ((action.run s).1.map fun _ => ()) = run.result
  advance : s.Advances (action.run s).2 run.journal

/-- An action for its effect alone comes to the result of its course. -/
theorem Yields.fst_eq {action : Action Unit} {s : Session} {run : Course.Run}
    (yields : action.Yields s run) : (action.run s).1 = run.result := by
  rw [← yields.result]
  cases (action.run s).1 <;> rfl

/-- In every intact session an action comes to the run of its course. -/
structure Follows (action : Action α) (course : Course) : Prop where
  yields : ∀ s : Session, s.Intact → action.Yields s (course s.moment)

theorem follows_pure (a : α) : (pure a : Action α).Follows Course.done :=
  ⟨fun _ intact => ⟨rfl, .refl intact⟩⟩

theorem follows_refuse (fault : Fault) : (refuse fault : Action α).Follows (Course.refuse fault) :=
  ⟨fun _ intact => ⟨rfl, .refl intact⟩⟩

theorem follows_report (outcome : Outcome) : (report outcome).Follows Course.done :=
  ⟨fun _ intact => ⟨rfl, ⟨intact.changes, intact.stray⟩, rfl, by simp [Course.done, report,
    run_modify], rfl⟩⟩

/-- An action that does what another one does in a session comes to that one's run there. -/
theorem Follows.yields_of {a b : Action α} {c d : Course} {s : Session} (follows : b.Follows d)
    (intact : s.Intact) (same : a.run s = b.run s) (course : c s.moment = d s.moment) :
    a.Yields s (c s.moment) := by
  obtain ⟨result, advance⟩ := follows.yields s intact
  rw [← same, ← course] at result advance
  exact ⟨result, advance⟩

theorem Follows.congr {a b : Action α} {c : Course} (follows : a.Follows c)
    (same : ∀ s : Session, s.Intact → b.run s = a.run s) : b.Follows c :=
  ⟨fun s intact => follows.yields_of intact (same s intact) rfl⟩

theorem follows_refuse_bind (fault : Fault) (f : α → Action β) :
    (refuse fault >>= f).Follows (Course.refuse fault) :=
  Follows.congr (follows_refuse fault) fun s _ => run_bind (refuse fault) f s

theorem Follows.bind {a : Action α} {f : α → Action β} {c d : Course} (first : a.Follows c)
    (second : ∀ x, (f x).Follows d) : (a >>= f).Follows (c.andThen d) := by
  constructor
  intro s intact
  obtain ⟨result, advance⟩ := first.yields s intact
  cases ran : a.run s with
  | mk came t =>
    simp only [ran] at result advance
    cases came with
    | error fault =>
      simp only [Except.map] at result
      constructor <;> simp only [run_bind, ran, Course.andThen, ← result, Except.map]
      exact advance
    | ok x =>
      simp only [Except.map] at result
      obtain ⟨result', advance'⟩ := (second x).yields t advance.intact
      rw [advance.moment] at result' advance'
      constructor <;> simp only [run_bind, ran, Course.andThen, ← result]
      · exact result'
      · exact advance.trans advance'

theorem Follows.ensuring {a : Action α} {c : Course} (follows : a.Follows c) (block : Block)
    (names : List String) (u : Update) (quiet : u.event? = none)
    (reading : ∀ m : Moment, u.moment m = { m with reader := u.reader m.reader }) :
    (ensuring a block names u.reader).Follows (c.ending u) := by
  constructor
  intro s intact
  obtain ⟨result, advance⟩ := follows.yields s intact
  have last := Session.advances_update advance.intact u quiet (reading _)
  rw [← advance.intact.withFields block names] at last
  exact ⟨result, advance.trans last⟩

theorem Follows.tryCatch {a : Action α} {handle : Fault → Action α} {c : Course}
    {d : Fault → Course} (follows : a.Follows c) (handles : ∀ fault, (handle fault).Follows (d fault)) :
    (tryCatch a handle).Follows (c.recover d) := by
  constructor
  intro s intact
  obtain ⟨result, advance⟩ := follows.yields s intact
  cases ran : a.run s with
  | mk came t =>
    simp only [ran] at result advance
    cases came with
    | error fault =>
      simp only [Except.map] at result
      obtain ⟨result', advance'⟩ := (handles fault).yields t advance.intact
      rw [advance.moment] at result' advance'
      constructor <;> simp only [run_tryCatch, ran, Course.recover, ← result]
      · exact result'
      · exact advance.trans advance'
    | ok x =>
      simp only [Except.map] at result
      constructor <;> simp only [run_tryCatch, ran, Course.recover, ← result, Except.map]
      exact advance

theorem follows_get {f : Session → Action α} {c : Course} (follows : ∀ s, (f s).Follows c) :
    (get >>= f).Follows c := by
  constructor
  intro s intact
  exact (follows s).yields_of intact (run_bind ..) rfl

theorem follows_emit (event : LogEvent) : (emit event).Follows (Course.emit event) := by
  constructor
  intro s intact
  by_cases accepts : s.sink.accepts event
  · cases obstacle : s.sink.obstacle? event with
    | some fault =>
      have ran : (emit event).run s = (.error fault.told, s) := by
        simp [emit, run_bind, run_get, run_refuse, intact.loggerFault?, accepts, obstacle]
      have course : Course.emit event s.moment = Course.refuse fault s.moment := by
        simp [Course.emit, Session.moment, accepts, obstacle]
      rw [course]
      constructor <;> rw [ran]
      · rfl
      · exact .refl intact
    | none =>
      have ran : (emit event).run s = (.ok (), { s with log := s.log ++ [event] }) := by
        simp only [emit, run_bind, run_get, intact.loggerFault?, accepts, obstacle]
        rfl
      have course : Course.emit event s.moment = ⟨.ok (), [.event event]⟩ := by
        simp [Course.emit, Session.moment, accepts, obstacle, Course.make]
      rw [course]
      constructor <;> rw [ran]
      · rfl
      · exact ⟨⟨intact.changes, intact.stray⟩, rfl, rfl, rfl⟩
  · have ran : (emit event).run s = (.ok (), s) := by
      simp only [emit, run_bind, run_get, intact.loggerFault?, accepts]
      rfl
    have course : Course.emit event s.moment = ⟨.ok (), []⟩ := by
      simp [Course.emit, Session.moment, accepts, Course.done]
    rw [course]
    constructor <;> rw [ran]
    · rfl
    · exact .refl intact

/-- A single change of the fields of a reader. -/
theorem follows_make {a : Action Unit} (u : Update) (quiet : u.event? = none)
    (reading : ∀ m : Moment, u.moment m = { m with reader := u.reader m.reader })
    (ran : ∀ s : Session, s.Intact → a.run s = (.ok (), { s with reader := u.reader s.reader })) :
    a.Follows (Course.make [u]) := by
  constructor
  intro s intact
  have advance := Session.advances_update intact u quiet (reading _)
  constructor <;> rw [ran s intact]
  · rfl
  · exact advance

theorem Follows.onField {usual : Action Unit} {c : Course} (follows : usual.Follows c)
    (block : Block) (name : String) (other : Value → Except Fault Value) :
    (onField block name other usual).Follows c :=
  follows.congr fun _ intact => run_onField intact block name other usual

theorem Follows.operate {operation : Action Unit} {c : Course} (follows : operation.Follows c)
    (block : Block) (name : String) (positional : List Value) :
    (operate block name positional operation).Follows c :=
  follows.congr fun _ intact => run_operate intact block name positional operation

theorem follows_keyed {key : Value} {a : Action Unit} {u : Update}
    (follows : a.Follows (Course.make [u])) :
    (do requireKey key; a).Follows (Course.keyed key u) := by
  cases obstacle : key.keyObstacle? with
  | none =>
    have same : (do requireKey key; a) = a := by simp [requireKey, obstacle]
    simpa only [same, Course.keyed, obstacle] using follows
  | some part =>
    have refused : (refuse (.usage (.unsuitableKey part)) : Action Unit).Follows
        (Course.keyed key u) := by
      simpa only [Course.keyed, obstacle] using follows_refuse (.usage (.unsuitableKey part))
    refine refused.congr fun s intact => ?_
    simp [requireKey, obstacle, run_bind, run_refuse]

inductive BodyFollows : Option (Action Unit) → Option Course → Prop
  | none : BodyFollows none none
  | some {a : Action Unit} {c : Course} : a.Follows c → BodyFollows (some a) (some c)

theorem BodyFollows.getD {body : Option (Action Unit)} {c : Option Course}
    (follows : BodyFollows body c) : (body.getD (pure ())).Follows (c.getD Course.done) := by
  cases follows with
  | none => exact follows_pure ()
  | some follows => exact follows

end Action

namespace Privilege

open AccessPolicy.Action

theorem register_follows (name : Value) :
    (register name).Follows (Course.make [.privilege name]) :=
  (follows_make (.privilege name) rfl (fun _ => rfl) fun _ _ => rfl).onField ..

theorem enterEdge_follows (name : Value) (edge : PrivilegeEdge) :
    (enterEdge name edge).Follows (Course.keyed name (.edge name edge)) := by
  refine Follows.onField ?_ ..
  refine follows_keyed (follows_make (.edge name edge) rfl (fun _ => rfl) fun s intact => ?_)
  simp [run_bind, run_get, intact.change?, run_requireField intact, enter, run_modifyTables,
    Update.reader, Update.tables]

theorem includeEach_follows (name context : Value) (names : List Value) :
    (includeEach name context names).Follows (includeCourse name context names) := by
  induction names with
  | nil => exact follows_pure ()
  | cons lower rest ih =>
    refine ((register_follows lower).operate ..).bind fun _ => ?_
    exact (enterEdge_follows name ⟨lower, context⟩).bind fun _ => ih

theorem includes_follows (names : List Value) : (includes names).Follows (includesCourse names) := by
  constructor
  intro s intact
  cases current : s.reader.privilege with
  | none =>
    refine (follows_refuse (.scope (.includesOutsidePrivilege names))).yields_of intact ?_ ?_
    · simp only [includes, run_bind, run_requireField intact, run_reader, current]
    · simp only [includesCourse, Session.moment, current]
  | some name =>
    refine (includeEach_follows name s.reader.context (Value.leavesOf names)).yields_of intact ?_ ?_
    · simp only [includes, run_bind, run_requireField intact, run_reader, current]
    · simp only [includesCourse, Session.moment, current]

theorem includeGiven_follows (options : Table Value) :
    (includeGiven options).Follows (includeGivenCourse options) := by
  unfold includeGiven includeGivenCourse
  cases includedBy options with
  | none => exact follows_pure ()
  | some names => exact (includes_follows names).operate ..

section Body

variable {body : Option (Action Unit)} {c : Option Course} (follows : BodyFollows body c)

include follows

theorem block_follows (name context : Value) (options : Table Value) :
    (block name context options body).Follows (blockCourse name context options c) := by
  have enters : (modifyFields .privileges openFields (opened name context)).Follows
      (Course.make [.enterPrivilege name context]) :=
    follows_make (.enterPrivilege name context) rfl (fun _ => rfl) fun _ intact =>
      run_modifyFields intact ..
  refine enters.bind fun _ => Follows.ensuring ?_ _ _ .leavePrivilege rfl fun _ => rfl
  refine ((register_follows name).operate ..).bind fun _ => ?_
  refine (follows_emit _).bind fun _ => ?_
  exact follows.getD.bind fun _ => includeGiven_follows options

theorem declareIn_follows (name context options : Value) (extra : List (String × Value)) :
    (declareIn name context options extra body).Follows
      (courseIn name context options extra c) := by
  unfold declareIn courseIn optionTable
  cases optionEntries options with
  | error fault => exact follows_refuse_bind ..
  | ok entries =>
    simp only [pure_bind, knownCourse]
    split
    · exact block_follows follows ..
    · exact follows_refuse _

theorem declare_follows (name context options : Value) (extra : List (String × Value)) :
    (declare name context options extra body).Follows (course name context options extra c) := by
  unfold declare course
  split
  · exact declareIn_follows follows ..
  · exact declareIn_follows follows ..

end Body

end Privilege

namespace Role

open AccessPolicy.Action

theorem setTitle_follows (role text : Value) :
    (setTitle role text).Follows (Course.keyed role (.title role text)) :=
  (follows_keyed (follows_make (.title role text) rfl (fun _ => rfl) fun _ _ => rfl)).onField ..

theorem setDescription_follows (role text : Value) :
    (setDescription role text).Follows (Course.keyed role (.description role text)) :=
  (follows_keyed (follows_make (.description role text) rfl (fun _ => rfl) fun _ _ => rfl)).onField ..

theorem whereGiven_follows {set : Action Unit} {c : Course} (follows : set.Follows c)
    (text : Value) : (whereGiven text set).Follows (givenCourse text c) := by
  cases text with
  | null => exact follows_pure ()
  | _ => exact follows

theorem register_follows (role title description : Value) :
    (register role title description).Follows (registerCourse role title description) := by
  have registers : (onField .authorization "roles" (Value.enlist role) do
      modifyTables fun tables => { tables with
        roles := Value.register tables.roles role }).Follows (Course.make [.role role]) :=
    (follows_make (.role role) rfl (fun _ => rfl) fun _ _ => rfl).onField ..
  refine registers.bind fun _ => ?_
  refine (whereGiven_follows (setTitle_follows role title) title).bind fun _ => ?_
  exact whereGiven_follows (setDescription_follows role description) description

section Body

variable {body : Option (Action Unit)} {c : Option Course} (follows : BodyFollows body c)

include follows

theorem block_follows (role : Value) : (block role body).Follows (blockCourse role c) := by
  have enters : (modifyFields .authorization ["_current_role"] (opened role)).Follows
      (Course.make [.enterRole role]) :=
    follows_make (.enterRole role) rfl (fun _ => rfl) fun _ intact => run_modifyFields intact ..
  refine enters.bind fun _ => Follows.ensuring ?_ _ _ .leaveRole rfl fun _ => rfl
  exact (follows_emit _).bind fun _ => follows.getD

theorem declare_follows (role title description : Value) :
    (declare role title description body).Follows (course role title description c) :=
  ((register_follows role title description).operate ..).bind fun _ => block_follows follows role

end Body

/-- An operation on the open role. -/
theorem current_follows (fault : ScopeFault) {α : Type} {f : Value → Action α}
    {next : Value → Course} (follows : ∀ role, (f role).Follows (next role)) :
    (current fault >>= f).Follows (currentCourse fault next) := by
  constructor
  intro s intact
  cases role : s.reader.role with
  | none =>
    refine (follows_refuse (.scope fault)).yields_of intact ?_ ?_
    · simp only [current, run_bind, run_requireField intact, run_reader, role, run_refuse]
    · simp only [currentCourse, Session.moment, role]
  | some role' =>
    refine (follows role').yields_of intact ?_ ?_
    · simp only [current, run_bind, run_requireField intact, run_reader, role, run_pure]
    · simp only [currentCourse, Session.moment, role]

theorem includes_follows (names : List Value) : (includes names).Follows (includesCourse names) :=
  current_follows _ fun role =>
    (follows_keyed (follows_make (.lower role (Value.leavesOf names)) rfl (fun _ => rfl)
      fun _ _ => rfl)).onField ..

theorem title_follows (text : Value) : (title text).Follows (titleCourse text) :=
  current_follows _ fun role => setTitle_follows role text

theorem description_follows (text : Value) : (description text).Follows (descriptionCourse text) :=
  current_follows _ fun role => setDescription_follows role text

end Role

namespace Grant

open AccessPolicy.Action

theorem write_follows (u : Update) (quiet : u.event? = none)
    (reading : ∀ m : Moment, u.moment m = { m with reader := u.reader m.reader }) :
    (write u.reader).Follows (Course.make [u]) := by
  refine follows_make u quiet reading fun s intact => ?_
  simp only [write, run_bind, run_modifyFields intact, run_modify]
  rw [← intact.stray]

theorem closing_follows {body : Action Unit} {c : Course} (follows : body.Follows c) :
    (do body; write closed).Follows (closing c) := by
  constructor
  intro s intact
  obtain ⟨result, advance⟩ := follows.yields s intact
  rcases ran : body.run s with ⟨fault | _, t⟩
  · simp only [ran, Except.map] at result advance
    -- The mark for the fault changes nothing.
    have marked : s.Advances t ((c s.moment).journal ++ [.abandonGrant]) :=
      ⟨advance.intact, by rw [Moment.after_append, ← advance.moment]; rfl,
        by rw [Journal.events_append, advance.log]; simp [Journal.events, Update.event?],
        advance.retired⟩
    constructor <;> simp only [run_bind, ran, closing, ← result]
    · rfl
    · exact marked
  · simp only [ran, Except.map] at result advance
    obtain ⟨result', advance'⟩ :=
      (write_follows .completeGrant rfl fun _ => rfl).yields t advance.intact
    constructor <;> simp only [run_bind, ran, closing, ← result]
    · exact result'
    · exact advance.trans advance'

section Body

variable {body : Option (Action Unit)} {c : Option Course} (follows : BodyFollows body c)

include follows

theorem block_follows (place : Nat) :
    (block place body).Follows (blockCourse place c) := by
  cases follows with
  | none => exact follows_pure ()
  | some follows =>
    exact (write_follows (.enterGrant place) rfl fun _ => rfl).bind fun _ => closing_follows follows

theorem declareRule_follows (rule : Rule) :
    (declareRule rule body).Follows (ruleCourse rule c) := by
  refine follows_get fun session => ?_
  have appends : (modifyTables fun tables => { tables with rules := tables.rules ++ [rule] }).Follows
      (Course.make [.rule rule]) := follows_make (.rule rule) rfl (fun _ => rfl) fun _ _ => rfl
  have answers (place : Nat) : (ruleAt session.retired.length place).Follows Course.done :=
    follows_get fun _ => follows_pure _
  have rest (place : Nat) : (do
      emit (.permissionGranted rule.role rule.context rule.privileges)
      block place body
      ruleAt session.retired.length place).Follows
      ((Course.emit (.permissionGranted rule.role rule.context rule.privileges)).andThen
        (blockCourse place c)) := by
    rw [← Course.andThen_done (blockCourse place c)]
    exact (follows_emit _).bind fun _ => (block_follows follows place).bind fun _ => answers place
  constructor
  intro s intact
  refine (appends.bind fun _ => rest s.reader.tables.rules.length).yields_of intact ?_ rfl
  simp only [appendRule, run_bind, run_reader, run_onField intact, run_pure, run_modifyTables]

theorem declare_follows (context privileges : Value) :
    (declare context privileges body).Follows (course context privileges c) := by
  refine Role.current_follows _ fun role => ?_
  have same : c.isNone = body.isNone := by cases follows <;> rfl
  rw [same]
  split
  · exact follows_refuse _
  · exact declareRule_follows follows _

end Body

theorem current_follows (fault : ScopeFault) {α : Type} {f : OpenRule → Action α}
    {next : Nat → Course} (follows : ∀ place, (f (.placed place)).Follows (next place)) :
    (current fault >>= f).Follows (currentCourse fault next) := by
  constructor
  intro s intact
  cases rule : s.reader.rule with
  | none =>
    refine (follows_refuse (.scope fault)).yields_of intact ?_ ?_
    · simp only [current, run_bind, run_requireField intact, run_get, intact.change?, intact.stray,
        rule, run_refuse]
    · simp only [currentCourse, Session.moment, rule]
  | some place =>
    refine (follows place).yields_of intact ?_ ?_
    · simp only [current, run_bind, run_requireField intact, run_get, intact.change?, intact.stray,
        rule, run_pure]
    · simp only [currentCourse, Session.moment, rule]

theorem addPrivileges_follows (names : List Value) :
    (addPrivileges names).Follows (addPrivilegesCourse names) :=
  current_follows _ fun place =>
    follows_make (.privileges place (Value.leavesOf names)) rfl (fun _ => rfl) fun _ _ => rfl

/-- The conditions of a map are read before anything is changed. -/
theorem conditions_follows (given : Value) (place : Nat) (change : Conditions → Action Unit)
    (changes : ∀ conditions,
      change conditions = modifyRule place (withConditions conditions)) :
    (Action.conditions given >>= change).Follows (conditionsCourse given place) := by
  constructor
  intro s intact
  cases read : Conditions.read s.serial given with
  | error fault =>
    have ran : (Action.conditions given).run s = (.error fault.told, s) := by
      simp only [Action.conditions, run_bind, run_get, read, run_refuse]
    refine (follows_refuse fault).yields_of intact ?_ ?_
    · simp only [run_bind, ran, run_refuse]
    · simp only [conditionsCourse, Session.moment, read]
  | ok came =>
    have ran : (Action.conditions given).run s =
        (.ok came.1, { s with serial := came.2 }) := by
      simp only [Action.conditions, run_bind, run_get, read]
      rfl
    have course : conditionsCourse given place s.moment =
        ⟨.ok (), [.serial came.2, .conditions place came.1]⟩ := by
      simp only [conditionsCourse, Session.moment, read, Course.make]
    rw [course]
    constructor <;> simp only [run_bind, ran, changes]
    · rfl
    · exact ⟨⟨intact.changes, intact.stray⟩, rfl, (List.append_nil _).symm, rfl⟩

theorem restrict_follows (given : Value) (extra : List (String × Value)) :
    (restrict given extra).Follows (restrictCourse given extra) :=
  current_follows _ fun place => conditions_follows _ place _ fun _ => rfl

end Grant

theorem Access.placeOf_follows (block : Block) (path : String) :
    (placeOf block (UserPath.segments path)).Follows (followCourse block path) := by
  constructor
  intro s intact
  have place : block.place { reader := s.moment.reader } = block.place s :=
    (intact.place block).symm
  cases leads : UserPath.follow (UserPath.segments path) (block.place s) with
  | ok found =>
    refine (Action.follows_pure found).yields_of intact ?_ ?_
    · simp only [placeOf, Action.run_bind, Action.run_get, leads, Action.run_pure]
    · simp only [followCourse, place, leads]
  | error fault =>
    refine (Action.follows_refuse (.path fault)).yields_of intact ?_ ?_
    · simp only [placeOf, Action.run_bind, Action.run_get, leads, Action.run_refuse]
    · simp only [followCourse, place, leads]

namespace Program

open AccessPolicy.Action

theorem noting_follows {α : Type} {answer : α → Answer} {a : Action α} {c : Course}
    (follows : a.Follows c) : (noting answer a).Follows c := by
  rw [← Course.andThen_done c]
  exact follows.bind fun _ => follows_report _

variable {paths : Bool}

mutual

theorem runStep_follows :
    ∀ step : Step, step.isOperational paths → (runStep step).Follows (stepCourse step)
  | .registerPrivilege name, _ => noting_follows (Privilege.register_follows name)
  | .privilege name context options extra body, operational =>
    noting_follows (Privilege.declare_follows (runBody_follows body operational) ..)
  | .includePrivileges names, _ => noting_follows (Privilege.includes_follows names)
  | .registerRole role title description, _ => noting_follows (Role.register_follows ..)
  | .role role title description body, operational =>
    noting_follows (Role.declare_follows (runBody_follows body operational) ..)
  | .includeRoles names, _ => noting_follows (Role.includes_follows names)
  | .title text, _ => noting_follows (Role.title_follows text)
  | .description text, _ => noting_follows (Role.description_follows text)
  | .grant context privileges body, operational =>
    noting_follows (Grant.declare_follows (runBody_follows body operational) ..)
  | .addPrivileges names, _ => noting_follows (Grant.addPrivileges_follows names)
  | .restrict conditions extra, _ => noting_follows (Grant.restrict_follows conditions extra)
  | .condition _ _, _ => noting_follows (follows_pure _)
  | .attempt steps, operational =>
    (run_follows steps operational).tryCatch fun fault => follows_report (.caught fault)
  | .follow block path, _ => by
    rw [← Course.andThen_done (stepCourse _)]
    exact (Access.placeOf_follows block path).bind fun _ => follows_pure ()
  | .overridable block access operation, operational => by
    refine (runStep_follows operation operational).congr fun s intact => ?_
    simp only [runStep, run_bind, run_get, intact.change?]
  | .refuse fault, _ => follows_refuse fault

theorem runBody_follows : ∀ body : Option (List Step),
    Step.bodyIsOperational paths body →
    BodyFollows (runBody body) (bodyCourse body)
  | none, _ => .none
  | some steps, operational => .some (run_follows steps operational)

/-- A program in an intact session comes to its course. -/
theorem run_follows :
    ∀ steps : List Step, Step.isOperationalProgram paths steps → (run steps).Follows (course steps)
  | [], _ => follows_pure ()
  | step :: rest, operational => by
    obtain ⟨first, others⟩ := Bool.and_eq_true_iff.mp operational
    exact (runStep_follows step first).bind fun _ => run_follows rest others

end

end Program

end AccessPolicy
