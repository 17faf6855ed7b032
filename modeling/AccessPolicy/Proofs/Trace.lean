import AccessPolicy.Proofs.Growth
import AccessPolicy.Proofs.Completion

/-! What a run can do. A trace tells of every update of a run what the reader is like where it is
made, and of every block that it is entered and left in turn; names that come in along it are good
ones, in whatever sense is asked for. Every program comes to a trace, so that what all traces keep
is shown by induction on them. -/

namespace AccessPolicy

/-- The traces from a moment on: what they come to, and their updates. -/
inductive Trace (good : Value → Prop) : Moment → Except Fault Unit → Journal → Prop
  | done {m : Moment} : Trace good m (.ok ()) []
  | refused {m : Moment} (fault : Fault) : Trace good m (.error fault) []
  /-- After the first run comes another, which may take up a fault of the first. -/
  | append {m : Moment} {first result : Except Fault Unit} {j k : Journal} :
    Trace good m first j → Trace good (m.after j) result k → Trace good m result (j ++ k)
  | event {m : Moment} (event : LogEvent) : Trace good m (.ok ()) [.event event]
  | serial {m : Moment} (next : Nat) : Trace good m (.ok ()) [.serial next]
  | privilege {m : Moment} {name : Value} (fine : good name) :
    Trace good m (.ok ()) [.privilege name]
  | edge {m : Moment} {name lower : Value} (isOpen : m.reader.privilege = some name)
    (known : lower.within m.reader.tables.privileges) (fine : good lower) :
    Trace good m (.ok ()) [.edge name ⟨lower, m.reader.context⟩]
  /-- The name of a privilege is registered before its body is run. -/
  | privilegeBlock {m : Moment} {name context : Value} {result : Except Fault Unit} {j : Journal}
    (fine : good name) :
    Trace good (m.after [.enterPrivilege name context, .privilege name]) result j →
    Trace good m result
      (.enterPrivilege name context :: .privilege name :: (j ++ [.leavePrivilege]))
  | role {m : Moment} {role : Value} (fine : good role) : Trace good m (.ok ()) [.role role]
  | title {m : Moment} {role : Value} (text : Value)
    (known : role.within m.reader.tables.roles ∨ m.reader.role = some role) :
    Trace good m (.ok ()) [.title role text]
  | description {m : Moment} {role : Value} (text : Value)
    (known : role.within m.reader.tables.roles ∨ m.reader.role = some role) :
    Trace good m (.ok ()) [.description role text]
  | lower {m : Moment} {role : Value} {names : List Value} (isOpen : m.reader.role = some role)
    (fine : ∀ name ∈ names, good name) : Trace good m (.ok ()) [.lower role names]
  | roleBlock {m : Moment} {role : Value} {result : Except Fault Unit} {j : Journal}
    (known : role.within m.reader.tables.roles) (fine : good role) :
    Trace good (m.after [.enterRole role]) result j →
    Trace good m result (.enterRole role :: (j ++ [.leaveRole]))
  | rule {m : Moment} {made : Rule} (isOpen : m.reader.role = some made.role)
    (fine : ∀ name ∈ made.privileges, good name) : Trace good m (.ok ()) [.rule made]
  | completedGrant {m : Moment} {place : Nat} {rule : Rule} {j : Journal}
    (stands : m.reader.tables.rules[place]? = some rule)
    (isOpen : m.reader.role = some rule.role) :
    Trace good (m.after [.enterGrant place]) (.ok ()) j →
    Trace good m (.ok ()) (.enterGrant place :: (j ++ [.completeGrant]))
  | abandonedGrant {m : Moment} {place : Nat} {rule : Rule} {fault : Fault} {j : Journal}
    (stands : m.reader.tables.rules[place]? = some rule)
    (isOpen : m.reader.role = some rule.role) :
    Trace good (m.after [.enterGrant place]) (.error fault) j →
    Trace good m (.error fault) (.enterGrant place :: (j ++ [.abandonGrant]))
  /-- A rule is added to as the open one, or from outside by its place. -/
  | privileges {m : Moment} {place : Nat} {names : List Value}
    (known : m.reader.rule = some place ∨ place < m.reader.tables.rules.length)
    (fine : ∀ name ∈ names, good name) : Trace good m (.ok ()) [.privileges place names]
  | conditions {m : Moment} {place : Nat} (trees : Conditions)
    (known : m.reader.rule = some place ∨ place < m.reader.tables.rules.length) :
    Trace good m (.ok ()) [.conditions place trees]

variable {good : Value → Prop}

namespace Course

def TracedAt (good : Value → Prop) (c : Course) (m : Moment) : Prop :=
  Trace good m (c m).result (c m).journal

structure Traced (good : Value → Prop) (c : Course) : Prop where
  at_ : ∀ m, c.TracedAt good m

variable {c d : Course} {m : Moment}

theorem TracedAt.congr (traced : d.TracedAt good m) (same : c m = d m) : c.TracedAt good m := by
  unfold TracedAt
  rw [same]
  exact traced

theorem TracedAt.andThen (first : c.TracedAt good m)
    (second : (c m).result = .ok () → d.TracedAt good (m.after (c m).journal)) :
    (c.andThen d).TracedAt good m := by
  unfold TracedAt at first ⊢
  cases came : (c m).result with
  | error fault =>
    simp only [Course.andThen, came]
    rwa [came] at first
  | ok _ =>
    simp only [Course.andThen, came]
    exact first.append (second came)

theorem tracedAt_make_andThen {u : Update} (made : (make [u]).TracedAt good m)
    (traced : c.TracedAt good (u.moment m)) : ((make [u]).andThen c).TracedAt good m :=
  made.andThen fun _ => traced

namespace Traced

theorem done : Traced good done := ⟨fun _ => .done⟩

theorem refuse (fault : Fault) : Traced good (refuse fault) := ⟨fun _ => .refused _⟩

theorem andThen (first : c.Traced good) (second : d.Traced good) : (c.andThen d).Traced good :=
  ⟨fun m => (first.at_ m).andThen fun _ => second.at_ _⟩

theorem recover {handle : Fault → Course} (first : c.Traced good)
    (handles : ∀ fault, (handle fault).Traced good) : (c.recover handle).Traced good := by
  constructor
  intro m
  have led := first.at_ m
  unfold TracedAt at led ⊢
  cases came : (c m).result with
  | ok _ =>
    simp only [Course.recover, came]
    rwa [came] at led
  | error fault =>
    simp only [Course.recover, came]
    exact led.append ((handles fault).at_ _)

theorem emit (event : LogEvent) : Traced good (emit event) := by
  constructor
  intro m
  unfold TracedAt
  rcases emit_cases event m with same | same | ⟨fault, same⟩ <;> rw [same]
  · exact .done
  · exact .event event
  · exact .refused _

end Traced

theorem tracedAt_keyed {u : Update} (key : Value) (made : (make [u]).TracedAt good m) :
    (keyed key u).TracedAt good m := by
  cases obstacle : key.keyObstacle? with
  | none => exact made.congr (by simp only [keyed, obstacle])
  | some part =>
    exact ((Traced.refuse (.usage (.unsuitableKey part))).at_ m).congr
      (by simp only [keyed, obstacle])

/-- Logging leaves the moment as it is. -/
theorem moment_after_emit (event : LogEvent) (m : Moment) : m.after (emit event m).journal = m := by
  rcases emit_cases event m with same | same | ⟨fault, same⟩ <;> rw [same] <;> rfl

end Course

open Course

variable {body : Option Course} {m : Moment}

namespace Privilege

/-- An edge that is entered leaves the privilege open as it is. -/
theorem open_after_edge (name : Value) (edge : PrivilegeEdge) (m : Moment) :
    (m.after (keyed name (.edge name edge) m).journal).reader.privilege = m.reader.privilege ∧
      (m.after (keyed name (.edge name edge) m).journal).reader.context = m.reader.context := by
  cases obstacle : name.keyObstacle? <;>
    simp [keyed, obstacle, refuse, make, Update.moment, Update.reader]

theorem includeCourse_tracedAt {name context : Value} {names : List Value}
    (isOpen : m.reader.privilege = some name) (within : m.reader.context = context)
    (fine : ∀ lower ∈ names, good lower) :
    (includeCourse name context names).TracedAt good m := by
  induction names generalizing m with
  | nil => exact Traced.done.at_ m
  | cons lower rest ih =>
    subst within
    obtain ⟨first, others⟩ := List.forall_mem_cons.mp fine
    let registered := (Update.privilege lower).moment m
    have entered :
        (keyed name (.edge name ⟨lower, m.reader.context⟩)).TracedAt good registered :=
      tracedAt_keyed name (.edge isOpen (Value.within_register ..) first)
    obtain ⟨privilege, context⟩ := open_after_edge name ⟨lower, m.reader.context⟩ registered
    exact tracedAt_make_andThen (.privilege first)
      (entered.andThen fun _ => ih (privilege.trans isOpen) context others)

theorem includesCourse_traced {names : List Value}
    (fine : ∀ name ∈ Value.leavesOf names, good name) : (includesCourse names).Traced good := by
  constructor
  intro m
  unfold TracedAt includesCourse
  split
  · exact .refused _
  · exact includeCourse_tracedAt ‹_› rfl fine

def OptionsFine (good : Value → Prop) (options : Table Value) : Prop :=
  ∀ names, includedBy options = some names → ∀ name ∈ Value.leavesOf names, good name

theorem includeGivenCourse_traced {options : Table Value} (fine : OptionsFine good options) :
    (includeGivenCourse options).Traced good := by
  unfold includeGivenCourse
  cases included : includedBy options with
  | some names => exact includesCourse_traced (fine names included)
  | none => exact .done

theorem blockCourse_traced (inner : ∀ c ∈ body, c.Traced good) {name : Value} (context : Value)
    {options : Table Value} (called : good name) (fine : OptionsFine good options) :
    (blockCourse name context options body).Traced good :=
  ⟨fun _ => .privilegeBlock called (((Traced.emit (.privilegeDeclared name context)).andThen
    ((of_getD .done inner).andThen (includeGivenCourse_traced fine))).at_ _)⟩

theorem courseIn_traced (inner : ∀ c ∈ body, c.Traced good) {name : Value} (context : Value)
    {given : Value} {extra : List (String × Value)} (called : good name)
    (fine : ∀ entries, optionEntries given = .ok entries →
      OptionsFine good (mergedOptions entries extra)) :
    (courseIn name context given extra body).Traced good := by
  obtain ⟨fault, -, same⟩ | ⟨entries, read, same⟩ := courseIn_cases name context given extra
  · rw [same]
    exact .refuse fault
  · rw [same]
    exact blockCourse_traced inner context called (fine entries read)

end Privilege

namespace Role

/-- A role that is known stays known. -/
theorem within_after {role : Value} (known : role.within m.reader.tables.roles)
    (journal : Journal) : role.within (m.after journal).reader.tables.roles := by
  rw [Moment.tables_after]
  exact Value.within_of_prefix (Journal.tables_grow journal _).roles known

theorem givenCourse_tracedAt {set : Course} (traced : set.TracedAt good m) (text : Value) :
    (givenCourse text set).TracedAt good m := by
  unfold givenCourse
  split
  · exact Traced.done.at_ m
  · exact traced

theorem registerCourse_traced {role : Value} (fine : good role) (title description : Value) :
    (registerCourse role title description).Traced good := by
  constructor
  intro m
  have known : role.within ((Update.role role).moment m).reader.tables.roles :=
    Value.within_register ..
  refine tracedAt_make_andThen (.role fine) (TracedAt.andThen ?_ fun _ => ?_)
  · exact givenCourse_tracedAt (tracedAt_keyed role (.title title (.inl known))) title
  · exact givenCourse_tracedAt
      (tracedAt_keyed role (.description description (.inl (within_after known _)))) description

/-- Once it has been registered, a role is known. -/
theorem within_registerCourse (role title description : Value) (m : Moment) :
    role.within
      (m.after (registerCourse role title description m).journal).reader.tables.roles := by
  have known : role.within ((Update.role role).moment m).reader.tables.roles :=
    Value.within_register ..
  exact within_after known _

theorem blockCourse_tracedAt (inner : ∀ c ∈ body, c.Traced good) {role : Value}
    (known : role.within m.reader.tables.roles) (fine : good role) :
    (blockCourse role body).TracedAt good m :=
  .roleBlock known fine (((Traced.emit (.roleDeclared role)).andThen (of_getD .done inner)).at_ _)

theorem course_traced (inner : ∀ c ∈ body, c.Traced good) {role : Value} (fine : good role)
    (title description : Value) : (course role title description body).Traced good :=
  ⟨fun m => ((registerCourse_traced fine title description).at_ m).andThen fun _ =>
    blockCourse_tracedAt inner (within_registerCourse role title description m) fine⟩

theorem currentCourse_traced {fault : ScopeFault} {next : Value → Course}
    (each : ∀ role (m : Moment), m.reader.role = some role → (next role).TracedAt good m) :
    (currentCourse fault next).Traced good := by
  constructor
  intro m
  unfold TracedAt currentCourse
  split
  · exact .refused _
  · exact each _ m ‹_›

theorem includesCourse_traced {names : List Value}
    (fine : ∀ name ∈ Value.leavesOf names, good name) : (includesCourse names).Traced good :=
  currentCourse_traced fun role _ isOpen => tracedAt_keyed role (.lower isOpen fine)

theorem titleCourse_traced (text : Value) : (titleCourse text).Traced good :=
  currentCourse_traced fun role _ isOpen => tracedAt_keyed role (.title text (.inr isOpen))

theorem descriptionCourse_traced (text : Value) : (descriptionCourse text).Traced good :=
  currentCourse_traced fun role _ isOpen => tracedAt_keyed role (.description text (.inr isOpen))

end Role

namespace Grant

theorem blockCourse_tracedAt (inner : ∀ c ∈ body, c.Traced good) {place : Nat} {rule : Rule}
    (stands : m.reader.tables.rules[place]? = some rule)
    (isOpen : m.reader.role = some rule.role) : (blockCourse place body).TracedAt good m := by
  cases body with
  | none => exact Traced.done.at_ m
  | some c =>
    have led : c.TracedAt good ((Update.enterGrant place).moment m) := (inner c rfl).at_ _
    unfold TracedAt at led ⊢
    cases came : (c ((Update.enterGrant place).moment m)).result with
    | ok _ =>
      rw [came] at led
      simpa [blockCourse, Course.andThen, make, closing, came] using
        Trace.completedGrant stands isOpen led
    | error fault =>
      rw [came] at led
      simpa [blockCourse, Course.andThen, make, closing, came] using
        Trace.abandonedGrant stands isOpen led

theorem ruleCourse_tracedAt (inner : ∀ c ∈ body, c.Traced good) {rule : Rule}
    (isOpen : m.reader.role = some rule.role) (fine : ∀ name ∈ rule.privileges, good name) :
    (ruleCourse rule body).TracedAt good m := by
  have last : ((Update.rule rule).moment m).reader.tables.rules[
      m.reader.tables.rules.length]? = some rule := List.getElem?_concat_length
  refine TracedAt.congr (d := (make [.rule rule]).andThen
    ((emit (.permissionGranted rule.role rule.context rule.privileges)).andThen
      (blockCourse m.reader.tables.rules.length body))) ?_ rfl
  refine tracedAt_make_andThen (.rule isOpen fine) (((Traced.emit _).at_ _).andThen fun _ => ?_)
  rw [moment_after_emit]
  exact blockCourse_tracedAt inner last isOpen

theorem course_traced (inner : ∀ c ∈ body, c.Traced good) (context : Value) {privileges : Value}
    (fine : ∀ name ∈ given privileges, good name) :
    (course context privileges body).Traced good := by
  refine Role.currentCourse_traced fun role m isOpen => ?_
  split
  · exact (Traced.refuse _).at_ m
  · exact ruleCourse_tracedAt inner isOpen fine

theorem currentCourse_traced {fault : ScopeFault} {next : Nat → Course}
    (each : ∀ place (m : Moment), m.reader.rule = some place → (next place).TracedAt good m) :
    (currentCourse fault next).Traced good := by
  constructor
  intro m
  unfold TracedAt currentCourse
  split
  · exact .refused _
  · exact each _ m ‹_›

theorem conditionsCourse_tracedAt (given : Value) {place : Nat}
    (known : m.reader.rule = some place ∨ place < m.reader.tables.rules.length) :
    (conditionsCourse given place).TracedAt good m := by
  cases read : Conditions.read m.serial given with
  | error fault => exact ((Traced.refuse fault).at_ m).congr (by simp only [conditionsCourse, read])
  | ok came =>
    obtain ⟨trees, next⟩ := came
    refine TracedAt.congr (d := (make [.serial next]).andThen (make [.conditions place trees])) ?_
      (by simp only [conditionsCourse, read]; rfl)
    exact tracedAt_make_andThen (.serial next) (.conditions trees known)

theorem addPrivilegesCourse_traced {names : List Value}
    (fine : ∀ name ∈ Value.leavesOf names, good name) :
    (addPrivilegesCourse names).Traced good :=
  currentCourse_traced fun _ _ isOpen => .privileges (.inl isOpen) fine

theorem restrictCourse_traced (given : Value) (extra : List (String × Value)) :
    (restrictCourse given extra).Traced good :=
  currentCourse_traced fun _ _ isOpen => conditionsCourse_tracedAt _ (.inl isOpen)

end Grant

theorem Access.followCourse_traced (block : Block) (path : String) :
    (followCourse block path).Traced good := by
  constructor
  intro m
  unfold TracedAt followCourse
  split
  · exact .done
  · exact .refused _

namespace Program

abbrev anyName : Value → Prop := fun _ => True

theorem closed_traced : Closed (Traced anyName) where
  done := .done
  refuse := .refuse
  andThen := .andThen
  attempt traced := traced.recover fun _ => .done
  follow := Access.followCourse_traced
  registerPrivilege _ := ⟨fun _ => .privilege trivial⟩
  privilege name context options extra inner := by
    obtain ⟨fault, same⟩ | ⟨within, known, same⟩ :=
      Privilege.course_cases name context options extra
    · rw [same]
      exact .refuse fault
    · rw [same]
      exact Privilege.blockCourse_traced inner within trivial fun _ _ _ _ => trivial
  includePrivileges _ := Privilege.includesCourse_traced fun _ _ => trivial
  registerRole _ := Role.registerCourse_traced trivial
  role title description _ inner := Role.course_traced inner trivial ..
  includeRoles _ := Role.includesCourse_traced fun _ _ => trivial
  title := Role.titleCourse_traced
  description := Role.descriptionCourse_traced
  grant context _ inner := Grant.course_traced inner context fun _ _ => trivial
  addPrivileges _ := Grant.addPrivilegesCourse_traced fun _ _ => trivial
  restrict := Grant.restrictCourse_traced

/-- Every program comes to a trace. -/
theorem course_traced (steps : List Step) : (course steps).Traced anyName :=
  closed_traced.course_holds steps

end Program

namespace Document

theorem blameCourse_traced (label : Option String) (fault : Fault) :
    (blameCourse label fault).Traced good := by
  unfold blameCourse
  split
  · exact (Traced.emit _).andThen (.refuse _)
  · exact .refuse _

/-- So does the reading of a stream of documents. -/
theorem course_traced {documents : Yaml.Documents}
    (stream : (Program.course (streamProgram documents)).Traced good) (label : Option String) :
    (course documents label).Traced good :=
  (stream.recover (blameCourse_traced label)).andThen
    ⟨fun m => (Traced.emit (.sourceRead label m.reader.tables.privileges.length
      m.reader.tables.roles.length m.reader.tables.rules.length)).at_ m⟩

end Document

end AccessPolicy
