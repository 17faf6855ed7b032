import AccessPolicy.Policy.Program
import AccessPolicy.Proofs.Update

/-! The course of a program: what it comes to and the updates it makes, told from the moment it
starts at. Nothing here reads the tables but their number of rules, and a path into a reader. -/

namespace AccessPolicy

structure Course.Run where
  result : Except Fault Unit
  journal : Journal

abbrev Course := Moment → Course.Run

namespace Course

def done : Course := fun _ => ⟨.ok (), []⟩

def refuse (fault : Fault) : Course := fun _ => ⟨.error fault.told, []⟩

def make (journal : Journal) : Course := fun _ => ⟨.ok (), journal⟩

def andThen (first second : Course) : Course := fun m =>
  match (first m).result with
  | .ok _ =>
    let next := second (m.after (first m).journal)
    ⟨next.result, (first m).journal ++ next.journal⟩
  | .error fault => ⟨.error fault, (first m).journal⟩

/-- Whatever comes of the course, an update ends it. -/
def ending (course : Course) (last : Update) : Course := fun m =>
  ⟨(course m).result, (course m).journal ++ [last]⟩

def recover (course : Course) (handle : Fault → Course) : Course := fun m =>
  match (course m).result with
  | .ok _ => course m
  | .error fault =>
    let next := handle fault (m.after (course m).journal)
    ⟨next.result, (course m).journal ++ next.journal⟩

def emit (event : LogEvent) : Course := fun m =>
  if m.sink.accepts event then
    match m.sink.obstacle? event with
    | some fault => refuse fault m
    | none => make [.event event] m
  else done m

theorem andThen_done (c : Course) : c.andThen done = c := by
  funext m
  rcases h : c m with ⟨_ | _, journal⟩ <;> simp [andThen, done, h]

theorem andThen_assoc (c d e : Course) :
    (c.andThen d).andThen e = c.andThen (d.andThen e) := by
  funext m
  rcases came : c m with ⟨_ | _, journal⟩
  · simp [andThen, came]
  · rcases next : d (m.after journal) with ⟨_ | _, more⟩ <;>
      simp [andThen, came, next]

def keyed (key : Value) (update : Update) : Course :=
  match key.keyObstacle? with
  | some part => refuse (.usage (.unsuitableKey part))
  | none => make [update]

end Course

open Course

namespace Privilege

def includeCourse (name context : Value) : List Value → Course
  | [] => done
  | lower :: rest =>
    (make [.privilege lower]).andThen
      ((keyed name (.edge name ⟨lower, context⟩)).andThen (includeCourse name context rest))

def includesCourse (names : List Value) : Course := fun m =>
  match m.reader.privilege with
  | none => refuse (.scope (.includesOutsidePrivilege names)) m
  | some name => includeCourse name m.reader.context (Value.leavesOf names) m

def includeGivenCourse (options : Table Value) : Course :=
  match includedBy options with
  | some names => includesCourse names
  | none => done

def blockCourse (name context : Value) (options : Table Value) (body : Option Course) : Course :=
  (make [.enterPrivilege name context]).andThen
    (ending
      ((make [.privilege name]).andThen
        ((emit (.privilegeDeclared name context)).andThen
          ((body.getD done).andThen (includeGivenCourse options))))
      .leavePrivilege)

def knownCourse (name context : Value) (options : Table Value) (body : Option Course) : Course :=
  if (unknownOptions options).isEmpty then blockCourse name context options body
  else refuse (.usage (.unknownOptions (unknownOptions options)))

def courseIn (name context options : Value) (extra : List (String × Value))
    (body : Option Course) : Course :=
  match optionEntries options with
  | .error fault => refuse fault
  | .ok entries => knownCourse name context (mergedOptions entries extra) body

def course (name context options : Value) (extra : List (String × Value))
    (body : Option Course) : Course :=
  if context.isMap then courseIn name .null context extra body
  else courseIn name context options extra body

end Privilege

namespace Role

def givenCourse (text : Value) (set : Course) : Course := if text matches .null then done else set

def registerCourse (role title description : Value) : Course :=
  (make [.role role]).andThen
    ((givenCourse title (keyed role (.title role title))).andThen
      (givenCourse description (keyed role (.description role description))))

def blockCourse (role : Value) (body : Option Course) : Course :=
  (make [.enterRole role]).andThen
    (ending ((emit (.roleDeclared role)).andThen (body.getD done)) .leaveRole)

def course (role title description : Value) (body : Option Course) : Course :=
  (registerCourse role title description).andThen (blockCourse role body)

def currentCourse (fault : ScopeFault) (next : Value → Course) : Course := fun m =>
  match m.reader.role with
  | none => refuse (.scope fault) m
  | some role => next role m

def includesCourse (names : List Value) : Course :=
  currentCourse (.includesOutsideRole names) fun role =>
    keyed role (.lower role (Value.leavesOf names))

def titleCourse (text : Value) : Course :=
  currentCourse .titleOutsideRole fun role => keyed role (.title role text)

def descriptionCourse (text : Value) : Course :=
  currentCourse .descriptionOutsideRole fun role => keyed role (.description role text)

end Role

namespace Grant

/-- A body that completes closes its rule; a fault leaves the rule open. -/
def closing (body : Course) : Course := fun m =>
  match (body m).result with
  | .ok _ => ⟨.ok (), (body m).journal ++ [.completeGrant]⟩
  | .error fault => ⟨.error fault, (body m).journal ++ [.abandonGrant]⟩

def blockCourse (place : Nat) : Option Course → Course
  | none => done
  | some body => (make [.enterGrant place]).andThen (closing body)

def ruleCourse (rule : Rule) (body : Option Course) : Course := fun m =>
  (make [.rule rule]).andThen
    ((emit (.permissionGranted rule.role rule.context rule.privileges)).andThen
      (blockCourse m.reader.tables.rules.length body)) m

def course (context privileges : Value) (body : Option Course) : Course :=
  Role.currentCourse (.grantOutsideRole context) fun role =>
    if body.isNone && (given privileges).isEmpty then
      refuse (.scope (.emptyGrant role context))
    else ruleCourse ⟨role, given privileges, context, []⟩ body

def currentCourse (fault : ScopeFault) (next : Nat → Course) : Course := fun m =>
  match m.reader.rule with
  | none => refuse (.scope fault) m
  | some place => next place m

def addPrivilegesCourse (names : List Value) : Course :=
  currentCourse (.toOutsideGrant names) fun place =>
    make [.privileges place (Value.leavesOf names)]

def conditionsCourse (given : Value) (place : Nat) : Course := fun m =>
  match Conditions.read m.serial given with
  | .error fault => refuse fault m
  | .ok (conditions, next) => make [.serial next, .conditions place conditions] m

def restrictCourse (given : Value) (extra : List (String × Value)) : Course :=
  currentCourse .conditionOutsideGrant (conditionsCourse (joinConditions given extra))

end Grant

def Access.followCourse (block : Block) (path : String) : Course := fun m =>
  match UserPath.follow (UserPath.segments path) (block.place { reader := m.reader }) with
  | .ok _ => done m
  | .error fault => refuse (.path fault) m

namespace Program

mutual

@[simp] def stepCourse : Step → Course
  | .registerPrivilege name => make [.privilege name]
  | .privilege name context options extra body =>
    Privilege.course name context options extra (bodyCourse body)
  | .includePrivileges names => Privilege.includesCourse names
  | .registerRole role title description => Role.registerCourse role title description
  | .role role title description body => Role.course role title description (bodyCourse body)
  | .includeRoles names => Role.includesCourse names
  | .title text => Role.titleCourse text
  | .description text => Role.descriptionCourse text
  | .grant context privileges body => Grant.course context privileges (bodyCourse body)
  | .addPrivileges names => Grant.addPrivilegesCourse names
  | .restrict conditions extra => Grant.restrictCourse conditions extra
  | .condition _ _ => done
  | .attempt steps => recover (course steps) fun _ => done
  | .follow block path => Access.followCourse block path
  | .direct _ _ => done
  | .overridable _ _ operation => stepCourse operation
  | .refuse fault => refuse fault

@[simp] def bodyCourse : Option (List Step) → Option Course
  | none => none
  | some steps => some (course steps)

@[simp] def course : List Step → Course
  | [] => done
  | step :: rest => (stepCourse step).andThen (course rest)

end

end Program

section Properties

variable {holds : Course → Prop} {body : Option Course}

theorem Course.of_getD (without : holds done) (inner : ∀ c ∈ body, holds c) :
    holds (body.getD done) := by
  cases body with
  | none => exact without
  | some c => exact inner c rfl

namespace Privilege

theorem of_includeGivenCourse (without : holds done)
    (included : ∀ names, holds (includesCourse names)) (options : Table Value) :
    holds (includeGivenCourse options) := by
  unfold includeGivenCourse
  split
  · exact included _
  · exact without

/-- A privilege is refused for its options, or its block is entered, whatever its body is. -/
theorem courseIn_cases (name context options : Value) (extra : List (String × Value)) :
    (∃ fault, (optionEntries options = .error fault ∨
        ∃ keys, fault = .usage (.unknownOptions keys)) ∧
      ∀ body, courseIn name context options extra body = refuse fault) ∨
    ∃ entries, optionEntries options = .ok entries ∧ ∀ body,
      courseIn name context options extra body =
        blockCourse name context (mergedOptions entries extra) body := by
  unfold courseIn
  split
  · rename_i fault failed
    exact .inl ⟨fault, .inl failed, fun _ => rfl⟩
  · rename_i entries read
    unfold knownCourse
    split
    · exact .inr ⟨entries, read, fun _ => rfl⟩
    · exact .inl ⟨_, .inr ⟨_, rfl⟩, fun _ => rfl⟩

theorem course_cases (name context options : Value) (extra : List (String × Value)) :
    (∃ fault, ∀ body, course name context options extra body = refuse fault) ∨
    ∃ within known, ∀ body,
      course name context options extra body = blockCourse name within known body := by
  have each (context options : Value) :
      (∃ fault, ∀ body, courseIn name context options extra body = refuse fault) ∨
      ∃ within known, ∀ body,
        courseIn name context options extra body = blockCourse name within known body := by
    obtain ⟨fault, -, same⟩ | ⟨entries, -, same⟩ := courseIn_cases name context options extra
    · exact .inl ⟨fault, same⟩
    · exact .inr ⟨_, _, same⟩
  unfold course
  split
  · exact each ..
  · exact each ..

/-- Options that are known lead to the block. -/
theorem course_of_known {name context : Value} {extra : List (String × Value)}
    (notMap : ¬ context.isMap) (known : (unknownOptions (mergedOptions .empty extra)).isEmpty) :
    course name context .null extra body =
      blockCourse name context (mergedOptions .empty extra) body := by
  have entries : optionEntries .null = .ok .empty := rfl
  simp only [course, if_neg notMap, courseIn, entries, knownCourse, if_pos known]

end Privilege

theorem Role.of_givenCourse {set : Course} (without : holds done) (given : holds set)
    (text : Value) : holds (givenCourse text set) := by
  unfold givenCourse
  split
  · exact without
  · exact given

namespace Program

/-- A property of courses that each operation has if its body does, and that is handed on from one
step to the next. Conditions and fields that are replaced come to nothing and need no clause. -/
structure Closed (holds : Course → Prop) : Prop where
  done : holds done
  refuse : ∀ fault, holds (refuse fault)
  andThen : ∀ {c d}, holds c → holds d → holds (c.andThen d)
  attempt : ∀ {c}, holds c → holds (recover c fun _ => Course.done)
  follow : ∀ block path, holds (Access.followCourse block path)
  registerPrivilege : ∀ name, holds (make [.privilege name])
  privilege : ∀ {body : Option Course} name context options extra, (∀ c ∈ body, holds c) →
    holds (Privilege.course name context options extra body)
  includePrivileges : ∀ names, holds (Privilege.includesCourse names)
  registerRole : ∀ role title description, holds (Role.registerCourse role title description)
  role : ∀ {body : Option Course} role title description, (∀ c ∈ body, holds c) →
    holds (Role.course role title description body)
  includeRoles : ∀ names, holds (Role.includesCourse names)
  title : ∀ text, holds (Role.titleCourse text)
  description : ∀ text, holds (Role.descriptionCourse text)
  grant : ∀ {body : Option Course} context privileges, (∀ c ∈ body, holds c) →
    holds (Grant.course context privileges body)
  addPrivileges : ∀ names, holds (Grant.addPrivilegesCourse names)
  restrict : ∀ given extra, holds (Grant.restrictCourse given extra)

namespace Closed

mutual

theorem stepCourse_holds (closed : Closed holds) : ∀ step : Step, holds (stepCourse step)
  | .registerPrivilege name => closed.registerPrivilege name
  | .privilege _ _ _ _ body => closed.privilege _ _ _ _ (closed.bodyCourse_holds body)
  | .includePrivileges names => closed.includePrivileges names
  | .registerRole .. => closed.registerRole ..
  | .role _ _ _ body => closed.role _ _ _ (closed.bodyCourse_holds body)
  | .includeRoles names => closed.includeRoles names
  | .title text => closed.title text
  | .description text => closed.description text
  | .grant _ _ body => closed.grant _ _ (closed.bodyCourse_holds body)
  | .addPrivileges names => closed.addPrivileges names
  | .restrict .. => closed.restrict ..
  | .condition _ _ => closed.done
  | .attempt steps => closed.attempt (closed.course_holds steps)
  | .follow .. => closed.follow ..
  | .direct _ _ => closed.done
  | .overridable _ _ operation => closed.stepCourse_holds operation
  | .refuse fault => closed.refuse fault

theorem bodyCourse_holds (closed : Closed holds) :
    ∀ body : Option (List Step), ∀ c ∈ bodyCourse body, holds c
  | none, _, member => nomatch member
  | some steps, _, rfl => closed.course_holds steps

theorem course_holds (closed : Closed holds) : ∀ steps : List Step, holds (course steps)
  | [] => closed.done
  | step :: rest => closed.andThen (closed.stepCourse_holds step) (closed.course_holds rest)

end

end Closed

end Program

end Properties

mutual

/-- Nothing but operations is called, so that no field of a reader is replaced. Paths into a
reader may be allowed. -/
def Step.isOperational (paths : Bool) : Step → Bool
  | .privilege _ _ _ _ body | .role _ _ _ body | .grant _ _ body =>
    bodyIsOperational paths body
  | .attempt steps => isOperationalProgram paths steps
  | .follow _ _ => paths
  | .direct _ _ => false
  | .overridable _ _ operation => operation.isOperational paths
  | _ => true

def Step.bodyIsOperational (paths : Bool) : Option (List Step) → Bool
  | none => true
  | some steps => isOperationalProgram paths steps

def Step.isOperationalProgram (paths : Bool) : List Step → Bool
  | [] => true
  | step :: rest => step.isOperational paths && isOperationalProgram paths rest

end

theorem Step.isOperationalProgram_append {paths : Bool} (p q : List Step) :
    isOperationalProgram paths (p ++ q) =
      (isOperationalProgram paths p && isOperationalProgram paths q) := by
  induction p with
  | nil => rfl
  | cons step rest ih => simp only [List.cons_append, isOperationalProgram, ih, Bool.and_assoc]

end AccessPolicy
