import AccessPolicy.Proofs.Declaration
import AccessPolicy.Proofs.Refusal
import AccessPolicy.Proofs.Unchecked

/-! Options of roles and grants in place of statements. What a grant is given for `to`, and a role
for its title and its description, may as well stand first in the body: the body goes on from the
same moment, if what has been declared can be logged. -/

namespace AccessPolicy

open Course

/-- The event can be written where it is accepted. -/
def Sink.TakesEvent (sink : Sink) (event : LogEvent) : Prop :=
  sink.accepts event → sink.obstacle? event = none

/-- A grant that gives nothing is written if one can be that gives something. -/
theorem Sink.TakesEvent.withoutPrivileges {sink : Sink} {role context : Value} {names : List Value}
    (takes : sink.TakesEvent (.permissionGranted role context names)) :
    sink.TakesEvent (.permissionGranted role context []) := by
  intro accepts
  have written : sink.obstacle? (.permissionGranted role context names) = none := takes accepts
  cases sink with
  | memory => rfl
  | text threshold =>
    simp only [obstacle?, LogEvent.fields, List.findSome?_eq_none_iff, List.forall_mem_cons]
      at written ⊢
    exact ⟨written.1, written.2.1, rfl, List.forall_mem_nil _⟩

namespace Course

variable {c d : Course} {m n : Moment}

def outcome (c : Course) (m : Moment) : Except Fault Unit × Moment :=
  ((c m).result, m.after (c m).journal)

/-- After a course that completes, the outcome is that of the next one. -/
theorem outcome_andThen (completes : c.Completes m n) : (c.andThen d).outcome m = d.outcome n := by
  obtain ⟨result, rfl⟩ := completes
  simp only [outcome, andThen, result, Moment.after_append]

theorem outcome_ending (last : Update) :
    (c.ending last).outcome m = ((c.outcome m).1, last.moment (c.outcome m).2) := by
  simp only [outcome, ending, Moment.after_append, Moment.after_cons, Moment.after_nil]

theorem completes_single (u : Update) (m : Moment) : (make [u]).Completes m (u.moment m) :=
  completes_make.mpr rfl

theorem completes_keyed {key : Value} (suitable : key.keyObstacle? = none) (u : Update)
    (m : Moment) : (keyed key u).Completes m (u.moment m) := by
  simp only [keyed, suitable]
  exact completes_single u m

end Course

namespace Role

variable {role title description : Value} {m : Moment} {body : Course}

theorem completes_givenCourse {text : Value} {set : Course} {n : Moment} (given : text ≠ .null)
    (completes : set.Completes m n) : (givenCourse text set).Completes m n := by
  unfold givenCourse
  split
  · exact absurd rfl given
  · exact completes

/-- The outcome of a block is that of its body, and the role is left. -/
theorem outcome_blockCourse (takes : m.sink.TakesEvent (.roleDeclared role)) :
    (blockCourse role (some body)).outcome m =
      ((body.outcome ((Update.enterRole role).moment m)).1,
        Update.leaveRole.moment (body.outcome ((Update.enterRole role).moment m)).2) := by
  have logged : (emit (.roleDeclared role)).Completes ((Update.enterRole role).moment m)
      ((Update.enterRole role).moment m) := completes_emit takes
  rw [blockCourse, outcome_andThen (completes_single _ m), outcome_ending, outcome_andThen logged]
  rfl

theorem currentCourse_completes {fault : ScopeFault} {next : Value → Course} {n : Moment}
    (isOpen : m.reader.role = some role) (each : (next role).Completes m n) :
    (currentCourse fault next).Completes m n := by
  constructor
  · simpa only [currentCourse, isOpen] using each.result
  · simpa only [currentCourse, isOpen] using each.moment

/-- A title and a description may be given as options, or by the first statements of the body. -/
theorem outcome_shorthand (named : role ≠ .null) (suitable : role.keyObstacle? = none)
    (titled : title ≠ .null) (described : description ≠ .null)
    (takes : m.sink.TakesEvent (.roleDeclared role)) :
    (course role title description (some body)).outcome m =
      (course role .null .null (some ((titleCourse title).andThen
        ((descriptionCourse description).andThen body)))).outcome m := by
  let registered := (Update.role role).moment m
  let filled := registered.after [.title role title, .description role description]
  let opened := (Update.enterRole role).moment registered
  have isOpen : opened.reader.role = some role := by
    cases role <;> first | rfl | exact absurd rfl named
  have logged : registered.sink.TakesEvent (.roleDeclared role) := takes
  have logged' : filled.sink.TakesEvent (.roleDeclared role) := takes
  have given : (registerCourse role title description).Completes m filled :=
    completes_andThen.mpr ⟨_, completes_single _ m, completes_andThen.mpr
      ⟨_, completes_givenCourse titled (completes_keyed suitable ..),
        completes_givenCourse described (completes_keyed suitable ..)⟩⟩
  have plain : (registerCourse role .null .null).Completes m registered :=
    completes_registerCourse role m
  have entitled : (titleCourse title).Completes opened ((Update.title role title).moment opened) :=
    currentCourse_completes isOpen (completes_keyed suitable ..)
  have detailed : (descriptionCourse description).Completes
      ((Update.title role title).moment opened)
      (opened.after [.title role title, .description role description]) :=
    currentCourse_completes isOpen (completes_keyed suitable ..)
  rw [course, outcome_andThen given, outcome_blockCourse logged', course, outcome_andThen plain,
    outcome_blockCourse logged, outcome_andThen entitled, outcome_andThen detailed]
  rfl

end Role

namespace Grant

variable {context given : Value} {m n : Moment} {body other : Course}

/-- One name, or a list of names that is not empty. -/
inductive Gives : Value → Prop
  | name {name : Value} (simple : name.isSimple) : Gives name
  | names {names : List Value} (some : names ≠ []) (simple : ∀ name ∈ names, name.isSimple) :
    Gives (.list names)

theorem leavesOf_simple {names : List Value} (simple : ∀ name ∈ names, name.isSimple) :
    Value.leavesOf names = names := by
  induction names with
  | nil => rfl
  | cons name rest ih =>
    obtain ⟨first, others⟩ := List.forall_mem_cons.mp simple
    have leaf : name.leaves = [name] := by
      cases name <;> first | rfl | cases first
    rw [Value.leavesOf, ih others, leaf]
    rfl

theorem isName_of_isSimple {name : Value} (simple : name.isSimple) : Statement.isName name := by
  cases name <;> first | rfl | cases simple

/-- As an option and as a statement it gives the same names. -/
theorem Gives.names_eq (gives : Gives given) :
    (Statement.names given).all Statement.isName ∧
      Value.leavesOf (Statement.names given) = Grant.given given := by
  cases gives with
  | names some simple =>
    exact ⟨List.all_eq_true.mpr fun name held => isName_of_isSimple (simple name held),
      leavesOf_simple simple⟩
  | name simple =>
    have alone : Statement.names given = [given] ∧ Grant.given given = [given] := by
      cases given <;> first | exact ⟨rfl, rfl⟩ | cases simple
    rw [alone.1, alone.2]
    exact ⟨by simpa using isName_of_isSimple simple, leavesOf_simple (by simpa using simple)⟩

theorem modify_last {α : Type} (f : α → α) (xs : List α) (x : α) :
    (xs ++ [x]).modify xs.length f = xs ++ [f x] :=
  List.modifyTailIdx_add _ 0 xs [x]

theorem addPrivilegesCourse_completes {place : Nat} (isOpen : m.reader.rule = some place)
    (names : List Value) : (addPrivilegesCourse names).Completes m
      ((Update.privileges place (Value.leavesOf names)).moment m) := by
  constructor <;> simp only [addPrivilegesCourse, currentCourse, isOpen, make]
  rfl

/-- The outcome of a body with its rule open decides what comes of its grant. -/
theorem outcome_closing (same : body.outcome m = other.outcome n) :
    (closing body).outcome m = (closing other).outcome n := by
  have result : (body m).result = (other n).result := congrArg Prod.fst same
  have moment : m.after (body m).journal = n.after (other n).journal := congrArg Prod.snd same
  simp only [outcome, closing, result]
  split <;> simp only [Moment.after_append, moment]

theorem outcome_blockCourse {place : Nat} :
    (blockCourse place (some body)).outcome m =
      (closing body).outcome ((Update.enterGrant place).moment m) :=
  outcome_andThen (completes_single _ m)

theorem outcome_ruleCourse {rule : Rule}
    (takes : m.sink.TakesEvent (.permissionGranted rule.role rule.context rule.privileges)) :
    (ruleCourse rule (some body)).outcome m = (closing body).outcome
      ((Update.enterGrant m.reader.tables.rules.length).moment ((Update.rule rule).moment m)) := by
  have logged : (emit (.permissionGranted rule.role rule.context rule.privileges)).Completes
      ((Update.rule rule).moment m) ((Update.rule rule).moment m) := completes_emit takes
  rw [← outcome_blockCourse, ← outcome_andThen logged, ← outcome_andThen (completes_single _ m)]
  rfl

theorem outcome_course_of_none (closed : m.reader.role = none) (context given : Value)
    (body : Option Course) :
    (course context given body).outcome m =
      (refuse (.scope (.grantOutsideRole context))).outcome m := by
  simp only [outcome, course, Role.currentCourse, closed]

theorem outcome_course_of_some {role : Value} (isOpen : m.reader.role = some role)
    (context given : Value) (body : Course) :
    (course context given (some body)).outcome m =
      (ruleCourse ⟨role, Grant.given given, context, []⟩ (some body)).outcome m := by
  simp [outcome, course, Role.currentCourse, isOpen]

/-- Privileges may be given as an option, or by the first statement of the body. -/
theorem outcome_shorthand (gives : Gives given)
    (takes : ∀ role, m.reader.role = some role →
      m.sink.TakesEvent (.permissionGranted role context (Grant.given given))) :
    (course context given (some body)).outcome m =
      (course context .null (some ((addPrivilegesCourse (Statement.names given)).andThen
        body))).outcome m := by
  cases isOpen : m.reader.role with
  | none => rw [outcome_course_of_none isOpen, outcome_course_of_none isOpen]
  | some role =>
    have logged := takes role isOpen
    rw [outcome_course_of_some isOpen, outcome_course_of_some isOpen, outcome_ruleCourse logged,
      outcome_ruleCourse logged.withoutPrivileges]
    -- Once its first statement has been run, the rule of the second form is that of the first.
    let place := m.reader.tables.rules.length
    let empty := (Update.enterGrant place).moment ((Update.rule ⟨role, [], context, []⟩).moment m)
    have filled : (Update.privileges place (Value.leavesOf (Statement.names given))).moment empty =
        (Update.enterGrant place).moment
          ((Update.rule ⟨role, Grant.given given, context, []⟩).moment m) := by
      simp only [empty, place, Update.moment, Update.reader, Update.tables, opened, modify_last,
        withPrivileges, gives.names_eq.2, List.nil_append]
    refine outcome_closing (Eq.symm (outcome_andThen ?_))
    exact filled ▸ addPrivilegesCourse_completes (m := empty) rfl (Statement.names given)

end Grant

namespace Statement

open Program

def bare (keyword : String) (argument : Value) : Value := .map [(.text keyword, argument)]

def comesTo (statement : Value) (s : Session) : Except Fault Unit × Reader :=
  let ran := (run (program .authorization (.list [statement]))).run s
  (ran.1, ran.2.reader)

/-- What comes of it is told by its course. -/
theorem comesTo_eq {s : Session} (intact : s.Intact) (statement : Value) :
    comesTo statement s =
      let outcome := (stepCourse (stepOf .authorization statement)).outcome s.moment
      (outcome.1, outcome.2.reader) := by
  have yields := (run_follows (program .authorization (.list [statement]))
    (program_isOperational ..)).yields s intact
  rw [course_list_singleton] at yields
  exact Prod.ext yields.fst_eq yields.advance.reader

theorem outcome_grant {context given : Value} (gives : Grant.Gives given) (body : List Value)
    {m : Moment} (takes : ∀ role, m.reader.role = some role →
      m.sink.TakesEvent (.permissionGranted role context (Grant.given given))) :
    (stepCourse (stepOf .authorization
        (withBody "has_permission_on" context [(.text "to", given)] body))).outcome m =
      (stepCourse (stepOf .authorization
        (withBody "has_permission_on" context [] (bare "to" given :: body)))).outcome m := by
  have keyed : textKeyed? [(.text "to", given)] = some [("to", given)] := rfl
  have none : textKeyed? [] = some [] := rfl
  have fits : grantSignature.Fits ["context"] [] ["to", "body"] := by
    constructor <;> simp [grantSignature, Signature.parameters]
  have alone : grantSignature.Fits ["context"] [] ["body"] := by
    constructor <;> simp [grantSignature, Signature.parameters]
  have first : stepCourse (stepOf .authorization (bare "to" given)) =
      Grant.addPrivilegesCourse (names given) := by
    rw [stepOf_of_parts rfl]
    exact (stepCourse_names rfl rfl gives.names_eq.1).trans
      (by rw [stepCourse, moreValues_names])
  rw [course_grant_withBody keyed context fits, course_grant_withBody none context alone,
    course_list_cons, first]
  simp only [option_cons, option_nil, if_true]
  exact Grant.outcome_shorthand gives takes

theorem outcome_role {role title description : Value} (named : role ≠ .null)
    (suitable : role.keyObstacle? = none) (titled : title ≠ .null) (described : description ≠ .null)
    (body : List Value) {m : Moment} (takes : m.sink.TakesEvent (.roleDeclared role)) :
    (stepCourse (stepOf .authorization (withBody "role" role
        [(.text "title", title), (.text "description", description)] body))).outcome m =
      (stepCourse (stepOf .authorization (withBody "role" role []
        (bare "title" title :: bare "description" description :: body)))).outcome m := by
  have keyed : textKeyed? [(.text "title", title), (.text "description", description)] =
      some [("title", title), ("description", description)] := rfl
  have none : textKeyed? [] = some [] := rfl
  have fits : roleSignature.Fits ["role"] [] ["title", "description", "body"] := by
    constructor <;> simp [roleSignature, Signature.parameters]
  have alone : roleSignature.Fits ["role"] [] ["body"] := by
    constructor <;> simp [roleSignature, Signature.parameters]
  have first : stepCourse (stepOf .authorization (bare "title" title)) = Role.titleCourse title :=
    rfl
  have second : stepCourse (stepOf .authorization (bare "description" description)) =
      Role.descriptionCourse description := rfl
  rw [course_role_withBody keyed role fits, course_role_withBody none role alone, course_list_cons,
    course_list_cons, first, second]
  simp only [option_cons, option_nil, if_true]
  exact Role.outcome_shorthand named suitable titled described takes

end Statement

open Statement

/-- Wherever a session has come to, and whatever comes of the body, the options of a grant and of a
role may stand first in the body, if the event of the grant or the role can be written. -/
theorem options_are_shorthands {s : Session} (reached : s.Reached) (body : List Value) :
    (∀ context given, Grant.Gives given →
      (∀ role, s.reader.role = some role →
        s.sink.TakesEvent (.permissionGranted role context (Grant.given given))) →
      comesTo (withBody "has_permission_on" context [(.text "to", given)] body) s =
        comesTo (withBody "has_permission_on" context [] (bare "to" given :: body)) s) ∧
    ∀ role title description, role ≠ .null → role.keyObstacle? = none →
      title ≠ .null → description ≠ .null → s.sink.TakesEvent (.roleDeclared role) →
      comesTo (withBody "role" role
          [(.text "title", title), (.text "description", description)] body) s =
        comesTo (withBody "role" role []
          (bare "title" title :: bare "description" description :: body)) s := by
  have intact := reached.intact
  refine ⟨fun context given gives takes => ?_,
    fun role title description named suitable titled described takes => ?_⟩
  · rw [comesTo_eq intact, comesTo_eq intact, outcome_grant gives body takes]
  · rw [comesTo_eq intact, comesTo_eq intact,
      outcome_role named suitable titled described body takes]

/-- A body that fails for a title with an option, in a grant and in a role of its own. -/
theorem options_are_shorthands_failing :
    let body := [withBody "title" (.text "Keepers") [] []]
    (comesTo (withBody "has_permission_on" (.text "rooms") [(.text "to", .text "enter")] body)
        (Session.keeping .memory)).1.isOk = false ∧
      comesTo (withBody "has_permission_on" (.text "rooms") [(.text "to", .text "enter")] body)
          (Session.keeping .memory) =
        comesTo (withBody "has_permission_on" (.text "rooms") []
          (bare "to" (.text "enter") :: body)) (Session.keeping .memory) ∧
      comesTo (withBody "role" (.text "guest") [(.text "title", .text "Guests"),
          (.text "description", .text "from outside")] body) (Session.keeping .memory) =
        comesTo (withBody "role" (.text "guest") [] (bare "title" (.text "Guests") ::
          bare "description" (.text "from outside") :: body)) (Session.keeping .memory) := by
  intro body
  have reached : (Session.keeping .memory).Reached := Session.reached_keeping _
  obtain ⟨grants, roles⟩ := options_are_shorthands reached body
  exact ⟨by decide +kernel,
    grants _ _ (.name rfl) fun _ _ => Sink.memory_takes _,
    roles _ _ _ nofun rfl nofun nofun (Sink.memory_takes _)⟩

/-- For debugging, an option that is a number of too many digits is refused, as it cannot be logged;
in the body it is not logged. -/
theorem options_are_logged :
    let number : Value := .int (.ofNat (Nat.pow 10 4300))
    (Session.keeping (.text Level.debug.rank)).Reached ∧ Grant.Gives number ∧
      (comesTo (withBody "has_permission_on" (.text "rooms") [(.text "to", number)] [])
        (Session.keeping (.text Level.debug.rank))).1.isOk = false ∧
      (comesTo (withBody "has_permission_on" (.text "rooms") [] [bare "to" number])
        (Session.keeping (.text Level.debug.rank))).1.isOk = true :=
  ⟨Session.reached_keeping _, .name rfl, by decide +kernel, by decide +kernel⟩

end AccessPolicy
