import AccessPolicy.Proofs.Refusal

/-! Operations that run no body, and what they leave behind if they fail. Each checks first and
writes then, so that a fault leaves the reader as it was. There are two exceptions: a name is
registered before it is entered below a privilege that cannot be a key, and a rule is appended
before it is logged. -/

namespace AccessPolicy

open Course

def Block.bodiless : Block → List String
  | .privileges => ["includes"]
  | .authorization => ["includes", "title", "description", "to", "if_attribute"]

namespace Step

def isBodiless : Step → Bool
  | .includePrivileges _ | .includeRoles _ | .title _ | .description _ | .addPrivileges _
  | .restrict .. | .refuse _ => true
  | .grant _ _ body => body.isNone
  | .overridable _ _ operation => operation.isBodiless
  | _ => false

theorem isOperational_of_isBodiless (paths : Bool) :
    ∀ step : Step, step.isBodiless → step.isOperational paths
  | .includePrivileges _, _ | .includeRoles _, _ | .title _, _ | .description _, _
  | .addPrivileges _, _ | .restrict .., _ | .refuse _, _ | .grant _ _ none, _ => rfl
  | .overridable _ _ operation, plain => isOperational_of_isBodiless paths operation plain

/-- A call of an operation that runs no body, or a statement that makes one. -/
inductive RunsNoBody : Step → Prop
  | call {block : Block} {name : String} (plain : name ∈ block.bodiless) (positional : List Value)
    (named : List (String × Argument)) : RunsNoBody (block.call name positional named)
  | grantCall {positional : List Value} {named : List (String × Argument)}
    (noBody : ∀ given, Given.bind (Block.authorization.operationName "has_permission_on")
      Statement.grantSignature (positional.map .value) named = .ok given →
        Arguments.body .authorization given = none) :
    RunsNoBody (Block.authorization.call "has_permission_on" positional named)
  | statement {block : Block} {name : String} (plain : name ∈ block.bodiless)
    {value argument : Value} {options : List (Value × Value)}
    (form : Statement.partsOf? value = some (.text name, argument, options)) :
    RunsNoBody (Statement.stepOf block value)
  | grantStatement {value argument : Value} {options : List (Value × Value)}
    (form : Statement.partsOf? value = some (.text "has_permission_on", argument, options))
    (noBody : Statement.option? "body" options = none) :
    RunsNoBody (Statement.stepOf .authorization value)

theorem isBodiless_call {block : Block} {name : String} {signature : Signature}
    {make : Arguments → Step} (operation : block.operation? name = some (signature, make))
    {positional : List Value} {named : List (String × Argument)}
    (plain : ∀ given, Given.bind (block.operationName name) signature (positional.map .value)
      named = .ok given → (make given).isBodiless) :
    (block.call name positional named).isBodiless := by
  simp only [Block.call, operation, isBodiless]
  split
  · exact plain _ ‹_›
  · rfl

theorem isBodiless_of_bodiless {block : Block} {name : String} (plain : name ∈ block.bodiless)
    (positional : List Value) (named : List (String × Argument)) :
    (block.call name positional named).isBodiless := by
  cases block <;>
    simp only [Block.bodiless, List.mem_cons, List.not_mem_nil, or_false] at plain
  · subst plain
    exact isBodiless_call rfl fun _ _ => rfl
  · rcases plain with rfl | rfl | rfl | rfl | rfl <;> exact isBodiless_call rfl fun _ _ => rfl

/-- Statements of these operations take no options. -/
theorem exists_shape {block : Block} {name : String} (plain : name ∈ block.bodiless) :
    ∃ shape, block.statements.lookup name = some shape ∧ shape ≠ .block := by
  cases block <;>
    simp only [Block.bodiless, List.mem_cons, List.not_mem_nil, or_false] at plain
  · subst plain
    exact ⟨.names, rfl, nofun⟩
  · rcases plain with rfl | rfl | rfl | rfl | rfl
    · exact ⟨.names, rfl, nofun⟩
    · exact ⟨.value, rfl, nofun⟩
    · exact ⟨.value, rfl, nofun⟩
    · exact ⟨.names, rfl, nofun⟩
    · exact ⟨.value, rfl, nofun⟩

theorem isBodiless_statement {block : Block} {name : String} (plain : name ∈ block.bodiless)
    (argument : Value) (options : List (Value × Argument)) :
    (Statement.step block (.text name) argument options).isBodiless := by
  obtain ⟨shape, shaped, other⟩ := exists_shape plain
  cases shape with
  | block => exact absurd rfl other
  | names | value =>
    simp only [Statement.step, Statement.keyword?, shaped, Option.map_some]
    split
    · rfl
    · split
      · exact isBodiless_of_bodiless plain ..
      · split
        · exact isBodiless_of_bodiless plain ..
        · rfl

theorem isBodiless_grant {options : List (Value × Value)}
    (noBody : Statement.option? "body" options = none) (argument : Value) :
    (Statement.step .authorization (.text "has_permission_on") argument
      (Statement.arguments .authorization options)).isBodiless := by
  have operation : Block.authorization.operation? "has_permission_on" =
      some (Statement.grantSignature, fun given =>
        .grant (given.value "context") (given.value "to") (given.body .authorization)) := rfl
  by_cases fits : Statement.Fits Statement.grantSignature "context" options
  · obtain ⟨named, keyed, fits⟩ := fits
    have none : (Statement.given .authorization Statement.grantSignature "context" argument
        named).body .authorization = none := by
      rw [Statement.body_given (by simp [Statement.grantSignature, Signature.parameters])
        (by simp), Statement.lookup_of_textKeyed? keyed, noBody]
      rfl
    obtain ⟨access, same⟩ := Statement.step_of_fits operation rfl keyed fits argument
    rw [same]
    exact Option.isNone_iff_eq_none.mpr none
  · obtain ⟨fault, same | ⟨access, same⟩⟩ :=
      Statement.step_of_not_fits operation rfl fits argument
    · rw [same]
      rfl
    · rw [same]
      rfl

theorem RunsNoBody.isBodiless {step : Step} (runs : step.RunsNoBody) : step.isBodiless := by
  cases runs with
  | call plain => exact isBodiless_of_bodiless plain ..
  | grantCall noBody =>
    refine isBodiless_call rfl fun given bound => ?_
    simp only [Step.isBodiless, noBody given bound, Option.isNone_none]
  | statement plain form =>
    rw [Statement.stepOf_of_parts form]
    exact isBodiless_statement plain ..
  | grantStatement form noBody =>
    rw [Statement.stepOf_of_parts form]
    exact isBodiless_grant noBody _

end Step

/-- How a run that runs no body can end. A fault comes before the first change of the reader, but
for two cases. -/
inductive Course.Halts (m : Moment) : Course.Run → Prop
  | done (journal : Journal) : Halts m ⟨.ok (), journal⟩
  | refused (fault : Fault) : Halts m ⟨.error fault, []⟩
  /-- The open privilege cannot be a key; a lower one has been registered. -/
  | unsuitable {name part : Value} (lower : Value) (isOpen : m.reader.privilege = some name)
    (obstacle : name.keyObstacle? = some part) :
    Halts m ⟨.error (.usage (.unsuitableKey part)), [.privilege lower]⟩
  /-- The rule that has been appended cannot be logged. -/
  | unwritten {rule : Rule} {cause : Fault} (isOpen : m.reader.role = some rule.role)
    (accepts : m.sink.accepts (.permissionGranted rule.role rule.context rule.privileges))
    (obstacle : m.sink.obstacle? (.permissionGranted rule.role rule.context rule.privileges) =
      some cause) : Halts m ⟨.error cause.told, [.rule rule]⟩

namespace Course

variable {c : Course} {m : Moment}

theorem halts_of_ok (ok : (c m).result = .ok ()) : Halts m (c m) := by
  have came : c m = ⟨.ok (), (c m).journal⟩ := by rw [← ok]
  rw [came]
  exact .done _

theorem keyed_halts (key : Value) (u : Update) : Halts m (keyed key u m) := by
  cases obstacle : key.keyObstacle? with
  | some part =>
    simp only [keyed, obstacle]
    exact .refused _
  | none =>
    simp only [keyed, obstacle]
    exact .done _

end Course

variable {m : Moment}

namespace Privilege

/-- Below a privilege that can be a key all names are entered. -/
theorem includeCourse_ok {name : Value} (suitable : name.keyObstacle? = none) (context : Value)
    (names : List Value) (m : Moment) : (includeCourse name context names m).result = .ok () := by
  induction names generalizing m with
  | nil => rfl
  | cons lower rest ih =>
    simp only [includeCourse, andThen, make, keyed, suitable, ih]

theorem includesCourse_halts (names : List Value) : Halts m (includesCourse names m) := by
  unfold includesCourse
  split
  · exact .refused _
  · rename_i name isOpen
    cases suitable : name.keyObstacle? with
    | none => exact halts_of_ok (includeCourse_ok suitable ..)
    | some part =>
      cases Value.leavesOf names with
      | nil => exact .done _
      | cons lower rest =>
        -- The first name is registered before the key is looked at; no other is reached.
        have refused : includeCourse name m.reader.context (lower :: rest) m =
            ⟨.error (.usage (.unsuitableKey part)), [.privilege lower]⟩ := by
          simp only [includeCourse, andThen, make, keyed, suitable, refuse, List.append_nil]
          rfl
        rw [refused]
        exact .unsuitable lower isOpen suitable

end Privilege

namespace Role

theorem currentCourse_halts {fault : ScopeFault} {next : Value → Course}
    (each : ∀ role, m.reader.role = some role → Halts m (next role m)) :
    Halts m (currentCourse fault next m) := by
  unfold currentCourse
  split
  · exact .refused _
  · exact each _ ‹_›

end Role

namespace Grant

theorem currentCourse_halts {fault : ScopeFault} {next : Nat → Course}
    (each : ∀ place, Halts m (next place m)) : Halts m (currentCourse fault next m) := by
  unfold currentCourse
  split
  · exact .refused _
  · exact each _

theorem conditionsCourse_halts (given : Value) (place : Nat) :
    Halts m (conditionsCourse given place m) := by
  unfold conditionsCourse
  split
  · exact .refused _
  · exact .done _

theorem ruleCourse_halts {rule : Rule} (isOpen : m.reader.role = some rule.role) :
    Halts m (ruleCourse rule none m) := by
  let event : LogEvent := .permissionGranted rule.role rule.context rule.privileges
  have same : ruleCourse rule none m = ((make [.rule rule]).andThen (emit event)) m := by
    rw [← andThen_done (emit event)]
    rfl
  rw [same]
  have sink : (m.after [.rule rule]).sink = m.sink := Moment.sink_after ..
  by_cases accepts : m.sink.accepts event
  · cases obstacle : m.sink.obstacle? event with
    | none =>
      refine halts_of_ok ?_
      simp only [andThen, make, emit, sink, accepts, if_true, obstacle]
    | some cause =>
      simp only [andThen, make, emit, sink, accepts, if_true, obstacle, refuse, List.append_nil]
      exact .unwritten isOpen accepts obstacle
  · refine halts_of_ok ?_
    simp only [andThen, make, emit, sink, if_neg accepts, done]

theorem course_halts (context privileges : Value) : Halts m (course context privileges none m) := by
  refine Role.currentCourse_halts fun role isOpen => ?_
  split
  · exact .refused _
  · exact ruleCourse_halts isOpen

end Grant

namespace Program

/-- One case for each operation that runs no body. -/
theorem stepCourse_halts : ∀ step : Step, step.isBodiless → Halts m (stepCourse step m)
  | .includePrivileges names, _ => Privilege.includesCourse_halts names
  | .includeRoles _, _ | .title _, _ | .description _, _ =>
    Role.currentCourse_halts fun role _ => keyed_halts role _
  | .addPrivileges _, _ => Grant.currentCourse_halts fun _ => .done _
  | .restrict given extra, _ =>
    Grant.currentCourse_halts (Grant.conditionsCourse_halts (Grant.joinConditions given extra))
  | .grant context privileges none, _ => Grant.course_halts context privileges
  | .overridable _ _ operation, plain => stepCourse_halts operation plain
  | .refuse _, _ => .refused _

end Program

/-- Wherever a session has come to, an operation that runs no body and fails has left the reader as
it was; but for the first name to be included below a privilege that cannot be a key, and for a rule
that cannot be logged. -/
theorem bodiless_all_or_nothing {u t : Session} (reached : u.Reached) {step : Step}
    (runs : step.RunsNoBody) {fault : Fault}
    (failed : (Program.runStep step).run u = (.error fault, t)) :
    t.reader = u.reader ∨
    (∃ name part lower, u.reader.privilege = some name ∧ name.keyObstacle? = some part ∧
      fault = .usage (.unsuitableKey part) ∧
      t.reader = (Update.privilege lower).reader u.reader) ∨
    ∃ (rule : Rule) (cause : Fault), u.reader.role = some rule.role ∧
      u.sink.accepts (.permissionGranted rule.role rule.context rule.privileges) ∧
      u.sink.obstacle? (.permissionGranted rule.role rule.context rule.privileges) = some cause ∧
      fault = cause.told ∧ t.reader = (Update.rule rule).reader u.reader := by
  have plain := runs.isBodiless
  obtain ⟨result, advance⟩ := (Program.runStep_follows step
    (Step.isOperational_of_isBodiless false step plain)).yields u reached.intact
  have came : (Program.stepCourse step u.moment).result = .error fault := by
    rw [← result, failed]
    rfl
  have left : t.reader = (u.moment.after (Program.stepCourse step u.moment).journal).reader := by
    rw [← advance.reader, failed]
  have halts : Course.Halts u.moment (Program.stepCourse step u.moment) :=
    Program.stepCourse_halts step plain
  generalize Program.stepCourse step u.moment = run at came left halts
  cases halts with
  | done => cases came
  | refused => exact .inl left
  | unsuitable lower isOpen obstacle =>
    cases came
    exact .inr (.inl ⟨_, _, lower, isOpen, obstacle, rfl, left⟩)
  | unwritten isOpen accepts obstacle =>
    cases came
    exact .inr (.inr ⟨_, _, isOpen, accepts, obstacle, rfl, left⟩)

/-- In a role, a grant of nothing is refused, and its rule has not been appended. -/
theorem bodiless_all_or_nothing_empty :
    let u := Session.keeping .memory
    let step := Block.authorization.call "has_permission_on" [.text "rooms"] []
    ∃ fault t, u.reader.role = some (.text "keeper") ∧
      (Program.runStep step).run u = (.error fault, t) ∧ t.reader = u.reader := by
  intro u step
  have reached : u.Reached := Session.reached_keeping _
  have runs : step.RunsNoBody := .grantCall fun given bound => by
    cases bound
    rfl
  have failed : (Program.runStep step).run u =
      (.error (.scope (.emptyGrant (.text "keeper") (.text "rooms"))), _) := rfl
  refine ⟨_, _, rfl, failed, ?_⟩
  obtain left | ⟨_, _, _, isOpen, -⟩ | ⟨_, _, -, -, obstacle, -⟩ :=
    bodiless_all_or_nothing reached runs failed
  · exact left
  · cases isOpen
  · cases obstacle

def listedPrivilegeAct : Act :=
  .turn (.build [.privilege (.list [.text "a"]) .null .null [] none] rfl)

/-- In a privilege whose name is a list, nothing can be included; but the name to be included has
been registered. -/
theorem includes_half_done :
    let u := Session.midway listedPrivilegeAct 2 .memory
    let step := Block.privileges.call "includes" [.text "read"] []
    u.Reached ∧ step.RunsNoBody ∧ ((Program.runStep step).run u).1.isOk = false ∧
      u.reader.tables.privileges = [.list [.text "a"]] ∧
      ((Program.runStep step).run u).2.reader.tables.privileges =
        [.list [.text "a"], .text "read"] :=
  ⟨Session.reached_midway .., .call (by decide) .., by decide +kernel, rfl,
    by with_unfolding_all rfl⟩

end AccessPolicy
