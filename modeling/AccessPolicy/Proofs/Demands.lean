import AccessPolicy.Proofs.Completion
import AccessPolicy.Proofs.Grammar

/-! What the operations of a reader demand. Flaws are told from the text; what the reader comes to
them by are the blocks that are open, and it is refused for the first of them. -/

namespace AccessPolicy

def Flaw.Tells : Flaw → Fault → Prop
  | .scope, fault => ∃ problem, fault = .scope problem
  | .form, fault => fault.makesIllegal

theorem Flaw.scope_tells (problem : ScopeFault) : Flaw.scope.Tells (Fault.scope problem).told :=
  ⟨problem, rfl⟩

theorem Flaw.form_tells {fault : Fault} (illegal : fault.makesIllegal) :
    Flaw.form.Tells fault.told := by
  unfold Fault.told
  split
  · rfl
  · exact illegal

/-- The blocks that are open around a statement; roles and privileges are named by text. -/
structure Blocks where
  privilege : Option String := none
  role : Option String := none
  grant : Bool := false

def Update.isStill : Update → Bool
  | .enterPrivilege .. | .leavePrivilege | .enterRole _ | .leaveRole | .enterGrant _ |
    .completeGrant | .abandonGrant => false
  | _ => true

structure Blocks.Stand (blocks : Blocks) (m : Moment) : Prop where
  takes : m.sink.Takes
  privilege : m.reader.privilege = blocks.privilege.map .text
  role : m.reader.role = blocks.role.map .text
  rule : m.reader.rule.isSome = blocks.grant

theorem Blocks.Stand.still {blocks : Blocks} {m : Moment} (stand : blocks.Stand m) {u : Update}
    (still : u.isStill) : blocks.Stand (u.moment m) := by
  obtain ⟨takes, privilege, role, rule⟩ := stand
  cases u <;> first | exact ⟨takes, privilege, role, rule⟩ | cases still

namespace Course

variable {c d : Course} {m n : Moment} {blocks inner : Blocks} {flaws more : List Flaw}

/-- Where blocks are open, a course completes if there are no flaws, leaving them open, and fails
for the first flaw if there are. -/
structure Meets (c : Course) (blocks : Blocks) (flaws : List Flaw) : Prop where
  completes : flaws = [] → ∀ m, blocks.Stand m → ∃ n, c.Completes m n ∧ blocks.Stand n
  fails : ∀ flaw rest, flaws = flaw :: rest → ∀ m, blocks.Stand m →
    ∃ fault, (c m).result = .error fault ∧ flaw.Tells fault

namespace Meets

theorem done : Meets done blocks [] :=
  ⟨fun _ m stand => ⟨m, completes_done.mpr rfl, stand⟩, nofun⟩

theorem refuse {flaw : Flaw} {fault : Fault} (tells : flaw.Tells fault.told) :
    Meets (refuse fault) blocks (flaw :: flaws) :=
  ⟨nofun, fun _ _ same _ _ => ⟨_, rfl, (List.cons.inj same).1 ▸ tells⟩⟩

theorem make {u : Update} (still : u.isStill) : Meets (make [u]) blocks [] :=
  ⟨fun _ _ stand => ⟨_, completes_make.mpr rfl, stand.still still⟩, nofun⟩

theorem emit (event : LogEvent) : Meets (emit event) blocks [] :=
  ⟨fun _ m stand => ⟨m, completes_emit (stand.takes event), stand⟩, nofun⟩

theorem keyed {u : Update} (still : u.isStill) (name : String) :
    Meets (keyed (.text name) u) blocks [] := make still

theorem andThen (first : Meets c blocks flaws) (second : Meets d blocks more) :
    Meets (c.andThen d) blocks (flaws ++ more) := by
  constructor
  · intro none m stand
    obtain ⟨rfl, rfl⟩ := List.append_eq_nil_iff.mp none
    obtain ⟨k, completes, stand⟩ := first.completes rfl m stand
    obtain ⟨n, completes', stand⟩ := second.completes rfl k stand
    exact ⟨n, completes_andThen.mpr ⟨k, completes, completes'⟩, stand⟩
  · intro flaw rest same m stand
    cases flaws with
    | nil =>
      obtain ⟨k, completes, stand⟩ := first.completes rfl m stand
      rw [result_andThen completes]
      exact second.fails flaw rest same k stand
    | cons earlier others =>
      obtain ⟨rfl, -⟩ := List.cons.inj same
      obtain ⟨fault, failed, tells⟩ := first.fails _ _ rfl m stand
      exact ⟨fault, result_andThen_of_error failed, tells⟩

theorem congr_at (meets : ∀ m, blocks.Stand m → ∃ d : Course, Meets d blocks flaws ∧ c m = d m) :
    Meets c blocks flaws := by
  constructor
  · intro none m stand
    obtain ⟨d, meets, same⟩ := meets m stand
    obtain ⟨n, ⟨result, moment⟩, left⟩ := meets.completes none m stand
    exact ⟨n, ⟨same ▸ result, same ▸ moment⟩, left⟩
  · intro flaw rest first m stand
    obtain ⟨d, meets, same⟩ := meets m stand
    rw [same]
    exact meets.fails flaw rest first m stand

/-- What is demanded first. -/
theorem demand {fine : Bool} {flaw : Flaw} (holds : fine → Meets c blocks flaws)
    (fails : ¬ fine → Meets c blocks (flaw :: flaws)) :
    Meets c blocks (Grammar.demand fine flaw ++ flaws) := by
  cases fine with
  | true => exact holds rfl
  | false => exact fails nofun

/-- A course within a block that is opened before it and closed after it. -/
theorem entered {enter last : Update} (meets : Meets c inner flaws)
    (enters : ∀ m, blocks.Stand m → inner.Stand (enter.moment m))
    (leaves : ∀ m, inner.Stand m → blocks.Stand (last.moment m)) :
    Meets ((Course.make [enter]).andThen (c.ending last)) blocks flaws := by
  constructor
  · intro none m stand
    obtain ⟨n, completes, stand⟩ := meets.completes none _ (enters m stand)
    exact ⟨_, completes_andThen.mpr ⟨_, completes_make.mpr rfl,
      completes_ending.mpr ⟨n, completes, rfl⟩⟩, leaves n stand⟩
  · intro flaw rest first m stand
    exact meets.fails flaw rest first _ (enters m stand)

theorem refused {fault : Fault} (illegal : fault.makesIllegal) :
    Meets (Program.course [.refuse fault]) blocks (.form :: flaws) := by
  rw [Program.course, Program.stepCourse, Program.course, andThen_done]
  exact refuse (Flaw.form_tells illegal)

end Meets

end Course

open Course

variable {blocks : Blocks} {flaws : List Flaw}

namespace Privilege

theorem includeCourse_meets (name : String) (context : Value) (names : List Value) :
    Meets (includeCourse (.text name) context names) blocks [] := by
  induction names with
  | nil => exact .done
  | cons lower rest ih => exact (Meets.make rfl).andThen ((Meets.keyed rfl name).andThen ih)

theorem includesCourse_meets (names : List Value) :
    Meets (includesCourse names) blocks (Grammar.demand blocks.privilege.isSome .scope) := by
  refine Meets.congr_at fun m stand => ?_
  cases around : blocks.privilege with
  | none =>
    refine ⟨_, Meets.refuse (Flaw.scope_tells (.includesOutsidePrivilege names)), ?_⟩
    simp only [includesCourse, stand.privilege, around, Option.map_none]
  | some name =>
    refine ⟨_, includeCourse_meets name m.reader.context (Value.leavesOf names), ?_⟩
    simp only [includesCourse, stand.privilege, around, Option.map_some]

theorem includeGivenCourse_meets (options : Table Value) (around : blocks.privilege.isSome) :
    Meets (includeGivenCourse options) blocks [] := by
  unfold includeGivenCourse
  split
  · rename_i names _
    have included : Meets (includesCourse names) blocks _ := includesCourse_meets names
    simpa [Grammar.demand, around] using included
  · exact .done

theorem blockCourse_meets {name : String} {body : Option Course}
    (meets : Meets (body.getD done) { privilege := some name } flaws) (context : Value)
    (options : Table Value) : Meets (blockCourse (.text name) context options body) {} flaws := by
  have registers : Meets (make [.privilege (.text name)]) { privilege := some name } [] :=
    .make rfl
  have inner := registers.andThen ((Meets.emit (.privilegeDeclared (.text name) context)).andThen
    (meets.andThen (includeGivenCourse_meets options rfl)))
  rw [List.append_nil] at inner
  exact inner.entered (fun m stand => ⟨stand.takes, rfl, stand.role, stand.rule⟩)
    fun m stand => ⟨stand.takes, rfl, stand.role, stand.rule⟩

theorem unknownOptions_isEmpty_iff {extra : List (String × Value)}
    (once : (extra.map Prod.fst).Nodup) :
    (unknownOptions (mergedOptions .empty extra)).isEmpty ↔
      ∀ name ∈ extra.map Prod.fst, name = "includes" := by
  simp only [unknownOptions, List.isEmpty_iff, List.filter_eq_nil_iff, Bool.not_eq_true',
    Bool.not_eq_false, Value.same_text_iff]
  constructor
  · intro known name held
    have entered : (mergedOptions .empty extra).get? (.text name) = extra.lookup name := by
      refine (Table.get?_merge (Statement.asEntries_distinct once) ..).trans ?_
      rw [Statement.get?_asEntries]
      cases extra.lookup name <;> rfl
    have found : ((mergedOptions .empty extra).get? (.text name)).isSome := by
      rw [entered]
      exact Given.lookup_isSome_iff.mpr held
    obtain ⟨key, among, same⟩ := Value.within_iff.mp (Table.get?_isSome_iff.mp found)
    rw [known key among, Value.same_text_iff] at same
    injection same
  · intro each key among
    rcases Table.mem_keys_merge among with nothing | held
    · cases nothing
    · simp only [Table.keys, List.map_map, List.mem_map, Function.comp_apply] at held
      obtain ⟨option, given, rfl⟩ := held
      rw [each option.1 (List.mem_map_of_mem given)]

/-- Options are as they should be if they fit the call and none of them is unknown. -/
theorem hasOptions_iff {options : List (Value × Value)}
    (plain : Statement.option? "options" options = none) :
    Grammar.hasOptions ["context", "includes", "body"] options ↔
      ∃ named, Statement.textKeyed? options = some named ∧
        Statement.privilegeSignature.Fits ["privilege"] [] (named.map Prod.fst) ∧
        (unknownOptions (mergedOptions .empty (Statement.extraOptions named))).isEmpty := by
  unfold Grammar.hasOptions
  cases keyed : Statement.textKeyed? options with
  | none => simp
  | some named =>
    have absent : "options" ∉ named.map Prod.fst := by
      rw [← Given.lookup_isSome_iff, Statement.lookup_of_textKeyed? keyed, plain]
      simp
    have others (once : (named.map Prod.fst).Nodup) :=
      unknownOptions_isEmpty_iff (once.sublist (List.filter_sublist.map _) :
        ((Statement.extraOptions named).map Prod.fst).Nodup)
    have extra (name : String) : name ∈ (Statement.extraOptions named).map Prod.fst ↔
        name ∈ named.map Prod.fst ∧ name ∉ Statement.privilegeSignature.parameters := by
      simp [Statement.extraOptions]
    have parameters : Statement.privilegeSignature.parameters =
        ["privilege", "context", "options", "body"] := rfl
    simp only [Bool.and_eq_true, decide_eq_true_eq, List.all_eq_true, List.contains_iff_mem,
      Option.some.injEq, exists_eq_left']
    constructor
    · rintro ⟨once, allowed⟩
      refine ⟨⟨fun held => ?_, once, fun name held _ => ?_, fun name _ _ => ?_⟩,
        (others once).mpr fun name held => ?_⟩
      · simpa using allowed _ held
      · intro first
        rw [List.mem_singleton.mp first] at held
        simpa using allowed _ held
      · exact ⟨rfl, by simp⟩
      · obtain ⟨held, strange⟩ := (extra name).mp held
        have among := allowed name held
        simp only [parameters, List.mem_cons, List.not_mem_nil, or_false] at strange among
        grind
    · rintro ⟨fits, known⟩
      refine ⟨fits.once, fun name held => ?_⟩
      by_cases parameter : name ∈ Statement.privilegeSignature.parameters
      · have other := fits.parameter name held parameter
        simp only [parameters, List.mem_cons, List.not_mem_nil, or_false] at parameter other ⊢
        have notOptions : name ≠ "options" := fun same => absent (same ▸ held)
        grind
      · simp [(others fits.once).mp known name ((extra name).mpr ⟨held, parameter⟩)]

theorem course_meets {name : String} {context : Value} {extra : List (String × Value)}
    {body : Option Course} (notMap : ¬ context.isMap)
    (known : (unknownOptions (mergedOptions .empty extra)).isEmpty)
    (meets : Meets (body.getD done) { privilege := some name } flaws) :
    Meets (course (.text name) context .null extra body) {} flaws := by
  rw [course_of_known notMap known]
  exact blockCourse_meets meets ..

theorem course_unknown {name context : Value} {extra : List (String × Value)}
    {body : Option Course} (notMap : ¬ context.isMap)
    (unknown : ¬ (unknownOptions (mergedOptions .empty extra)).isEmpty) :
    Meets (course name context .null extra body) {} (.form :: flaws) := by
  have entries : optionEntries .null = .ok .empty := rfl
  simp only [course, if_neg notMap, courseIn, entries, knownCourse, if_neg unknown]
  exact .refuse (Flaw.form_tells rfl)

end Privilege

namespace Role

theorem givenCourse_meets {set : Course} (meets : Meets set blocks []) (text : Value) :
    Meets (givenCourse text set) blocks [] := by
  unfold givenCourse
  split
  · exact .done
  · exact meets

theorem course_meets {name : String} {body : Option Course}
    (meets : Meets (body.getD done) { role := some name } flaws) (title description : Value) :
    Meets (course (.text name) title description body) {} flaws := by
  have registers : Meets (registerCourse (.text name) title description) {} [] :=
    (Meets.make rfl).andThen ((givenCourse_meets (.keyed rfl name) title).andThen
      (givenCourse_meets (.keyed rfl name) description))
  have inner := (Meets.emit (.roleDeclared (.text name))).andThen meets
  exact registers.andThen (inner.entered
    (fun m stand => ⟨stand.takes, stand.privilege, rfl, stand.rule⟩)
    fun m stand => ⟨stand.takes, stand.privilege, rfl, stand.rule⟩)

theorem currentCourse_meets {fault : ScopeFault} {next : Value → Course}
    (each : ∀ name, blocks.role = some name → Meets (next (.text name)) blocks flaws) :
    Meets (currentCourse fault next) blocks
      (Grammar.demand blocks.role.isSome .scope ++ flaws) := by
  refine Meets.congr_at fun m stand => ?_
  cases around : blocks.role with
  | none =>
    refine ⟨_, Meets.refuse (Flaw.scope_tells fault), ?_⟩
    simp only [currentCourse, stand.role, around, Option.map_none]
  | some name =>
    refine ⟨_, each name around, ?_⟩
    simp only [currentCourse, stand.role, around, Option.map_some]

theorem keyedCourse_meets {fault : ScopeFault} {u : Value → Update}
    (still : ∀ role, (u role).isStill) :
    Meets (currentCourse fault fun role => keyed role (u role)) blocks
      (Grammar.demand blocks.role.isSome .scope) := by
  rw [← List.append_nil (Grammar.demand _ _)]
  exact currentCourse_meets fun name _ => .keyed (still _) name

end Role

namespace Grant

theorem closing_meets {c : Course} {inner : Blocks} {enter : Update}
    (meets : Meets c inner flaws)
    (enters : ∀ m, blocks.Stand m → inner.Stand (enter.moment m))
    (leaves : ∀ m, inner.Stand m → blocks.Stand (Update.completeGrant.moment m)) :
    Meets ((make [enter]).andThen (closing c)) blocks flaws := by
  constructor
  · intro none m stand
    obtain ⟨n, completes, stand⟩ := meets.completes none _ (enters m stand)
    refine ⟨_, completes_andThen.mpr ⟨_, completes_make.mpr rfl, ?_⟩, leaves n stand⟩
    obtain ⟨result, rfl⟩ := completes
    constructor <;> simp [closing] at result ⊢ <;> simp [result]
  · intro flaw rest first m stand
    obtain ⟨fault, failed, tells⟩ := meets.fails flaw rest first _ (enters m stand)
    refine ⟨fault, ?_, tells⟩
    have failed' : (c (m.after [enter])).result = .error fault := failed
    simp only [andThen, make, closing, failed']

variable {role : Option String}

/-- A rule is appended, and the body of its grant is run where the grant is open. -/
theorem ruleCourse_meets {c : Course} (meets : Meets c { role := role, grant := true } flaws)
    (rule : Rule) : Meets (ruleCourse rule (some c)) { role := role } flaws := by
  refine Meets.congr_at fun m stand => ⟨(make [.rule rule]).andThen
    ((emit (.permissionGranted rule.role rule.context rule.privileges)).andThen
      (blockCourse m.reader.tables.rules.length (some c))), ?_, rfl⟩
  exact (Meets.make rfl).andThen ((Meets.emit _).andThen (closing_meets meets
    (fun m stand => ⟨stand.takes, stand.privilege, stand.role, rfl⟩)
    fun m stand => ⟨stand.takes, stand.privilege, stand.role, rfl⟩))

theorem ruleCourse_none_meets (rule : Rule) : Meets (ruleCourse rule none) blocks [] := by
  refine Meets.congr_at fun m stand => ⟨(make [.rule rule]).andThen
    ((emit (.permissionGranted rule.role rule.context rule.privileges)).andThen done), ?_, rfl⟩
  exact (Meets.make rfl).andThen ((Meets.emit _).andThen .done)

theorem currentCourse_meets {fault : ScopeFault} {next : Nat → Course}
    (each : ∀ place, Meets (next place) blocks flaws) :
    Meets (currentCourse fault next) blocks (Grammar.demand blocks.grant .scope ++ flaws) := by
  refine Meets.congr_at fun m stand => ?_
  have rule := stand.rule
  cases around : blocks.grant with
  | false =>
    rw [around, Option.isSome_eq_false_iff, Option.isNone_iff_eq_none] at rule
    refine ⟨_, Meets.refuse (Flaw.scope_tells fault), ?_⟩
    simp only [currentCourse, rule]
  | true =>
    rw [around, Option.isSome_iff_exists] at rule
    obtain ⟨place, isOpen⟩ := rule
    refine ⟨_, each place, ?_⟩
    simp only [currentCourse, isOpen]

theorem addPrivilegesCourse_meets (names : List Value) :
    Meets (addPrivilegesCourse names) blocks (Grammar.demand blocks.grant .scope) := by
  rw [← List.append_nil (Grammar.demand _ _)]
  exact currentCourse_meets fun place => .make rfl

theorem conditionsCourse_meets (argument : Value) (place : Nat) :
    Meets (conditionsCourse (joinConditions argument []) place) blocks
      (Grammar.demand (Grammar.isNullOrMap argument) .scope) := by
  have read (entries : List (Value × Value)) :
      Meets (conditionsCourse (.map entries) place) blocks [] :=
    Meets.congr_at fun m _ =>
      ⟨(make [.serial (ConditionTree.ofEntries m.serial entries).2]).andThen
        (make [.conditions place (ConditionTree.ofEntries m.serial entries).1]),
        (Meets.make rfl).andThen (.make rfl), rfl⟩
  cases opened : argument.opened with
  | null =>
    simp only [joinConditions, Grammar.isNullOrMap, opened]
    exact read _
  | map entries =>
    simp only [joinConditions, Grammar.isNullOrMap, opened]
    exact read _
  | _ =>
    simp only [joinConditions, Grammar.isNullOrMap, opened]
    refine Meets.congr_at fun m _ =>
      ⟨_, Meets.refuse (Flaw.scope_tells (.conditionsNotMapping argument.opened)), ?_⟩
    simp only [conditionsCourse, Conditions.read, opened]

theorem restrictCourse_meets (argument : Value) :
    Meets (restrictCourse argument []) blocks
      (Grammar.demand blocks.grant .scope ++
        Grammar.demand (Grammar.isNullOrMap argument) .scope) :=
  currentCourse_meets (conditionsCourse_meets argument)

end Grant

end AccessPolicy
