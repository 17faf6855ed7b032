import AccessPolicy.Proofs.Statement
import AccessPolicy.Proofs.Trace

/-! More blocks open than before. No operation asks for a block to be closed, so that statements
which complete where some blocks are open also complete where others are open besides, and come to
the same tables. -/

namespace AccessPolicy

/-- The privilege and the role that are open in one reader are open in another, too. -/
structure Reader.Narrower (r wider : Reader) : Prop where
  privilege : ∀ name, r.privilege = some name →
    wider.privilege = some name ∧ wider.context = r.context
  role : ∀ role, r.role = some role → wider.role = some role

namespace Reader.Narrower

variable {r s t : Reader}

theorem trans (first : r.Narrower s) (second : s.Narrower t) : r.Narrower t where
  privilege name isOpen := by
    obtain ⟨between, context⟩ := first.privilege name isOpen
    obtain ⟨wide, context'⟩ := second.privilege name between
    exact ⟨wide, context'.trans context⟩
  role role isOpen := second.role role (first.role role isOpen)

end Reader.Narrower

/-- Blocks are left in the order in which they were entered: what is open after a run was open
before it. -/
theorem Trace.narrower {good : Value → Prop} {m : Moment} {result : Except Fault Unit}
    {journal : Journal} (trace : Trace good m result journal) :
    (m.after journal).reader.Narrower m.reader := by
  -- A block that is left leaves nothing open in its own place, which is narrower than anything.
  induction trace with
  | append _ _ first second =>
    rw [Moment.after_append]
    exact second.trans first
  | privilegeBlock _ _ inner =>
    simp only [Moment.after_cons, Moment.after_append] at inner ⊢
    exact ⟨nofun, inner.role⟩
  | roleBlock _ _ _ inner =>
    simp only [Moment.after_cons, Moment.after_append] at inner ⊢
    exact ⟨inner.privilege, nofun⟩
  | completedGrant _ _ _ inner | abandonedGrant _ _ _ inner =>
    simp only [Moment.after_cons, Moment.after_append] at inner ⊢
    exact ⟨inner.privilege, inner.role⟩
  | _ => exact ⟨fun _ isOpen => ⟨isOpen, rfl⟩, fun _ isOpen => isOpen⟩

theorem Course.Completes.narrower {c : Course} {m n : Moment} (completes : c.Completes m n)
    (traced : c.Traced Program.anyName) : n.reader.Narrower m.reader := by
  have led := traced.at_ m
  unfold Course.TracedAt at led
  rw [← completes.moment]
  exact led.narrower

/-- Two moments that differ in the blocks that are open: those of the first are open in the second,
too. -/
structure Moment.Narrower (m wider : Moment) : Prop where
  blocks : m.reader.Narrower wider.reader
  rule : ∀ place, m.reader.rule = some place → wider.reader.rule = some place
  tables : wider.reader.tables = m.reader.tables
  serial : wider.serial = m.serial
  sink : wider.sink = m.sink

namespace Moment.Narrower

variable {m n : Moment}

/-- The same update is made in both moments. -/
theorem moment (narrower : m.Narrower n) (u : Update) : (u.moment m).Narrower (u.moment n) := by
  obtain ⟨⟨privilege, role⟩, rule, tables, serial, sink⟩ := narrower
  have same : u.tables n.reader.tables = u.tables m.reader.tables := by rw [tables]
  cases u with
  | enterPrivilege name context =>
    exact ⟨⟨fun _ isOpen => ⟨isOpen, rfl⟩, role⟩, rule, same, serial, sink⟩
  | leavePrivilege => exact ⟨⟨nofun, role⟩, rule, same, serial, sink⟩
  | enterRole => exact ⟨⟨privilege, fun _ isOpen => isOpen⟩, rule, same, serial, sink⟩
  | leaveRole => exact ⟨⟨privilege, nofun⟩, rule, same, serial, sink⟩
  | enterGrant => exact ⟨⟨privilege, role⟩, fun _ isOpen => isOpen, same, serial, sink⟩
  | completeGrant => exact ⟨⟨privilege, role⟩, nofun, same, serial, sink⟩
  | serial => exact ⟨⟨privilege, role⟩, rule, same, rfl, sink⟩
  | _ => exact ⟨⟨privilege, role⟩, rule, same, serial, sink⟩

theorem after (narrower : m.Narrower n) (journal : Journal) :
    (m.after journal).Narrower (n.after journal) := by
  induction journal generalizing m n with
  | nil => exact narrower
  | cons u rest ih => exact ih (narrower.moment u)

end Moment.Narrower

open Course

/-- Where the course completes, it also does with more blocks open, which makes no other
difference. -/
structure Widens (c : Course) : Prop where
  completes : ∀ m n k, m.Narrower n → c.Completes m k → ∃ l, c.Completes n l ∧ k.Narrower l

namespace Widens

variable {c d : Course}

theorem make (journal : Journal) : Widens (make journal) := by
  constructor
  intro m n k narrower completes
  obtain rfl := completes_make.mp completes
  exact ⟨_, completes_make.mpr rfl, narrower.after journal⟩

theorem done : Widens done := make []

theorem refuse (fault : Fault) : Widens (refuse fault) :=
  ⟨fun _ _ _ _ completes => (not_completes_refuse completes).elim⟩

theorem andThen (first : Widens c) (second : Widens d) : Widens (c.andThen d) := by
  constructor
  intro m n k narrower completes
  obtain ⟨m', one, two⟩ := completes_andThen.mp completes
  obtain ⟨n', one', between⟩ := first.completes _ _ _ narrower one
  obtain ⟨l, two', narrower'⟩ := second.completes _ _ _ between two
  exact ⟨l, completes_andThen.mpr ⟨n', one', two'⟩, narrower'⟩

theorem ending (inner : Widens c) (last : Update) : Widens (c.ending last) := by
  constructor
  intro m n k narrower completes
  obtain ⟨m', within, rfl⟩ := completes_ending.mp completes
  obtain ⟨n', within', between⟩ := inner.completes _ _ _ narrower within
  exact ⟨_, completes_ending.mpr ⟨n', within', rfl⟩, between.moment last⟩

/-- What the course does in the two moments may be told of one other course. -/
theorem congr_at (each : ∀ m n, m.Narrower n → ∀ k, c.Completes m k →
    ∃ d : Course, Widens d ∧ c m = d m ∧ c n = d n) : Widens c := by
  constructor
  intro m n k narrower completes
  obtain ⟨d, widens, here, there⟩ := each m n narrower k completes
  obtain ⟨l, ⟨result, moment⟩, narrower'⟩ :=
    widens.completes m n k narrower ⟨here ▸ completes.result, here ▸ completes.moment⟩
  exact ⟨l, ⟨there ▸ result, there ▸ moment⟩, narrower'⟩

/-- Events go to the same place. -/
theorem emit (event : LogEvent) : Widens (emit event) := by
  refine congr_at fun m n narrower _ _ => ⟨fun _ => Course.emit event m, ?_, rfl, ?_⟩
  · rcases emit_cases event m with same | same | ⟨fault, same⟩ <;> rw [same]
    · exact done
    · exact make _
    · exact refuse _
  · simp only [Course.emit, narrower.sink]
    rfl

theorem keyed (key : Value) (update : Update) : Widens (keyed key update) := by
  unfold Course.keyed
  split
  · exact refuse _
  · exact make _

end Widens

variable {body : Option Course}

namespace Privilege

theorem includeCourse_widens (name context : Value) (names : List Value) :
    Widens (includeCourse name context names) := by
  induction names with
  | nil => exact .done
  | cons lower rest ih => exact (Widens.make _).andThen ((Widens.keyed ..).andThen ih)

theorem includesCourse_widens (names : List Value) : Widens (includesCourse names) := by
  refine Widens.congr_at fun m n narrower k completes => ?_
  obtain ⟨name, isOpen, -⟩ := completes_includesCourse completes
  obtain ⟨wide, context⟩ := narrower.blocks.privilege name isOpen
  refine ⟨_, includeCourse_widens name m.reader.context (Value.leavesOf names), ?_, ?_⟩
  · simp only [includesCourse, isOpen]
  · simp only [includesCourse, wide, context]

theorem includeGivenCourse_widens (options : Table Value) :
    Widens (includeGivenCourse options) := of_includeGivenCourse .done includesCourse_widens options

theorem blockCourse_widens (inner : ∀ c ∈ body, Widens c) (name context : Value)
    (options : Table Value) : Widens (blockCourse name context options body) := by
  refine (Widens.make _).andThen (Widens.ending ?_ _)
  refine (Widens.make _).andThen ((Widens.emit _).andThen ?_)
  exact (of_getD .done inner).andThen (includeGivenCourse_widens options)

theorem course_widens (inner : ∀ c ∈ body, Widens c) (name context options : Value)
    (extra : List (String × Value)) : Widens (course name context options extra body) := by
  obtain ⟨fault, same⟩ | ⟨within, known, same⟩ := course_cases name context options extra
  · rw [same]
    exact .refuse fault
  · rw [same]
    exact blockCourse_widens inner ..

end Privilege

namespace Role

theorem givenCourse_widens {set : Course} (widens : Widens set) (text : Value) :
    Widens (givenCourse text set) := of_givenCourse .done widens text

theorem course_widens (inner : ∀ c ∈ body, Widens c) (role title description : Value) :
    Widens (course role title description body) := by
  have registers : Widens (registerCourse role title description) :=
    (Widens.make _).andThen ((givenCourse_widens (.keyed ..) title).andThen
      (givenCourse_widens (.keyed ..) description))
  have block : Widens (blockCourse role body) :=
    (Widens.make _).andThen (((Widens.emit _).andThen (of_getD .done inner)).ending _)
  exact registers.andThen block

theorem currentCourse_widens {fault : ScopeFault} {next : Value → Course}
    (each : ∀ role, Widens (next role)) : Widens (currentCourse fault next) := by
  refine Widens.congr_at fun m n narrower k completes => ?_
  obtain ⟨role, isOpen, -⟩ := completes_currentCourse completes
  refine ⟨_, each role, ?_, ?_⟩
  · simp only [currentCourse, isOpen]
  · simp only [currentCourse, narrower.blocks.role role isOpen]

end Role

namespace Grant

theorem closing_widens {c : Course} (inner : Widens c) : Widens (closing c) := by
  constructor
  intro m n k narrower completes
  obtain ⟨m', within, rfl⟩ := completes_closing completes
  obtain ⟨n', ⟨result, rfl⟩, between⟩ := inner.completes _ _ _ narrower within
  refine ⟨_, ⟨?_, rfl⟩, ?_⟩
  · simp only [closing, result]
  · simpa [closing, result] using between.moment .completeGrant

theorem blockCourse_widens (inner : ∀ c ∈ body, Widens c) (place : Nat) :
    Widens (blockCourse place body) := by
  cases body with
  | none => exact .done
  | some c => exact (Widens.make _).andThen (closing_widens (inner c rfl))

theorem ruleCourse_widens (inner : ∀ c ∈ body, Widens c) (rule : Rule) :
    Widens (ruleCourse rule body) := by
  refine Widens.congr_at fun m n narrower _ _ => ⟨(Course.make [.rule rule]).andThen
    ((Course.emit (.permissionGranted rule.role rule.context rule.privileges)).andThen
      (blockCourse m.reader.tables.rules.length body)), ?_, rfl, ?_⟩
  · exact (Widens.make _).andThen ((Widens.emit _).andThen (blockCourse_widens inner _))
  · simp only [ruleCourse, narrower.tables]

theorem course_widens (inner : ∀ c ∈ body, Widens c) (context privileges : Value) :
    Widens (course context privileges body) := by
  refine Role.currentCourse_widens fun role => ?_
  split
  · exact .refuse _
  · exact ruleCourse_widens inner _

theorem currentCourse_widens {fault : ScopeFault} {next : Nat → Course}
    (each : ∀ place, Widens (next place)) : Widens (currentCourse fault next) := by
  refine Widens.congr_at fun m n narrower k completes => ?_
  obtain ⟨place, isOpen, -⟩ := completes_currentCourse completes
  refine ⟨_, each place, ?_, ?_⟩
  · simp only [currentCourse, isOpen]
  · simp only [currentCourse, narrower.rule place isOpen]

theorem conditionsCourse_widens (given : Value) (place : Nat) :
    Widens (conditionsCourse given place) := by
  refine Widens.congr_at fun m n narrower _ _ =>
    ⟨fun _ => conditionsCourse given place m, ?_, rfl, ?_⟩
  · unfold conditionsCourse
    split
    · exact .refuse _
    · exact .make _
  · simp only [conditionsCourse, narrower.serial]
    rfl

end Grant

namespace Statement

/-- What comes of a statement widens if its body does. -/
theorem makes_widens {block : Block} {keyword argument : Value} {options : List (Value × Value)}
    {c : Course} (makes : Makes block keyword argument options c)
    (inner : ∀ body ∈ optionBody block options, Widens body) : Widens c := by
  cases makes with
  | refused fault => exact .refuse _
  | privilege => exact Privilege.course_widens inner ..
  | includePrivileges => exact Privilege.includesCourse_widens _
  | role => exact Role.course_widens inner ..
  | includeRoles | title | description => exact Role.currentCourse_widens fun role => .keyed ..
  | grant => exact Grant.course_widens inner ..
  | addPrivileges => exact Grant.currentCourse_widens fun _ => .make _
  | restrict => exact Grant.currentCourse_widens (Grant.conditionsCourse_widens _)

/-- Statements, at whatever depth, complete with more blocks open as they do with fewer. -/
theorem program_widens (block : Block) (value : Value) :
    Widens (Program.course (program block value)) :=
  course_induction .done .refuse .andThen makes_widens value

end Statement

end AccessPolicy
