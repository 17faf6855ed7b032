import AccessPolicy.Proofs.Merge
import AccessPolicy.Proofs.Reading

/-! What a program does on top of other tables. No course reads the tables but for their number of
rules, so that it makes the same updates there, with places counted from further on. -/

namespace AccessPolicy

/-- What decides the course of a program that follows no path, serials apart. -/
structure Frame where
  privilege : Option (Value × Value)
  role : Option Value
  rule : Option Nat
  rules : Nat
  sink : Sink

def Frame.moved (count : Nat) (frame : Frame) : Frame :=
  { frame with rule := frame.rule.map (count + ·), rules := count + frame.rules }

def Moment.frame (m : Moment) : Frame where
  privilege := m.reader.privilege.map (·, m.reader.context)
  role := m.reader.role
  rule := m.reader.rule
  rules := m.reader.tables.rules.length
  sink := m.sink

namespace Update

theorem frame_unnumbered (u : Update) (m : Moment) :
    (u.unnumbered.moment m).frame = (u.moment m).frame := by
  cases u <;> simp [unnumbered, moment, reader, tables, Moment.frame]

theorem frame_moved {count : Nat} {m n : Moment} (above : n.frame = m.frame.moved count)
    (u : Update) : ((u.moved count).moment n).frame = (u.moment m).frame.moved count := by
  simp only [Moment.frame, Frame.moved, Frame.mk.injEq] at above
  obtain ⟨privilege, role, rule, rules, sink⟩ := above
  cases u with
  | rule made =>
    simp [moved, moment, reader, tables, Moment.frame, Frame.moved, privilege, role, rule, rules,
      sink, Nat.add_assoc]
  | _ =>
    simp [moved, moment, reader, tables, Moment.frame, Frame.moved, privilege, role, rule, rules,
      sink, Privilege.opened, Privilege.closed, Role.opened, Role.closed, Grant.opened,
      Grant.closed]

end Update

/-- Journals of one program, the second of them from further on. -/
def Journal.Moved (count : Nat) (j k : Journal) : Prop :=
  k.map Update.unnumbered = (Journal.moved count j).map Update.unnumbered

namespace Journal

variable {count : Nat} {j k j' k' : Journal}

theorem Moved.append (first : Moved count j k) (second : Moved count j' k') :
    Moved count (j ++ j') (k ++ k') := by
  simp only [Moved, moved, List.map_append] at first second ⊢
  rw [first, second]

theorem frame_of_moved {m n : Moment} (above : n.frame = m.frame.moved count)
    (together : Moved count j k) : (n.after k).frame = (m.after j).frame.moved count := by
  induction j generalizing k m n with
  | nil =>
    obtain rfl := List.map_eq_nil_iff.mp together
    exact above
  | cons u j ih =>
    obtain ⟨v, k, rfl, same, rest⟩ := List.map_eq_cons_iff.mp together
    have step : (v.moment n).frame = (u.moment m).frame.moved count := by
      rw [← v.frame_unnumbered, same, Update.frame_unnumbered]
      exact u.frame_moved above
    rw [Moment.after_cons, Moment.after_cons]
    exact ih step rest

end Journal

/-- On top of other tables the second course comes to what the first one comes to, by the same
updates from further on. -/
structure Moves (count : Nat) (c d : Course) : Prop where
  moves : ∀ m n, n.frame = m.frame.moved count →
    (d n).result = (c m).result ∧ Journal.Moved count (c m).journal (d n).journal

namespace Moves

open Course

variable {count : Nat} {c d c' d' : Course}

theorem done : Moves count done done := ⟨fun _ _ _ => ⟨rfl, rfl⟩⟩

theorem refuse (fault : Fault) : Moves count (refuse fault) (refuse fault) :=
  ⟨fun _ _ _ => ⟨rfl, rfl⟩⟩

theorem make {journal journal' : Journal} (moved : Journal.Moved count journal journal') :
    Moves count (make journal) (make journal') := ⟨fun _ _ _ => ⟨rfl, moved⟩⟩

theorem andThen (first : Moves count c d) (second : Moves count c' d') :
    Moves count (c.andThen c') (d.andThen d') := by
  constructor
  intro m n above
  obtain ⟨result, journal⟩ := first.moves m n above
  cases came : (c m).result with
  | error fault =>
    rw [came] at result
    simp only [Course.andThen, came, result]
    exact ⟨trivial, journal⟩
  | ok _ =>
    rw [came] at result
    obtain ⟨result', journal'⟩ := second.moves _ _ (Journal.frame_of_moved above journal)
    simp only [Course.andThen, came, result]
    exact ⟨result', journal.append journal'⟩

theorem ending (moves : Moves count c d) {last : Update} (still : last.moved count = last) :
    Moves count (c.ending last) (d.ending last) := by
  constructor
  intro m n above
  obtain ⟨result, journal⟩ := moves.moves m n above
  exact ⟨result, journal.append (by simp [Journal.Moved, Journal.moved, still])⟩

theorem recover {handle : Fault → Course} (moves : Moves count c d)
    (handles : ∀ fault, Moves count (handle fault) (handle fault)) :
    Moves count (c.recover handle) (d.recover handle) := by
  constructor
  intro m n above
  obtain ⟨result, journal⟩ := moves.moves m n above
  cases came : (c m).result with
  | ok _ =>
    rw [came] at result
    simp only [Course.recover, came, result]
    exact ⟨trivial, journal⟩
  | error fault =>
    rw [came] at result
    obtain ⟨result', journal'⟩ := (handles fault).moves _ _ (Journal.frame_of_moved above journal)
    simp only [Course.recover, came, result]
    exact ⟨result', journal.append journal'⟩

theorem emit (event : LogEvent) : Moves count (emit event) (emit event) := by
  constructor
  intro m n above
  have sink : n.sink = m.sink := congrArg Frame.sink above
  unfold Course.emit
  rw [sink]
  split
  · split
    · exact ⟨rfl, rfl⟩
    · exact ⟨rfl, rfl⟩
  · exact ⟨rfl, rfl⟩

theorem keyed {u : Update} (key : Value) (still : u.moved count = u) :
    Moves count (keyed key u) (keyed key u) := by
  unfold Course.keyed
  split
  · exact refuse _
  · exact make (by simp [Journal.Moved, Journal.moved, still])

end Moves

inductive BodyMoves (count : Nat) : Option Course → Option Course → Prop
  | none : BodyMoves count none none
  | some {c d : Course} : Moves count c d → BodyMoves count (some c) (some d)

theorem BodyMoves.getD {count : Nat} {body body' : Option Course}
    (inner : BodyMoves count body body') : Moves count (body.getD .done) (body'.getD .done) := by
  cases inner with
  | none => exact .done
  | some moves => exact moves

variable {count : Nat} {body body' : Option Course}

namespace Privilege

open Moves

theorem includeCourse_moves (name context : Value) (names : List Value) :
    Moves count (includeCourse name context names) (includeCourse name context names) := by
  induction names with
  | nil => exact done
  | cons lower rest ih => exact (make rfl).andThen ((keyed name rfl).andThen ih)

theorem includesCourse_moves (names : List Value) :
    Moves count (includesCourse names) (includesCourse names) := by
  constructor
  intro m n above
  have privilege : n.reader.privilege.map (·, n.reader.context) =
    m.reader.privilege.map (·, m.reader.context) := congrArg Frame.privilege above
  cases isOpen : m.reader.privilege with
  | none =>
    rw [isOpen, Option.map_none, Option.map_eq_none_iff] at privilege
    simp only [includesCourse, isOpen, privilege]
    exact (refuse _).moves m n above
  | some name =>
    rw [isOpen, Option.map_some, Option.map_eq_some_iff] at privilege
    obtain ⟨other, isOpen', same⟩ := privilege
    obtain ⟨rfl, context⟩ := Prod.mk.inj same
    simp only [includesCourse, isOpen, isOpen', context]
    exact (includeCourse_moves ..).moves m n above

theorem includeGivenCourse_moves (options : Table Value) :
    Moves count (includeGivenCourse options) (includeGivenCourse options) := by
  unfold includeGivenCourse
  split
  · exact includesCourse_moves _
  · exact done

theorem blockCourse_moves (inner : BodyMoves count body body') (name context : Value)
    (options : Table Value) :
    Moves count (blockCourse name context options body)
      (blockCourse name context options body') := by
  refine (make rfl).andThen (ending ?_ rfl)
  exact (make rfl).andThen ((emit _).andThen (inner.getD.andThen (includeGivenCourse_moves _)))

theorem course_moves (inner : BodyMoves count body body') (name context options : Value)
    (extra : List (String × Value)) :
    Moves count (course name context options extra body)
      (course name context options extra body') := by
  obtain ⟨fault, same⟩ | ⟨within, known, same⟩ := course_cases name context options extra
  · rw [same, same]
    exact refuse fault
  · rw [same, same]
    exact blockCourse_moves inner ..

end Privilege

namespace Role

open Moves

theorem givenCourse_moves {set : Course} (moves : Moves count set set) (text : Value) :
    Moves count (givenCourse text set) (givenCourse text set) := by
  unfold givenCourse
  split
  · exact done
  · exact moves

theorem registerCourse_moves (role title description : Value) :
    Moves count (registerCourse role title description) (registerCourse role title description) :=
  (make rfl).andThen ((givenCourse_moves (keyed role rfl) title).andThen
    (givenCourse_moves (keyed role rfl) description))

theorem course_moves (inner : BodyMoves count body body') (role title description : Value) :
    Moves count (course role title description body) (course role title description body') :=
  (registerCourse_moves role title description).andThen
    ((make rfl).andThen (((emit _).andThen inner.getD).ending rfl))

theorem currentCourse_moves {fault : ScopeFault} {next next' : Value → Course}
    (each : ∀ role, Moves count (next role) (next' role)) :
    Moves count (currentCourse fault next) (currentCourse fault next') := by
  constructor
  intro m n above
  have role : n.reader.role = m.reader.role := congrArg Frame.role above
  simp only [currentCourse, role]
  cases m.reader.role with
  | none => exact (refuse _).moves m n above
  | some role => exact (each role).moves m n above

end Role

namespace Grant

open Moves

theorem closing_moves {c d : Course} (inner : Moves count c d) :
    Moves count (closing c) (closing d) := by
  constructor
  intro m n above
  obtain ⟨result, journal⟩ := inner.moves m n above
  simp only [closing, result]
  split
  · exact ⟨rfl, journal.append rfl⟩
  · exact ⟨rfl, journal.append rfl⟩

theorem blockCourse_moves (inner : BodyMoves count body body') (place : Nat) :
    Moves count (blockCourse place body) (blockCourse (count + place) body') := by
  cases inner with
  | none => exact done
  | some moves => exact (make rfl).andThen (closing_moves moves)

theorem ruleCourse_moves (inner : BodyMoves count body body') (rule : Rule) :
    Moves count (ruleCourse rule body) (ruleCourse rule body') := by
  constructor
  intro m n above
  have rules : n.reader.tables.rules.length = count + m.reader.tables.rules.length :=
    congrArg Frame.rules above
  have made : Moves count (Course.make [.rule rule]) (Course.make [.rule rule]) := make rfl
  simp only [ruleCourse, rules]
  exact (made.andThen ((emit _).andThen (blockCourse_moves inner _))).moves m n above

theorem course_moves (inner : BodyMoves count body body') (context privileges : Value) :
    Moves count (course context privileges body) (course context privileges body') := by
  refine Role.currentCourse_moves fun role => ?_
  have given : body'.isNone = body.isNone := by cases inner <;> rfl
  rw [given]
  split
  · exact refuse _
  · exact ruleCourse_moves inner _

theorem currentCourse_moves {fault : ScopeFault} {next : Nat → Course}
    (each : ∀ place, Moves count (next place) (next (count + place))) :
    Moves count (currentCourse fault next) (currentCourse fault next) := by
  constructor
  intro m n above
  have rule : n.reader.rule = m.reader.rule.map (count + ·) := congrArg Frame.rule above
  cases isOpen : m.reader.rule with
  | none =>
    rw [isOpen, Option.map_none] at rule
    simp only [currentCourse, isOpen, rule]
    exact (refuse _).moves m n above
  | some place =>
    rw [isOpen, Option.map_some] at rule
    simp only [currentCourse, isOpen, rule]
    exact (each place).moves m n above

theorem addPrivilegesCourse_moves (names : List Value) :
    Moves count (addPrivilegesCourse names) (addPrivilegesCourse names) :=
  currentCourse_moves fun _ => make rfl

theorem conditionsCourse_moves (given : Value) (place : Nat) :
    Moves count (conditionsCourse given place) (conditionsCourse given (count + place)) := by
  constructor
  intro m n above
  unfold conditionsCourse Conditions.read
  cases given.opened with
  | map entries =>
    refine ⟨rfl, ?_⟩
    have trees := ConditionTree.ofValue_unnumbered.2 n.serial entries m.serial
    simp [Course.make, Journal.Moved, Journal.moved, Update.moved, Update.unnumbered, trees]
  | _ => exact ⟨rfl, rfl⟩

theorem restrictCourse_moves (given : Value) (extra : List (String × Value)) :
    Moves count (restrictCourse given extra) (restrictCourse given extra) :=
  currentCourse_moves fun place => conditionsCourse_moves _ place

end Grant

namespace Program

open Moves

mutual

theorem stepCourse_moves : ∀ step : Step, step.isOperational false →
    Moves count (stepCourse step) (stepCourse step)
  | .registerPrivilege _, _ => make rfl
  | .privilege _ _ _ _ body, still =>
    Privilege.course_moves (bodyCourse_moves body still) ..
  | .includePrivileges _, _ => Privilege.includesCourse_moves _
  | .registerRole .., _ => Role.registerCourse_moves ..
  | .role _ _ _ body, still =>
    Role.course_moves (bodyCourse_moves body still) ..
  | .includeRoles _, _ => Role.currentCourse_moves fun role => keyed role rfl
  | .title _, _ => Role.currentCourse_moves fun role => keyed role rfl
  | .description _, _ => Role.currentCourse_moves fun role => keyed role rfl
  | .grant _ _ body, still =>
    Grant.course_moves (bodyCourse_moves body still) ..
  | .addPrivileges _, _ => Grant.addPrivilegesCourse_moves _
  | .restrict .., _ => Grant.restrictCourse_moves ..
  | .condition _ _, _ => done
  | .attempt steps, still => (course_moves steps still).recover fun _ => done
  | .overridable _ _ operation, still => stepCourse_moves operation still
  | .refuse _, _ => Moves.refuse _

theorem bodyCourse_moves : ∀ body : Option (List Step), Step.bodyIsOperational false body →
    BodyMoves count (bodyCourse body) (bodyCourse body)
  | none, _ => .none
  | some steps, still => .some (course_moves steps still)

/-- A program that follows no path does the same on top of other tables. -/
theorem course_moves : ∀ steps : List Step, Step.isOperationalProgram false steps →
    Moves count (course steps) (course steps)
  | [], _ => done
  | step :: rest, still => by
    obtain ⟨first, others⟩ := Bool.and_eq_true_iff.mp still
    exact (stepCourse_moves step first).andThen (course_moves rest others)

end

end Program

end AccessPolicy
