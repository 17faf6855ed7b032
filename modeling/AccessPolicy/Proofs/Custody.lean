import AccessPolicy.Proofs.Calls
import AccessPolicy.Proofs.Reading

/-! Whose rule a call adds to. The open rule is that of the innermost grant, or that of a grant
whose body a fault has left; a call that adds to it keeps to the role in scope but for a role
opened within the body of the grant. -/

namespace AccessPolicy

open Course

variable {body : Option Course}

namespace Privilege

theorem includeCourse_keeps (name context : Value) (names : List Value) :
    (includeCourse name context names).Keeps := by
  induction names with
  | nil => exact .done
  | cons lower rest ih => exact (Keeps.make rfl).andThen ((Keeps.keyed rfl _).andThen ih)

theorem includesCourse_keeps (names : List Value) : (includesCourse names).Keeps := by
  refine Keeps.congr_at fun m => ?_
  unfold includesCourse
  split
  · exact ⟨_, .refuse _, rfl⟩
  · exact ⟨_, includeCourse_keeps .., rfl⟩

theorem blockCourse_keeps (inner : ∀ c ∈ body, c.Keeps) (name context : Value)
    (options : Table Value) : (blockCourse name context options body).Keeps := by
  refine (Keeps.make rfl).andThen (Keeps.ending ?_ rfl)
  refine (Keeps.make rfl).andThen ((Keeps.emit _).andThen ?_)
  exact (of_getD .done inner).andThen (of_includeGivenCourse .done includesCourse_keeps options)

theorem course_keeps (name context options : Value) (extra : List (String × Value))
    (inner : ∀ c ∈ body, c.Keeps) : (course name context options extra body).Keeps := by
  obtain ⟨fault, same⟩ | ⟨within, known, same⟩ := course_cases name context options extra
  · rw [same]
    exact .refuse fault
  · rw [same]
    exact blockCourse_keeps inner ..

end Privilege

namespace Role

theorem givenCourse_keeps {set : Course} (keeps : set.Keeps) (text : Value) :
    (givenCourse text set).Keeps := of_givenCourse .done keeps text

theorem registerCourse_keeps (role title description : Value) :
    (registerCourse role title description).Keeps :=
  (Keeps.make rfl).andThen ((givenCourse_keeps (.keyed rfl _) title).andThen
    (givenCourse_keeps (.keyed rfl _) description))

/-- A role is entered, and left whatever comes of its body. -/
theorem blockCourse_keeps (inner : ∀ c ∈ body, c.Keeps) (role : Value) :
    (blockCourse role body).Keeps := by
  constructor
  intro t sound
  refine keepsAt_make_andThen sound ?_
  refine (((Keeps.emit _).andThen (of_getD .done inner)).keeps _ (sound.enterRole role)).ending
    fun k sound last => ⟨sound.leaveRole last, ?_⟩
  exact congrArg List.tail last

theorem course_keeps (role title description : Value) (inner : ∀ c ∈ body, c.Keeps) :
    (course role title description body).Keeps :=
  (registerCourse_keeps role title description).andThen (blockCourse_keeps inner role)

theorem currentCourse_keeps {fault : ScopeFault} {next : Value → Course}
    (each : ∀ role (t : Track), t.Sound → t.moment.reader.role = some role →
      (next role).KeepsAt t t.calls.executing) : (currentCourse fault next).Keeps := by
  constructor
  intro t sound
  cases role : t.moment.reader.role with
  | none => exact ((Keeps.refuse (.scope fault)).keeps t sound).congr (by simp [currentCourse, role])
  | some role' => exact (each role' t sound role).congr (by simp [currentCourse, role])

theorem keyedCourse_keeps {fault : ScopeFault} {u : Value → Update}
    (plain : ∀ role, (u role).isPlain) :
    (currentCourse fault fun role => keyed role (u role)).Keeps :=
  currentCourse_keeps fun role t sound _ => (Keeps.keyed (plain role) role).keeps t sound

end Role

namespace Grant

variable {t : Track} {calls : List Call} {place : Nat}

theorem closing_keepsAt {inner : Course} (keeps : inner.KeepsAt t (.grant place :: calls)) :
    (closing inner).KeepsAt t calls := by
  have ends (last : Update) (led : (inner.ending last).KeepsAt t calls)
      (same : (closing inner t.moment).journal = (inner.ending last t.moment).journal) :
      (closing inner).KeepsAt t calls := by
    obtain ⟨sound, left⟩ := led
    rw [← same] at sound left
    exact ⟨sound, left⟩
  cases came : (inner t.moment).result with
  | ok _ =>
    refine ends .completeGrant (keeps.ending fun k sound last => ?_)
      (by simp only [closing, came, ending])
    exact ⟨sound.completeGrant last, congrArg List.tail last⟩
  | error fault =>
    refine ends .abandonGrant (keeps.ending fun k sound last => ?_)
      (by simp only [closing, came, ending])
    exact ⟨sound.abandonGrant last, congrArg List.tail last⟩

theorem blockCourse_keepsAt (inner : ∀ c ∈ body, c.Keeps) (sound : t.Sound) {rule : Rule}
    (stands : t.moment.reader.tables.rules[place]? = some rule)
    (role : innermostRole? t.calls.executing = some rule.role) :
    (blockCourse place body).KeepsAt t t.calls.executing := by
  cases body with
  | none => exact Keeps.done.keeps t sound
  | some c =>
    have led : c.KeepsAt ((Update.enterGrant place).track t) (.grant place :: t.calls.executing) :=
      (inner c rfl).keeps _ (sound.enterGrant stands role)
    exact keepsAt_make_andThen sound (closing_keepsAt led)

/-- The rule of a grant is that of the role around the grant. -/
theorem ruleCourse_keepsAt (inner : ∀ c ∈ body, c.Keeps) (sound : t.Sound) {rule : Rule}
    (role : innermostRole? t.calls.executing = some rule.role) :
    (ruleCourse rule body).KeepsAt t t.calls.executing := by
  have appended : ((Update.rule rule).track t).Sound := sound.plain rfl
  have last : ((Update.rule rule).track t).moment.reader.tables.rules[
      t.moment.reader.tables.rules.length]? = some rule := List.getElem?_concat_length
  refine KeepsAt.congr (d := (make [.rule rule]).andThen
    ((emit (.permissionGranted rule.role rule.context rule.privileges)).andThen
      (blockCourse t.moment.reader.tables.rules.length body))) ?_ rfl
  refine keepsAt_make_andThen sound (((Keeps.emit _).keeps _ appended).andThen ?_)
  rw [after_emit]
  exact blockCourse_keepsAt inner appended last role

theorem course_keeps (context privileges : Value) (inner : ∀ c ∈ body, c.Keeps) :
    (course context privileges body).Keeps := by
  refine Role.currentCourse_keeps fun role t sound isOpen => ?_
  split
  · exact (Keeps.refuse _).keeps t sound
  · exact ruleCourse_keepsAt inner sound (sound.role role isOpen)

theorem currentCourse_keeps {fault : ScopeFault} {next : Nat → Course}
    (each : ∀ place, (next place).Keeps) : (currentCourse fault next).Keeps := by
  refine Keeps.congr_at fun m => ?_
  unfold currentCourse
  split
  · exact ⟨_, .refuse _, rfl⟩
  · exact ⟨_, each _, rfl⟩

theorem conditionsCourse_keeps (given : Value) (place : Nat) :
    (conditionsCourse given place).Keeps := by
  refine Keeps.congr_at fun m => ?_
  unfold conditionsCourse
  split
  · exact ⟨_, .refuse _, rfl⟩
  · exact ⟨_, (Keeps.make rfl).andThen (Keeps.make rfl), rfl⟩

end Grant

theorem Access.followCourse_keeps (block : Block) (path : String) :
    (followCourse block path).Keeps := by
  refine Keeps.congr_at fun m => ?_
  unfold followCourse
  split
  · exact ⟨_, .done, rfl⟩
  · exact ⟨_, .refuse _, rfl⟩

namespace Program

theorem closed_keeps : Closed Course.Keeps where
  done := .done
  refuse := .refuse
  andThen := .andThen
  attempt kept := kept.recover fun _ => .done
  follow := Access.followCourse_keeps
  registerPrivilege _ := .make rfl
  privilege := Privilege.course_keeps
  includePrivileges := Privilege.includesCourse_keeps
  registerRole := Role.registerCourse_keeps
  role := Role.course_keeps
  includeRoles _ := Role.keyedCourse_keeps fun _ => rfl
  title _ := Role.keyedCourse_keeps fun _ => rfl
  description _ := Role.keyedCourse_keeps fun _ => rfl
  grant := Grant.course_keeps
  addPrivileges _ := Grant.currentCourse_keeps fun _ => .make rfl
  restrict _ _ := Grant.currentCourse_keeps (Grant.conditionsCourse_keeps _)

/-- A program leaves all calls that it makes, and the open rule stands to them as it should. -/
theorem course_keeps (steps : List Step) : (course steps).Keeps := closed_keeps.course_holds steps

end Program

namespace Document

theorem blameCourse_keeps (label : Option String) (fault : Fault) :
    (blameCourse label fault).Keeps := by
  unfold blameCourse
  split
  · exact (Keeps.emit _).andThen (.refuse _)
  · exact .refuse _

theorem course_keeps (documents : Yaml.Documents) (label : Option String) :
    (course documents label).Keeps :=
  ((Program.course_keeps _).recover (blameCourse_keeps label)).andThen
    (Keeps.congr_at fun _ => ⟨_, .emit _, rfl⟩)

end Document

/-- A journal leads to the session that its updates make. -/
theorem Session.Intact.advances {s : Session} (intact : s.Intact) (journal : Journal) :
    s.Advances { s with
      reader := (s.moment.after journal).reader
      serial := (s.moment.after journal).serial
      log := s.log ++ Journal.events journal } journal where
  intact := ⟨intact.changes, intact.stray⟩
  moment := congrArg (Moment.mk _ _) (Moment.sink_after s.moment journal).symm
  log := rfl
  retired := rfl

/-- One turn of a session on a reader: a source is read, or callers run a program of their own,
which calls nothing but operations. -/
inductive Turn where
  | parse (source : Yaml.Source) (label : Option String)
  | build (program : Program) (operational : Step.isOperationalProgram true program)

namespace Turn

def action : Turn → Action Unit
  | .parse source label => Action.parse source label
  | .build program _ => Program.run program

def course : Turn → Course
  | .parse source label => fun m =>
    let documents := source.documents m.serial
    (make [.serial documents.serial]).andThen (Document.course documents label) m
  | .build program _ => Program.course program

theorem action_follows : ∀ turn : Turn, turn.action.Follows turn.course
  | .build program operational => Program.run_follows program operational
  | .parse source label => by
    constructor
    intro s intact
    let read : Session := { s with serial := (source.documents s.serial).serial }
    have used : s.Advances read [.serial read.serial] :=
      ⟨⟨intact.changes, intact.stray⟩, rfl, (List.append_nil _).symm, rfl⟩
    obtain ⟨result, advance⟩ := (Action.readDocuments_follows (source.documents s.serial)
      label).yields read used.intact
    exact ⟨result, used.trans advance⟩

theorem course_keeps : ∀ turn : Turn, turn.course.Keeps
  | .parse source label => Keeps.congr_at fun m =>
    ⟨_, (Keeps.make rfl).andThen (Document.course_keeps (source.documents m.serial) label), rfl⟩
  | .build program _ => Program.course_keeps program

/-- All turns, whatever comes of each. -/
def run (turns : List Turn) (s : Session) : Session :=
  turns.foldl (fun s turn => (turn.action.run s).2) s

def courses : List Turn → Course
  | [] => done
  | turn :: rest => (turn.course.recover fun _ => done).andThen (courses rest)

theorem run_advances (turns : List Turn) {s : Session} (intact : s.Intact) :
    s.Advances (run turns s) (courses turns s.moment).journal := by
  induction turns generalizing s with
  | nil => exact .refl intact
  | cons turn rest ih =>
    have advance := (turn.action_follows.yields s intact).advance
    have next := ih advance.intact
    rw [advance.moment] at next
    change s.Advances (run rest (turn.action.run s).2) _
    cases came : (turn.course s.moment).result <;>
      simpa [courses, Course.andThen, recover, came, done] using advance.trans next

theorem courses_keeps : ∀ turns : List Turn, (courses turns).Keeps
  | [] => .done
  | turn :: rest => ((course_keeps turn).recover fun _ => .done).andThen (courses_keeps rest)

/-- A session that turns come to, inside a body or after it: what has happened up to there are the
first of their updates. -/
structure Reaches (turns : List Turn) (start u : Session) (past : Journal) : Prop where
  first : past <+: (courses turns start.moment).journal
  advance : start.Advances u past

/-- The turns themselves come to the end of their updates. -/
theorem reaches_run (turns : List Turn) {s : Session} (intact : s.Intact) :
    Reaches turns s (run turns s) (courses turns s.moment).journal :=
  ⟨List.prefix_refl _, run_advances turns intact⟩

/-- What has been reached on a reader that had read nothing. -/
theorem Reaches.sound {turns : List Turn} {start u : Session} {past : Journal} (fresh : start.Fresh)
    (reached : Reaches turns start u past) : Track.Sound ⟨u.moment, Journal.calls past {}⟩ := by
  have begun : Track.Sound ⟨start.moment, {}⟩ := by
    have empty : start.moment.reader = {} := fresh.reader
    constructor
    · intro role isOpen
      rw [empty] at isOpen
      cases isOpen
    · intro place isOpen
      rw [empty] at isOpen
      cases isOpen
    · intro place outer within
      cases List.suffix_nil.mp within
  rw [reached.advance.moment]
  exact ((courses_keeps turns).keeps _ begun).sound.of_prefix reached.first

end Turn

inductive Addition where
  | privileges (names : List Value)
  | conditions (given : Value) (extra : List (String × Value))

namespace Addition

open AccessPolicy.Action

def action : Addition → Action Unit
  | .privileges names => Grant.addPrivileges names
  | .conditions given extra => Grant.restrict given extra

/-- With no rule open, the call is out of scope and changes nothing. -/
theorem run_of_none (addition : Addition) {s : Session} (intact : s.Intact)
    (isOpen : s.reader.rule = none) :
    ∃ problem, addition.action.run s = (.error (.scope problem), s) := by
  have current (fault : ScopeFault) : (Grant.current fault).run s = (.error (.scope fault), s) := by
    simp only [Grant.current, run_bind, run_requireField intact, run_get, intact.change?,
      intact.stray, isOpen, run_refuse]
    rfl
  cases addition with
  | privileges names =>
    exact ⟨.toOutsideGrant names, by simp only [action, Grant.addPrivileges, run_bind, current]⟩
  | conditions given extra =>
    exact ⟨.conditionOutsideGrant, by simp only [action, Grant.restrict, run_bind, current]⟩

/-- Of all rules the call changes none but the open one. -/
theorem rules_of_some (addition : Addition) {s : Session} (intact : s.Intact) {place other : Nat}
    (isOpen : s.reader.rule = some place) (differ : other ≠ place) :
    (addition.action.run s).2.reader.tables.rules[other]? = s.reader.tables.rules[other]? := by
  have current : s.moment.reader.rule = some place := isOpen
  cases addition with
  | privileges names =>
    have advance := ((Grant.addPrivileges_follows names).yields s intact).advance
    simp only [Grant.addPrivilegesCourse, Grant.currentCourse, current, make] at advance
    simp [action, advance.tables, Update.tables, List.getElem?_modify_ne _ _ differ.symm]
  | conditions given extra =>
    have advance := ((Grant.restrict_follows given extra).yields s intact).advance
    simp only [Grant.restrictCourse, Grant.currentCourse, current, Grant.conditionsCourse]
      at advance
    cases read : Conditions.read s.moment.serial (Grant.joinConditions given extra) with
    | error fault =>
      simp only [read, Course.refuse] at advance
      simp [action, advance.tables]
    | ok came =>
      simp only [read, make] at advance
      simp [action, advance.tables, Update.tables, List.getElem?_modify_ne _ _ differ.symm]

end Addition

/-- A role has been opened within the body of a grant, and its call is executing. -/
def RoleWithin (calls : List Call) (place : Nat) : Prop :=
  ∃ inner outer, calls = inner ++ .grant place :: outer ∧ (innermostRole? inner).isSome

/-- A fault has left the body of the grant of the open rule, and no other body of a grant has been
entered or completed since. -/
def Track.LeftOpen (t : Track) (place : Nat) : Prop :=
  t.moment.reader.rule = some place ∧ place ∈ t.calls.failed

/-- The rule of the innermost grant stands to the roles around it. -/
theorem Track.Sound.openRule {t : Track} (sound : t.Sound) {place : Nat}
    (isOpen : t.moment.reader.rule = some place) :
    t.LeftOpen place ∨ ∃ inner outer rule, t.calls.executing = inner ++ .grant place :: outer ∧
      t.moment.reader.tables.rules[place]? = some rule ∧
      innermostRole? t.calls.executing = (innermostRole? inner).or (some rule.role) := by
  rcases sound.rule place isOpen with failed | innermost
  · exact .inl ⟨isOpen, failed⟩
  · obtain ⟨inner, call, outer, executing, isGrant, -⟩ := List.findSome?_eq_some_iff.mp innermost
    obtain rfl : call = .grant place := by
      cases call with
      | role => cases isGrant
      | grant => rw [Option.some.inj isGrant]
    obtain ⟨rule, stands, role⟩ := sound.grants place outer (executing ▸ List.suffix_append ..)
    refine .inr ⟨inner, outer, rule, executing, stands, ?_⟩
    rw [← role, executing, innermostRole?, List.findSome?_append]
    rfl

/-- While a role is in scope, a call that adds to a grant changes no rule of another role, but for
a rule that a fault has left open and for a role opened within the body of the grant. While none is
in scope, the call is refused and changes nothing, unless a fault has left a rule open. -/
theorem additions_keep_to_role {turns : List Turn} {start u : Session} (fresh : start.Fresh)
    {past : Journal} (reached : Turn.Reaches turns start u past) (addition : Addition) :
    let calls := Journal.calls past {}
    let after := (addition.action.run u).2.reader.tables.rules
    (∀ role, innermostRole? calls.executing = some role → ∀ place rule,
      u.reader.tables.rules[place]? = some rule → after[place]? ≠ some rule →
        rule.role = role ∨ Track.LeftOpen ⟨u.moment, calls⟩ place ∨
          RoleWithin calls.executing place) ∧
    (innermostRole? calls.executing = none →
      (∃ problem, addition.action.run u = (.error (.scope problem), u)) ∨
        ∃ place, Track.LeftOpen ⟨u.moment, calls⟩ place ∧
          ∀ other, other ≠ place → after[other]? = u.reader.tables.rules[other]?) := by
  have intact := reached.advance.intact
  have sound := reached.sound fresh
  intro calls after
  cases isOpen : u.reader.rule with
  | none =>
    obtain ⟨problem, refused⟩ := addition.run_of_none intact isOpen
    refine ⟨fun role _ place rule stands changed => (changed ?_).elim, fun _ => .inl ⟨_, refused⟩⟩
    rw [show after = u.reader.tables.rules by simp only [after, refused], stands]
  | some openPlace =>
    have others (other : Nat) (differ : other ≠ openPlace) :
        after[other]? = u.reader.tables.rules[other]? :=
      addition.rules_of_some intact isOpen differ
    constructor
    · intro role inScope place rule stands changed
      obtain rfl : place = openPlace := Decidable.byContradiction fun differ =>
        changed ((others place differ).trans stands)
      rcases sound.openRule isOpen with left | ⟨inner, outer, held, executing, stands', roles⟩
      · exact .inr (.inl left)
      · obtain rfl : rule = held := Option.some.inj (stands.symm.trans stands')
        rw [show innermostRole? _ = some role from inScope] at roles
        cases within : innermostRole? inner with
        | some opened => exact .inr (.inr ⟨inner, outer, executing, by rw [within]; rfl⟩)
        | none =>
          rw [within] at roles
          exact .inl (Option.some.inj roles).symm
    · intro noRole
      rcases sound.openRule isOpen with left | ⟨inner, outer, held, executing, stands', roles⟩
      · exact .inr ⟨openPlace, left, others⟩
      · rw [show innermostRole? _ = none from noRole] at roles
        cases within : innermostRole? inner <;> simp [within] at roles

def grantingTurn : Turn :=
  .build [.role (.text "keeper") .null .null (some
      [.grant (.text "rooms") .null (some [.addPrivileges [.text "read"]])]),
    .role (.text "guest") .null .null none] rfl

/-- Within the grant the rule that changes is of the role in scope. -/
theorem additions_keep_to_granting_role :
    ∃ u past, Turn.Reaches [grantingTurn] {} u past ∧
      innermostRole? (Journal.calls past {}).executing = some (.text "keeper") ∧
      u.reader.tables.rules = [⟨.text "keeper", [], .text "rooms", []⟩] ∧
      ((Addition.privileges [.text "write"]).action.run u).2.reader.tables.rules =
        [⟨.text "keeper", [.text "write"], .text "rooms", []⟩] ∧
      ∀ place rule, u.reader.tables.rules[place]? = some rule →
        ((Addition.privileges [.text "write"]).action.run u).2.reader.tables.rules[place]? ≠
          some rule →
        rule.role = .text "keeper" ∨ Track.LeftOpen ⟨u.moment, Journal.calls past {}⟩ place ∨
          RoleWithin (Journal.calls past {}).executing place := by
  have reached : Turn.Reaches [grantingTurn] {} _
      ((Turn.courses [grantingTurn] (Session.moment {})).journal.take 6) :=
    ⟨List.take_prefix .., Session.fresh_default.intact.advances _⟩
  exact ⟨_, _, reached, rfl, rfl, rfl,
    (additions_keep_to_role Session.fresh_default reached (.privileges [.text "write"])).1 _ rfl⟩

/-- A role with a grant whose body fails, the fault being caught, and after it another role. -/
def failingTurn : Turn :=
  .build [.attempt [.role (.text "keeper") .null .null (some
      [.grant (.text "rooms") .null (some [.refuse (.raised "closed")])])],
    .role (.text "guest") .null .null none] rfl

def nestingTurn : Turn :=
  .build [.role (.text "keeper") .null .null (some
      [.grant (.text "rooms") .null (some [.role (.text "guest") .null .null none])])] rfl

/-- After a number of updates of a turn the given role is in scope, and a call adds to the rule of
the role "keeper". -/
def AddsToKeeper (turn : Turn) (count : Nat) (role : Option Value) : Prop :=
  ∃ u past, past.length = count ∧ Turn.Reaches [turn] {} u past ∧
    innermostRole? (Journal.calls past {}).executing = role ∧
    u.reader.tables.rules = [⟨.text "keeper", [], .text "rooms", []⟩] ∧
    ((Addition.privileges [.text "read"]).action.run u).2.reader.tables.rules =
      [⟨.text "keeper", [.text "read"], .text "rooms", []⟩]

/-- A rule that was left open takes privileges with another role in scope, and with none; so does
the rule of a grant within which another role is opened. -/
theorem additions_leave_role :
    AddsToKeeper failingTurn 11 (some (.text "guest")) ∧ AddsToKeeper failingTurn 8 none ∧
      AddsToKeeper nestingTurn 9 (some (.text "guest")) := by
  have reached (turn : Turn) (count : Nat) : Turn.Reaches [turn] {} _
      ((Turn.courses [turn] (Session.moment {})).journal.take count) :=
    ⟨List.take_prefix .., Session.fresh_default.intact.advances _⟩
  exact ⟨⟨_, _, rfl, reached failingTurn 11, rfl, rfl, rfl⟩,
    ⟨_, _, rfl, reached failingTurn 8, rfl, rfl, rfl⟩,
    ⟨_, _, rfl, reached nestingTurn 9, rfl, rfl, rfl⟩⟩

end AccessPolicy
