import AccessPolicy.Proofs.Outcome
import Mathlib.Data.List.Forall2

/-! What the log tells of the tables. The grants that fall due in an act are those of the rules that
it appends, one by one; and when a source has been read, the roles that it declares and that were
not known before are those that it has registered. -/

namespace AccessPolicy

namespace Rule.Grows

theorem forall₂_trans {xs ys zs : List Rule} (first : List.Forall₂ Rule.Grows xs ys)
    (second : List.Forall₂ Rule.Grows ys zs) : List.Forall₂ Rule.Grows xs zs := by
  induction first generalizing zs with
  | nil => exact second
  | cons grows _ ih =>
    obtain ⟨z, zs, more, rest, rfl⟩ := List.forall₂_cons_left_iff.mp second
    exact .cons (trans _ _ _ grows more) (ih rest)

theorem forall₂_self (rules : List Rule) : List.Forall₂ Rule.Grows rules rules :=
  List.forall₂_same.mpr fun rule _ => refl rule

theorem forall₂_modify {f : Rule → Rule} (grows : ∀ rule : Rule, rule.Grows (f rule))
    (rules : List Rule) (place : Nat) : List.Forall₂ Rule.Grows rules (rules.modify place f) := by
  induction rules generalizing place with
  | nil =>
    rw [List.modify_nil]
    exact .nil
  | cons rule rest ih =>
    cases place with
    | zero => exact .cons (grows rule) (forall₂_self rest)
    | succ place => exact .cons (refl rule) (ih place)

end Rule.Grows

def Update.rule? : Update → Option Rule
  | .rule made => some made
  | _ => none

theorem Update.forall₂_rules (u : Update) (t : Tables) :
    List.Forall₂ Rule.Grows (t.rules ++ u.rule?.toList) (u.tables t).rules := by
  have kept {rules : List Rule} (grow : List.Forall₂ Rule.Grows t.rules rules) :
      List.Forall₂ Rule.Grows (t.rules ++ []) rules := by
    rwa [List.append_nil]
  cases u with
  | rule made => exact Rule.Grows.forall₂_self _
  | privileges place names =>
    exact kept (Rule.Grows.forall₂_modify (Rule.Grows.withPrivileges names) t.rules place)
  | conditions place trees =>
    exact kept (Rule.Grows.forall₂_modify (Rule.Grows.withConditions trees) t.rules place)
  | _ => exact kept (Rule.Grows.forall₂_self _)

/-- The rules after a journal are the earlier ones and those that it has appended, one by one. -/
theorem Journal.forall₂_rules (j : Journal) (t : Tables) :
    List.Forall₂ Rule.Grows (t.rules ++ j.filterMap Update.rule?) (Journal.tables j t).rules := by
  induction j generalizing t with
  | nil =>
    rw [List.filterMap_nil, List.append_nil]
    exact Rule.Grows.forall₂_self _
  | cons u rest ih =>
    have first := List.rel_append (u.forall₂_rules t)
      (Rule.Grows.forall₂_self (rest.filterMap Update.rule?))
    have appended : (u :: rest).filterMap Update.rule? =
        u.rule?.toList ++ rest.filterMap Update.rule? := by
      cases made : u.rule? <;> simp [made]
    rw [appended, ← List.append_assoc]
    exact Rule.Grows.forall₂_trans first (ih _)

namespace LogEvent

def isGrant : LogEvent → Bool
  | .permissionGranted .. => true
  | _ => false

/-- The event tells of a rule: its role, its context, and the privileges it was made with. -/
def Grants (event : LogEvent) (rule : Rule) : Prop :=
  ∃ privileges, event = .permissionGranted rule.role rule.context privileges ∧
    privileges <+: rule.privileges

end LogEvent

theorem Update.filter_due (u : Update) :
    u.due?.filter LogEvent.isGrant =
      u.rule?.map fun made => .permissionGranted made.role made.context made.privileges := by
  cases u <;> rfl

/-- The grants that fall due in a journal tell, in turn, of the rules behind the earlier ones. -/
theorem Journal.grants (j : Journal) (t : Tables) :
    List.Forall₂ LogEvent.Grants ((Journal.due j).filter LogEvent.isGrant)
      ((Journal.tables j t).rules.drop t.rules.length) := by
  have appended := List.forall₂_drop t.rules.length (j.forall₂_rules t)
  rw [List.drop_left] at appended
  rw [Journal.due, List.filter_filterMap]
  simp only [Update.filter_due]
  rw [← List.map_filterMap, List.forall₂_map_left_iff]
  exact appended.imp fun made later grows =>
    ⟨made.privileges, by rw [grows.role, grows.context], grows.privileges⟩

/-! ## Roles -/

/-- The names that are new to others, each where it stands first. -/
def Value.newTo (known names : List Value) : List Value :=
  (names.filter fun name => !name.within known).eraseDupsBy same

namespace Value

variable {name : Value} {known names : List Value}

theorem newTo_cons_of_within (within : name.within known) :
    newTo known (name :: names) = newTo known names := by
  simp [newTo, within]

theorem newTo_cons_of_not_within (new : ¬ name.within known) :
    newTo known (name :: names) = name :: newTo (known ++ [name]) names := by
  have others : (fun other : Value => decide (other.same name = false) && !other.within known) =
      fun other => !other.within (known ++ [name]) := by
    funext other
    simp [within, Bool.and_comm]
  rw [newTo, List.filter_cons_of_pos (by simpa using new), List.eraseDupsBy_cons,
    List.filter_filter, others, newTo]

/-- To register names in turn is to append those that are new. -/
theorem foldl_register (known names : List Value) :
    names.foldl register known = known ++ newTo known names := by
  induction names generalizing known with
  | nil => exact (List.append_nil known).symm
  | cons name rest ih =>
    rw [List.foldl_cons, ih]
    by_cases within : name.within known
    · rw [register_of_within within, newTo_cons_of_within within]
    · rw [register_of_not_within within, newTo_cons_of_not_within within, List.append_assoc]
      rfl

example : newTo [.int 1] [.text "guest", .bool true, .text "1", .text "guest"] =
    [.text "guest", .text "1"] := by cbv

end Value

theorem Journal.roles_tables (j : Journal) (t : Tables) :
    (Journal.tables j t).roles = t.roles ++ Value.newTo t.roles (Journal.roles j) := by
  rw [← Value.foldl_register]
  induction j generalizing t with
  | nil => rfl
  | cons u rest ih =>
    rw [tables_cons, ih]
    cases u <;> rfl

/-! ## Acts -/

open Course

namespace Act

/-- Acts of callers log what falls due in them. -/
theorem course_settles : ∀ act : Act, (∀ source label, act ≠ .turn (.parse source label)) →
    act.course.Settles false [] []
  | .turn (.parse source label), other => (other source label rfl).elim
  | .turn (.build program _), _ => Program.course_settles program
  | .statements .., _ => Program.course_settles _
  | .extend .., _ => .of_silent (Grant.numberedCourse_silent (Grant.extendCourse_silent _))
  | .attach .., _ => .of_silent (Grant.numberedCourse_silent fun _ => .make rfl)
  | .attachMap _ given, _ =>
    .of_silent (Grant.numberedCourse_silent (Grant.conditionsCourse_silent given))

end Act

/-- Wherever a session has come to, an act logs the events that it declares, as far as they can be
written, and then those that close it. Of its declarations the grants tell one by one of the rules
that it appends, whether it fails or not. If a source has been read, nothing that the sink accepts
is missing, the roles that are registered are those that have been declared and were not known, and
its last event counts what the tables hold. -/
theorem acts_leave_trail {s : Session} (reached : s.Reached) (act : Act) :
    let t := (act.action.run s).2
    ∃ declared closing : List LogEvent,
      t.log = s.log ++ declared.filter s.sink.writes ++ closing ∧
      (∀ event ∈ declared, event.level = .debug) ∧
      (∀ event ∈ closing, event.level ≠ .debug) ∧
      List.Forall₂ LogEvent.Grants (declared.filter LogEvent.isGrant)
        (t.reader.tables.rules.drop s.reader.tables.rules.length) ∧
      ∀ source label, act = .turn (.parse source label) → (act.action.run s).1 = .ok () →
        s.sink.TakesAll declared ∧
        t.reader.tables.roles = s.reader.tables.roles ++
          Value.newTo s.reader.tables.roles (declared.filterMap LogEvent.role?) ∧
        closing = [LogEvent.sourceRead label t.reader.tables.privileges.length
          t.reader.tables.roles.length t.reader.tables.rules.length].filter s.sink.accepts := by
  intro t
  have yields := act.action_follows.yields s reached.intact
  have reader : t.reader = (s.moment.after (act.course s.moment).journal).reader :=
    yields.advance.reader
  have tables : t.reader.tables = _ := yields.advance.tables
  have log : t.log = _ := yields.advance.log
  have grants := Journal.grants (act.course s.moment).journal s.reader.tables
  rw [← tables] at grants
  -- Only the reading of a source is closed by an event of its own.
  by_cases parse : ∃ source label, act = .turn (.parse source label)
  · obtain ⟨source, label, rfl⟩ := parse
    obtain ⟨closing, closes, events⟩ := Turn.parse_closing source label s.moment
    refine ⟨_, closing.filter s.sink.accepts, ?_, fun _ => Journal.level_of_mem_due,
      fun event held => closes.level event (List.mem_filter.mp held).1, grants, ?_⟩
    · rw [log, List.append_assoc]
      exact congrArg (s.log ++ ·) events
    · rintro _ _ ⟨rfl, rfl⟩ completed
      rw [yields.fst_eq] at completed
      obtain ⟨taken, declared⟩ := Turn.parse_whole completed
      refine ⟨taken, ?_, ?_⟩
      · rw [tables, Journal.roles_tables]
        exact congrArg (fun names => _ ++ Value.newTo _ names) declared
      · have closes : Document.Closing label t.reader.tables (.ok ()) closing := by
          rw [reader, ← completed]
          exact closes
        cases closes
        rfl
  · have others := fun source label same => parse ⟨source, label, same⟩
    have logged := ((act.course_settles others).at_ s.moment).logged
    refine ⟨_, [], ?_, fun _ => Journal.level_of_mem_due, nofun, grants, fun source label same =>
      (others source label same).elim⟩
    rw [log, logged, List.append_nil, List.nil_append]
    rfl

def repeatingSource : Yaml.Source :=
  .text ("authorization:\n- role: guest\n  body:\n  - has_permission_on: rooms\n    body:\n" ++
    "    - has_permission_on: halls\n      to: enter\n- role: keeper\n- role: guest\n")

def repeatingAct : Act := .turn (.parse repeatingSource (some "policy.yml"))

/-- Both grants are told of, and of the roles that are declared one is new. -/
theorem acts_leave_trail_repeating :
    ∃ (t : Session) (declared : List LogEvent),
      repeatingAct.action.run (Session.keeping .memory) = (.ok (), t) ∧
      t.log = declared ++ [.sourceRead (some "policy.yml") 0 2 2] ∧
      List.Forall₂ LogEvent.Grants (declared.filter LogEvent.isGrant) t.reader.tables.rules ∧
      t.reader.tables.roles =
        .text "keeper" :: Value.newTo [.text "keeper"] (declared.filterMap LogEvent.role?) := by
  have read : let came := repeatingAct.action.run (Session.keeping .memory)
      let tables := came.2.reader.tables
      came.1.isOk ∧ tables.privileges.length = 0 ∧ tables.roles.length = 2 ∧
        tables.rules.length = 2 := by decide +kernel
  have tables : (Session.keeping .memory).reader.tables = { roles := [.text "keeper"] } := rfl
  have start : (Session.keeping .memory).log = [] := rfl
  have sink : (Session.keeping .memory).sink = .memory := rfl
  obtain ⟨declared, closing, log, -, -, grants, whole⟩ :=
    acts_leave_trail (Session.reached_keeping .memory) repeatingAct
  replace whole := whole repeatingSource (some "policy.yml") rfl
  rw [tables] at grants whole
  rw [sink, (Sink.filter_memory _).1] at whole
  rw [start, sink, (Sink.filter_memory declared).2, List.nil_append] at log
  generalize repeatingAct.action.run (Session.keeping .memory) = came at read whole grants log ⊢
  obtain ⟨ended, t⟩ := came
  obtain ⟨ok, privileges, roles, rules⟩ := read
  cases ended with
  | error => cases ok
  | ok =>
    obtain ⟨-, registered, rfl⟩ := whole rfl
    rw [privileges, roles, rules] at log
    exact ⟨t, declared, rfl, log, grants, registered⟩

def datedSource : Yaml.Source :=
  .text ("authorization:\n- role: keeper\n  body:\n" ++
    "  - has_permission_on:\n      2020-01-01: x\n    to: read\n")

def datedAct : Act := .turn (.parse datedSource none)

/-- A rule has been appended, and its event cannot be written. -/
theorem rules_appended_untold :
    ¬ ∀ (s : Session) (act : Act), s.Reached →
      let t := (act.action.run s).2
      List.Forall₂ LogEvent.Grants ((t.log.drop s.log.length).filter LogEvent.isGrant)
        (t.reader.tables.rules.drop s.reader.tables.rules.length) := by
  intro every
  have told := (every (Session.keeping (.text 10)) datedAct (Session.reached_keeping _)).length_eq
  have lengths : let s := Session.keeping (.text 10)
      let t := (datedAct.action.run s).2
      ((t.log.drop s.log.length).filter LogEvent.isGrant).length = 0 ∧
        (t.reader.tables.rules.drop s.reader.tables.rules.length).length = 1 := by decide +kernel
  rw [lengths.1, lengths.2] at told
  cases told

end AccessPolicy
