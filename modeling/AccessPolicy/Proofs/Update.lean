import AccessPolicy.Policy.Grant
import AccessPolicy.Policy.Privilege

/-! The single changes that a reader goes through. What a run does to the reader is a journal
of updates; marks for blocks that are entered and left stand in it too. -/

namespace AccessPolicy

/-- One change of a reader, or a mark that leaves it as it is. -/
inductive Update where
  | enterPrivilege (name context : Value)
  | leavePrivilege
  | privilege (name : Value)
  | edge (name : Value) (edge : PrivilegeEdge)
  | enterRole (role : Value)
  | leaveRole
  | role (role : Value)
  | title (role text : Value)
  | description (role text : Value)
  | lower (role : Value) (names : List Value)
  | rule (rule : Rule)
  | enterGrant (place : Nat)
  | completeGrant
  /-- A fault leaves the body of a grant. -/
  | abandonGrant
  | privileges (place : Nat) (names : List Value)
  | conditions (place : Nat) (conditions : Conditions)
  /-- Serials up to the given one have been used up. -/
  | serial (next : Nat)
  | event (event : LogEvent)

abbrev Journal := List Update

/-- What decides the course of a run: the reader, the next serial, and where events go. -/
structure Moment where
  reader : Reader := {}
  serial : Nat := 0
  sink : Sink := .memory

def Update.tables : Update → Tables → Tables
  | .privilege name, t => { t with privileges := Value.register t.privileges name }
  | .edge name below, t =>
    { t with privilegeHierarchy := t.privilegeHierarchy.alter name [] (· ++ [below]) }
  | .role name, t => { t with roles := Value.register t.roles name }
  | .title name text, t => { t with roleTitles := t.roleTitles.put name text }
  | .description name text, t => { t with roleDescriptions := t.roleDescriptions.put name text }
  | .lower name below, t => { t with roleHierarchy := t.roleHierarchy.alter name [] (· ++ below) }
  | .rule made, t => { t with rules := t.rules ++ [made] }
  | .privileges place names, t =>
    { t with rules := t.rules.modify place (Grant.withPrivileges names) }
  | .conditions place trees, t =>
    { t with rules := t.rules.modify place (Grant.withConditions trees) }
  | _, t => t

def Update.reader : Update → Reader → Reader
  | .enterPrivilege name context, r => Privilege.opened name context r
  | .leavePrivilege, r => Privilege.closed r
  | .enterRole name, r => Role.opened name r
  | .leaveRole, r => Role.closed r
  | .enterGrant place, r => Grant.opened place r
  | .completeGrant, r => Grant.closed r
  | update, r => { r with tables := update.tables r.tables }

def Update.moment : Update → Moment → Moment
  | .serial next, m => { m with serial := next }
  | update, m => { m with reader := update.reader m.reader }

/-- A privilege that is open after an update was open before, or has just been entered. -/
theorem Update.privilege_open {u : Update} {m : Moment} {name : Value}
    (isOpen : (u.moment m).reader.privilege = some name) :
    m.reader.privilege = some name ∨ ∃ context, u = .enterPrivilege name context := by
  cases u with
  | enterPrivilege entered context =>
    simp only [Update.moment, Update.reader, Privilege.opened] at isOpen
    split at isOpen
    · cases isOpen
    · exact .inr ⟨context, by rw [Option.some.inj isOpen]⟩
  | leavePrivilege => cases isOpen
  | _ => exact .inl isOpen

theorem Update.role_open {u : Update} {m : Moment} {role : Value}
    (isOpen : (u.moment m).reader.role = some role) :
    m.reader.role = some role ∨ u = .enterRole role := by
  cases u with
  | enterRole entered =>
    simp only [Update.moment, Update.reader, Role.opened] at isOpen
    split at isOpen
    · cases isOpen
    · exact .inr (by rw [Option.some.inj isOpen])
  | leaveRole => cases isOpen
  | _ => exact .inl isOpen

def Update.event? : Update → Option LogEvent
  | .event logged => some logged
  | _ => none

namespace Journal

def tables (journal : Journal) (t : Tables) : Tables := journal.foldl (fun t u => u.tables t) t

def events (journal : Journal) : List LogEvent := journal.filterMap Update.event?

@[simp] theorem events_nil : Journal.events [] = [] := rfl

@[simp] theorem events_append (j k : Journal) :
    Journal.events (j ++ k) = Journal.events j ++ Journal.events k := List.filterMap_append

@[simp] theorem tables_nil (t : Tables) : Journal.tables [] t = t := rfl

@[simp] theorem tables_cons (u : Update) (j : Journal) (t : Tables) :
    Journal.tables (u :: j) t = Journal.tables j (u.tables t) := rfl

@[simp] theorem tables_append (j k : Journal) (t : Tables) :
    Journal.tables (j ++ k) t = Journal.tables k (Journal.tables j t) := List.foldl_append

end Journal

namespace Moment

def after (m : Moment) (journal : Journal) : Moment := journal.foldl (fun m u => u.moment m) m

@[simp] theorem after_nil (m : Moment) : m.after [] = m := rfl

@[simp] theorem after_cons (m : Moment) (u : Update) (j : Journal) :
    m.after (u :: j) = (u.moment m).after j := rfl

@[simp] theorem after_append (m : Moment) (j k : Journal) :
    m.after (j ++ k) = (m.after j).after k := List.foldl_append

theorem sink_moment (u : Update) (m : Moment) : (u.moment m).sink = m.sink := by
  cases u <;> rfl

@[simp] theorem sink_after (m : Moment) (j : Journal) : (m.after j).sink = m.sink := by
  induction j generalizing m with
  | nil => rfl
  | cons u j ih => exact (ih _).trans (sink_moment u m)

theorem tables_moment (u : Update) (m : Moment) :
    (u.moment m).reader.tables = u.tables m.reader.tables := by
  cases u <;> rfl

/-- Marks apart, a journal is a list of changes of the tables. -/
@[simp] theorem tables_after (m : Moment) (j : Journal) :
    (m.after j).reader.tables = Journal.tables j m.reader.tables := by
  induction j generalizing m with
  | nil => rfl
  | cons u j ih => rw [after_cons, ih, tables_moment, Journal.tables_cons]

end Moment

end AccessPolicy
