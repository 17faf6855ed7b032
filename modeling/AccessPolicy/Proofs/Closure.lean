import AccessPolicy.Proofs.Act
import AccessPolicy.Proofs.Calm

/-! What is open between acts. Privileges and roles are left however their bodies end. A grant whose
body fails leaves its rule open; but the fault is then told, by the act or by the body that has
caught it, so that no rule is open where nothing has been told. -/

namespace AccessPolicy

structure Reader.Closed (r : Reader) : Prop where
  privilege : r.privilege = none
  context : r.context = .null
  role : r.role = none

/-- A run that starts with no privilege open ends so. -/
theorem Trace.privilege_closed {good : Value → Prop} {m : Moment} {result : Except Fault Unit}
    {j : Journal} (trace : Trace good m result j)
    (closed : m.reader.privilege = none ∧ m.reader.context = .null) :
    (m.after j).reader.privilege = none ∧ (m.after j).reader.context = .null := by
  induction trace with
  | append _ _ first second =>
    rw [Moment.after_append]
    exact second (first closed)
  | privilegeBlock =>
    simp only [Moment.after_cons, Moment.after_append]
    exact ⟨rfl, rfl⟩
  | roleBlock _ _ _ body | completedGrant _ _ _ body | abandonedGrant _ _ _ body =>
    rw [Moment.after_cons, Moment.after_append]
    exact body closed
  | _ => exact closed

/-- A run that starts with no role open ends so. -/
theorem Trace.role_closed {good : Value → Prop} {m : Moment} {result : Except Fault Unit}
    {j : Journal} (trace : Trace good m result j) (closed : m.reader.role = none) :
    (m.after j).reader.role = none := by
  induction trace with
  | append _ _ first second =>
    rw [Moment.after_append]
    exact second (first closed)
  | privilegeBlock _ _ body =>
    rw [Moment.after_cons, Moment.after_cons, Moment.after_append]
    exact body closed
  | roleBlock =>
    rw [Moment.after_cons, Moment.after_append]
    rfl
  | completedGrant _ _ _ body | abandonedGrant _ _ _ body =>
    rw [Moment.after_cons, Moment.after_append]
    exact body closed
  | _ => exact closed

theorem Session.Reachable.closed {s : Session} (reachable : s.Reachable) : s.reader.Closed := by
  refine Reachable.reader ⟨rfl, rfl, rfl⟩ (fun act m closed => ?_) reachable
  have trace := act.course_traced.at_ m
  obtain ⟨privilege, context⟩ := trace.privilege_closed ⟨closed.privilege, closed.context⟩
  exact ⟨privilege, context, trace.role_closed closed.role⟩

open AccessPolicy.Action

/-- Every act tells of its faults. -/
theorem Act.calm : ∀ act : Act, act.action.Calm
  | .turn (.parse _ label) =>
    Calm.bind (.of_run fun _ intact => ⟨⟨intact.changes, intact.stray⟩, rfl, rfl⟩)
      fun documents => readDocuments_calm documents label
  | .turn (.build program operational) => Program.run_calm program operational
  | .statements block given => Program.run_calm _ (Statement.program_isOperational block given)
  | .extend .. => Grant.extendPrivileges_calm ..
  | .attach .. => Grant.attach_calm ..
  | .attachMap .. => Grant.addConditions_calm ..

/-- No fault comes of the act, and no body has caught one in it. -/
def Act.Faultless (act : Act) (s : Session) : Prop :=
  (act.action.run s).1.isOk ∧ (act.action.run s).2.caught = s.caught

theorem Session.ReachableBy.rule_closed {s : Session} (reachable : s.ReachableBy Act.Faultless) :
    s.reader.rule = none := by
  induction reachable with
  | fresh fresh => rw [fresh.reader]
  | act act before faultless ih =>
    have led := act.calm.calm _ before.intact
    exact led.closed faultless.1 faultless.2 ih

def Step.needsBlock : Step → Bool
  | .includePrivileges _ | .includeRoles _ | .title _ | .description _ | .grant .. => true
  | .overridable _ _ operation => operation.needsBlock
  | _ => false

def Step.needsGrant : Step → Bool
  | .addPrivileges _ | .restrict .. => true
  | .overridable _ _ operation => operation.needsGrant
  | _ => false

def Step.OutOfScope (step : Step) (s : Session) : Prop :=
  ∃ problem, (Program.runStep step).run s = (.error (.scope problem), s)

namespace Step

variable {s : Session}

theorem outOfScope_of_noting {α : Type} {answer : α → Answer} {action : Action α} {step : Step}
    {problem : ScopeFault} (same : Program.runStep step = Program.noting answer action)
    (refused : action.run s = (.error (.scope problem), s)) : step.OutOfScope s :=
  ⟨problem, by rw [same, Program.noting, run_bind, refused]⟩

theorem outOfScope_of_overridable (intact : s.Intact) {block : Block} {access : Access}
    {operation : Step} (out : operation.OutOfScope s) :
    (overridable block access operation).OutOfScope s := by
  obtain ⟨problem, refused⟩ := out
  exact ⟨problem, by simp only [Program.runStep, run_bind, run_get, intact.change?, refused]⟩

/-- With no role open, what is done on the open role is refused. -/
theorem run_role_of_closed (intact : s.Intact) (closed : s.reader.role = none) {α : Type}
    (problem : ScopeFault) (next : Value → Action α) :
    (Role.current problem >>= next).run s = (.error (.scope problem), s) := by
  simp only [Role.current, run_bind, run_requireField intact, run_reader, closed, run_refuse]
  rfl

theorem outOfScope_of_needsBlock (intact : s.Intact) (closed : s.reader.Closed) :
    ∀ step : Step, step.needsBlock → step.OutOfScope s
  | .includePrivileges names, _ => by
    have refused : (Privilege.includes names).run s =
        (.error (.scope (.includesOutsidePrivilege names)), s) := by
      simp only [Privilege.includes, run_bind, run_requireField intact, run_reader,
        closed.privilege, run_refuse]
      rfl
    exact outOfScope_of_noting rfl refused
  | .includeRoles _, _ | .title _, _ | .description _, _ | .grant .., _ =>
    outOfScope_of_noting rfl (run_role_of_closed intact closed.role _ _)
  | .overridable _ _ operation, needs =>
    outOfScope_of_overridable intact (outOfScope_of_needsBlock intact closed operation needs)

theorem outOfScope_of_needsGrant (intact : s.Intact) (closed : s.reader.rule = none) :
    ∀ step : Step, step.needsGrant → step.OutOfScope s
  | .addPrivileges names, _ => by
    obtain ⟨problem, refused⟩ := (Addition.privileges names).run_of_none intact closed
    exact outOfScope_of_noting rfl refused
  | .restrict given extra, _ => by
    obtain ⟨problem, refused⟩ := (Addition.conditions given extra).run_of_none intact closed
    exact outOfScope_of_noting rfl refused
  | .overridable _ _ operation, needs =>
    outOfScope_of_overridable intact (outOfScope_of_needsGrant intact closed operation needs)

end Step

/-- Between acts, whatever has come of them, no privilege, context or role is open, so that calls
for these are out of scope and change nothing. If no fault has come up in any act, no rule is open
either, and calls for it are out of scope as well. -/
theorem reachable_closed {s : Session} (reachable : s.Reachable) :
    s.reader.Closed ∧ (∀ step : Step, step.needsBlock → step.OutOfScope s) ∧
      (s.ReachableBy Act.Faultless →
        s.reader.rule = none ∧ ∀ step : Step, step.needsGrant → step.OutOfScope s) := by
  have closed := Session.Reachable.closed reachable
  refine ⟨closed, Step.outOfScope_of_needsBlock reachable.intact closed, fun faultless => ?_⟩
  have rule := faultless.rule_closed
  exact ⟨rule, Step.outOfScope_of_needsGrant reachable.intact rule⟩

/-- After a grant whose body has failed its rule is open, and nothing else; after one whose body has
completed the rule is closed, too. -/
theorem reachable_closed_after_grants :
    (∃ s : Session, s.Reachable ∧ s.reader.rule = some 0 ∧ s.reader.Closed ∧
      (Step.title (.text "Keepers")).OutOfScope s) ∧
    ∃ s : Session, s.ReachableBy Act.Faultless ∧ s.reader.tables.rules.length = 1 ∧
      (Step.addPrivileges [.text "write"]).OutOfScope s := by
  have failing : Session.Reachable _ :=
    .act (.turn failingTurn) (.fresh Session.fresh_default) trivial
  have granting : Session.ReachableBy Act.Faultless _ :=
    .act (.turn grantingTurn) (.fresh Session.fresh_default) ⟨rfl, rfl⟩
  obtain ⟨closed, blocks, -⟩ := reachable_closed failing
  obtain ⟨-, -, grants⟩ := reachable_closed granting.reachable
  exact ⟨⟨_, failing, rfl, closed, blocks _ rfl⟩, _, granting, rfl, (grants granting).2 _ rfl⟩

end AccessPolicy
