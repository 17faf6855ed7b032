import AccessPolicy.Proofs.Act

/-! What holds of the tables wherever a session has come to: names stand in them once, and all that
tables refer to is registered. Blocks are open for registered names only, but for the moment in
which a privilege has been opened and is yet to be registered. -/

namespace AccessPolicy

/-- No entry stands twice, and what the tables refer to are entries. -/
structure Tables.Consistent (t : Tables) : Prop where
  privileges : t.privileges.Pairwise fun a b => ¬ a.same b
  roles : t.roles.Pairwise fun a b => ¬ a.same b
  privilegeHierarchy : ∀ entry ∈ t.privilegeHierarchy.entries, entry.1.within t.privileges ∧
    entry.2 ≠ [] ∧ ∀ edge ∈ entry.2, edge.privilege.within t.privileges
  roleHierarchy : ∀ role ∈ t.roleHierarchy.keys, role.within t.roles
  roleTitles : ∀ role ∈ t.roleTitles.keys, role.within t.roles
  roleDescriptions : ∀ role ∈ t.roleDescriptions.keys, role.within t.roles
  rules : ∀ rule ∈ t.rules, rule.role.within t.roles

/-- The tables are consistent, and the open rule is one of theirs. -/
structure Reader.Consistent (r : Reader) : Prop where
  tables : r.tables.Consistent
  rule : ∀ place, r.rule = some place → place < r.tables.rules.length

/-- Besides, the open privilege and the open role are registered. -/
structure Reader.Steady (r : Reader) : Prop where
  consistent : r.Consistent
  privilege : ∀ name, r.privilege = some name → name.within r.tables.privileges
  role : ∀ role, r.role = some role → role.within r.tables.roles

theorem Reader.steady_default : Reader.Steady {} := by
  refine ⟨⟨⟨.nil, .nil, ?_, ?_, ?_, ?_, ?_⟩, nofun⟩, nofun, nofun⟩ <;>
    exact fun _ held => nomatch held

/-- Only registered names are entered, referred to or opened. -/
def Update.Proper (u : Update) (r : Reader) : Prop :=
  match u with
  | .enterPrivilege name _ => name.within r.tables.privileges
  | .edge name below =>
    name.within r.tables.privileges ∧ below.privilege.within r.tables.privileges
  | .enterRole name | .title name _ | .description name _ | .lower name _ =>
    name.within r.tables.roles
  | .rule made => made.role.within r.tables.roles
  | .enterGrant place => place < r.tables.rules.length
  | _ => True

namespace Tables.Consistent

variable {t : Tables} (consistent : t.Consistent)

include consistent

theorem withPrivilege (name : Value) :
    Consistent { t with privileges := Value.register t.privileges name } := by
  have kept {n : Value} (known : n.within t.privileges) :
      n.within (Value.register t.privileges name) :=
    Value.within_of_prefix (Value.register_prefix ..) known
  refine { consistent with
    privileges := Value.apart_register consistent.privileges name
    privilegeHierarchy := fun entry held => ?_ }
  obtain ⟨known, filled, edges⟩ := consistent.privilegeHierarchy entry held
  exact ⟨kept known, filled, fun edge below => kept (edges edge below)⟩

theorem withRole (role : Value) :
    Consistent { t with roles := Value.register t.roles role } := by
  have kept {r : Value} (known : r.within t.roles) : r.within (Value.register t.roles role) :=
    Value.within_of_prefix (Value.register_prefix ..) known
  exact { consistent with
    roles := Value.apart_register consistent.roles role
    roleHierarchy := fun r held => kept (consistent.roleHierarchy r held)
    roleTitles := fun r held => kept (consistent.roleTitles r held)
    roleDescriptions := fun r held => kept (consistent.roleDescriptions r held)
    rules := fun rule held => kept (consistent.rules rule held) }

theorem withEdge {name : Value} {below : PrivilegeEdge} (known : name.within t.privileges)
    (lower : below.privilege.within t.privileges) :
    Consistent { t with
      privilegeHierarchy := t.privilegeHierarchy.alter name [] (· ++ [below]) } := by
  refine { consistent with
    privilegeHierarchy := Table.forall_alter consistent.privilegeHierarchy ?_ ?_ }
  · exact ⟨known, by simp, by simpa using lower⟩
  · rintro k edges ⟨known, -, all⟩
    refine ⟨known, by simp, fun (edge : PrivilegeEdge) held => ?_⟩
    rcases List.mem_append.mp held with old | new
    · exact all edge old
    · rwa [List.mem_singleton.mp new]

/-- A rule that is added to keeps its role. -/
theorem withRules {place : Nat} {f : Rule → Rule} (same : ∀ rule, (f rule).role = rule.role) :
    Consistent { t with rules := t.rules.modify place f } := by
  refine { consistent with rules := fun rule held => ?_ }
  rcases mem_of_mem_modify held with old | ⟨changed, old, rfl⟩
  · exact consistent.rules rule old
  · rw [same]
    exact consistent.rules changed old

end Tables.Consistent

namespace Update

variable {u : Update} {m : Moment}

theorem tables_consistent (proper : u.Proper m.reader) (consistent : m.reader.tables.Consistent) :
    (u.moment m).reader.tables.Consistent := by
  rw [Moment.tables_moment]
  cases u with
  | privilege name => exact consistent.withPrivilege name
  | role name => exact consistent.withRole name
  | edge name below => exact consistent.withEdge proper.1 proper.2
  | lower role names =>
    exact { consistent with
      roleHierarchy := Table.keys_within_alter consistent.roleHierarchy proper }
  | title role text =>
    exact { consistent with roleTitles := Table.keys_within_alter consistent.roleTitles proper }
  | description role text =>
    exact { consistent with
      roleDescriptions := Table.keys_within_alter consistent.roleDescriptions proper }
  | rule made =>
    refine { consistent with rules := fun rule held => ?_ }
    rcases List.mem_append.mp held with old | new
    · exact consistent.rules rule old
    · rw [List.mem_singleton.mp new]
      exact proper
  | privileges place names => exact consistent.withRules fun _ => rfl
  | conditions place trees => exact consistent.withRules fun _ => rfl
  | _ => exact consistent

theorem rule_in_range (proper : u.Proper m.reader)
    (before : ∀ place, m.reader.rule = some place → place < m.reader.tables.rules.length) :
    ∀ place, (u.moment m).reader.rule = some place →
      place < (u.moment m).reader.tables.rules.length := by
  intro place isOpen
  rw [Moment.tables_moment]
  have longer := (u.tables_grow m.reader.tables).length_rules
  cases u with
  | enterGrant entered =>
    cases isOpen
    exact proper
  | completeGrant => cases isOpen
  | _ => exact Nat.lt_of_lt_of_le (before place isOpen) longer

theorem privilege_known (proper : u.Proper m.reader)
    (before : ∀ name, m.reader.privilege = some name → name.within m.reader.tables.privileges) :
    ∀ name, (u.moment m).reader.privilege = some name →
      name.within (u.moment m).reader.tables.privileges := by
  intro name isOpen
  have known : name.within m.reader.tables.privileges := by
    rcases privilege_open isOpen with was | ⟨context, rfl⟩
    · exact before name was
    · exact proper
  rw [Moment.tables_moment]
  exact Value.within_of_prefix (u.tables_grow _).privileges known

theorem role_known (proper : u.Proper m.reader)
    (before : ∀ role, m.reader.role = some role → role.within m.reader.tables.roles) :
    ∀ role, (u.moment m).reader.role = some role →
      role.within (u.moment m).reader.tables.roles := by
  intro role isOpen
  have known : role.within m.reader.tables.roles := by
    rcases role_open isOpen with was | rfl
    · exact before role was
    · exact proper
  rw [Moment.tables_moment]
  exact Value.within_of_prefix (u.tables_grow _).roles known

/-- A proper update keeps the reader steady. -/
theorem steady (proper : u.Proper m.reader) (before : m.reader.Steady) :
    (u.moment m).reader.Steady where
  consistent := ⟨tables_consistent proper before.consistent.tables,
    rule_in_range proper before.consistent.rule⟩
  privilege := privilege_known proper before.privilege
  role := role_known proper before.role

end Update

/-- At every update of a journal, and at its end. -/
def Moment.ConsistentAlong (m : Moment) : Journal → Prop
  | [] => m.reader.Consistent
  | u :: j => m.reader.Consistent ∧ (u.moment m).ConsistentAlong j

namespace Moment.ConsistentAlong

variable {m : Moment} {j k : Journal}

theorem append (along : m.ConsistentAlong j) (next : (m.after j).ConsistentAlong k) :
    m.ConsistentAlong (j ++ k) := by
  induction j generalizing m with
  | nil => exact next
  | cons u j ih => exact ⟨along.1, ih along.2 next⟩

theorem start (along : m.ConsistentAlong j) : m.reader.Consistent := by
  cases j with
  | nil => exact along
  | cons u j => exact along.1

theorem of_prefix (along : m.ConsistentAlong j) (past : k <+: j) :
    (m.after k).reader.Consistent := by
  obtain ⟨rest, rfl⟩ := past
  induction k generalizing m with
  | nil => exact along.start
  | cons u k ih => exact ih along.2

end Moment.ConsistentAlong

/-- From one steady moment a journal leads to another, and through consistent ones. -/
structure Moment.Holds (m : Moment) (j : Journal) : Prop where
  along : m.ConsistentAlong j
  last : (m.after j).reader.Steady

namespace Moment.Holds

variable {m : Moment} {j k : Journal} {u : Update}

theorem nil (steady : m.reader.Steady) : m.Holds [] := ⟨steady.consistent, steady⟩

theorem append (first : m.Holds j) (second : (m.after j).Holds k) : m.Holds (j ++ k) where
  along := first.along.append second.along
  last := by
    rw [after_append]
    exact second.last

theorem cons (steady : m.reader.Steady) (rest : (u.moment m).Holds j) : m.Holds (u :: j) :=
  ⟨⟨steady.consistent, rest.along⟩, rest.last⟩

theorem single (steady : m.reader.Steady) (proper : u.Proper m.reader) : m.Holds [u] :=
  .cons steady (.nil (Update.steady proper steady))

/-- A block is entered and left. -/
theorem block {last : Update} (steady : m.reader.Steady) (proper : u.Proper m.reader)
    (body : (u.moment m).reader.Steady → (u.moment m).Holds j)
    (leaves : ∀ m : Moment, last.Proper m.reader) : m.Holds (u :: (j ++ [last])) := by
  have within := body (Update.steady proper steady)
  exact .cons steady (within.append (.single within.last (leaves _)))

end Moment.Holds

/-- Along a trace the tables stay consistent. -/
theorem Trace.holds {good : Value → Prop} {m : Moment} {result : Except Fault Unit} {j : Journal}
    (trace : Trace good m result j) (steady : m.reader.Steady) : m.Holds j := by
  induction trace with
  | done => exact .nil steady
  | refused => exact .nil steady
  | append _ _ first second =>
    have led := first steady
    exact led.append (second led.last)
  | event => exact .single steady trivial
  | serial => exact .single steady trivial
  | privilege => exact .single steady trivial
  | edge isOpen known _ => exact .single steady ⟨steady.privilege _ isOpen, known⟩
  | @privilegeBlock m name context result j _ _ body =>
    -- Opening the privilege and registering it may change places.
    let registered : Moment := (Update.privilege name).moment m
    have known : (Update.enterPrivilege name context).Proper registered.reader :=
      Value.within_register ..
    have opened : (m.after [.enterPrivilege name context, .privilege name]).reader.Steady :=
      Update.steady known (Update.steady (u := .privilege name) trivial steady)
    have within := body opened
    have ended := within.append (.single (u := .leavePrivilege) within.last trivial)
    exact ⟨⟨steady.consistent, ⟨steady.consistent.tables, steady.consistent.rule⟩, ended.along⟩,
      ended.last⟩
  | role => exact .single steady trivial
  | title text known => exact .single steady (known.elim id (steady.role _))
  | description text known => exact .single steady (known.elim id (steady.role _))
  | lower isOpen _ => exact .single steady (steady.role _ isOpen)
  | roleBlock known _ _ body => exact .block steady known body fun _ => trivial
  | rule isOpen _ => exact .single steady (steady.role _ isOpen)
  | completedGrant stands _ _ body =>
    obtain ⟨inside, -⟩ := List.getElem?_eq_some_iff.mp stands
    exact .block steady inside body fun _ => trivial
  | abandonedGrant stands _ _ body =>
    obtain ⟨inside, -⟩ := List.getElem?_eq_some_iff.mp stands
    exact .block steady inside body fun _ => trivial
  | privileges => exact .single steady trivial
  | conditions => exact .single steady trivial

/-- Between acts the open privilege and the open role are registered, too. -/
theorem Session.Reachable.steady {s : Session} (reachable : s.Reachable) : s.reader.Steady :=
  Reachable.reader Reader.steady_default
    (fun act m steady => ((act.course_traced.at_ m).holds steady).last) reachable

/-- Wherever a session has come to, between acts or inside of one, its tables are consistent and the
open rule is one of theirs. -/
theorem reached_consistent {u : Session} (reached : u.Reached) : u.reader.Consistent := by
  obtain ⟨s, reachable, act, past, leads⟩ := reached
  have holds : s.moment.Holds (act.course s.moment).journal :=
    (act.course_traced.at_ s.moment).holds (Session.Reachable.steady reachable)
  rw [leads.advance.reader]
  exact holds.along.of_prefix leads.first

/-- A privilege whose name cannot be a key includes another, which fails and is caught; a second one
includes it, and then its body fails. -/
def includingTurn : Turn :=
  .build [.attempt [.privilege (.list [.text "a"]) .null .null [] (some
      [.includePrivileges [.text "read"]])],
    .privilege (.text "manage") .null .null [] (some
      [.includePrivileges [.text "read"], .refuse (.raised "closed")])] rfl

/-- In the body of the second privilege the names of both are registered, and one edge is
entered. -/
theorem reached_consistent_including :
    ∃ u : Session, u.Reached ∧ u.reader.privilege = some (.text "manage") ∧
      u.reader.tables.privileges = [.list [.text "a"], .text "read", .text "manage"] ∧
      u.reader.tables.privilegeHierarchy.entries = [(.text "manage", [⟨.text "read", .null⟩])] ∧
      u.reader.Consistent := by
  have start : Session.Reachable {} := .fresh Session.fresh_default
  have reached : Session.Reached _ := ⟨{}, start, .turn includingTurn, _,
    List.take_prefix 10 _, start.intact.advances _⟩
  exact ⟨_, reached, rfl, by with_unfolding_all rfl, by with_unfolding_all rfl,
    reached_consistent reached⟩

end AccessPolicy
