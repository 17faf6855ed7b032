import AccessPolicy.Proofs.Trace

/-! Where the names in the tables come from. Blocks are opened under names that are given, and all
else is entered under the names of open blocks, so that the tables hold no other names than those
that have come in. -/

namespace AccessPolicy

structure Tables.Named (good : Value → Prop) (t : Tables) : Prop where
  privileges : ∀ name ∈ t.privileges, good name
  privilegeHierarchy : ∀ entry ∈ t.privilegeHierarchy.entries,
    good entry.1 ∧ ∀ edge ∈ entry.2, good edge.privilege
  roles : ∀ role ∈ t.roles, good role
  roleHierarchy : ∀ entry ∈ t.roleHierarchy.entries, good entry.1 ∧ ∀ role ∈ entry.2, good role
  rules : ∀ rule ∈ t.rules, good rule.role ∧ ∀ name ∈ rule.privileges, good name

structure Reader.Named (good : Value → Prop) (r : Reader) : Prop where
  tables : r.tables.Named good
  privilege : ∀ name, r.privilege = some name → good name
  role : ∀ role, r.role = some role → good role

variable {good : Value → Prop}

theorem Reader.named_default : Reader.Named good {} := by
  refine ⟨⟨?_, ?_, ?_, ?_, ?_⟩, nofun, nofun⟩ <;> exact fun _ held => nomatch held

namespace Tables.Named

variable {t : Tables} (named : t.Named good)

include named

theorem withPrivilege {name : Value} (fine : good name) :
    Named good { t with privileges := Value.register t.privileges name } := by
  refine { named with privileges := fun other held => ?_ }
  rcases Value.mem_of_mem_register held with old | rfl
  · exact named.privileges other old
  · exact fine

theorem withRole {role : Value} (fine : good role) :
    Named good { t with roles := Value.register t.roles role } := by
  refine { named with roles := fun other held => ?_ }
  rcases Value.mem_of_mem_register held with old | rfl
  · exact named.roles other old
  · exact fine

theorem withEdge {name : Value} {below : PrivilegeEdge} (fine : good name)
    (lower : good below.privilege) :
    Named good { t with
      privilegeHierarchy := t.privilegeHierarchy.alter name [] (· ++ [below]) } := by
  have single : ∀ edge ∈ [below], good edge.privilege := List.forall_mem_singleton.mpr lower
  refine { named with
    privilegeHierarchy := Table.forall_alter named.privilegeHierarchy ⟨fine, single⟩ ?_ }
  rintro k edges ⟨key, all⟩
  exact ⟨key, List.forall_mem_append.mpr ⟨all, single⟩⟩

theorem withLower {role : Value} {below : List Value} (fine : good role)
    (lower : ∀ name ∈ below, good name) :
    Named good { t with roleHierarchy := t.roleHierarchy.alter role [] (· ++ below) } := by
  refine { named with
    roleHierarchy := Table.forall_alter named.roleHierarchy ⟨fine, lower⟩ ?_ }
  rintro k roles ⟨key, all⟩
  exact ⟨key, List.forall_mem_append.mpr ⟨all, lower⟩⟩

theorem withRule {made : Rule} (fine : good made.role) (all : ∀ name ∈ made.privileges, good name) :
    Named good { t with rules := t.rules ++ [made] } :=
  { named with
    rules := List.forall_mem_append.mpr ⟨named.rules, List.forall_mem_singleton.mpr ⟨fine, all⟩⟩ }

/-- A rule that is added to keeps its role, and has new privileges behind its own. -/
theorem withRules {place : Nat} {f : Rule → Rule} {added : List Value}
    (fine : ∀ name ∈ added, good name)
    (adds : ∀ rule, (f rule).role = rule.role ∧ (f rule).privileges = rule.privileges ++ added) :
    Named good { t with rules := t.rules.modify place f } := by
  refine { named with rules := fun rule held => ?_ }
  rcases mem_of_mem_modify held with old | ⟨changed, old, rfl⟩
  · exact named.rules rule old
  · obtain ⟨role, privileges⟩ := adds changed
    obtain ⟨called, all⟩ := named.rules changed old
    rw [role, privileges]
    exact ⟨called, List.forall_mem_append.mpr ⟨all, fine⟩⟩

end Tables.Named

namespace Update

/-- The names that an update brings in, or enters something under. -/
def names : Update → List Value
  | .enterPrivilege name _ | .privilege name | .enterRole name | .role name => [name]
  | .edge name below => [name, below.privilege]
  | .lower name below => name :: below
  | .rule made => made.role :: made.privileges
  | .privileges _ added => added
  | _ => []

variable {u : Update} {m : Moment}

theorem tables_named {t : Tables} (fine : ∀ name ∈ u.names, good name) (named : t.Named good) :
    (u.tables t).Named good := by
  cases u with
  | privilege name => exact named.withPrivilege (fine name (by simp [names]))
  | role name => exact named.withRole (fine name (by simp [names]))
  | edge name below =>
    exact named.withEdge (fine name (by simp [names])) (fine _ (by simp [names]))
  | lower role below =>
    obtain ⟨called, lower⟩ := List.forall_mem_cons.mp fine
    exact named.withLower called lower
  | rule made =>
    obtain ⟨called, all⟩ := List.forall_mem_cons.mp fine
    exact named.withRule called all
  | privileges place added => exact named.withRules fine fun _ => ⟨rfl, rfl⟩
  | conditions place trees =>
    exact named.withRules fine fun rule => ⟨rfl, (List.append_nil rule.privileges).symm⟩
  | title role text | description role text => exact { named with }
  | _ => exact named

/-- An update of good names leaves good names only. -/
theorem named (fine : ∀ name ∈ u.names, good name) (before : m.reader.Named good) :
    (u.moment m).reader.Named good where
  tables := by
    rw [Moment.tables_moment]
    exact tables_named fine before.tables
  privilege := by
    intro name isOpen
    rcases privilege_open isOpen with was | ⟨context, rfl⟩
    · exact before.privilege name was
    · exact fine name (by simp [names])
  role := by
    intro role isOpen
    rcases role_open isOpen with was | rfl
    · exact before.role role was
    · exact fine role (by simp [names])

end Update

/-- Along a trace of good names all names stay good. -/
theorem Trace.named {m : Moment} {result : Except Fault Unit} {j : Journal}
    (trace : Trace good m result j) (before : m.reader.Named good) :
    (m.after j).reader.Named good := by
  have single {name : Value} (fine : good name) : ∀ n ∈ [name], good n :=
    List.forall_mem_singleton.mpr fine
  have step {m : Moment} {u : Update} (fine : ∀ n ∈ u.names, good n)
      (before : m.reader.Named good) : (m.after [u]).reader.Named good := Update.named fine before
  have mark {m : Moment} {u : Update} (plain : u.names = []) (before : m.reader.Named good) :
      (m.after [u]).reader.Named good := step (by simp [plain]) before
  induction trace with
  | done => exact before
  | refused => exact before
  | append _ _ first second =>
    rw [Moment.after_append]
    exact second (first before)
  | privilege fine => exact step (single fine) before
  | role fine => exact step (single fine) before
  | edge isOpen _ fine =>
    have above := before.privilege _ isOpen
    exact step (List.forall_mem_cons.mpr ⟨above, single fine⟩) before
  | lower isOpen fine =>
    have above := before.role _ isOpen
    exact step (List.forall_mem_cons.mpr ⟨above, fine⟩) before
  | rule isOpen fine =>
    have above := before.role _ isOpen
    exact step (List.forall_mem_cons.mpr ⟨above, fine⟩) before
  | privileges _ fine => exact step fine before
  | @privilegeBlock m name context result j fine _ body =>
    have entered := Update.named (u := .enterPrivilege name context) (single fine) before
    have within := body (Update.named (u := .privilege name) (single fine) entered)
    rw [Moment.after_cons, Moment.after_cons, Moment.after_append]
    exact mark rfl within
  | roleBlock _ fine _ body =>
    have within := body (step (single fine) before)
    rw [Moment.after_cons, Moment.after_append]
    exact mark rfl within
  | completedGrant _ _ _ body | abandonedGrant _ _ _ body =>
    have within := body (mark rfl before)
    rw [Moment.after_cons, Moment.after_append]
    exact mark rfl within
  | event | serial | title | description | conditions => exact mark rfl before

end AccessPolicy
