import AccessPolicy.Policy.Snapshot
import AccessPolicy.Policy.Summary
import AccessPolicy.Proofs.Integrity
import Mathlib.Algebra.GroupWithZero.Nat
import Mathlib.Data.List.Forall2

/-! What a summary has of the rules. The registered names tell roles apart, so that every rule is
that of one role, and stands in the entry of this role and in no other. -/

namespace AccessPolicy

namespace Value

def isNan : Value → Bool
  | .float (.nan _) => true
  | _ => false

/-- But for what is not a number, a comparison asks whether two values are the same. -/
theorem equals_eq_same {a : Value} (number : ¬ a.isNan) (b : Value) : a.equals b = a.same b := by
  unfold equals
  split
  · exact absurd rfl number
  · rfl

theorem equals_of_isNan {a : Value} (nan : a.isNan) (b : Value) : a.equals b = false := by
  unfold isNan at nan
  split at nan
  · rfl
  · cases nan

theorem exists_of_isNan {a : Value} (nan : a.isNan) : ∃ payload, a = .float (.nan payload) := by
  unfold isNan at nan
  split at nan
  · exact ⟨_, rfl⟩
  · cases nan

/-- What is not a number is the same as nothing but itself. -/
theorem isNan_of_same {a b : Value} (together : a.same b) (nan : a.isNan) : b.isNan := by
  obtain ⟨payload, rfl⟩ := exists_of_isNan nan
  have leaf := (same_iff_of_leaf rfl b).mp together
  cases b with
  | float x =>
    have numeral : x.numeral = (Number.Binary64.nan payload).numeral := by simpa [leaf?] using leaf
    unfold Number.Binary64.numeral at numeral
    split at numeral
    · cases numeral
    · cases numeral
      rfl
  | _ => cases leaf

/-- Of registered names one is the same as a name within them, at one place. -/
theorem existsUnique_place {name : Value} {names : List Value}
    (apart : names.Pairwise fun a b => ¬ a.same b) (known : name.within names) :
    ∃! place : Fin names.length, name.same names[place] := by
  obtain ⟨n, held, like⟩ := within_iff.mp known
  obtain ⟨place, inside, rfl⟩ := List.mem_iff_getElem.mp held
  refine ⟨⟨place, inside⟩, like, fun other also => ?_⟩
  have together : names[place].same names[other] := same_trans (same_symm like) also
  by_contra elsewhere
  rcases Nat.lt_or_gt_of_ne fun eq : other.val = place => elsewhere (Fin.ext eq) with before | after
  · exact List.pairwise_iff_getElem.mp apart _ _ _ _ before (same_symm together)
  · exact List.pairwise_iff_getElem.mp apart _ _ _ _ after together

/-- One of registered names is counted as the same as a name within them. -/
theorem countP_same {name : Value} {names : List Value}
    (apart : names.Pairwise fun a b => ¬ a.same b) (known : name.within names) :
    names.countP (name.same ·) = 1 := by
  induction names with
  | nil => cases known
  | cons n rest ih =>
    obtain ⟨first, apart⟩ := List.pairwise_cons.mp apart
    by_cases like : name.same n
    · have others : rest.countP (name.same ·) = 0 := List.countP_eq_zero.mpr
        fun other held also => first other held (same_trans (same_symm like) also)
      rw [List.countP_cons_of_pos like, others]
    · rw [List.countP_cons_of_neg like]
      exact ih apart (by simpa [within, like] using known)

end Value

section Lists

variable {α β γ : Type}

/-- What is got from the elements of a list one after the other. -/
theorem forall₂_of_mapM {f : α → Except γ β} {xs : List α} {ys : List β}
    (all : xs.mapM f = .ok ys) : List.Forall₂ (fun x y => f x = .ok y) xs ys := by
  induction xs generalizing ys with
  | nil => cases all; exact .nil
  | cons x xs ih =>
    rw [List.mapM_cons] at all
    cases first : f x with
    | error => rw [first] at all; cases all
    | ok y =>
      cases rest : xs.mapM f with
      | error => rw [first, rest] at all; cases all
      | ok more =>
        rw [first, rest] at all
        cases all
        exact .cons first (ih rest)

/-- Elements that fall under one of some keys each are counted by key. -/
theorem sum_length_filter {under : α → β → Bool} {keys : List β} {xs : List α}
    (one : ∀ x ∈ xs, keys.countP (under x ·) = 1) :
    (keys.map fun key => (xs.filter (under · key)).length).sum = xs.length := by
  induction xs with
  | nil => simp
  | cons x xs ih =>
    obtain ⟨here, others⟩ := List.forall_mem_cons.mp one
    have split (keys : List β) :
        (keys.map fun key => ((x :: xs).filter (under · key)).length).sum =
          keys.countP (under x ·) + (keys.map fun key => (xs.filter (under · key)).length).sum := by
      induction keys with
      | nil => rfl
      | cons key keys ih =>
        rw [List.map_cons, List.sum_cons, ih, List.map_cons, List.sum_cons, List.countP_cons,
          List.filter_cons]
        split <;> simp +arith
    rw [split, here, ih others, List.length_cons, Nat.add_comm]

end Lists

/-- A snapshot shows the rule of the same role. -/
theorem Rule.sealed_role (rule : Rule) : rule.sealed.role = rule.role := by
  unfold Rule.sealed
  split <;> rfl

structure Rule.Reported (rule : Rule) (grant : GrantSummary) : Prop where
  context : contextParts rule.context = .ok grant.context
  privileges : grant.privileges = rule.privileges
  conditions : grant.conditions = rule.conditions.length

theorem Rule.reported_iff {rule : Rule} {grant : GrantSummary} :
    rule.Reported grant ↔ rule.summary = .ok grant := by
  unfold Rule.summary
  constructor
  · intro reported
    rw [reported.context, ← reported.privileges, ← reported.conditions]
    rfl
  · intro summarised
    cases parts : contextParts rule.context with
    | error => rw [parts] at summarised; cases summarised
    | ok context =>
      rw [parts] at summarised
      cases summarised
      exact ⟨parts, rfl, rfl⟩

/-- A summary accounts for tables: it counts their entries, it has the roles in order, and under
each of them the rules of this role, in order. Every rule is that of one role. -/
structure Summary.Accounts (summary : Summary) (t : Tables) : Prop where
  privileges : summary.privileges = t.privileges.length
  roles : summary.roles = t.roles.length
  rules : summary.rules = t.rules.length
  keys : summary.grants.keys = t.roles
  grants : ∀ entry ∈ summary.grants.entries,
    List.Forall₂ Rule.Reported (t.rules.filter (·.role.equals entry.1)) entry.2
  owner : ∀ rule ∈ t.rules, ∃! place : Fin t.roles.length, rule.role.equals t.roles[place]
  total : (summary.grants.entries.map (·.2.length)).sum = summary.rules

namespace Tables

variable {t : Tables}

/-- Grants to roles that are not entered yet are entered behind the others. -/
theorem grantsTo_entries {roles : List Value} {entered grants : Table (List GrantSummary)}
    (apart : roles.Pairwise fun a b => ¬ a.same b)
    (new : ∀ role ∈ roles, ¬ role.within entered.keys)
    (made : t.grantsTo entered roles = .ok grants) :
    ∃ added : List (Value × List GrantSummary), grants.entries = entered.entries ++ added ∧
      added.map Prod.fst = roles ∧
      ∀ entry ∈ added, List.Forall₂ Rule.Reported (t.rulesFor entry.1) entry.2 := by
  induction roles generalizing entered with
  | nil =>
    cases made
    exact ⟨[], (List.append_nil _).symm, rfl, nofun⟩
  | cons role rest ih =>
    obtain ⟨first, apart⟩ := List.pairwise_cons.mp apart
    obtain ⟨newRole, new⟩ := List.forall_mem_cons.mp new
    rw [grantsTo] at made
    cases summarised : (t.rulesFor role).mapM Rule.summary with
    | error => rw [summarised] at made; cases made
    | ok reports =>
      cases obstacle : role.keyObstacle? with
      | some => rw [summarised, obstacle] at made; cases made
      | none =>
        simp only [summarised, obstacle, bind, Except.bind] at made
        have put : (entered.put role reports).entries = entered.entries ++ [(role, reports)] :=
          Table.entries_put_of_not_within newRole reports
        have keys : (entered.put role reports).keys = entered.keys ++ [role] := by
          simp [Table.keys, put]
        have stillNew (other : Value) (held : other ∈ rest) :
            ¬ other.within (entered.put role reports).keys := by
          rw [keys]
          intro known
          obtain ⟨k, inside, like⟩ := Value.within_iff.mp known
          rcases List.mem_append.mp inside with old | mine
          · exact new other held (Value.within_iff.mpr ⟨k, old, like⟩)
          · rw [List.mem_singleton.mp mine] at like
            exact first other held (Value.same_symm like)
        obtain ⟨added, entries, names, each⟩ := ih apart stillNew made
        refine ⟨(role, reports) :: added, ?_, by simp [names],
          List.forall_mem_cons.mpr ⟨?_, each⟩⟩
        · rw [entries, put, List.append_assoc]
          rfl
        · exact (forall₂_of_mapM summarised).imp fun _ _ => Rule.reported_iff.mpr

/-- Under each of the roles of consistent tables stand the reports on its rules. -/
theorem Consistent.entries_of_summary {summary : Summary} (consistent : t.Consistent)
    (summarised : t.summary = .ok summary) : summary.grants.keys = t.roles ∧
      ∀ entry ∈ summary.grants.entries,
        List.Forall₂ Rule.Reported (t.rulesFor entry.1) entry.2 := by
  unfold Tables.summary at summarised
  cases made : t.grantsTo .empty t.roles with
  | error => rw [made] at summarised; cases summarised
  | ok grants =>
    rw [made] at summarised
    cases summarised
    have new (role : Value) (_ : role ∈ t.roles) :
        ¬ role.within (Table.empty : Table (List GrantSummary)).keys := Bool.false_ne_true
    obtain ⟨added, entries, names, each⟩ := grantsTo_entries consistent.roles new made
    obtain rfl : grants.entries = added := entries
    exact ⟨names, each⟩

theorem sizes_of_summary {summary : Summary} (summarised : t.summary = .ok summary) :
    summary.privileges = t.privileges.length ∧ summary.roles = t.roles.length ∧
      summary.rules = t.rules.length := by
  unfold Tables.summary at summarised
  cases made : t.grantsTo .empty t.roles with
  | error => rw [made] at summarised; cases summarised
  | ok => rw [made] at summarised; cases summarised; exact ⟨rfl, rfl, rfl⟩

/-- The summary of consistent tables accounts for them, where it can be made and roles are told
apart by comparing them. -/
theorem Consistent.accounts {summary : Summary} (consistent : t.Consistent)
    (numbers : ∀ role ∈ t.roles, ¬ role.isNan) (summarised : t.summary = .ok summary) :
    summary.Accounts t := by
  have comparable (rule : Rule) (held : rule ∈ t.rules) : rule.role.equals = rule.role.same := by
    obtain ⟨role, registered, like⟩ := Value.within_iff.mp (consistent.rules rule held)
    exact funext (Value.equals_eq_same fun nan => numbers role registered
      (Value.isNan_of_same like nan))
  obtain ⟨privileges, roles, rules⟩ := sizes_of_summary summarised
  obtain ⟨names, each⟩ := consistent.entries_of_summary summarised
  refine ⟨privileges, roles, rules, names, each, fun rule held => ?_, ?_⟩
  · rw [comparable rule held]
    exact Value.existsUnique_place consistent.roles (consistent.rules rule held)
  · calc (summary.grants.entries.map (·.2.length)).sum
        = (summary.grants.entries.map fun entry => (t.rulesFor entry.1).length).sum :=
          congrArg List.sum (List.map_congr_left fun entry held => (each entry held).length_eq.symm)
      _ = (t.roles.map fun role => (t.rulesFor role).length).sum := by
          rw [← names, Table.keys, List.map_map]
          rfl
      _ = t.rules.length := sum_length_filter fun rule held => by
          rw [comparable rule held]
          exact Value.countP_same consistent.roles (consistent.rules rule held)
      _ = summary.rules := rules.symm

theorem Consistent.sealed (consistent : t.Consistent) : t.sealed.Consistent := by
  refine { consistent with rules := fun rule held => ?_ }
  obtain ⟨shown, inside, rfl⟩ := List.mem_map.mp held
  rw [Rule.sealed_role]
  exact consistent.rules shown inside

end Tables

/-- Where callers have put nothing under names, a snapshot has the tables. -/
theorem Session.Intact.snapshot {s : Session} (intact : s.Intact) :
    s.snapshot = .ok s.reader.tables.sealed := by
  simp [Session.snapshot, Session.privileges, Session.privilegeHierarchy, Session.roles,
    Session.roleHierarchy, Session.roleTitles, Session.roleDescriptions, Session.rules,
    Session.field, intact.change?, bind, Except.bind, pure, Except.pure]

/-- Inside an act the tables are consistent, as they are along its journal. -/
theorem Session.Reached.tables_consistent {s : Session} (reached : s.Reached) :
    s.reader.tables.Consistent := by
  obtain ⟨before, reachable, act, past, leads⟩ := reached
  have along := ((act.course_traced.at_ before.moment).holds reachable.steady).along
  rw [leads.advance.reader]
  exact (along.of_prefix leads.first).tables

/-- Wherever a session has come to, a summary of what it shows accounts for every rule once. -/
theorem snapshot_accounts {s : Session} (reached : s.Reached)
    (numbers : ∀ role ∈ s.reader.tables.roles, ¬ role.isNan) :
    ∃ shown, s.snapshot = .ok shown ∧ shown.roles = s.reader.tables.roles ∧
      shown.rules = s.reader.tables.rules.map Rule.sealed ∧
      ∀ summary, shown.summary = .ok summary → summary.Accounts shown :=
  ⟨_, reached.intact.snapshot, rfl, rfl, fun _ summarised =>
    reached.tables_consistent.sealed.accounts numbers summarised⟩

def respellingTurn : Turn :=
  .build [.role (.int 1) .null .null (some [.grant (.text "rooms") (.text "read") none]),
    .role (.text "admin") .null .null (some [.grant .null (.text "read") none]),
    .role (.bool true) .null .null (some [.grant (.list [.text "halls"]) (.text "enter") none])] rfl

/-- The rule that was declared for true is accounted for under one. -/
theorem snapshot_accounts_respelling :
    ∃ (s : Session) (shown : Tables) (summary : Summary), s.Reached ∧ s.snapshot = .ok shown ∧
      shown.roles = [.int 1, .text "admin"] ∧
      shown.rules.map (·.role) = [.int 1, .text "admin", .bool true] ∧
      shown.summary = .ok summary ∧ summary.grants.entries.map (·.2.length) = [2, 1] ∧
      summary.Accounts shown := by
  have start : Session.Reachable {} := .fresh Session.fresh_default
  have reached : ((Act.turn respellingTurn).action.run {}).2.Reached :=
    ⟨{}, start, .turn respellingTurn, _, Act.leads_run _ start.intact⟩
  obtain ⟨shown, snapshot, roles, rules, accounts⟩ := snapshot_accounts reached (by decide +kernel)
  cases reached.intact.snapshot.symm.trans snapshot
  have lengths :
      ((Act.turn respellingTurn).action.run {}).2.reader.tables.sealed.summary.toOption.map
        (·.grants.entries.map (·.2.length)) = some [2, 1] := by decide +kernel
  rcases summarised : ((Act.turn respellingTurn).action.run {}).2.reader.tables.sealed.summary with
    fault | summary
  · rw [summarised] at lengths
    cases lengths
  · rw [summarised] at lengths
    exact ⟨_, _, summary, reached, snapshot, by with_unfolding_all rfl, rfl, summarised,
      Option.some.inj lengths, accounts summary summarised⟩

end AccessPolicy
