import AccessPolicy.Proofs.Table
import AccessPolicy.Proofs.Update

/-! Tables on top of others. An update of the upper tables is one of the merged tables, where the
places of rules are counted from the end of the lower ones. -/

namespace AccessPolicy

namespace Tables

/-- The tables of two readings one after the other: new names follow, what stands under equal keys
is put together or replaced, and rules follow. -/
def merge (a b : Tables) : Tables where
  privileges := Value.joined a.privileges b.privileges
  privilegeHierarchy := a.privilegeHierarchy.combine (· ++ ·) b.privilegeHierarchy
  roles := Value.joined a.roles b.roles
  roleHierarchy := a.roleHierarchy.combine (· ++ ·) b.roleHierarchy
  roleTitles := a.roleTitles.combine (fun _ text => text) b.roleTitles
  roleDescriptions := a.roleDescriptions.combine (fun _ text => text) b.roleDescriptions
  rules := a.rules ++ b.rules

structure Distinct (t : Tables) : Prop where
  privilegeHierarchy : t.privilegeHierarchy.Distinct
  roleHierarchy : t.roleHierarchy.Distinct
  roleTitles : t.roleTitles.Distinct
  roleDescriptions : t.roleDescriptions.Distinct

theorem distinct_default : Distinct {} :=
  ⟨Table.distinct_empty, Table.distinct_empty, Table.distinct_empty, Table.distinct_empty⟩

theorem merge_default (a : Tables) : a.merge {} = a := by
  simp [merge, Value.joined, Table.combine, Table.get?]

end Tables

namespace Update

/-- The update with places of rules counted from further on. -/
def moved (count : Nat) : Update → Update
  | .enterGrant place => .enterGrant (count + place)
  | .privileges place names => .privileges (count + place) names
  | .conditions place trees => .conditions (count + place) trees
  | update => update

theorem tables_distinct {t : Tables} (distinct : t.Distinct) (u : Update) :
    (u.tables t).Distinct := by
  obtain ⟨edges, lower, titles, descriptions⟩ := distinct
  cases u with
  | edge name below => exact ⟨Table.distinct_alter edges .., lower, titles, descriptions⟩
  | lower role names => exact ⟨edges, Table.distinct_alter lower .., titles, descriptions⟩
  | title role text => exact ⟨edges, lower, Table.distinct_alter titles .., descriptions⟩
  | description role text => exact ⟨edges, lower, titles, Table.distinct_alter descriptions ..⟩
  | _ => exact ⟨edges, lower, titles, descriptions⟩

theorem modify_append_add {α : Type} (f : α → α) (lower upper : List α) (place : Nat) :
    (lower ++ upper).modify (lower.length + place) f = lower ++ upper.modify place f :=
  List.modifyTailIdx_add ..

theorem tables_moved {a b : Tables} (first : a.Distinct) (second : b.Distinct) (u : Update) :
    (u.moved a.rules.length).tables (a.merge b) = a.merge (u.tables b) := by
  cases u with
  | privilege name => simp [moved, tables, Tables.merge, Value.joined_register]
  | role name => simp [moved, tables, Tables.merge, Value.joined_register]
  | edge name below =>
    simp [moved, tables, Tables.merge, Table.combine_alter first.privilegeHierarchy
      second.privilegeHierarchy]
  | lower role names =>
    simp [moved, tables, Tables.merge, Table.combine_alter first.roleHierarchy
      second.roleHierarchy]
  | title role text =>
    simp [moved, tables, Tables.merge, Table.put, Table.combine_alter first.roleTitles
      second.roleTitles]
  | description role text =>
    simp [moved, tables, Tables.merge, Table.put, Table.combine_alter first.roleDescriptions
      second.roleDescriptions]
  | rule made => simp [moved, tables, Tables.merge]
  | privileges place names => simp [moved, tables, Tables.merge, modify_append_add]
  | conditions place trees => simp [moved, tables, Tables.merge, modify_append_add]
  | _ => rfl

end Update

namespace Journal

def moved (count : Nat) (journal : Journal) : Journal := journal.map (Update.moved count)

theorem tables_distinct {t : Tables} (distinct : t.Distinct) (journal : Journal) :
    (journal.tables t).Distinct := by
  induction journal generalizing t with
  | nil => exact distinct
  | cons u rest ih => exact ih (u.tables_distinct distinct)

/-- What a run does on top of tables is what it does on its own, merged into them. -/
theorem tables_moved {a b : Tables} (first : a.Distinct) (second : b.Distinct)
    (journal : Journal) :
    Journal.tables (journal.moved a.rules.length) (a.merge b) =
      a.merge (Journal.tables journal b) := by
  induction journal generalizing b with
  | nil => rfl
  | cons u rest ih =>
    rw [moved, List.map_cons, tables_cons, tables_cons, u.tables_moved first second]
    exact ih (u.tables_distinct second)

end Journal

/-! Bare values in conditions take serials, which tell computations apart and mean nothing else. -/

/-- A computation without the serial that a bare value took. -/
def Value.unnumbered : Value → Value
  | .literal _ value => .literal 0 value
  | value => value

namespace ConditionTree

mutual

def unnumbered : ConditionTree → ConditionTree
  | .leaf condition => .leaf { condition with compute := condition.compute.unnumbered }
  | .branch entries => .branch (entriesUnnumbered entries)

def entriesUnnumbered : Conditions → Conditions
  | [] => []
  | (key, tree) :: rest => (key, tree.unnumbered) :: entriesUnnumbered rest

end

theorem ofValue_unnumbered :
    (∀ serial value, ∀ other,
      (ofValue serial value).1.unnumbered = (ofValue other value).1.unnumbered) ∧
    ∀ serial entries, ∀ other,
      entriesUnnumbered (ofEntries serial entries).1 =
        entriesUnnumbered (ofEntries other entries).1 := by
  refine ofValue.mutual_induct
    (fun serial value => ∀ other,
      (ofValue serial value).1.unnumbered = (ofValue other value).1.unnumbered)
    (fun serial entries => ∀ other, entriesUnnumbered (ofEntries serial entries).1 =
      entriesUnnumbered (ofEntries other entries).1)
    ?_ ?_ ?_ ?_ ?_ ?_
  · intro serial entries _ _ _ ih other
    simp only [ofValue, unnumbered, ih other]
  · intro serial _ entries _ _ _ ih other
    simp only [ofValue, unnumbered, ih other]
  · intro serial operator compute other
    simp only [ofValue]
  · intro serial value notMap notCyclic notCondition other
    rw [ofValue, ofValue] <;> first | assumption | skip
    simp only [unnumbered, Value.unnumbered]
  · intro serial other
    simp only [ofEntries]
  · intro serial key value rest tree next came trees after cameRest ihValue ihRest other
    have first := ihValue other
    have others := ihRest (ofValue other value).2
    rw [came] at first
    simp only [ofEntries, entriesUnnumbered, came, first, others]

end ConditionTree

def Rule.unnumbered (rule : Rule) : Rule :=
  { rule with conditions := rule.conditions.map ConditionTree.entriesUnnumbered }

def Tables.unnumbered (t : Tables) : Tables := { t with rules := t.rules.map Rule.unnumbered }

def Update.unnumbered : Update → Update
  | .rule made => .rule made.unnumbered
  | .conditions place trees => .conditions place (ConditionTree.entriesUnnumbered trees)
  | .serial _ => .serial 0
  | update => update

theorem map_modify {α : Type} {f g h : α → α} (same : ∀ a, h (f a) = g (h a)) (place : Nat)
    (rules : List α) : (rules.modify place f).map h = (rules.map h).modify place g := by
  induction rules generalizing place with
  | nil => cases place <;> rfl
  | cons rule rest ih => cases place <;> simp [same, ih]

theorem Update.tables_unnumbered (u : Update) (t : Tables) :
    (u.tables t).unnumbered = u.unnumbered.tables t.unnumbered := by
  cases u with
  | rule made => simp [unnumbered, tables, Tables.unnumbered]
  | privileges place names =>
    have same (rule : Rule) : (Grant.withPrivileges names rule).unnumbered =
        Grant.withPrivileges names rule.unnumbered := rfl
    simp [unnumbered, tables, Tables.unnumbered, map_modify same]
  | conditions place trees =>
    have same (rule : Rule) : (Grant.withConditions trees rule).unnumbered =
        Grant.withConditions (ConditionTree.entriesUnnumbered trees) rule.unnumbered := by
      simp [Grant.withConditions, Rule.unnumbered]
    simp [unnumbered, tables, Tables.unnumbered, map_modify same]
  | _ => rfl

theorem Journal.tables_unnumbered (journal : Journal) (t : Tables) :
    (Journal.tables journal t).unnumbered =
      Journal.tables (journal.map Update.unnumbered) t.unnumbered := by
  induction journal generalizing t with
  | nil => rfl
  | cons u rest ih => rw [tables_cons, ih, u.tables_unnumbered, List.map_cons, tables_cons]

end AccessPolicy
