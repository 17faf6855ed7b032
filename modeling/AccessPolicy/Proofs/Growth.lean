import AccessPolicy.Proofs.Table
import AccessPolicy.Proofs.Update

/-! Tables that have grown. An update leaves in its place whatever the tables hold: lists get longer
at their ends, and of what stands under keys only titles and descriptions are replaced. -/

namespace AccessPolicy

theorem mem_of_mem_modify {α : Type} {f : α → α} {xs : List α} {place : Nat} {x : α}
    (held : x ∈ xs.modify place f) : x ∈ xs ∨ ∃ y ∈ xs, x = f y := by
  obtain ⟨i, stands⟩ := List.mem_iff_getElem?.mp held
  by_cases same : place = i
  · subst same
    rw [List.getElem?_modify_eq] at stands
    obtain ⟨y, here, rfl⟩ := Option.map_eq_some_iff.mp stands
    exact .inr ⟨y, List.mem_of_getElem? here, rfl⟩
  · rw [List.getElem?_modify_ne _ _ same] at stands
    exact .inl (List.mem_of_getElem? stands)

/-- Every place of the first list is one of the second, where something related stands. -/
def Placewise {α : Type} (related : α → α → Prop) (xs ys : List α) : Prop :=
  ∀ (place : Nat) (x : α), xs[place]? = some x → ∃ y, ys[place]? = some y ∧ related x y

namespace Placewise

variable {α : Type} {related : α → α → Prop} {xs ys zs : List α}

theorem refl (each : ∀ x, related x x) (xs : List α) : Placewise related xs xs :=
  fun _ x stands => ⟨x, stands, each x⟩

theorem trans (each : ∀ x y z, related x y → related y z → related x z)
    (first : Placewise related xs ys) (second : Placewise related ys zs) :
    Placewise related xs zs := by
  intro place x stands
  obtain ⟨y, stands', one⟩ := first place x stands
  obtain ⟨z, stands'', two⟩ := second place y stands'
  exact ⟨z, stands'', each x y z one two⟩

theorem append (each : ∀ x, related x x) (xs more : List α) :
    Placewise related xs (xs ++ more) := by
  intro place x stands
  obtain ⟨inside, -⟩ := List.getElem?_eq_some_iff.mp stands
  exact ⟨x, by rw [List.getElem?_append_left inside, stands], each x⟩

theorem modify (each : ∀ x, related x x) {f : α → α} (changed : ∀ x, related x (f x))
    (xs : List α) (changedPlace : Nat) : Placewise related xs (xs.modify changedPlace f) := by
  intro place x stands
  by_cases same : changedPlace = place
  · exact ⟨f x, by simp [stands, same], changed x⟩
  · exact ⟨x, by rw [List.getElem?_modify_ne _ _ same, stands], each x⟩

theorem cons {x y : α} (first : related x y) (rest : Placewise related xs ys) :
    Placewise related (x :: xs) (y :: ys) := by
  intro place z stands
  cases place with
  | zero => exact ⟨y, rfl, by rwa [← Option.some.inj stands]⟩
  | succ place => exact rest place z stands

end Placewise

namespace Value

variable {name : Value} {names more : List Value}

theorem register_prefix (names : List Value) (name : Value) : names <+: register names name := by
  unfold register
  split
  · exact List.prefix_refl names
  · exact List.prefix_append names [name]

theorem within_register (names : List Value) (name : Value) :
    name.within (register names name) := by
  by_cases known : name.within names
  · rwa [register_of_within known]
  · rw [register_of_not_within known]
    exact within_iff.mpr ⟨name, by simp, same_refl name⟩

theorem within_of_prefix (longer : names <+: more) (known : name.within names) :
    name.within more := by
  obtain ⟨other, held, like⟩ := within_iff.mp known
  exact within_iff.mpr ⟨other, longer.subset held, like⟩

end Value

/-- The keys of a table keep their places in a later one, with something related under them. -/
def Table.Grows {α : Type} (related : α → α → Prop) (t later : Table α) : Prop :=
  Placewise (fun entry entry' => entry'.1 = entry.1 ∧ related entry.2 entry'.2)
    t.entries later.entries

namespace Table

variable {α : Type} {related : α → α → Prop}

theorem Grows.refl (each : ∀ a, related a a) (t : Table α) : t.Grows related t :=
  Placewise.refl (fun entry => ⟨rfl, each entry.2⟩) t.entries

theorem Grows.trans (each : ∀ a b c, related a b → related b c → related a c) {t u v : Table α}
    (first : t.Grows related u) (second : u.Grows related v) : t.Grows related v :=
  Placewise.trans (fun _ _ _ one two => ⟨two.1.trans one.1, each _ _ _ one.2 two.2⟩) first second

/-- A key that is entered again keeps its place, and a new one follows all others. -/
theorem grows_alter (each : ∀ a, related a a) {f : α → α} (changed : ∀ a, related a (f a))
    (t : Table α) (key : Value) (start : α) : t.Grows related (t.alter key start f) := by
  obtain ⟨entries⟩ := t
  induction entries with
  | nil =>
    intro place entry stands
    simp at stands
  | cons entry rest ih =>
    obtain ⟨k, a⟩ := entry
    by_cases like : k.same key
    · rw [alter_cons_of_same like]
      exact Placewise.cons ⟨rfl, changed a⟩ (Placewise.refl (fun entry => ⟨rfl, each entry.2⟩) rest)
    · rw [alter_cons_of_not_same like]
      exact Placewise.cons ⟨rfl, each a⟩ ih

end Table

/-- A rule of the same role on the same context, which privileges and conditions have been added
to. -/
structure Rule.Grows (rule later : Rule) : Prop where
  role : later.role = rule.role
  context : later.context = rule.context
  privileges : rule.privileges <+: later.privileges
  conditions : rule.conditions <+: later.conditions

namespace Rule.Grows

theorem refl (rule : Rule) : rule.Grows rule :=
  ⟨rfl, rfl, List.prefix_refl _, List.prefix_refl _⟩

theorem trans (a b c : Rule) (first : a.Grows b) (second : b.Grows c) : a.Grows c where
  role := second.role.trans first.role
  context := second.context.trans first.context
  privileges := first.privileges.trans second.privileges
  conditions := first.conditions.trans second.conditions

theorem withPrivileges (names : List Value) (rule : Rule) :
    rule.Grows (Grant.withPrivileges names rule) :=
  ⟨rfl, rfl, List.prefix_append .., List.prefix_refl _⟩

theorem withConditions (trees : Conditions) (rule : Rule) :
    rule.Grows (Grant.withConditions trees rule) :=
  ⟨rfl, rfl, List.prefix_refl _, List.prefix_append ..⟩

end Rule.Grows

/-- Later tables hold in its place what earlier ones hold; lists have become longer, and under a
key of titles or descriptions another text may stand. -/
structure Tables.Grows (t later : Tables) : Prop where
  privileges : t.privileges <+: later.privileges
  privilegeHierarchy : t.privilegeHierarchy.Grows (· <+: ·) later.privilegeHierarchy
  roles : t.roles <+: later.roles
  roleHierarchy : t.roleHierarchy.Grows (· <+: ·) later.roleHierarchy
  roleTitles : t.roleTitles.Grows (fun _ _ => True) later.roleTitles
  roleDescriptions : t.roleDescriptions.Grows (fun _ _ => True) later.roleDescriptions
  rules : Placewise Rule.Grows t.rules later.rules

namespace Tables.Grows

variable {t u v : Tables}

theorem refl (t : Tables) : t.Grows t where
  privileges := List.prefix_refl _
  privilegeHierarchy := Table.Grows.refl List.prefix_refl _
  roles := List.prefix_refl _
  roleHierarchy := Table.Grows.refl List.prefix_refl _
  roleTitles := Table.Grows.refl (fun _ => trivial) _
  roleDescriptions := Table.Grows.refl (fun _ => trivial) _
  rules := Placewise.refl Rule.Grows.refl _

theorem trans (first : t.Grows u) (second : u.Grows v) : t.Grows v where
  privileges := first.privileges.trans second.privileges
  privilegeHierarchy :=
    Table.Grows.trans (fun _ _ _ one two => one.trans two) first.privilegeHierarchy
      second.privilegeHierarchy
  roles := first.roles.trans second.roles
  roleHierarchy :=
    Table.Grows.trans (fun _ _ _ one two => one.trans two) first.roleHierarchy second.roleHierarchy
  roleTitles := Table.Grows.trans (fun _ _ _ _ _ => trivial) first.roleTitles second.roleTitles
  roleDescriptions :=
    Table.Grows.trans (fun _ _ _ _ _ => trivial) first.roleDescriptions second.roleDescriptions
  rules := Placewise.trans Rule.Grows.trans first.rules second.rules

theorem length_rules (grows : t.Grows u) : t.rules.length ≤ u.rules.length := by
  refine Nat.le_of_not_lt fun shorter => ?_
  obtain ⟨later, stands, -⟩ := grows.rules _ _ (List.getElem?_eq_getElem shorter)
  simp at stands

end Tables.Grows

/-- An update adds to the tables. -/
theorem Update.tables_grow (u : Update) (t : Tables) : t.Grows (u.tables t) := by
  have same := Tables.Grows.refl t
  cases u with
  | privilege name => exact { same with privileges := Value.register_prefix .. }
  | role name => exact { same with roles := Value.register_prefix .. }
  | edge name below =>
    exact { same with
      privilegeHierarchy :=
        Table.grows_alter List.prefix_refl (fun _ => List.prefix_append ..) _ _ _ }
  | lower name below =>
    exact { same with
      roleHierarchy := Table.grows_alter List.prefix_refl (fun _ => List.prefix_append ..) _ _ _ }
  | title name text =>
    exact { same with
      roleTitles := Table.grows_alter (fun _ => trivial) (fun _ => trivial) _ _ _ }
  | description name text =>
    exact { same with
      roleDescriptions := Table.grows_alter (fun _ => trivial) (fun _ => trivial) _ _ _ }
  | rule made => exact { same with rules := Placewise.append Rule.Grows.refl _ _ }
  | privileges place names =>
    exact { same with
      rules := Placewise.modify Rule.Grows.refl (Rule.Grows.withPrivileges names) _ _ }
  | conditions place trees =>
    exact { same with
      rules := Placewise.modify Rule.Grows.refl (Rule.Grows.withConditions trees) _ _ }
  | _ => exact same

/-- So do all updates of a journal together. -/
theorem Journal.tables_grow (journal : Journal) (t : Tables) : t.Grows (journal.tables t) := by
  induction journal generalizing t with
  | nil => exact .refl t
  | cons u rest ih => exact (u.tables_grow t).trans (ih _)

end AccessPolicy
