import AccessPolicy.Proofs.Completion
import AccessPolicy.Proofs.Meaning

/-! What the operations of a reader denote. The reader has one variable for each kind of block,
which is emptied and not restored when a block ends: it is the innermost block of its kind in the
text, or nothing, and then every use of it is refused. -/

namespace AccessPolicy

/-- What is open is what stands around a statement in the text, if anything is open. The rule at
the given place is that of the grant around the statement. -/
structure Scope.Covers (scope : Scope) (place : Option Nat) (reader : Reader) : Prop where
  privilege : ∀ name, reader.privilege = some name → scope.privilege = some (name, reader.context)
  role : ∀ role, reader.role = some role → scope.role = some role
  rule : ∀ rule, reader.rule = some rule → place = some rule
  bound : ∀ rule, place = some rule → rule < reader.tables.rules.length

theorem modify_append_of_lt {α : Type} (f : α → α) {place : Nat} {rules : List α}
    (inside : place < rules.length) (more : List α) :
    (rules ++ more).modify place f = rules.modify place f ++ more := by
  induction rules generalizing place with
  | nil => cases inside
  | cons rule rest ih =>
    cases place with
    | zero => rfl
    | succ place => simpa using ih (by simpa using inside)

namespace Meaning

def completed (meaning : Meaning) (rule : Rule) : Rule :=
  { rule with
    privileges := rule.privileges ++ meaning.granted
    conditions := rule.conditions ++ meaning.conditions }

def rulesUpon (meaning : Meaning) (place : Option Nat) (rules : List Rule) : List Rule :=
  (match place with
    | some rule => rules.modify rule meaning.completed
    | none => rules) ++ meaning.rules

/-- Tables with what is declared entered on top of them; the rule at the place is that of the grant
around it. -/
def upon (meaning : Meaning) (place : Option Nat) (t : Tables) : Tables where
  privileges := meaning.privileges.foldl Value.register t.privileges
  privilegeHierarchy :=
    meaning.edges.foldl (fun t (name, edge) => t.alter name [] (· ++ [edge])) t.privilegeHierarchy
  roles := meaning.roles.foldl Value.register t.roles
  roleHierarchy :=
    meaning.lower.foldl (fun t (role, names) => t.alter role [] (· ++ names)) t.roleHierarchy
  roleTitles := meaning.titles.foldl (fun t (role, text) => t.put role text) t.roleTitles
  roleDescriptions :=
    meaning.descriptions.foldl (fun t (role, text) => t.put role text) t.roleDescriptions
  rules := meaning.rulesUpon place t.rules

variable {a b : Meaning} {place : Option Nat} {t : Tables}

theorem tables_eq_upon (a : Meaning) : a.tables = a.upon none {} := rfl

theorem completed_of_none {rule : Rule} (granted : a.granted = []) (conditions : a.conditions = []) :
    a.completed rule = rule := by
  simp [completed, granted, conditions]

theorem rulesUpon_of_none (granted : a.granted = []) (conditions : a.conditions = [])
    (rules : List Rule) : a.rulesUpon place rules = rules ++ a.rules := by
  have same : a.completed = id := funext fun rule => completed_of_none granted conditions
  cases place <;> simp [rulesUpon, same]

theorem upon_nothing (serial : Nat) : (nothing serial).upon place t = t := by
  have rules : (nothing serial).rulesUpon place t.rules = t.rules ++ [] :=
    rulesUpon_of_none rfl rfl t.rules
  simp only [upon, rules]
  simp [nothing]

theorem length_rulesUpon (rules : List Rule) :
    rules.length ≤ (a.rulesUpon place rules).length := by
  cases place <;> simp [rulesUpon]

theorem rulesUpon_andThen {rules : List Rule} (bound : ∀ rule, place = some rule → rule < rules.length) :
    (a.andThen b).rulesUpon place rules = b.rulesUpon place (a.rulesUpon place rules) := by
  cases place with
  | none => simp [rulesUpon, andThen]
  | some rule =>
    have inside : rule < (rules.modify rule a.completed).length := by
      simpa using bound rule rfl
    have both : (a.andThen b).completed = b.completed ∘ a.completed := by
      funext rule
      simp [completed, andThen]
    simp only [rulesUpon, modify_append_of_lt _ inside, List.modify_modify_eq, both,
      List.append_assoc]
    rfl

theorem upon_andThen (bound : ∀ rule, place = some rule → rule < t.rules.length) :
    (a.andThen b).upon place t = b.upon place (a.upon place t) := by
  simp only [upon, rulesUpon_andThen bound]
  simp [andThen]

end Meaning

/-- One moment has become another within a scope, by what is meant. -/
structure Reaches (scope : Scope) (place : Option Nat) (m : Moment) (meaning : Meaning)
    (n : Moment) : Prop where
  covers : scope.Covers place n.reader
  tables : n.reader.tables = meaning.upon place m.reader.tables
  serial : n.serial = meaning.next

/-- Wherever a course starts within a scope, it comes to what is meant if it completes. -/
structure Denotes (c : Course) (scope : Scope) (meaning : Nat → Meaning) : Prop where
  reaches : ∀ place m n, scope.Covers place m.reader → c.Completes m n →
    Reaches scope place m (meaning m.serial) n

namespace Denotes

open Course

variable {c d : Course} {scope : Scope} {f g : Nat → Meaning}

theorem done : Denotes done scope .nothing := by
  constructor
  intro place m n covers completes
  obtain rfl := completes_done.mp completes
  exact ⟨covers, Meaning.upon_nothing _ |>.symm, rfl⟩

theorem refuse {fault : Fault} : Denotes (refuse fault) scope f :=
  ⟨fun _ _ _ _ completes => (not_completes_refuse completes).elim⟩

theorem emit {event : LogEvent} : Denotes (emit event) scope .nothing := by
  constructor
  intro place m n covers completes
  obtain rfl := completes.of_emit
  exact ⟨covers, Meaning.upon_nothing _ |>.symm, rfl⟩

theorem andThen (first : Denotes c scope f) (second : Denotes d scope g) :
    Denotes (c.andThen d) scope fun serial => (f serial).andThen (g (f serial).next) := by
  constructor
  intro place m n covers completes
  obtain ⟨k, one, two⟩ := completes_andThen.mp completes
  have toMiddle := first.reaches place m k covers one
  have toEnd := second.reaches place k n toMiddle.covers two
  rw [toMiddle.serial] at toEnd
  refine ⟨toEnd.covers, ?_, toEnd.serial⟩
  rw [toEnd.tables, toMiddle.tables, Meaning.upon_andThen covers.bound]

theorem congr {meaning : Nat → Meaning} (denotes : Denotes c scope f)
    (same : ∀ serial, f serial = meaning serial) : Denotes c scope meaning :=
  funext same ▸ denotes

/-- A single change of the tables that does not count on the grant around it. -/
theorem make {u : Update} (tables : ∀ place serial t, u.tables t = (f serial).upon place t)
    (moment : ∀ m : Moment,
      u.moment m = { m with reader := { m.reader with tables := u.tables m.reader.tables } })
    (next : ∀ serial, (f serial).next = serial) : Denotes (make [u]) scope f := by
  constructor
  intro place m n covers completes
  obtain rfl := completes_make.mp completes
  rw [Moment.after_cons, Moment.after_nil, moment]
  refine ⟨⟨covers.privilege, covers.role, covers.rule, fun rule isPlace => ?_⟩,
    tables place m.serial _, (next m.serial).symm⟩
  rw [tables place m.serial]
  exact Nat.lt_of_lt_of_le (covers.bound rule isPlace) (Meaning.length_rulesUpon _)

theorem keyed {key : Value} {u : Update} (denotes : Denotes (Course.make [u]) scope f) :
    Denotes (keyed key u) scope f := by
  unfold Course.keyed
  split
  · exact refuse
  · exact denotes

end Denotes

/-- A body that is given denotes what is meant, and one that is not given means nothing. -/
inductive BodyDenotes : Option Course → Scope → (Nat → Meaning) → Prop
  | none {scope : Scope} : BodyDenotes none scope .nothing
  | some {c : Course} {scope : Scope} {f : Nat → Meaning} :
    Denotes c scope f → BodyDenotes (some c) scope f

theorem BodyDenotes.getD {body : Option Course} {scope : Scope} {f : Nat → Meaning}
    (denotes : BodyDenotes body scope f) : Denotes (body.getD .done) scope f := by
  cases denotes with
  | none => exact .done
  | some denotes => exact denotes

namespace Privilege

open Denotes

variable {scope : Scope}

theorem register_denotes (name : Value) :
    Denotes (Course.make [.privilege name]) scope fun serial =>
      { privileges := [name], next := serial } := by
  refine make (fun place serial t => ?_) (fun _ => rfl) fun _ => rfl
  simp [Meaning.upon, Meaning.rulesUpon_of_none, Update.tables]

theorem includeCourse_denotes (name context : Value) (names : List Value) :
    Denotes (includeCourse name context names) scope fun serial =>
      { privileges := names, edges := names.map fun lower => (name, ⟨lower, context⟩),
        next := serial } := by
  induction names with
  | nil => exact done
  | cons lower rest ih =>
    have entered : Denotes (.make [.edge name ⟨lower, context⟩]) scope fun serial =>
        { edges := [(name, ⟨lower, context⟩)], next := serial } := by
      refine make (fun place serial t => ?_) (fun _ => rfl) fun _ => rfl
      simp [Meaning.upon, Meaning.rulesUpon_of_none, Update.tables]
    refine ((register_denotes lower).andThen (entered.keyed.andThen ih)).congr fun serial => ?_
    simp [Meaning.andThen]

theorem includesCourse_denotes (names : List Value) :
    Denotes (includesCourse names) scope fun serial =>
      Lexical.includes scope serial (Value.leavesOf names) := by
  constructor
  intro place m n covers completes
  obtain ⟨name, isOpen, completes⟩ := completes_includesCourse completes
  rw [Lexical.includes, covers.privilege name isOpen]
  exact (includeCourse_denotes name _ _).reaches place m n covers completes

theorem keyedEntries?_eq_some_ok {record : Value} {t : Table Value}
    (entries : record.keyedEntries? = some (.ok t)) : t = .empty := by
  cases record with
  | record fields =>
    obtain ⟨keys, -, entries⟩ := Option.map_eq_some_iff.mp entries
    cases found : keys.computed .null with
    | error fault => simp [found, bind, Except.bind] at entries
    | ok place =>
      rcases void : place.isVoid? with _ | _ | _ <;>
        simp [found, void, bind, Except.bind, throw, throwThe, MonadExceptOf.throw, pure,
          Except.pure] at entries
      exact entries.symm
  | _ => cases entries

/-- The entries of options are those of a map. -/
theorem optionEntries_eq_ok {options : Value} {t : Table Value}
    (entries : optionEntries options = .ok t) : t = ⟨Lexical.entriesOf options⟩ := by
  unfold optionEntries at entries
  unfold Lexical.entriesOf
  split at entries
  · rename_i es opened
    rw [opened]
    exact (Except.ok.inj entries).symm
  · cases entries
  · cases entries
  · rename_i found _ _ keyed notMap
    rw [keyedEntries?_eq_some_ok (keyed.trans (congrArg some entries))]
    split
    · exact (notMap _ ‹_›).elim
    · rfl
  · rename_i notMap
    split at entries
    · cases entries
    · rw [← Except.ok.inj entries]
      split
      · exact (notMap _ ‹_›).elim
      · rfl

theorem leavesOf_includedBy (t : Table Value) :
    ((includedBy t).map Value.leavesOf).getD [] = Lexical.optionNames (t.get? (.text "includes")) := by
  unfold includedBy Lexical.optionNames
  cases t.get? (.text "includes") with
  | none => rfl
  | some given =>
    by_cases truthy : given.isTruthy
    · simp only [truthy, Bool.not_true, Bool.false_eq_true, if_false, if_true]
      cases given with
      | cyclic serial value =>
        cases value <;> simp [Value.opened, Lexical.flattened, Value.leavesOf, Value.leaves]
      | _ => simp [Value.opened, Lexical.flattened, Value.leavesOf, Value.leaves]
    · simp [truthy]

/-- What is meant within a privilege is meant where it stands. -/
theorem entered_denotes {c : Course} {f : Nat → Meaning} {name context : Value}
    (inner : Denotes c { scope with privilege := some (name, context) } f) :
    Denotes ((Course.make [.enterPrivilege name context]).andThen (c.ending .leavePrivilege)) scope
      f := by
  constructor
  intro place m n covers completes
  obtain ⟨k, entered, ended⟩ := Course.completes_andThen.mp completes
  obtain rfl := Course.completes_make.mp entered
  obtain ⟨l, within, rfl⟩ := Course.completes_ending.mp ended
  have around : Scope.Covers { scope with privilege := some (name, context) } place
      (opened name context m.reader) := by
    refine ⟨fun other isOpen => ?_, covers.role, covers.rule, covers.bound⟩
    simp only [opened] at isOpen ⊢
    split at isOpen
    · cases isOpen
    · rw [Option.some.inj isOpen]
  have reached := inner.reaches place _ l around within
  refine ⟨⟨fun _ isOpen => ?_, reached.covers.role, reached.covers.rule, reached.covers.bound⟩,
    reached.tables, reached.serial⟩
  cases isOpen

theorem includeGivenCourse_denotes {name context : Value} (options : Table Value)
    (isOpen : scope.privilege = some (name, context)) :
    Denotes (includeGivenCourse options) scope fun serial =>
      Lexical.includes scope serial (((includedBy options).map Value.leavesOf).getD []) := by
  unfold includeGivenCourse
  cases includedBy options with
  | some names => exact includesCourse_denotes names
  | none => exact done.congr fun serial => by simp [Lexical.includes, isOpen, Meaning.nothing]

theorem blockCourse_denotes {body : Option Course} {f : Nat → Meaning} {name context : Value}
    (inner : Denotes (body.getD .done) { scope with privilege := some (name, context) } f)
    (options : Table Value) :
    Denotes (blockCourse name context options body) scope fun serial =>
      let before := { privileges := [name], next := serial : Meaning }.andThen (f serial)
      before.andThen (Lexical.includes { scope with privilege := some (name, context) } before.next
        (((includedBy options).map Value.leavesOf).getD [])) := by
  refine entered_denotes ?_
  refine ((register_denotes name).andThen
    (emit.andThen (inner.andThen (includeGivenCourse_denotes options rfl)))).congr fun serial => ?_
  simp [Meaning.andThen, Meaning.nothing]

/-- The option `includes` is the statement's own, or else that of the given options. -/
theorem get?_mergedOptions {options : List (Value × Value)} {named : List (String × Value)}
    (keyed : Statement.textKeyed? options = some named) (once : (named.map Prod.fst).Nodup)
    (entries : List (Value × Value)) :
    (mergedOptions ⟨entries⟩ (Statement.extraOptions named)).get? (.text "includes") =
      (Statement.option? "includes" options <|> Statement.option? "includes" entries) := by
  have distinct : (Table.mk (Statement.asEntries (Statement.extraOptions named))).Distinct :=
    Statement.asEntries_distinct (once.sublist (List.filter_sublist.map _))
  rw [← Statement.lookup_of_textKeyed? keyed, ← Given.lookup_filter
    (fun name => !Statement.privilegeSignature.parameters.contains name) (by decide)]
  exact (Table.get?_merge distinct _ _).trans (by rw [Statement.get?_asEntries]; rfl)

theorem courseIn_denotes {options : List (Value × Value)} {named : List (String × Value)}
    (keyed : Statement.textKeyed? options = some named) (once : (named.map Prod.fst).Nodup)
    {body : Option Course} {f : Nat → Meaning} {name context given : Value}
    (inner : Denotes (body.getD .done) { scope with privilege := some (name, context) } f)
    (here : Lexical.contextOf options = (context, Lexical.entriesOf given)) :
    Denotes (courseIn name context given (Statement.extraOptions named) body) scope fun serial =>
      let before := { privileges := [name], next := serial : Meaning }.andThen (f serial)
      before.andThen (Lexical.includes { scope with privilege := some (name, context) } before.next
        (Lexical.includedBy options)) := by
  have included : Lexical.includedBy options = ((includedBy (mergedOptions
      ⟨Lexical.entriesOf given⟩ (Statement.extraOptions named))).map Value.leavesOf).getD [] := by
    rw [leavesOf_includedBy, get?_mergedOptions keyed once, Lexical.includedBy, here]
  obtain ⟨fault, -, same⟩ | ⟨entries, found, same⟩ :=
    courseIn_cases name context given (Statement.extraOptions named)
  · rw [same]
    exact refuse
  · rw [same, included, ← optionEntries_eq_ok found]
    exact blockCourse_denotes inner _

/-- A privilege statement declares its name, what its body declares, and what its option includes,
in this order. -/
theorem course_denotes {options : List (Value × Value)} {named : List (String × Value)}
    (keyed : Statement.textKeyed? options = some named) (once : (named.map Prod.fst).Nodup)
    {body : Option Course} {meaning : Scope → Nat → Meaning} (name : Value)
    (inner : ∀ scope, BodyDenotes body scope (meaning scope)) :
    Denotes
      (course name (Statement.option "context" options) (Statement.option "options" options)
        (Statement.extraOptions named) body) scope fun serial =>
      Lexical.ofParts .privileges scope serial (.text "privilege") name options
        (meaning · serial) := by
  unfold course
  split
  · rename_i isMap
    have here : Lexical.contextOf options =
        (.null, Lexical.entriesOf (Statement.option "context" options)) := if_pos isMap
    refine (courseIn_denotes keyed once (inner _).getD here).congr fun serial => ?_
    simp only [Lexical.ofParts, here]
  · rename_i notMap
    have here : Lexical.contextOf options = (Statement.option "context" options,
        Lexical.entriesOf (Statement.option "options" options)) := if_neg notMap
    refine (courseIn_denotes keyed once (inner _).getD here).congr fun serial => ?_
    simp only [Lexical.ofParts, here]

end Privilege

namespace Role

open Denotes

variable {scope : Scope}

theorem titled_denotes (role text : Value) :
    Denotes (Course.keyed role (.title role text)) scope fun serial =>
      { titles := [(role, text)], next := serial } := by
  refine keyed (make (fun place serial t => ?_) (fun _ => rfl) fun _ => rfl)
  simp [Meaning.upon, Meaning.rulesUpon_of_none, Update.tables]

theorem described_denotes (role text : Value) :
    Denotes (Course.keyed role (.description role text)) scope fun serial =>
      { descriptions := [(role, text)], next := serial } := by
  refine keyed (make (fun place serial t => ?_) (fun _ => rfl) fun _ => rfl)
  simp [Meaning.upon, Meaning.rulesUpon_of_none, Update.tables]

theorem registerCourse_denotes (role title description : Value) :
    Denotes (registerCourse role title description) scope fun serial =>
      { roles := [role], titles := Lexical.textOf role title,
        descriptions := Lexical.textOf role description, next := serial } := by
  have registered : Denotes (.make [.role role]) scope fun serial =>
      { roles := [role], next := serial } := by
    refine make (fun place serial t => ?_) (fun _ => rfl) fun _ => rfl
    simp [Meaning.upon, Meaning.rulesUpon_of_none, Update.tables]
  have titled : Denotes (givenCourse title (Course.keyed role (.title role title))) scope
      fun serial => { titles := Lexical.textOf role title, next := serial } := by
    cases title with
    | null => exact done
    | _ => exact titled_denotes role _
  have described : Denotes (givenCourse description
      (Course.keyed role (.description role description))) scope
      fun serial => { descriptions := Lexical.textOf role description, next := serial } := by
    cases description with
    | null => exact done
    | _ => exact described_denotes role _
  refine (registered.andThen (titled.andThen described)).congr fun serial => ?_
  simp [Meaning.andThen]

theorem entered_denotes {c : Course} {f : Nat → Meaning} {role : Value}
    (inner : Denotes c { scope with role := some role } f) :
    Denotes ((Course.make [.enterRole role]).andThen (c.ending .leaveRole)) scope f := by
  constructor
  intro place m n covers completes
  obtain ⟨k, entered, ended⟩ := Course.completes_andThen.mp completes
  obtain rfl := Course.completes_make.mp entered
  obtain ⟨l, within, rfl⟩ := Course.completes_ending.mp ended
  have around : Scope.Covers { scope with role := some role } place (opened role m.reader) := by
    refine ⟨covers.privilege, fun other isOpen => ?_, covers.rule, covers.bound⟩
    simp only [opened] at isOpen ⊢
    split at isOpen
    · cases isOpen
    · rw [Option.some.inj isOpen]
  have reached := inner.reaches place _ l around within
  refine ⟨⟨reached.covers.privilege, fun _ isOpen => ?_, reached.covers.rule,
    reached.covers.bound⟩, reached.tables, reached.serial⟩
  cases isOpen

theorem course_denotes {options : List (Value × Value)} {body : Option Course}
    {meaning : Scope → Nat → Meaning} (role : Value)
    (inner : ∀ scope, BodyDenotes body scope (meaning scope)) :
    Denotes
      (course role (Statement.option "title" options) (Statement.option "description" options) body)
      scope fun serial =>
      Lexical.ofParts .authorization scope serial (.text "role") role options
        (meaning · serial) := by
  refine ((registerCourse_denotes role _ _).andThen
    (entered_denotes (emit.andThen (inner _).getD))).congr fun serial => ?_
  simp [Lexical.ofParts, Meaning.andThen, Meaning.nothing]

/-- What is said of the role around a statement. -/
theorem currentCourse_denotes {fault : ScopeFault} {next : Value → Course}
    {meaning : Value → Nat → Meaning} (each : ∀ role, Denotes (next role) scope (meaning role)) :
    Denotes (currentCourse fault next) scope fun serial =>
      Lexical.ofRole scope serial (meaning · serial) := by
  constructor
  intro place m n covers completes
  obtain ⟨role, isOpen, completes⟩ := completes_currentCourse completes
  rw [Lexical.ofRole, covers.role role isOpen]
  exact (each role).reaches place m n covers completes

theorem includesCourse_denotes (names : List Value) :
    Denotes (includesCourse names) scope fun serial =>
      Lexical.ofRole scope serial fun role =>
        { lower := [(role, Value.leavesOf names)], next := serial } := by
  refine currentCourse_denotes fun role =>
    keyed (make (fun place serial t => ?_) (fun _ => rfl) fun _ => rfl)
  simp [Meaning.upon, Meaning.rulesUpon_of_none, Update.tables]

end Role

namespace Grant

open Denotes

variable {scope : Scope}

theorem given_eq_listed (privileges : Value) : given privileges = Lexical.listed privileges := rfl

theorem modify_length {rules : List Rule} (rule : Rule) (f : Rule → Rule) :
    (rules ++ [rule]).modify rules.length f = rules ++ [f rule] :=
  List.modifyTailIdx_add _ 0 rules [rule]

/-- The rule of a grant takes up what its body adds to it. -/
theorem upon_rule {body : Meaning} {place : Option Nat} {role context privileges : Value}
    (t : Tables) :
    (Lexical.grant role context privileges body).upon place t =
      body.upon (some t.rules.length)
        { t with rules := t.rules ++ [⟨role, given privileges, context, []⟩] } := by
  have rules : (Lexical.grant role context privileges body).rulesUpon place t.rules =
      body.rulesUpon (some t.rules.length)
        (t.rules ++ [⟨role, given privileges, context, []⟩]) := by
    rw [Meaning.rulesUpon_of_none rfl rfl, Meaning.rulesUpon, modify_length]
    simp [Lexical.grant, Meaning.completed, given_eq_listed]
  simp only [Meaning.upon, rules]
  rfl

theorem ruleCourse_denotes {role context privileges : Value} {body : Option Course}
    {f : Nat → Meaning} (inner : BodyDenotes body scope f) :
    Denotes (ruleCourse ⟨role, given privileges, context, []⟩ body) scope fun serial =>
      Lexical.grant role context privileges (f serial) := by
  constructor
  intro place m n covers completes
  have within := completes_ruleCourse completes
  have appended : Scope.Covers scope (some m.reader.tables.rules.length)
      (opened m.reader.tables.rules.length
        ((Update.rule ⟨role, given privileges, context, []⟩).reader m.reader)) := by
    refine ⟨covers.privilege, covers.role, fun _ isOpen => isOpen, fun rule isPlace => ?_⟩
    cases isPlace
    simp [opened, Update.reader, Update.tables]
  cases inner with
  | none =>
    obtain rfl := Course.completes_done.mp within
    refine ⟨⟨covers.privilege, covers.role, covers.rule, fun rule isPlace => ?_⟩, ?_, rfl⟩
    · exact Nat.lt_of_lt_of_le (covers.bound rule isPlace)
        (by simp [Update.moment, Update.reader, Update.tables])
    · rw [upon_rule, Meaning.upon_nothing]
      rfl
  | some denotes =>
    obtain ⟨l, inside, rfl⟩ := completes_blockCourse within
    have reached := denotes.reaches _ _ l appended inside
    have tables : l.reader.tables =
        (Lexical.grant role context privileges (f m.serial)).upon place m.reader.tables := by
      rw [upon_rule]
      exact reached.tables
    have closed : ∀ rule, none = some rule → place = some rule := fun _ isOpen => by cases isOpen
    refine ⟨⟨reached.covers.privilege, reached.covers.role, closed, fun rule isPlace => ?_⟩, tables,
      reached.serial⟩
    show rule < l.reader.tables.rules.length
    rw [tables]
    exact Nat.lt_of_lt_of_le (covers.bound rule isPlace) (Meaning.length_rulesUpon _)

theorem course_denotes {options : List (Value × Value)} {body : Option Course}
    {meaning : Scope → Nat → Meaning} (context : Value)
    (inner : ∀ scope, BodyDenotes body scope (meaning scope)) :
    Denotes (course context (Statement.option "to" options) body) scope fun serial =>
      Lexical.ofParts .authorization scope serial (.text "has_permission_on") context options
        (meaning · serial) := by
  refine Role.currentCourse_denotes fun role => ?_
  split
  · exact refuse
  · exact ruleCourse_denotes (inner scope)

/-- Additions to the rule that is open are additions to the grant around a statement. -/
theorem denotes_ofRule {fault : ScopeFault} {next : Nat → Course} {f : Nat → Meaning}
    (reaches : ∀ place m n, scope.Covers (some place) m.reader → (next place).Completes m n →
      Reaches scope (some place) m (f m.serial) n) :
    Denotes (currentCourse fault next) scope f := by
  constructor
  intro place m n covers completes
  obtain ⟨rule, isOpen, completes⟩ := completes_currentCourse completes
  obtain rfl := covers.rule rule isOpen
  exact reaches rule m n covers completes

theorem addPrivilegesCourse_denotes (names : List Value) :
    Denotes (addPrivilegesCourse names) scope fun serial =>
      { granted := Value.leavesOf names, next := serial } := by
  refine denotes_ofRule fun place m n covers completes => ?_
  obtain rfl := Course.completes_make.mp completes
  have added : ({ granted := Value.leavesOf names, next := m.serial : Meaning }).completed =
      withPrivileges (Value.leavesOf names) := by
    funext rule
    simp [Meaning.completed, withPrivileges]
  refine ⟨⟨covers.privilege, covers.role, covers.rule, fun rule isPlace => ?_⟩, ?_, rfl⟩
  · simpa [Update.moment, Update.reader, Update.tables] using covers.bound rule isPlace
  · simp [Update.moment, Update.reader, Update.tables, Meaning.upon, Meaning.rulesUpon, added]

theorem entriesOf_joinConditions {argument : Value} {serial : Nat} {read : Conditions × Nat}
    (came : Conditions.read serial (joinConditions argument []) = .ok read) :
    read = ConditionTree.ofEntries serial (Lexical.entriesOf argument) := by
  unfold joinConditions at came
  unfold Lexical.entriesOf
  split at came
  · rename_i opened
    rw [opened]
    exact (Except.ok.inj came).symm
  · rename_i entries opened
    rw [opened]
    exact (Except.ok.inj came).symm
  · rename_i notMap
    unfold Conditions.read at came
    split at came
    · exact (notMap _ ‹_›).elim
    · cases came

theorem restrictCourse_denotes (argument : Value) :
    Denotes (restrictCourse argument []) scope fun serial => Lexical.condition serial argument := by
  refine denotes_ofRule fun place m n covers completes => ?_
  obtain ⟨result, moment⟩ := completes
  cases came : Conditions.read m.serial (joinConditions argument []) with
  | error fault =>
    simp only [conditionsCourse, came] at result
    cases result
  | ok read =>
    simp only [conditionsCourse, came] at moment
    subst moment
    have trees := entriesOf_joinConditions came
    have added : (Lexical.condition m.serial argument).completed = withConditions read.1 := by
      funext rule
      simp [Meaning.completed, withConditions, Lexical.condition, trees]
    refine ⟨⟨covers.privilege, covers.role, covers.rule, fun rule isPlace => ?_⟩, ?_, ?_⟩
    · simpa [Course.make, Update.moment, Update.reader, Update.tables] using
        covers.bound rule isPlace
    · simp only [Meaning.upon, Meaning.rulesUpon, added]
      simp [Course.make, Update.moment, Update.reader, Update.tables, Lexical.condition]
    · simp [Course.make, Update.moment, Lexical.condition, trees]

end Grant

end AccessPolicy
