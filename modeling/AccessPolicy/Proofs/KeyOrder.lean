import Mathlib.Data.List.Perm.Basic
import Mathlib.Logic.Relation
import AccessPolicy.Proofs.Demands
import AccessPolicy.Proofs.Refusal

/-! The order of options. In a statement only the keyword has its place; the options beside it may
stand in any order, in the statements of bodies as well, and a document comes to the same. -/

namespace AccessPolicy

namespace Statement

/-- A statement whose options stand in another order, or that has such a statement in its body. The
keyword stays first. -/
inductive Reordered : Value → Value → Prop
  | permuted {s t keyword argument : Value} {options others : List (Value × Value)}
    (before : partsOf? s = some (keyword, argument, options))
    (after : partsOf? t = some (keyword, argument, others)) (permuted : options.Perm others) :
    Reordered s t
  | within {s t keyword argument body other inner changed : Value}
    {front back : List (Value × Value)} {earlier later : List Value}
    (before : partsOf? s = some (keyword, argument, front ++ (.text "body", body) :: back))
    (after : partsOf? t = some (keyword, argument, front ++ (.text "body", other) :: back))
    (body : statementsOf? body = some (earlier ++ inner :: later))
    (other : statementsOf? other = some (earlier ++ changed :: later))
    (deeper : Reordered inner changed) : Reordered s t

end Statement

namespace Document

open Statement (statementsOf?)

inductive Reorders : Value → Value → Prop
  | mk {document other key statements changes statement changed : Value}
    {front back : List (Value × Value)} {earlier later : List Value}
    (before : blocksOf? document = some (front ++ (key, statements) :: back))
    (after : blocksOf? other = some (front ++ (key, changes) :: back))
    (block : statementsOf? statements = some (earlier ++ statement :: later))
    (otherBlock : statementsOf? changes = some (earlier ++ changed :: later))
    (reordered : Statement.Reordered statement changed) : Reorders document other

/-- Documents that differ in nothing but the order of options, in any of their statements. -/
def Reordered : Value → Value → Prop := Relation.ReflTransGen Reorders

end Document

namespace Course

/-- Courses that make the same updates and come to the same, but for faults of form. -/
structure Alike (c d : Course) : Prop where
  journal : ∀ m, (c m).journal = (d m).journal
  result : ∀ m, (c m).result = (d m).result ∨
    ∃ fault other, (c m).result = .error fault ∧ (d m).result = .error other ∧
      fault.makesIllegal ∧ other.makesIllegal

namespace Alike

variable {c d e f : Course}

theorem refl (c : Course) : Alike c c := ⟨fun _ => rfl, fun _ => .inl rfl⟩

theorem trans (first : Alike c d) (second : Alike d e) : Alike c e := by
  refine ⟨fun m => (first.journal m).trans (second.journal m), fun m => ?_⟩
  rcases first.result m with same | ⟨fault, other, failed, failed', illegal, illegal'⟩
  · rw [same]
    exact second.result m
  · rcases second.result m with same | ⟨_, third, _, failed'', -, illegal''⟩
    · exact .inr ⟨fault, other, failed, same ▸ failed', illegal, illegal'⟩
    · exact .inr ⟨fault, third, failed, failed'', illegal, illegal''⟩

theorem refuse {fault other : Fault} (illegal : fault.makesIllegal)
    (illegal' : other.makesIllegal) : Alike (refuse fault) (refuse other) :=
  ⟨fun _ => rfl, fun _ => .inr ⟨_, _, rfl, rfl, Flaw.form_tells illegal, Flaw.form_tells illegal'⟩⟩

theorem andThen (first : Alike c d) (second : Alike e f) : Alike (c.andThen e) (d.andThen f) := by
  constructor
  · intro m
    rcases first.result m with same | ⟨_, _, failed, failed', -, -⟩
    · simp only [Course.andThen, same, first.journal m]
      split
      · exact congrArg ((d m).journal ++ ·) (second.journal _)
      · rfl
    · simp only [Course.andThen, failed, failed', first.journal m]
  · intro m
    rcases first.result m with same | ⟨fault, other, failed, failed', illegal, illegal'⟩
    · simp only [Course.andThen, same, first.journal m]
      split
      · exact second.result _
      · exact .inl rfl
    · simp only [Course.andThen, failed, failed']
      exact .inr ⟨fault, other, rfl, rfl, illegal, illegal'⟩

theorem eq_of_result (alike : Alike c d) {m : Moment} (same : (c m).result = (d m).result) :
    c m = d m := calc
  c m = ⟨(c m).result, (c m).journal⟩ := rfl
  _ = ⟨(d m).result, (d m).journal⟩ := by rw [same, alike.journal m]

theorem ending (alike : Alike c d) (last : Update) : Alike (c.ending last) (d.ending last) :=
  ⟨fun m => congrArg (· ++ [last]) (alike.journal m), alike.result⟩

/-- Courses that are told from the moment. -/
theorem congr_at (alike : ∀ m, ∃ c' d', Alike c' d' ∧ c m = c' m ∧ d m = d' m) : Alike c d := by
  refine ⟨fun m => ?_, fun m => ?_⟩ <;> obtain ⟨c', d', alike, same, same'⟩ := alike m <;>
    rw [same, same']
  · exact alike.journal m
  · exact alike.result m

def Bodies : Option Course → Option Course → Prop := Option.Rel Alike

theorem Bodies.refl (body : Option Course) : Bodies body body := by
  cases body with
  | none => exact .none
  | some c => exact .some (.refl c)

theorem Bodies.getD {body other : Option Course} (alike : Bodies body other) :
    Alike (body.getD done) (other.getD done) := by
  cases alike with
  | none => exact .refl _
  | some alike => exact alike

end Alike

end Course

open Course

variable {body other : Option Course}

namespace Privilege

/-- Options are looked at by their keys. -/
theorem unknownOptions_isEmpty_congr {t u : Table Value} (same : ∀ key, t.get? key = u.get? key) :
    (unknownOptions t).isEmpty = (unknownOptions u).isEmpty := by
  have told (t : Table Value) : (unknownOptions t).isEmpty ↔
      ∀ key, (t.get? key).isSome → key.same (.text "includes") := by
    simp only [unknownOptions, List.isEmpty_iff, List.filter_eq_nil_iff, Bool.not_eq_true',
      Bool.not_eq_false]
    constructor
    · intro known key found
      obtain ⟨k, held, together⟩ := Value.within_iff.mp (Table.get?_isSome_iff.mp found)
      exact Value.same_trans together (known k held)
    · intro known k held
      exact known k (Table.get?_isSome_iff.mpr (Value.within_iff.mpr ⟨k, held, Value.same_refl k⟩))
  rw [Bool.eq_iff_iff, told, told]
  simp only [same]

theorem knownCourse_alike {t u : Table Value} (same : ∀ key, t.get? key = u.get? key)
    (bodies : Alike.Bodies body other) (name context : Value) :
    Alike (knownCourse name context t body) (knownCourse name context u other) := by
  have includes : includeGivenCourse t = includeGivenCourse u := by
    simp only [includeGivenCourse, includedBy, same]
  unfold knownCourse
  rw [unknownOptions_isEmpty_congr same]
  split
  · rw [blockCourse, blockCourse, includes]
    refine (Alike.refl _).andThen (Alike.ending ?_ _)
    exact (Alike.refl _).andThen ((Alike.refl _).andThen (bodies.getD.andThen (.refl _)))
  · exact .refuse rfl rfl

theorem course_alike {extra others : List (String × Value)}
    (same : ∀ options key, (mergedOptions options extra).get? key =
      (mergedOptions options others).get? key)
    (bodies : Alike.Bodies body other) (name context options : Value) :
    Alike (course name context options extra body) (course name context options others other) := by
  have each (context options : Value) :
      Alike (courseIn name context options extra body)
        (courseIn name context options others other) := by
    unfold courseIn
    split
    · exact .refl _
    · exact knownCourse_alike (same _) bodies ..
  unfold course
  split
  · exact each ..
  · exact each ..

end Privilege

namespace Role

theorem course_alike (bodies : Alike.Bodies body other) (role title description : Value) :
    Alike (course role title description body) (course role title description other) :=
  (Alike.refl _).andThen ((Alike.refl _).andThen (((Alike.refl _).andThen bodies.getD).ending _))

theorem currentCourse_alike (fault : ScopeFault) {next next' : Value → Course}
    (each : ∀ role, Alike (next role) (next' role)) :
    Alike (currentCourse fault next) (currentCourse fault next') := by
  refine .congr_at fun m => ?_
  unfold currentCourse
  cases m.reader.role with
  | none => exact ⟨_, _, .refl (refuse (.scope fault)), rfl, rfl⟩
  | some role => exact ⟨_, _, each role, rfl, rfl⟩

end Role

namespace Grant

theorem closing_alike {c d : Course} (alike : Alike c d) : Alike (closing c) (closing d) := by
  constructor
  · intro m
    rcases alike.result m with same | ⟨_, _, failed, failed', -, -⟩
    · simp only [closing, same, alike.journal m]
    · simp only [closing, failed, failed', alike.journal m]
  · intro m
    rcases alike.result m with same | ⟨fault, other, failed, failed', illegal, illegal'⟩
    · refine .inl ?_
      simp only [closing, same]
      split <;> rfl
    · simp only [closing, failed, failed']
      exact .inr ⟨fault, other, rfl, rfl, illegal, illegal'⟩

theorem course_alike (bodies : Alike.Bodies body other) (context privileges : Value) :
    Alike (course context privileges body) (course context privileges other) := by
  have none : body.isNone = other.isNone := by cases bodies <;> rfl
  have block (place : Nat) : Alike (blockCourse place body) (blockCourse place other) := by
    cases bodies with
    | none => exact .refl _
    | some alike =>
      simp only [blockCourse]
      exact (Alike.refl _).andThen (closing_alike alike)
  refine Role.currentCourse_alike _ fun role => ?_
  simp only [none]
  split
  · exact .refl _
  · exact .congr_at fun m =>
      ⟨_, _, (Alike.refl _).andThen ((Alike.refl _).andThen (block _)), rfl, rfl⟩

end Grant

namespace Statement

open Program (stepCourse)

variable {block : Block} {keyword argument : Value} {options others : List (Value × Value)}
  {named renamed : List (String × Value)}

theorem textKeyed?_perm (perm : options.Perm others) (keyed : textKeyed? options = some named) :
    ∃ renamed, textKeyed? others = some renamed ∧ named.Perm renamed := by
  obtain rfl := textKeyed?_eq_some.mp keyed
  have split : ∃ renamed, others = asEntries renamed ∧ renamed.Perm named := by
    have composed := List.eq_map_comp_perm fun o : String × Value => (Value.text o.1, o.2)
    exact (congrFun (congrFun composed others) named).mpr perm.symm
  obtain ⟨renamed, same, perm⟩ := split
  exact ⟨renamed, textKeyed?_eq_some.mpr same, perm.symm⟩

/-- Options by name that give an operation the same, but for its body. -/
structure Similar (block : Block) (named renamed : List (String × Value)) : Prop where
  names : (named.map Prod.fst).Perm (renamed.map Prod.fst)
  extra : (extraOptions named).Perm (extraOptions renamed)
  option : (named.map Prod.fst).Nodup → ∀ name, name ≠ "body" →
    option name (asEntries named) = option name (asEntries renamed)
  body : (named.map Prod.fst).Nodup →
    Alike.Bodies (optionBody block (asEntries named)) (optionBody block (asEntries renamed))

theorem similar_of_perm (block : Block) (perm : named.Perm renamed) :
    Similar block named renamed := by
  have found (once : (named.map Prod.fst).Nodup) (name : String) :
      option? name (asEntries named) = option? name (asEntries renamed) :=
    Table.get?_perm (perm.map _) (asEntries_distinct once) _
  refine ⟨perm.map _, perm.filter _, fun once name _ => ?_, fun once => ?_⟩
  · simp only [Statement.option, found once]
  · simp only [optionBody, found once]
    exact .refl _

theorem option?_append (name : String) (front : List (Value × Value)) (key value : Value)
    (back : List (Value × Value)) :
    option? name (front ++ (key, value) :: back) =
      (option? name front <|> if key.same (.text name) then some value else option? name back) := by
  rw [option?, Table.get?_append, Table.get?_cons]
  rfl

theorem similar_of_body {front back : List (String × Value)} {body other : Value}
    (alike : Alike (Program.course (program block body)) (Program.course (program block other))) :
    Similar block (front ++ ("body", body) :: back) (front ++ ("body", other) :: back) := by
  have entries (value : Value) : asEntries (front ++ ("body", value) :: back) =
      asEntries front ++ (.text "body", value) :: asEntries back := by
    simp only [asEntries, List.map_append, List.map_cons]
  refine ⟨?_, ?_, fun _ name other => ?_, fun _ => ?_⟩
  · simp only [List.map_append, List.map_cons]
    exact .refl _
  · simp only [extraOptions, List.filter_append]
    exact .refl _
  · have plain : ¬ (Value.text "body").same (.text name) := fun same =>
      other (Value.text.inj (Value.same_text_iff.mp same)).symm
    simp only [Statement.option, entries, option?_append, if_neg plain]
  · simp only [optionBody, entries, option?_append, if_pos (Value.same_refl _)]
    cases option? "body" (asEntries front) with
    | none => exact .some alike
    | some inner => exact .some (.refl _)

def Exchangeable (block : Block) (keyword argument : Value)
    (options others : List (Value × Value)) : Prop :=
  Alike (stepCourse (step block keyword argument (arguments block options)))
    (stepCourse (step block keyword argument (arguments block others)))

theorem exchangeable_of_refused {fault other : Fault}
    (refused : stepCourse (step block keyword argument (arguments block options)) = refuse fault)
    (refused' : stepCourse (step block keyword argument (arguments block others)) = refuse other)
    (illegal : fault.makesIllegal) (illegal' : other.makesIllegal) :
    Exchangeable block keyword argument options others := by
  rw [Exchangeable, refused, refused']
  exact .refuse illegal illegal'

/-- An option that is not named by text is refused by every statement. -/
theorem stepCourse_of_not_keyed (block : Block) (keyword argument : Value)
    (unkeyed : textKeyed? options = none) : ∃ fault : Fault, fault.makesIllegal ∧
      stepCourse (step block keyword argument (arguments block options)) = refuse fault := by
  cases known : keyword? block keyword with
  | none => exact ⟨_, rfl, stepCourse_unknown known ..⟩
  | some found =>
    obtain ⟨name, shape⟩ := found
    obtain ⟨rfl, shaped⟩ := keyword?_eq_some known
    by_cases opens : shape = .block
    · refine ⟨.usage .namesNotText, rfl, ?_⟩
      simp only [step, known, opens, namedOptions_arguments, unkeyed, Option.map_none, stepCourse]
    · have given : options ≠ [] := by
        rintro rfl
        cases unkeyed
      obtain ⟨fault, refused⟩ := step_unwanted shaped opens argument given
      exact ⟨_, rfl, by rw [refused, stepCourse]⟩

theorem exchangeable_of_not_keyed (unkeyed : textKeyed? options = none)
    (unkeyed' : textKeyed? others = none) (keyword argument : Value) :
    Exchangeable block keyword argument options others := by
  obtain ⟨_, illegal, refused⟩ := stepCourse_of_not_keyed block keyword argument unkeyed
  obtain ⟨_, illegal', refused'⟩ := stepCourse_of_not_keyed block keyword argument unkeyed'
  exact exchangeable_of_refused refused refused' illegal illegal'

section Similar

variable (similar : Similar block named renamed)

include similar

theorem Similar.bare : asEntries named = [] ↔ asEntries renamed = [] := by
  rw [← List.length_eq_zero_iff, ← List.length_eq_zero_iff, asEntries, asEntries, List.length_map,
    List.length_map]
  have lengths := similar.names.length_eq
  rw [List.length_map, List.length_map] at lengths
  rw [lengths]

variable {first name : String} {optional : List String} {room : Bool} {make : Arguments → Step}

/-- A block is opened with both or with neither. -/
theorem Similar.exchangeable_of_block
    (operation : block.operation? name = some (⟨[first], optional, false, room⟩, make))
    (shape : block.statements.lookup name = some .block)
    (opens : (Signature.mk [first] optional false room).Fits [first] [] (named.map Prod.fst) →
      (Signature.mk [first] optional false room).Fits [first] [] (renamed.map Prod.fst) →
      Exchangeable block (.text name) argument (asEntries named) (asEntries renamed)) :
    Exchangeable block (.text name) argument (asEntries named) (asEntries renamed) := by
  have refused {given : List (String × Value)}
      (unfit : ¬ (Signature.mk [first] optional false room).Fits [first] [] (given.map Prod.fst)) :
      ¬ Fits ⟨[first], optional, false, room⟩ first (asEntries given) := by
    rintro ⟨other, keyed, fits⟩
    cases (textKeyed?_eq_some.mpr rfl).symm.trans keyed
    exact unfit fits
  by_cases fits : (Signature.mk [first] optional false room).Fits [first] [] (named.map Prod.fst)
  · exact opens fits (fits.perm similar.names)
  · have unfit := mt (Signature.Fits.perm · similar.names.symm) fits
    obtain ⟨_, same⟩ := stepCourse_of_not_fits operation shape (refused fits) argument
    obtain ⟨_, same'⟩ := stepCourse_of_not_fits operation shape (refused unfit) argument
    exact exchangeable_of_refused same same' rfl rfl

theorem Similar.exchangeable_of_bare {shape : StatementShape}
    (known : block.statements.lookup name = some shape) (plain : shape ≠ .block) :
    Exchangeable block (.text name) argument (asEntries named) (asEntries renamed) := by
  by_cases bare : asEntries named = []
  · rw [bare, similar.bare.mp bare]
    exact .refl _
  · obtain ⟨_, refused⟩ := step_unwanted known plain argument bare
    obtain ⟨_, refused'⟩ := step_unwanted known plain argument (mt similar.bare.mpr bare)
    exact exchangeable_of_refused (by rw [refused, stepCourse]) (by rw [refused', stepCourse])
      rfl rfl

theorem Similar.get?_mergedOptions (once : (named.map Prod.fst).Nodup) (options : Table Value)
    (key : Value) : (Privilege.mergedOptions options (extraOptions named)).get? key =
      (Privilege.mergedOptions options (extraOptions renamed)).get? key := by
  have distinct : (Table.mk (asEntries (extraOptions named))).Distinct :=
    asEntries_distinct (once.sublist (List.filter_sublist.map _))
  have distinct' : (Table.mk (asEntries (extraOptions renamed))).Distinct :=
    asEntries_distinct ((similar.names.nodup_iff.mp once).sublist (List.filter_sublist.map _))
  have same : (Table.mk (asEntries (extraOptions named))).get? key =
      (Table.mk (asEntries (extraOptions renamed))).get? key :=
    Table.get?_perm (similar.extra.map _) distinct key
  show (options.merge ⟨asEntries (extraOptions named)⟩).get? key =
    (options.merge ⟨asEntries (extraOptions renamed)⟩).get? key
  rw [Table.get?_merge distinct, Table.get?_merge distinct', same]

theorem Similar.exchangeable (keyword argument : Value) :
    Exchangeable block keyword argument (asEntries named) (asEntries renamed) := by
  have keyed (given : List (String × Value)) : textKeyed? (asEntries given) = some given :=
    textKeyed?_eq_some.mpr rfl
  cases known : keyword? block keyword with
  | none =>
    have refused := stepCourse_unknown known argument
    exact exchangeable_of_refused (refused _) (refused _) rfl rfl
  | some found =>
    obtain ⟨name, shape⟩ := found
    obtain ⟨rfl, isKeyword⟩ := isKeyword_of_keyword? known
    cases isKeyword with
    | privilege =>
      refine similar.exchangeable_of_block rfl rfl fun fits fits' => ?_
      rw [Exchangeable, stepCourse_privilege (keyed _) fits, stepCourse_privilege (keyed _) fits',
        similar.option fits.once "context" (by decide),
        similar.option fits.once "options" (by decide)]
      exact Privilege.course_alike (similar.get?_mergedOptions fits.once)
        (similar.body fits.once) ..
    | role =>
      refine similar.exchangeable_of_block rfl rfl fun fits fits' => ?_
      rw [Exchangeable, stepCourse_role (keyed _) fits, stepCourse_role (keyed _) fits',
        similar.option fits.once "title" (by decide),
        similar.option fits.once "description" (by decide)]
      exact Role.course_alike (similar.body fits.once) ..
    | grant =>
      refine similar.exchangeable_of_block rfl rfl fun fits fits' => ?_
      rw [Exchangeable, stepCourse_grant (keyed _) fits, stepCourse_grant (keyed _) fits',
        similar.option fits.once "to" (by decide)]
      exact Grant.course_alike (similar.body fits.once) ..
    | includePrivileges | includeRoles | title | description | addPrivileges | restrict =>
      exact similar.exchangeable_of_bare rfl (by decide)

end Similar

/-- Options are exchanged for similar ones, or neither are named by text. -/
theorem exchangeable_of_keyed (similar : ∀ named, textKeyed? options = some named →
      ∃ renamed, textKeyed? others = some renamed ∧ Similar block named renamed)
    (back : (textKeyed? others).isSome → (textKeyed? options).isSome) (keyword argument : Value) :
    Exchangeable block keyword argument options others := by
  cases keyed : textKeyed? options with
  | none =>
    rw [keyed] at back
    exact exchangeable_of_not_keyed keyed
      (Option.not_isSome_iff_eq_none.mp fun found => by cases back found) keyword argument
  | some named =>
    obtain ⟨renamed, keyed', similar⟩ := similar named keyed
    rw [textKeyed?_eq_some.mp keyed, textKeyed?_eq_some.mp keyed']
    exact similar.exchangeable keyword argument

theorem textKeyed?_of_body {body : Value} {front back : List (Value × Value)}
    (keyed : textKeyed? (front ++ (.text "body", body) :: back) = some named) (other : Value) :
    ∃ before behind, named = before ++ ("body", body) :: behind ∧
      textKeyed? (front ++ (.text "body", other) :: back) =
        some (before ++ ("body", other) :: behind) := by
  have keyed' {before behind : List (String × Value)} (value : Value) :
      textKeyed? (asEntries before ++ (.text "body", value) :: asEntries behind) =
        some (before ++ ("body", value) :: behind) :=
    textKeyed?_eq_some.mpr (by simp only [asEntries, List.map_append, List.map_cons])
  obtain ⟨before, rest, -, rfl, same⟩ :=
    List.map_eq_append_iff.mp (textKeyed?_eq_some.mp keyed).symm
  obtain ⟨_, behind, -, -, rfl⟩ := List.map_eq_cons_iff.mp same
  exact ⟨before, behind, Option.some.inj (keyed.symm.trans (keyed' body)), keyed' other⟩

/-- Statements in a row, one of which is changed. -/
theorem alike_of_statement {body other inner changed : Value} {earlier later : List Value}
    (form : statementsOf? body = some (earlier ++ inner :: later))
    (form' : statementsOf? other = some (earlier ++ changed :: later))
    (alike : Alike (stepCourse (stepOf block inner)) (stepCourse (stepOf block changed))) :
    Alike (Program.course (program block body)) (Program.course (program block other)) := by
  rw [program_of_statements form, program_of_statements form', List.map_append, List.map_append,
    Program.course_append, Program.course_append, List.map_cons, List.map_cons, Program.course,
    Program.course]
  exact (Alike.refl _).andThen (alike.andThen (.refl _))

/-- A reordered statement does what it did, or is refused as it was. -/
theorem Reordered.alike {s t : Value} (reordered : Reordered s t) (block : Block) :
    Alike (stepCourse (stepOf block s)) (stepCourse (stepOf block t)) := by
  induction reordered with
  | permuted before after permuted =>
    rw [stepOf_of_parts before, stepOf_of_parts after]
    refine exchangeable_of_keyed (fun named keyed => ?_) (fun keyed => ?_) _ _
    · obtain ⟨renamed, keyed', perm⟩ := textKeyed?_perm permuted keyed
      exact ⟨renamed, keyed', similar_of_perm block perm⟩
    · obtain ⟨_, keyed⟩ := Option.isSome_iff_exists.mp keyed
      obtain ⟨_, keyed', -⟩ := textKeyed?_perm permuted.symm keyed
      exact Option.isSome_of_eq_some keyed'
  | within before after form form' _ ih =>
    rw [stepOf_of_parts before, stepOf_of_parts after]
    have deeper := alike_of_statement form form' ih
    refine exchangeable_of_keyed (fun named keyed => ?_) (fun keyed => ?_) _ _
    · obtain ⟨_, _, rfl, keyed'⟩ := textKeyed?_of_body keyed _
      exact ⟨_, keyed', similar_of_body deeper⟩
    · obtain ⟨_, keyed⟩ := Option.isSome_iff_exists.mp keyed
      obtain ⟨_, _, -, keyed'⟩ := textKeyed?_of_body keyed _
      exact Option.isSome_of_eq_some keyed'

end Statement

namespace Document

open Statement (statementsOf?)

theorem blockProgram_alike {key statements changes statement changed : Value}
    {earlier later : List Value}
    (form : statementsOf? statements = some (earlier ++ statement :: later))
    (form' : statementsOf? changes = some (earlier ++ changed :: later))
    (reordered : Statement.Reordered statement changed) :
    Alike (Program.course (blockProgram key statements))
      (Program.course (blockProgram key changes)) := by
  unfold blockProgram
  split
  · exact Statement.alike_of_statement form form' (reordered.alike _)
  · exact Statement.alike_of_statement form form' (reordered.alike _)
  · exact .refl _
  · exact .refl _

theorem Reorders.alike {document other : Value} (reorders : Reorders document other) :
    Alike (Program.course (program document)) (Program.course (program other)) := by
  obtain ⟨before, after, form, form', reordered⟩ := reorders
  rw [program_of_blocks before, program_of_blocks after, List.flatMap_append, List.flatMap_append,
    List.flatMap_cons, List.flatMap_cons, Program.course_append, Program.course_append,
    Program.course_append, Program.course_append]
  exact (Alike.refl _).andThen ((blockProgram_alike form form' reordered).andThen (.refl _))

theorem Reordered.alike {document other : Value} (reordered : Reordered document other) :
    Alike (Program.course (program document)) (Program.course (program other)) := by
  induction reordered with
  | refl => exact .refl _
  | tail _ last ih => exact ih.trans last.alike

theorem flatMap_alike {values changes : List Value}
    (reordered : List.Forall₂ Reordered values changes) :
    Alike (Program.course (values.flatMap program)) (Program.course (changes.flatMap program)) := by
  induction reordered with
  | nil => exact .refl _
  | cons first _ ih =>
    rw [List.flatMap_cons, List.flatMap_cons, Program.course_append, Program.course_append]
    exact first.alike.andThen ih

variable {documents others : Yaml.Documents}

theorem streamProgram_alike (reordered : List.Forall₂ Reordered documents.values others.values)
    (fault : documents.fault? = others.fault?) :
    Alike (Program.course (streamProgram documents)) (Program.course (streamProgram others)) := by
  rw [streamProgram, streamProgram, Program.course_append, Program.course_append, fault]
  exact (flatMap_alike reordered).andThen (.refl _)

/-- A source that a fault makes illegal is blamed for it, and the reader stays where the fault has
left it. -/
theorem recover_blameCourse {c : Course} {m : Moment} {fault : Fault} (label : Option String)
    (failed : (c m).result = .error fault) (illegal : fault.makesIllegal) :
    (c.recover (blameCourse label) m).result = .error (.illegal label fault) ∧
      m.after (c.recover (blameCourse label) m).journal = m.after (c m).journal := by
  let n := m.after (c m).journal
  have logged : (emit (.sourceIllegal label fault)).Completes n n :=
    completes_emit fun _ => obstacle?_sourceIllegal ..
  have blamed : n.after (blameCourse label fault n).journal = n := by
    simp only [blameCourse, if_pos illegal, andThen, logged.result, Moment.after_append,
      logged.moment]
    rfl
  constructor
  · simp only [recover, failed]
    exact blameCourse_of_makesIllegal label illegal n
  · simp only [recover, failed, Moment.after_append]
    exact blamed

theorem course_reordered (reordered : List.Forall₂ Reordered documents.values others.values)
    (fault : documents.fault? = others.fault?) (label : Option String) (m : Moment) :
    (course documents label m).result.mapError Fault.faultClass =
        (course others label m).result.mapError Fault.faultClass ∧
      m.after (course documents label m).journal = m.after (course others label m).journal := by
  have alike := streamProgram_alike reordered fault
  rcases alike.result m with same | ⟨fault, other, failed, failed', illegal, illegal'⟩
  · have run := alike.eq_of_result same
    have whole : course documents label m = course others label m := by
      simp only [course, streamCourse, andThen, recover, run]
    rw [whole]
    exact ⟨rfl, rfl⟩
  · obtain ⟨told, left⟩ := recover_blameCourse label failed illegal
    obtain ⟨told', left'⟩ := recover_blameCourse label failed' illegal'
    simp only [course, streamCourse, andThen, told, told']
    exact ⟨rfl, by rw [left, left', alike.journal]⟩

end Document

/-- Wherever a reader has come to, documents that differ in the order of options alone are read to
the same tables with the same blocks open, and are both taken or both refused for faults of one
class. -/
theorem readDocuments_reordered (documents others : Yaml.Documents)
    (reordered : List.Forall₂ Document.Reordered documents.values others.values)
    (fault : documents.fault? = others.fault?) (label : Option String) {s : Session}
    (intact : s.Intact) :
    let first := (Action.readDocuments documents label).run s
    let second := (Action.readDocuments others label).run s
    first.1.mapError Fault.faultClass = second.1.mapError Fault.faultClass ∧
      first.2.reader = second.2.reader ∧ first.2.serial = second.2.serial := by
  have ran := (Action.readDocuments_follows documents label).yields s intact
  have ran' := (Action.readDocuments_follows others label).yields s intact
  obtain ⟨told, left⟩ := Document.course_reordered reordered fault label s.moment
  have plain (result : Except Fault Unit) : (result.map fun _ => ()) = result := by
    cases result <;> rfl
  rw [← ran.result, ← ran'.result, plain, plain] at told
  rw [← ran.advance.moment, ← ran'.advance.moment] at left
  exact ⟨told, congrArg Moment.reader left, congrArg Moment.serial left⟩

def roleDocument (options : List (Value × Value)) : Value :=
  .map [(.text "authorization", .list [.map ((.text "role", .text "clerk") :: options)])]

def grantBody (options : List (Value × Value)) : Value × Value :=
  (.text "body", .list [.map ((.text "has_permission_on", .text "rooms") :: options)])

theorem roleDocument_reorders {options others : List (Value × Value)}
    (reordered : Statement.Reordered (.map ((.text "role", .text "clerk") :: options))
      (.map ((.text "role", .text "clerk") :: others))) :
    Document.Reorders (roleDocument options) (roleDocument others) := by
  have blocks (options : List (Value × Value)) : Document.blocksOf? (roleDocument options) =
      some ([] ++ (.text "authorization",
        .list [.map ((.text "role", .text "clerk") :: options)]) :: []) := rfl
  have single (s : Value) : Statement.statementsOf? (.list [s]) = some ([] ++ s :: []) := rfl
  exact .mk (blocks _) (blocks _) (single _) (single _) reordered

theorem roleDocument_permuted {options others : List (Value × Value)}
    (perm : options.Perm others) : Document.Reorders (roleDocument options) (roleDocument others) :=
  roleDocument_reorders (.permuted rfl rfl perm)

theorem roleDocument_deeper (front back : List (Value × Value))
    {options others : List (Value × Value)} (perm : options.Perm others) :
    Document.Reorders (roleDocument (front ++ grantBody options :: back))
      (roleDocument (front ++ grantBody others :: back)) := by
  have single (s : Value) : Statement.statementsOf? (.list [s]) = some ([] ++ s :: []) := rfl
  exact roleDocument_reorders (.within rfl rfl (single _) (single _) (.permuted rfl rfl perm))

/-- The body stands before, between or behind the other options, in the role and in the grant. One
option that is unknown is noticed wherever it stands. -/
theorem readDocuments_reordered_role :
    let title : Value × Value := (.text "title", .text "Clerk")
    let unknown : Value × Value := (.text "rank", .int 1)
    let given : Value × Value := (.text "to", .text "read")
    let body : Value × Value := (.text "body", .list [.map [(.text "to", .text "enter")]])
    let read (options : List (Value × Value)) :=
      (Action.readDocuments ⟨[roleDocument options], none, 0⟩ none).run (Session.keeping .memory)
    (read [grantBody [body, given], title]).1.isOk ∧
      (read [grantBody [body, given], title]).2.reader =
        (read [title, grantBody [given, body]]).2.reader ∧
      (read [unknown, grantBody [given], title]).1.mapError Fault.faultClass = .error .illegal ∧
      (read [title, grantBody [given], unknown]).1.mapError Fault.faultClass = .error .illegal ∧
      (read [unknown, grantBody [given], title]).2.reader =
        (read [title, grantBody [given], unknown]).2.reader := by
  intro title unknown given body read
  have intact : (Session.keeping .memory).Intact := (Session.reached_keeping _).intact
  have known : Document.Reordered (roleDocument [grantBody [body, given], title])
      (roleDocument [title, grantBody [given, body]]) :=
    .tail (.single (roleDocument_deeper [] [title] (.swap ..)))
      (roleDocument_permuted (.swap ..))
  have strange : Document.Reordered (roleDocument [unknown, grantBody [given], title])
      (roleDocument [title, grantBody [given], unknown]) :=
    .single (roleDocument_permuted (List.reverse_perm [title, grantBody [given], unknown]))
  have first := readDocuments_reordered ⟨[_], none, 0⟩ ⟨[_], none, 0⟩ (.cons known .nil) rfl none
    intact
  have second := readDocuments_reordered ⟨[_], none, 0⟩ ⟨[_], none, 0⟩ (.cons strange .nil) rfl none
    intact
  have refused : (read [unknown, grantBody [given], title]).1.mapError Fault.faultClass =
      .error .illegal := by
    with_unfolding_all rfl
  exact ⟨by decide +kernel, first.2.1, refused, second.1.symm.trans refused, second.2.1⟩

end AccessPolicy
