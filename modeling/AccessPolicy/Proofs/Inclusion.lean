import AccessPolicy.Proofs.Declaration
import AccessPolicy.Proofs.Lexical
import AccessPolicy.Proofs.Refusal
import AccessPolicy.Proofs.Widening

/-! What becomes of the names that a privilege includes by option. Options come by name, in a map
of options, or in a map in the place of the context; one of them is in effect, and all the names in
it are entered below the privilege, behind what its body has entered there. -/

namespace AccessPolicy

open Course

def Tables.edgesOf (t : Tables) (name : Value) : List PrivilegeEdge :=
  (t.privilegeHierarchy.get? name).getD []

theorem Update.edgesOf_prefix (u : Update) (t : Tables) (name : Value) :
    t.edgesOf name <+: (u.tables t).edgesOf name := by
  cases u with
  | edge key below =>
    by_cases same : key.same name
    · simp only [Update.tables, Tables.edgesOf, Table.get?_alter, same, if_true,
        Option.getD_some, Table.get?_congr same, List.prefix_append]
    · simp only [Update.tables, Tables.edgesOf, Table.get?_alter, same, if_false,
        Bool.false_eq_true, List.prefix_refl]
  | _ => exact List.prefix_refl _

/-- Edges are only ever appended. -/
theorem Journal.edgesOf_prefix (journal : Journal) (t : Tables) (name : Value) :
    t.edgesOf name <+: (journal.tables t).edgesOf name := by
  induction journal generalizing t with
  | nil => exact List.prefix_refl _
  | cons u rest ih => exact (u.edgesOf_prefix t name).trans (ih _)

namespace Privilege

variable {m n : Moment}

/-- All the names are registered, and entered below the privilege in order. -/
theorem completes_includeCourse {name context : Value} {names : List Value}
    (completes : (includeCourse name context names).Completes m n) :
    n.reader.tables.edgesOf name =
        m.reader.tables.edgesOf name ++ names.map (⟨·, context⟩) ∧
      ∀ lower ∈ names, lower.within n.reader.tables.privileges := by
  induction names generalizing m with
  | nil =>
    obtain rfl := completes_done.mp completes
    simp
  | cons lower rest ih =>
    obtain ⟨_, registered, entered⟩ := completes_andThen.mp completes
    obtain rfl := completes_make.mp registered
    obtain ⟨k, keyed, others⟩ := completes_andThen.mp entered
    obtain ⟨edges, known⟩ := ih others
    have here : k.reader.tables = (Update.edge name ⟨lower, context⟩).tables
        ((Update.privilege lower).tables m.reader.tables) := by
      unfold Course.keyed at keyed
      split at keyed
      · exact (not_completes_refuse keyed).elim
      · rw [completes_make.mp keyed]
        rfl
    have first : lower.within n.reader.tables.privileges := by
      rw [← others.moment, Moment.tables_after, here]
      exact Value.within_of_prefix (Journal.tables_grow ..).privileges
        (Value.within_register m.reader.tables.privileges lower)
    refine ⟨?_, List.forall_mem_cons.mpr ⟨first, known⟩⟩
    rw [edges, here]
    simp [Update.tables, Tables.edgesOf, Table.get?_alter, Value.same_refl]

structure Declaration where
  name : Value
  context : Value
  options : Value
  extra : List (String × Value)
  body : Option Program

/-- The privilege that is open when the body begins. -/
theorem opened_eq {name context other : Value}
    (isOpen : (begun name context m).reader.privilege = some other) : name = other := by
  simp only [begun, Moment.after_cons, Moment.after_nil, Update.moment, Update.reader, opened]
    at isOpen
  split at isOpen
  · cases isOpen
  · exact Option.some.inj isOpen

namespace Declaration

def ofArguments (given : Arguments) : Declaration :=
  ⟨given.value "privilege", given.value "context", given.value "options", given.otherValues,
    given.body .privileges⟩

/-- The context of the edges: a map in its place is none. -/
def scope (d : Declaration) : Value := if d.context.isMap then .null else d.context

/-- The entries of the options, for which a map in the place of the context stands. -/
def entries (d : Declaration) : List (Value × Value) :=
  Lexical.entriesOf (if d.context.isMap then d.context else d.options)

/-- What is to be included: what is given for it by name, or else among the options. -/
def included? (d : Declaration) : Option Value :=
  d.extra.lookup "includes" <|> Statement.option? "includes" d.entries

/-- All that is given to be included, in whatever way. -/
def offered (d : Declaration) : List Value :=
  (d.extra.lookup "includes").toList ++
    (Statement.option? "includes" (Lexical.entriesOf d.context)).toList ++
    (Statement.option? "includes" (Lexical.entriesOf d.options)).toList

def course (d : Declaration) : Course :=
  Privilege.course d.name d.context d.options d.extra (Program.bodyCourse d.body)

def merged (d : Declaration) : Table Value := mergedOptions ⟨d.entries⟩ d.extra

theorem get?_merged {d : Declaration} (once : (d.extra.map Prod.fst).Nodup) :
    d.merged.get? (.text "includes") = d.included? := by
  have distinct := Statement.asEntries_distinct once
  exact (Table.get?_merge distinct _ _).trans (by rw [Statement.get?_asEntries]; rfl)

/-- A declaration that is accepted has come to its block. -/
theorem completes_course {d : Declaration} (completes : d.course.Completes m n) :
    (blockCourse d.name d.scope d.merged (Program.bodyCourse d.body)).Completes m n := by
  have reached {context options : Value}
      (completes : (courseIn d.name context options d.extra
        (Program.bodyCourse d.body)).Completes m n) :
      (blockCourse d.name context (mergedOptions ⟨Lexical.entriesOf options⟩ d.extra)
        (Program.bodyCourse d.body)).Completes m n := by
    obtain ⟨fault, -, same⟩ | ⟨entries, read, same⟩ :=
      courseIn_cases d.name context options d.extra
    · rw [same] at completes
      exact (not_completes_refuse completes).elim
    · rw [same] at completes
      rw [← optionEntries_eq_ok read]
      exact completes
  unfold course Privilege.course at completes
  unfold scope merged entries
  split at completes <;> rename_i isMap
  · rw [if_pos isMap, if_pos isMap]
    exact reached completes
  · rw [if_neg isMap, if_neg isMap]
    exact reached completes

/-- What is included is entered below the privilege once its body is through. -/
theorem includes {d : Declaration} (once : (d.extra.map Prod.fst).Nodup)
    (traced : ∀ c ∈ Program.bodyCourse d.body, c.Traced Program.anyName)
    (completes : d.course.Completes m n) {given : Value} (asked : d.included? = some given)
    (counts : given.isTruthy) :
    ∃ k, ((Program.bodyCourse d.body).getD done).Completes (begun d.name d.scope m) k ∧
      n.reader.tables.edgesOf d.name = k.reader.tables.edgesOf d.name ++
        (Lexical.flattened given).map (⟨·, d.scope⟩) ∧
      ∀ lower ∈ Lexical.flattened given, lower.within n.reader.tables.privileges := by
  obtain ⟨-, last, block, rfl⟩ := completes_blockCourse.mp (completes_course completes)
  obtain ⟨k, body, included⟩ := completes_andThen.mp block
  have leaves := leavesOf_includedBy d.merged
  rw [get?_merged once, asked, Lexical.optionNames, if_pos counts] at leaves
  refine ⟨k, body, ?_⟩
  unfold includeGivenCourse at included
  cases gives : includedBy d.merged with
  | none =>
    rw [gives] at included leaves
    obtain rfl := completes_done.mp included
    rw [← show [] = _ from leaves]
    simp [Update.moment, Update.reader, Privilege.closed]
  | some names =>
    rw [gives] at included leaves
    obtain ⟨name, isOpen, entered⟩ := completes_includesCourse included
    -- The body has left open what was open, or nothing.
    obtain ⟨before, context⟩ := (body.narrower (of_getD .done traced)).privilege name isOpen
    obtain rfl : d.name = name := opened_eq before
    have each : (includeCourse d.name d.scope (Lexical.flattened given)).Completes k last := by
      rw [show Value.leavesOf names = _ from leaves, ← context] at entered
      exact entered
    have led := completes_includeCourse each
    exact led

end Declaration

end Privilege

namespace Given

variable {signature : Signature} {positional : List Argument} {named : List (String × Argument)}

/-- Arguments are bound where their names can be. -/
theorem bindNamed_of_bind {operation : String} {given : Arguments}
    (bound : bind operation signature positional named = .ok given) :
    bindNamed operation signature ⟨signature.parameters.zip positional,
      positional.drop signature.parameters.length, []⟩ named = .ok given := by
  cases came : bindNamed operation signature ⟨signature.parameters.zip positional,
      positional.drop signature.parameters.length, []⟩ named with
  | error fault =>
    simp only [bind, came, Bind.bind, Except.bind] at bound
    cases bound
  | ok start =>
    simp only [bind, came, Bind.bind, Except.bind] at bound
    split at bound
    · cases bound
    · split at bound
      · exact bound
      · cases bound

/-- No name stands twice among what is bound beside the parameters. -/
theorem once_of_bind {operation : String} {given : Arguments}
    (bound : bind operation signature positional named = .ok given) :
    (given.others.map Prod.fst).Nodup := by
  let start : Given Argument := ⟨signature.parameters.zip positional,
    positional.drop signature.parameters.length, []⟩
  have came : bindNamed operation signature start named = .ok given := bindNamed_of_bind bound
  by_cases fits : signature.Fits (start.bound.map Prod.fst) (start.others.map Prod.fst)
      (named.map Prod.fst)
  · rw [bindNamed_of_fits operation named start fits] at came
    rw [← Except.ok.inj came]
    exact fits.once.sublist (List.filter_sublist.map _)
  · obtain ⟨fault, failed⟩ := bindNamed_of_not_fits operation named start fits
    rw [failed] at came
    cases came

end Given

/-- The values by name are among the arguments by name. -/
theorem Arguments.otherValues_sublist (given : Arguments) :
    (given.otherValues.map Prod.fst).Sublist (given.others.map Prod.fst) := by
  obtain ⟨bound, more, others⟩ := given
  induction others with
  | nil => exact .slnil
  | cons other rest ih =>
    obtain ⟨name, argument⟩ := other
    cases argument with
    | value value => exact ih.cons_cons name
    | body steps => exact ih.cons name

namespace Step

def declaration? : Step → Option Privilege.Declaration
  | .privilege name context options extra body => some ⟨name, context, options, extra, body⟩
  | .overridable _ _ operation => operation.declaration?
  | _ => none

/-- A call of `privilege` with any arguments, or a statement that makes one. -/
inductive AsksForPrivilege : Step → Prop
  | call (positional : List Value) (named : List (String × Argument)) :
    AsksForPrivilege (Block.privileges.call "privilege" positional named)
  | statement {value argument : Value} {options : List (Value × Value)}
    (form : Statement.partsOf? value = some (.text "privilege", argument, options)) :
    AsksForPrivilege (Statement.stepOf .privileges value)

variable {step : Step} {d : Privilege.Declaration}

theorem course_of_declaration? :
    ∀ step : Step, step.declaration? = some d → Program.stepCourse step = d.course
  | .privilege .., made => by
    cases made
    rfl
  | .overridable _ _ operation, made => course_of_declaration? operation made

theorem body_isOperational {paths : Bool} :
    ∀ step : Step, step.declaration? = some d → step.isOperational paths →
      isOperationalProgram paths (d.body.getD [])
  | .privilege _ _ _ _ body, made, operational => by
    cases made
    cases body with
    | none => rfl
    | some steps => exact operational
  | .overridable _ _ operation, made, operational =>
    body_isOperational operation made operational

/-- The arguments of a call that is carried out have been bound. -/
theorem declares_of_call {u t : Session} (intact : u.Intact) {positional : List Value}
    {named : List (String × Argument)}
    (ran : (Program.runStep (Block.privileges.call "privilege" positional named)).run u =
      (.ok (), t)) :
    ∃ d, (Block.privileges.call "privilege" positional named).declaration? = some d ∧
      (d.extra.map Prod.fst).Nodup := by
  cases bound : Given.bind (Block.privileges.operationName "privilege")
      ⟨["privilege"], ["context", "options", "body"], false, true⟩ (positional.map .value)
      named with
  | ok given =>
    refine ⟨.ofArguments given, ?_, (Given.once_of_bind bound).sublist
      (Arguments.otherValues_sublist given)⟩
    simp only [Block.call, Block.operation?, bound, declaration?]
    rfl
  | error fault =>
    simp only [Block.call, Block.operation?, bound, Program.runStep, Action.run_bind,
      Action.run_get, intact.change?, Action.run_refuse] at ran
    cases ran

theorem AsksForPrivilege.declares {u t : Session} (intact : u.Intact) (asks : step.AsksForPrivilege)
    (ran : (Program.runStep step).run u = (.ok (), t)) :
    ∃ d, step.declaration? = some d ∧ (d.extra.map Prod.fst).Nodup := by
  cases asks with
  | call positional named => exact declares_of_call intact ran
  | @statement value argument options form =>
    have shape : Statement.keyword? .privileges (.text "privilege") =
        some ("privilege", .block) := rfl
    simp only [Statement.stepOf_of_parts form, Statement.step, shape] at ran ⊢
    cases named : Statement.namedOptions (Statement.arguments .privileges options) with
    | none =>
      simp only [named, Program.runStep, Action.run_refuse] at ran
      cases ran
    | some named' =>
      simp only [named] at ran ⊢
      exact declares_of_call intact ran

end Step

def Session.within (u : Session) (d : Privilege.Declaration) : Session :=
  { u with reader := (Privilege.begun d.name d.scope u.moment).reader }

/-- Wherever a session has come to, a call of `privilege` that returns has registered all the names
that it is given to include, whatever their depth, and has entered them below the privilege, behind
what the body has entered there. What counts is what is given by name, or else what stands in the
options, or in a map in the place of the context. -/
theorem privilege_includes {u t : Session} (reached : u.Reached) {step : Step} {paths : Bool}
    (asks : step.AsksForPrivilege) (operational : step.isOperational paths)
    (ran : (Program.runStep step).run u = (.ok (), t)) :
    ∃ d, step.declaration? = some d ∧ ∀ given, d.included? = some given → given.isTruthy →
      (∀ lower ∈ Lexical.flattened given, lower.within t.reader.tables.privileges) ∧
      ∃ k, (Program.run (d.body.getD [])).run (u.within d) = (.ok (), k) ∧
        u.reader.tables.edgesOf d.name <+: k.reader.tables.edgesOf d.name ∧
        t.reader.tables.edgesOf d.name = k.reader.tables.edgesOf d.name ++
          (Lexical.flattened given).map (⟨·, d.scope⟩) := by
  have intact := reached.intact
  obtain ⟨d, made, once⟩ := asks.declares intact ran
  refine ⟨d, made, fun given asked counts => ?_⟩
  have completes := (Program.runStep_follows step operational).completes intact ran
  rw [Step.course_of_declaration? step made] at completes
  have traced : ∀ c ∈ Program.bodyCourse d.body, c.Traced Program.anyName := by
    intro c given
    cases body : d.body with
    | none => rw [body] at given; cases given
    | some steps =>
      rw [body] at given
      cases given
      exact Program.course_traced steps
  obtain ⟨m, body, edges, known⟩ := d.includes once traced completes asked counts
  have same : (Program.bodyCourse d.body).getD done = Program.course (d.body.getD []) := by
    cases d.body <;> rfl
  rw [same] at body
  have inner : Step.isOperationalProgram paths (d.body.getD []) :=
    Step.body_isOperational step made operational
  have opened : (u.within d).Intact := ⟨intact.changes, intact.stray⟩
  obtain ⟨k, ran', moment⟩ := (Program.run_follows _ inner).run_of_completes opened body
  have after : k.reader.tables = m.reader.tables := congrArg (·.reader.tables) moment
  refine ⟨known, k, ran', ?_, ?_⟩
  · rw [after, ← body.moment, Moment.tables_after]
    exact Journal.edgesOf_prefix _ (u.within d).reader.tables d.name
  · rw [after]
    exact edges

/-- Names in nested lists, one of which counts for false, follow those of the body. -/
theorem privilege_includes_nested :
    let call := Block.privileges.call "privilege" [.text "manage", .text "offices"]
      [("options", .value (.map [(.text "includes", .text "write")])),
        ("includes", .value (.list [.text "read", .list [.bool false]])),
        ("body", .body [.includePrivileges [.text "open"]])]
    ∃ t k : Session, (Program.runStep call).run {} = (.ok (), t) ∧
      (k.reader.tables.edgesOf (.text "manage")).length = 1 ∧
      (Value.bool false).within t.reader.tables.privileges ∧
      t.reader.tables.edgesOf (.text "manage") = k.reader.tables.edgesOf (.text "manage") ++
        [⟨.text "read", .text "offices"⟩, ⟨.bool false, .text "offices"⟩] := by
  intro call
  have ran := Action.run_eq_of_isOk
    (show ((Program.runStep call).run {}).1.isOk by decide +kernel)
  have operational : Step.isOperational false call := rfl
  obtain ⟨d, made, all⟩ :=
    privilege_includes Session.reached_default (.call ..) operational ran
  obtain rfl : ⟨.text "manage", .text "offices", .map [(.text "includes", .text "write")],
    [("includes", .list [.text "read", .list [.bool false]])],
    some [.includePrivileges [.text "open"]]⟩ = d := Option.some.inj made
  obtain ⟨known, k, body, -, edges⟩ := all (.list [.text "read", .list [.bool false]]) rfl rfl
  have leaf : Value.bool false ∈ Lexical.flattened (.list [.text "read", .list [.bool false]]) := by
    simp [Lexical.flattened, Value.leaves, Value.leavesOf]
  refine ⟨_, k, ran, ?_, known _ leaf, edges⟩
  obtain rfl : _ = k := congrArg Prod.snd body
  decide +kernel

/-- The call returns, and a name that it is given to include has not been registered. -/
def Step.PassesOver (call : Step) (name : Value) : Prop :=
  ∃ d t, call.declaration? = some d ∧ (Program.runStep call).run {} = (.ok (), t) ∧
    (∃ given ∈ d.offered, name ∈ Lexical.flattened given) ∧
    ¬ name.within t.reader.tables.privileges

theorem Step.passesOver_of_isOk {call : Step} {d : Privilege.Declaration} {given name : Value}
    (made : call.declaration? = some d) (returns : ((Program.runStep call).run {}).1.isOk)
    (offered : given ∈ d.offered) (leaf : name ∈ Lexical.flattened given)
    (absent : ¬ name.within ((Program.runStep call).run {}).2.reader.tables.privileges) :
    call.PassesOver name :=
  ⟨d, _, made, Action.run_eq_of_isOk returns, ⟨given, offered, leaf⟩, absent⟩

/-- Names among the options are passed over for those that are given by name, or in the place of the
context; and a single name that counts for false is passed over for itself. -/
theorem privilege_passes_over :
    let writing : Value := .map [(.text "includes", .text "write")]
    let reading : Value := .map [(.text "includes", .text "read")]
    (Block.privileges.call "privilege" [.text "manage"]
      [("options", .value writing), ("includes", .value (.text "read"))]).PassesOver
        (.text "write") ∧
    (Block.privileges.call "privilege" [.text "manage", reading, writing] []).PassesOver
        (.text "write") ∧
    (Block.privileges.call "privilege" [.text "manage"]
      [("includes", .value (.bool false))]).PassesOver (.bool false) := by
  intro writing reading
  have write : Value.text "write" ∈ Lexical.flattened (.text "write") := List.mem_singleton_self _
  have no : Value.bool false ∈ Lexical.flattened (.bool false) := List.mem_singleton_self _
  have options : Value.text "write" ∈ Privilege.Declaration.offered
      ⟨.text "manage", .null, writing, [("includes", .text "read")], none⟩ := by
    simp [Privilege.Declaration.offered, Lexical.entriesOf, Value.opened, Statement.option?,
      Table.get?_cons, Value.same_text_iff, writing]
  have behind : Value.text "write" ∈ Privilege.Declaration.offered
      ⟨.text "manage", reading, writing, [], none⟩ := by
    simp [Privilege.Declaration.offered, Lexical.entriesOf, Value.opened, Statement.option?,
      Table.get?_cons, Value.same_text_iff, writing]
  have byName : Value.bool false ∈ Privilege.Declaration.offered
      ⟨.text "manage", .null, .null, [("includes", .bool false)], none⟩ := by
    simp [Privilege.Declaration.offered]
  exact ⟨Step.passesOver_of_isOk rfl (by decide +kernel) options write (by decide +kernel),
    Step.passesOver_of_isOk rfl (by decide +kernel) behind write (by decide +kernel),
    Step.passesOver_of_isOk rfl (by decide +kernel) byName no (by decide +kernel)⟩

end AccessPolicy
