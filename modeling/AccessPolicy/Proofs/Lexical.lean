import AccessPolicy.Proofs.Denotation

/-! A policy that is accepted means what lexical scoping says: what statements and documents denote
is read off their text. -/

namespace AccessPolicy

namespace Lexical

open Statement Program

theorem ofOptions_eq (block : Block) (scope : Scope) (serial : Nat)
    (options : List (Value × Value)) :
    ofOptions block scope serial options = match option? "body" options with
      | some body => ofBody block scope serial body
      | none => .nothing serial := by
  induction options with
  | nil => rfl
  | cons option rest ih =>
    obtain ⟨key, value⟩ := option
    rw [ofOptions, ih, option?, option?, Table.get?_cons]
    split <;> rfl

theorem ofBody_of_statements {value : Value} {statements : List Value}
    (form : statementsOf? value = some statements) (block : Block) (scope : Scope) (serial : Nat) :
    ofBody block scope serial value = ofStatements block scope serial statements := by
  unfold statementsOf? at form
  split at form <;> cases form <;> rw [ofBody]
  · rw [ofStatements]
  all_goals simp

theorem ofStatement_of_parts {value keyword argument : Value} {options : List (Value × Value)}
    (form : partsOf? value = some (keyword, argument, options)) (block : Block) (scope : Scope)
    (serial : Nat) :
    ofStatement block scope serial value =
      ofParts block scope serial keyword argument options fun inner =>
        ofOptions block inner serial options := by
  unfold partsOf? at form
  split at form <;> cases form <;> rw [ofStatement]

theorem leavesOf_names {argument : Value} (proper : (names argument).all isName) :
    Value.leavesOf (names argument) = flattened argument := by
  cases argument with
  | cyclic serial value => cases value <;> simp_all [names, isName, flattened]
  | _ => simp [names, flattened, Value.leavesOf, Value.leaves]

variable {block : Block} {scope : Scope} {options : List (Value × Value)}

theorem optionBody_denotes
    (bodies : ∀ o ∈ options, ∀ scope, Denotes (course (program block o.2)) scope
      fun serial => ofBody block scope serial o.2) (scope : Scope) :
    BodyDenotes (optionBody block options) scope
      fun serial => ofOptions block scope serial options := by
  simp only [ofOptions_eq, optionBody]
  cases found : option? "body" options with
  | none => exact .none
  | some body =>
    obtain ⟨option, held, rfl⟩ := mem_of_option? found
    exact .some (bodies option held scope)

theorem step_denotes (keyword argument : Value)
    (bodies : ∀ o ∈ options, ∀ scope, Denotes (course (program block o.2)) scope
      fun serial => ofBody block scope serial o.2) :
    Denotes (stepCourse (step block keyword argument (arguments block options))) scope
      fun serial => ofParts block scope serial keyword argument options fun inner =>
        ofOptions block inner serial options := by
  have inner := optionBody_denotes bodies
  have makes := stepCourse_makes block keyword argument options
  generalize stepCourse (step block keyword argument (arguments block options)) = made at makes ⊢
  cases makes with
  | refused => exact .refuse
  | privilege keyed once => exact Privilege.course_denotes keyed once argument inner
  | includePrivileges proper =>
    refine (Privilege.includesCourse_denotes _).congr fun serial => ?_
    rw [leavesOf_names proper]
    rfl
  | role => exact Role.course_denotes argument inner
  | includeRoles proper =>
    refine (Role.includesCourse_denotes _).congr fun serial => ?_
    rw [leavesOf_names proper]
    rfl
  | title => exact Role.currentCourse_denotes fun role => Role.titled_denotes role argument
  | description => exact Role.currentCourse_denotes fun role => Role.described_denotes role argument
  | grant => exact Grant.course_denotes argument inner
  | addPrivileges proper =>
    refine (Grant.addPrivilegesCourse_denotes _).congr fun serial => ?_
    rw [leavesOf_names proper]
    rfl
  | restrict => exact Grant.restrictCourse_denotes argument

theorem steps_denotes {statements : List Value}
    (each : ∀ s ∈ statements, ∀ scope, Denotes (stepCourse (stepOf block s)) scope
      fun serial => ofStatement block scope serial s) :
    Denotes (course (statements.map (stepOf block))) scope
      fun serial => ofStatements block scope serial statements := by
  induction statements with
  | nil => exact .done
  | cons s rest ih =>
    exact (each s (by simp) scope).andThen (ih fun s held => each s (by simp [held]))

/-- The statements of a body denote what they mean where they stand. -/
theorem program_denotes (value : Value) (scope : Scope) :
    Denotes (course (program block value)) scope
      fun serial => ofBody block scope serial value := by
  refine (nesting_induction
    (fun value => ∀ scope, Denotes (course (program block value)) scope
      fun serial => ofBody block scope serial value)
    (fun value => ∀ scope, Denotes (stepCourse (stepOf block value)) scope
      fun serial => ofStatement block scope serial value)
    (fun value statements form ih scope => ?_) (fun value form scope => ?_)
    (fun value keyword argument options form ih scope => ?_) (fun value form scope => ?_)).1
    value scope
  · rw [program_of_statements form]
    exact (steps_denotes ih).congr fun serial => (ofBody_of_statements form ..).symm
  · rw [program_of_none form]
    exact ⟨fun _ _ _ _ completes => absurd completes.result nofun⟩
  · rw [stepOf_of_parts form]
    exact (step_denotes keyword argument ih).congr fun serial =>
      (ofStatement_of_parts form ..).symm
  · rw [stepOf_of_none form]
    exact .refuse

theorem blockProgram_denotes (name statements : Value) :
    Denotes (course (Document.blockProgram name statements)) {}
      fun serial => ofBlock serial name statements := by
  unfold Document.blockProgram
  split
  · exact program_denotes statements {}
  · exact program_denotes statements {}
  · exact .done
  · exact ⟨fun _ _ _ _ completes => absurd completes.result nofun⟩

theorem blocks_denotes (blocks : List (Value × Value)) :
    Denotes (course (blocks.flatMap fun b => Document.blockProgram b.1 b.2)) {}
      fun serial => ofBlocks serial blocks := by
  induction blocks with
  | nil => exact .done
  | cons block rest ih =>
    rw [List.flatMap_cons, course_append]
    exact (blockProgram_denotes block.1 block.2).andThen ih

theorem document_denotes (document : Value) :
    Denotes (course (Document.program document)) {}
      fun serial => ofBlocks serial (entriesOf document) := by
  cases form : Document.blocksOf? document with
  | none =>
    rw [Document.program_of_none form]
    exact ⟨fun _ _ _ _ completes => absurd completes.result nofun⟩
  | some blocks =>
    have same : entriesOf document = blocks := by
      unfold Document.blocksOf? at form
      split at form <;> cases form <;> rfl
    rw [Document.program_of_blocks form, same]
    exact blocks_denotes blocks

theorem values_denote (values : List Value) :
    Denotes (course (values.flatMap Document.program)) {} (ofDocuments · values) := by
  induction values with
  | nil => exact .done
  | cons document rest ih =>
    rw [List.flatMap_cons, course_append]
    exact (document_denotes document).andThen ih

/-- A stream of documents denotes what it means with nothing around it. -/
theorem documents_denote (documents : Yaml.Documents) (label : Option String) :
    Denotes (Document.course documents label) {} (ofDocuments · documents.values) :=
  ⟨fun place m n covers completes => (values_denote documents.values).reaches place m n covers
    (Document.completes_course.mp completes).2⟩

end Lexical

/-- Nothing stands around what nothing has been read of. -/
theorem Session.Fresh.covers {s : Session} (fresh : s.Fresh) :
    Scope.Covers {} none s.moment.reader := by
  rw [Session.moment, fresh.reader]
  constructor <;> intro _ isOpen <;> cases isOpen

/-- A run without a fault is a completed course. -/
theorem Action.Follows.completes {a : Action Unit} {c : Course} (follows : a.Follows c)
    {s t : Session} (intact : s.Intact) (ran : a.run s = (.ok (), t)) :
    c.Completes s.moment t.moment := by
  obtain ⟨result, advance⟩ := follows.yields s intact
  rw [ran] at result advance
  exact ⟨result.symm, advance.moment.symm⟩

/-- A completed course is a run without a fault. -/
theorem Action.Follows.run_of_completes {a : Action Unit} {c : Course} (follows : a.Follows c)
    {s : Session} (intact : s.Intact) {n : Moment} (completes : c.Completes s.moment n) :
    ∃ t, a.run s = (.ok (), t) ∧ t.moment = n := by
  obtain ⟨result, advance⟩ := follows.yields s intact
  refine ⟨(a.run s).2, ?_, advance.moment.trans completes.moment⟩
  rw [completes.result] at result
  cases ran : (a.run s).1 with
  | error fault => rw [ran] at result; cases result
  | ok _ => exact Prod.ext ran rfl

/-- The tables of a stream of documents that is accepted are those that its text declares by
lexical scoping. -/
theorem readDocuments_lexical (documents : Yaml.Documents) (label : Option String) {s t : Session}
    (fresh : s.Fresh) (accepted : (Action.readDocuments documents label).run s = (.ok (), t)) :
    t.reader.tables = (Lexical.ofDocuments s.serial documents.values).tables := by
  have completes := (Action.readDocuments_follows documents label).completes fresh.intact accepted
  have reached := (Lexical.documents_denote documents label).reaches none _ _ fresh.covers completes
  rw [Meaning.tables_eq_upon]
  refine reached.tables.trans ?_
  rw [Session.moment, fresh.reader]

def nestedPolicy : Yaml.Documents where
  values := [.map [
    (.text "privileges", .list [
      .map [(.text "privilege", .text "manage"), (.text "context", .text "staff"),
        (.text "body", .list [
          .map [(.text "includes", .list [.text "read", .text "list"])],
          .map [(.text "privilege", .text "read"), (.text "includes", .text "list")]])]]),
    (.text "authorization", .list [
      .map [(.text "role", .text "admin"), (.text "title", .text "Administrator"),
        (.text "body", .list [
          .map [(.text "has_permission_on", .text "staff"), (.text "to", .text "manage"),
            (.text "body", .list [
              .map [(.text "if_attribute", .map [(.text "branch", .int 1)])],
              .map [(.text "role", .text "user"),
                (.text "body", .list [.map [(.text "includes", .text "guest")]])],
              .map [(.text "to", .text "read")]])]])]])]]
  fault? := none
  serial := 0

theorem readDocuments_lexical_nested :
    ∃ t : Session, (Action.readDocuments nestedPolicy none).run {} = (.ok (), t) ∧
      t.reader.tables = (Lexical.ofDocuments 0 nestedPolicy.values).tables ∧
      (Lexical.ofDocuments 0 nestedPolicy.values).tables.rules.length = 1 := by
  have accepted := Action.run_eq_of_isOk
    (show ((Action.readDocuments nestedPolicy none).run {}).1.isOk by decide +kernel)
  have means := readDocuments_lexical nestedPolicy none Session.fresh_default accepted
  exact ⟨_, accepted, means, by decide +kernel⟩

end AccessPolicy
