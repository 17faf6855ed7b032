import AccessPolicy.Proofs.Act
import AccessPolicy.Proofs.Lexical
import AccessPolicy.Proofs.Naming

/-! Names that nothing checks. A statement of names refuses null, lists and maps; the arguments and
options of blocks are taken for names whatever they are, and so is what stands in a tuple. A policy
that is accepted has no other names than simple ones and those. -/

namespace AccessPolicy

def Value.isSimple : Value → Bool
  | .null | .list _ | .tuple _ | .map _ | .cyclic .. => false
  | _ => true

namespace Lexical

open Statement

/-- What stands in tuples among names. -/
def inTuples (names : List Value) : List Value :=
  names.flatMap fun name =>
    match name with
    | .tuple items => Value.leavesOf items
    | _ => []

/-- The unchecked names of a statement, but for those in its body. -/
def uncheckedOfParts (block : Block) (keyword argument : Value) (options : List (Value × Value)) :
    List Value :=
  match block, keyword with
  | .privileges, .text "privilege" => argument :: includedBy options
  | .authorization, .text "role" => [argument]
  | .authorization, .text "has_permission_on" => listed (option "to" options)
  | _, .text "includes" | .authorization, .text "to" => inTuples (names argument)
  | _, _ => []

mutual

def uncheckedInBody (block : Block) : Value → List Value
  | .list statements | .cyclic _ (.list statements) => uncheckedInStatements block statements
  | _ => []

def uncheckedInStatements (block : Block) : List Value → List Value
  | [] => []
  | statement :: rest => uncheckedInStatement block statement ++ uncheckedInStatements block rest

def uncheckedInStatement (block : Block) : Value → List Value
  | .map ((keyword, argument) :: options)
  | .cyclic _ (.map ((keyword, argument) :: options)) =>
    uncheckedOfParts block keyword argument options ++ uncheckedInOptions block options
  | _ => []

def uncheckedInOptions (block : Block) : List (Value × Value) → List Value
  | [] => []
  | (key, value) :: rest =>
    if key.same (.text "body") then uncheckedInBody block value else uncheckedInOptions block rest

end

def uncheckedInBlock (name statements : Value) : List Value :=
  match name with
  | .text "privileges" => uncheckedInBody .privileges statements
  | .text "authorization" => uncheckedInBody .authorization statements
  | _ => []

def unchecked (documents : List Value) : List Value :=
  documents.flatMap fun document =>
    (entriesOf document).flatMap fun block => uncheckedInBlock block.1 block.2

theorem uncheckedInStatements_eq (block : Block) (statements : List Value) :
    uncheckedInStatements block statements = statements.flatMap (uncheckedInStatement block) := by
  induction statements with
  | nil => rfl
  | cons statement rest ih => rw [uncheckedInStatements, ih, List.flatMap_cons]

theorem uncheckedInBody_of_statements {value : Value} {statements : List Value}
    (form : statementsOf? value = some statements) (block : Block) :
    uncheckedInBody block value = statements.flatMap (uncheckedInStatement block) := by
  unfold statementsOf? at form
  split at form <;> cases form
  · rw [uncheckedInBody] <;> simp
  · rw [uncheckedInBody, uncheckedInStatements_eq]
  · rw [uncheckedInBody, uncheckedInStatements_eq]

theorem uncheckedInStatement_of_parts {value keyword argument : Value}
    {options : List (Value × Value)} (form : partsOf? value = some (keyword, argument, options))
    (block : Block) :
    uncheckedInStatement block value =
      uncheckedOfParts block keyword argument options ++ uncheckedInOptions block options := by
  unfold partsOf? at form
  split at form <;> cases form <;> rw [uncheckedInStatement]

theorem uncheckedInOptions_of_body {options : List (Value × Value)} {body : Value}
    (found : option? "body" options = some body) (block : Block) :
    uncheckedInOptions block options = uncheckedInBody block body := by
  induction options with
  | nil => cases found
  | cons o rest ih =>
    obtain ⟨key, value⟩ := o
    rw [option?, Table.get?_cons] at found
    by_cases isBody : key.same (.text "body")
    · rw [if_pos isBody] at found
      rw [uncheckedInOptions, if_pos isBody, Option.some.inj found]
    · rw [if_neg isBody] at found
      rw [uncheckedInOptions, if_neg isBody, ih found]

/-- What names come to is simple, or stands in a tuple among them. -/
theorem mem_leavesOf {names : List Value} (all : names.all isName) {name : Value}
    (held : name ∈ Value.leavesOf names) : name.isSimple ∨ name ∈ inTuples names := by
  induction names with
  | nil => cases held
  | cons first rest ih =>
    obtain ⟨one, others⟩ := Bool.and_eq_true_iff.mp all
    rcases List.mem_append.mp held with here | later
    · cases first with
      | tuple items => exact .inr (List.mem_append_left _ here)
      | null | list | map | cyclic => cases one
      | _ =>
        rw [List.mem_singleton.mp here]
        exact .inl rfl
    · exact (ih others later).imp_right (List.mem_append_right _)

end Lexical

open Lexical Statement Program Course

variable {good : Value → Prop}

namespace Privilege

theorem optionsFine_of_names {options : Table Value}
    (all : ∀ name ∈ optionNames (options.get? (.text "includes")), good name) :
    OptionsFine good options := by
  intro names included
  rwa [← leavesOf_includedBy, included] at all

theorem course_traced {options : List (Value × Value)} {named : List (String × Value)}
    (keyed : textKeyed? options = some named) (once : (named.map Prod.fst).Nodup)
    {body : Option Course} (inner : ∀ c ∈ body, c.Traced good) {name : Value} (called : good name)
    (all : ∀ n ∈ Lexical.includedBy options, good n) :
    (course name (option "context" options) (option "options" options) (extraOptions named)
      body).Traced good := by
  have fine {given : Value} (here : (contextOf options).2 = entriesOf given) :
      ∀ entries, optionEntries given = .ok entries →
        OptionsFine good (mergedOptions entries (extraOptions named)) := by
    intro entries read
    refine optionsFine_of_names ?_
    rw [optionEntries_eq_ok read, get?_mergedOptions keyed once, ← here]
    exact all
  unfold course
  split
  · rename_i isMap
    exact courseIn_traced inner _ called (fine (by rw [contextOf, if_pos isMap]))
  · rename_i notMap
    exact courseIn_traced inner _ called (fine (by rw [contextOf, if_neg notMap]))

end Privilege

section Statements

variable {block : Block} {options : List (Value × Value)}

theorem step_traced (simple : ∀ name : Value, name.isSimple → good name) (keyword argument : Value)
    (own : ∀ name ∈ uncheckedOfParts block keyword argument options, good name)
    (inner : ∀ c ∈ optionBody block options, c.Traced good) :
    (stepCourse (step block keyword argument (arguments block options))).Traced good := by
  have checked (proper : (names argument).all isName)
      (tuples : ∀ name ∈ inTuples (names argument), good name) :
      ∀ name ∈ Value.leavesOf (names argument), good name :=
    fun name held => (mem_leavesOf proper held).elim (simple name) (tuples name)
  have makes := stepCourse_makes block keyword argument options
  generalize stepCourse (step block keyword argument (arguments block options)) = made at makes ⊢
  cases makes with
  | refused => exact .refuse _
  | privilege keyed once =>
    obtain ⟨called, included⟩ := List.forall_mem_cons.mp own
    exact Privilege.course_traced keyed once inner called included
  | includePrivileges proper => exact Privilege.includesCourse_traced (checked proper own)
  | role => exact Role.course_traced inner (List.forall_mem_singleton.mp own) ..
  | includeRoles proper => exact Role.includesCourse_traced (checked proper own)
  | title => exact Role.titleCourse_traced argument
  | description => exact Role.descriptionCourse_traced argument
  | grant => exact Grant.course_traced inner argument own
  | addPrivileges proper => exact Grant.addPrivilegesCourse_traced (checked proper own)
  | restrict => exact Grant.restrictCourse_traced argument _

theorem steps_traced {statements : List Value}
    (each : ∀ s ∈ statements, (stepCourse (stepOf block s)).Traced good) :
    (course (statements.map (stepOf block))).Traced good := by
  induction statements with
  | nil => exact .done
  | cons s rest ih =>
    obtain ⟨first, others⟩ := List.forall_mem_cons.mp each
    exact first.andThen (ih others)

/-- The statements of a body bring in no names but simple ones and those that nothing checks. -/
theorem program_traced (simple : ∀ name : Value, name.isSimple → good name) (value : Value) :
    (∀ name ∈ uncheckedInBody block value, good name) →
      (course (program block value)).Traced good := by
  refine (nesting_induction
    (fun value => (∀ name ∈ uncheckedInBody block value, good name) →
      (course (program block value)).Traced good)
    (fun value => (∀ name ∈ uncheckedInStatement block value, good name) →
      (stepCourse (stepOf block value)).Traced good)
    (fun value statements form ih all => ?_) (fun value form _ => ?_)
    (fun value keyword argument options form ih all => ?_) (fun value form _ => ?_)).1 value
  · rw [program_of_statements form]
    rw [uncheckedInBody_of_statements form] at all
    refine steps_traced fun s held => ih s held fun name inside => ?_
    exact all name (List.mem_flatMap.mpr ⟨s, held, inside⟩)
  · rw [program_of_none form]
    exact Traced.andThen (.refuse _) .done
  · rw [stepOf_of_parts form]
    rw [uncheckedInStatement_of_parts form] at all
    obtain ⟨own, within⟩ := List.forall_mem_append.mp all
    refine step_traced simple keyword argument own fun c member => ?_
    obtain ⟨body, found, rfl⟩ := Option.map_eq_some_iff.mp member
    rw [uncheckedInOptions_of_body found] at within
    obtain ⟨o, held, rfl⟩ := mem_of_option? found
    exact ih o held within
  · rw [stepOf_of_none form]
    exact .refuse _

end Statements

namespace Document

theorem blockProgram_traced (simple : ∀ name : Value, name.isSimple → good name)
    {name statements : Value} (all : ∀ n ∈ uncheckedInBlock name statements, good n) :
    (Program.course (blockProgram name statements)).Traced good := by
  unfold uncheckedInBlock at all
  unfold blockProgram
  split
  · exact program_traced simple statements all
  · exact program_traced simple statements all
  · exact .done
  · exact Traced.andThen (.refuse _) .done

theorem program_traced (simple : ∀ name : Value, name.isSimple → good name) {document : Value}
    (all : ∀ block ∈ entriesOf document, ∀ n ∈ uncheckedInBlock block.1 block.2, good n) :
    (Program.course (program document)).Traced good := by
  cases form : blocksOf? document with
  | none =>
    rw [program_of_none form]
    exact Traced.andThen (.refuse _) .done
  | some blocks =>
    have same : entriesOf document = blocks := by
      unfold blocksOf? at form
      split at form <;> cases form <;> rfl
    rw [program_of_blocks form]
    rw [same] at all
    exact course_flatMap .done .andThen fun block held =>
      blockProgram_traced simple (all block held)

/-- A stream of documents brings in no other names. -/
theorem streamProgram_traced (simple : ∀ name : Value, name.isSimple → good name)
    {documents : Yaml.Documents} (all : ∀ name ∈ unchecked documents.values, good name) :
    (Program.course (streamProgram documents)).Traced good := by
  have inside : ∀ d ∈ documents.values, (Program.course (program d)).Traced good := by
    intro d held
    refine program_traced simple fun block inside n given => all n ?_
    exact List.mem_flatMap.mpr ⟨d, held, List.mem_flatMap.mpr ⟨block, inside, given⟩⟩
  rw [streamProgram, course_append]
  refine Traced.andThen (course_flatMap .done .andThen inside) ?_
  cases documents.fault? with
  | none => exact .done
  | some fault => exact Traced.andThen (.refuse _) .done

end Document

/-- A snapshot has the names of the tables. -/
theorem Tables.Named.sealed {t : Tables} (named : t.Named good) : t.sealed.Named good := by
  refine { named with rules := fun rule held => ?_ }
  obtain ⟨open_, inside, rfl⟩ := List.mem_map.mp held
  have same : open_.sealed.role = open_.role ∧ open_.sealed.privileges = open_.privileges := by
    unfold Rule.sealed
    split <;> exact ⟨rfl, rfl⟩
  rw [same.1, same.2]
  exact named.rules open_ inside

/-- Whatever comes of reading a source, names in the tables are simple, or nothing has checked
them. -/
theorem parse_named (source : Yaml.Source) (label : Option String) {s : Session} (fresh : s.Fresh) :
    ((Action.parse source label).run s).2.reader.tables.Named fun name =>
      name.isSimple ∨ name ∈ unchecked (source.documents s.serial).values := by
  let documents := source.documents s.serial
  let act : Act := .turn (.parse source label)
  have reads : (Document.course documents label).Traced
      fun name => name.isSimple ∨ name ∈ unchecked documents.values :=
    Document.course_traced (Document.streamProgram_traced (fun _ => .inl) fun _ => .inr) label
  have trace := Trace.append (.serial (m := s.moment) documents.serial) (reads.at_ _)
  have empty : s.moment.reader = {} := fresh.reader
  have named := trace.named (empty ▸ Reader.named_default)
  have advance := (act.leads_run fresh.intact).advance
  rw [show (act.course s.moment).journal = _ from rfl] at advance
  exact (advance.reader ▸ named).tables

/-- A policy that is accepted has simple names only, but for those that nothing checks: arguments
and options of blocks, and what stands in tuples. -/
theorem compile_named {source : Yaml.Source} {label : Option String} {tables : Tables}
    {log : List LogEvent} (accepted : compile source label = (.ok tables, log)) :
    tables.Named fun name => name.isSimple ∨ name ∈ unchecked (source.documents 0).values := by
  have named := (parse_named source label Session.fresh_default).sealed
  rcases ran : (Action.parse source label).run {} with ⟨fault | _, t⟩
  · simp [compile, ran, Except.map] at accepted
  · rw [ran] at named
    simp only [compile, ran, Except.map, Prod.mk.injEq, Except.ok.injEq] at accepted
    rw [← accepted.1]
    exact named

def unnamedSource : Yaml.Source :=
  .text "privileges:\n- privilege: manage\n  includes: [null]\n"

theorem compile_named_unnamed :
    ∃ tables log, compile unnamedSource none = (.ok tables, log) ∧
      (Value.list (unchecked (unnamedSource.documents 0).values)).same
        (.list [.text "manage", .null]) ∧
      tables.Named fun name =>
        name.isSimple ∨ name ∈ unchecked (unnamedSource.documents 0).values := by
  rcases ran : compile unnamedSource none with ⟨fault | tables, log⟩
  · have ok : (compile unnamedSource none).1.isOk := by decide +kernel
    rw [ran] at ok
    cases ok
  · exact ⟨tables, log, rfl, by decide +kernel, compile_named ran⟩

/-- The null that it includes is compiled as the name of a privilege. -/
theorem compile_null_name :
    ¬ ∀ (source : Yaml.Source) (label : Option String) (tables : Tables) (log : List LogEvent),
      compile source label = (.ok tables, log) → tables.Named (·.isSimple) := by
  intro every
  rcases ran : compile unnamedSource none with ⟨fault | tables, log⟩
  · have ok : (compile unnamedSource none).1.isOk := by decide +kernel
    rw [ran] at ok
    cases ok
  · have unnamed : (compile unnamedSource none).1.toOption.all
        (fun tables => tables.privileges.all Value.isSimple) = false := by decide +kernel
    rw [ran] at unnamed
    have named := (every _ _ _ _ ran).privileges
    rw [Except.toOption, Option.all_some, List.all_eq_true.mpr named] at unnamed
    cases unnamed

end AccessPolicy
