import AccessPolicy.Proofs.Follow
import AccessPolicy.Proofs.Statement
import AccessPolicy.Policy.Source

/-! Reading a stream of documents follows a course: the programs of documents call nothing but
operations. -/

namespace AccessPolicy

namespace Statement

open Step

theorem given_isOperational {block : Block} {signature : Signature} {first : String}
    {value : Value} {options : List (Value × Value)} {named : List (String × Value)}
    (keyed : textKeyed? options = some named) (parameter : "body" ∈ signature.parameters)
    (other : "body" ≠ first)
    (bodies : ∀ o ∈ options, isOperationalProgram false (program block o.2)) :
    bodyIsOperational false ((given block signature first value named).body block) := by
  rw [body_given parameter other, lookup_of_textKeyed? keyed]
  cases found : option? "body" options with
  | none => rfl
  | some body =>
    obtain ⟨option, held, rfl⟩ := mem_of_option? found
    exact bodies option held

section Block

variable {block : Block} {keyword first : String} {optional : List String} {others : Bool}
  {make : Arguments → Step}

theorem step_isOperational_of_block
    (operation : block.operation? keyword = some (⟨[first], optional, false, others⟩, make))
    (shape : block.statements.lookup keyword = some .block)
    (opens : ∀ given, (make given).isOperational false =
      bodyIsOperational false (given.body block))
    (parameter : "body" ∈ optional) (other : "body" ≠ first) (value : Value)
    {options : List (Value × Value)}
    (bodies : ∀ o ∈ options, isOperationalProgram false (program block o.2)) :
    (step block (.text keyword) value (arguments block options)).isOperational false := by
  by_cases fits : Fits ⟨[first], optional, false, others⟩ first options
  · obtain ⟨named, keyed, fits⟩ := fits
    obtain ⟨access, same⟩ := step_of_fits operation shape keyed fits value
    rw [same, Step.isOperational, opens]
    exact given_isOperational keyed (by simp [Signature.parameters, parameter]) other bodies
  · obtain ⟨fault, same | ⟨access, same⟩⟩ := step_of_not_fits operation shape fits value <;>
      rw [same] <;> rfl

end Block

theorem step_isOperational_of_names {block : Block} {keyword : String} {make : Arguments → Step}
    (operation : block.operation? keyword = some (⟨[], [], true, false⟩, make))
    (shape : block.statements.lookup keyword = some .names)
    (plain : ∀ given, (make given).isOperational false) (value : Value)
    (options : List (Value × Value)) :
    (step block (.text keyword) value (arguments block options)).isOperational false := by
  by_cases bare : options = []
  · subst bare
    by_cases proper : (names value).all isName
    · obtain ⟨access, same⟩ := step_names operation shape proper
      rw [arguments, same, Step.isOperational]
      exact plain _
    · simp [arguments, step, keyword?, shape, proper, Step.isOperational]
  · obtain ⟨fault, same⟩ := step_unwanted shape (by simp) value bare
    rw [same]
    rfl

theorem step_isOperational (block : Block) (keyword value : Value)
    {options : List (Value × Value)}
    (bodies : ∀ o ∈ options, isOperationalProgram false (program block o.2)) :
    (step block keyword value (arguments block options)).isOperational false := by
  cases known : keyword? block keyword with
  | none => simp only [step, known, Step.isOperational]
  | some found =>
    obtain ⟨name, shape⟩ := found
    obtain ⟨rfl, isKeyword⟩ := isKeyword_of_keyword? known
    cases isKeyword with
    | privilege | role | grant =>
      exact step_isOperational_of_block rfl rfl (fun _ => rfl) (by simp) (by simp) value bodies
    | includePrivileges | includeRoles | addPrivileges =>
      exact step_isOperational_of_names rfl rfl (fun _ => rfl) value options
    | title | description | restrict => cases options <;> rfl

/-- Statements call nothing but operations. -/
theorem program_isOperational (block : Block) (value : Value) :
    isOperationalProgram false (program block value) := by
  refine (nesting_induction (fun value => isOperationalProgram false (program block value))
    (fun value => (stepOf block value).isOperational false)
    (fun value statements form ih => ?_) (fun value form => ?_)
    (fun value keyword argument options form ih => ?_) (fun value form => ?_)).1 value
  · rw [program_of_statements form]
    clear form
    induction statements with
    | nil => rfl
    | cons s rest each =>
      simp only [List.map_cons, isOperationalProgram, Bool.and_eq_true]
      exact ⟨ih s (by simp), each fun s member => ih s (by simp [member])⟩
  · rw [program_of_none form]
    rfl
  · rw [stepOf_of_parts form]
    exact step_isOperational block keyword argument ih
  · rw [stepOf_of_none form]
    rfl

end Statement

namespace Document

open Step

def blocksOf? : Value → Option (List (Value × Value))
  | .null => some []
  | .map blocks | .cyclic _ (.map blocks) => some blocks
  | _ => none

theorem program_of_blocks {value : Value} {blocks : List (Value × Value)}
    (form : blocksOf? value = some blocks) :
    program value = blocks.flatMap fun b => blockProgram b.1 b.2 := by
  unfold blocksOf? at form
  split at form <;> cases form <;> rfl

theorem program_of_none {value : Value} (form : blocksOf? value = none) :
    program value = [.refuse (.form (.notBlocks value))] := by
  unfold blocksOf? at form
  split at form
  · cases form
  · cases form
  · cases form
  · rw [program] <;> assumption

theorem isOperational_flatMap {α : Type} {paths : Bool} {f : α → Program}
    (each : ∀ a, isOperationalProgram paths (f a)) (values : List α) :
    isOperationalProgram paths (values.flatMap f) := by
  induction values with
  | nil => rfl
  | cons value rest ih =>
    rw [List.flatMap_cons, isOperationalProgram_append, each, ih, Bool.and_self]

theorem blockProgram_isOperational (name statements : Value) :
    isOperationalProgram false (blockProgram name statements) := by
  unfold blockProgram
  split
  · exact Statement.program_isOperational ..
  · exact Statement.program_isOperational ..
  · rfl
  · rfl

theorem program_isOperational (value : Value) : isOperationalProgram false (program value) := by
  cases form : blocksOf? value with
  | none =>
    rw [program_of_none form]
    rfl
  | some blocks =>
    rw [program_of_blocks form]
    exact isOperational_flatMap (fun b => blockProgram_isOperational b.1 b.2) blocks

/-- The programs of documents call nothing but operations, and follow no path. -/
theorem streamProgram_isOperational (documents : Yaml.Documents) :
    isOperationalProgram false (streamProgram documents) := by
  rw [streamProgram, isOperationalProgram_append,
    isOperational_flatMap program_isOperational documents.values]
  cases documents.fault? <;> rfl

open Course

def blameCourse (label : Option String) (fault : Fault) : Course :=
  if fault.makesIllegal then
    (emit (.sourceIllegal label fault)).andThen (refuse (.illegal label fault))
  else refuse fault

def streamCourse (documents : Yaml.Documents) (label : Option String) : Course :=
  (Program.course (streamProgram documents)).recover (blameCourse label)

def readCourse (label : Option String) : Course := fun m =>
  let tables := m.reader.tables
  emit (.sourceRead label tables.privileges.length tables.roles.length tables.rules.length) m

def course (documents : Yaml.Documents) (label : Option String) : Course :=
  (streamCourse documents label).andThen (readCourse label)

end Document

theorem Session.Intact.sizes {s : Session} (intact : s.Intact) :
    s.sizes = .ok (s.reader.tables.privileges.length, s.reader.tables.roles.length,
      s.reader.tables.rules.length) := by
  simp [Session.sizes, Session.field, intact.change?, bind, Except.bind, pure, Except.pure]

/-- Nothing has been read in the session, and nothing has been put under a name. -/
structure Session.Fresh (s : Session) : Prop where
  intact : s.Intact
  reader : s.reader = {}

theorem Session.fresh_default : Session.Fresh {} := ⟨⟨rfl, rfl⟩, rfl⟩

namespace Action

theorem run_eq_of_isOk {action : Action Unit} {s : Session} (ok : (action.run s).1.isOk) :
    action.run s = (.ok (), (action.run s).2) := by
  rcases ran : action.run s with ⟨_ | _, t⟩
  · simp [ran, Except.isOk, Except.toBool] at ok
  · rfl

/-- What follows a course does not change where events go. -/
theorem Follows.sink {α : Type} {action : Action α} {course : Course} (follows : action.Follows course)
    {s : Session} (intact : s.Intact) : (action.run s).2.sink = s.sink := by
  have moment := congrArg Moment.sink (follows.yields s intact).advance.moment
  rwa [Moment.sink_after] at moment

/-- The documents of a source are read when its serials have been used up. -/
theorem run_parse (source : Yaml.Source) (label : Option String) (s : Session) :
    (parse source label).run s = (readDocuments (source.documents s.serial) label).run
      { s with serial := (source.documents s.serial).serial } := rfl

theorem blameSource_follows (label : Option String) (fault : Fault) :
    (blameSource label fault).Follows (Document.blameCourse label fault) := by
  unfold blameSource Document.blameCourse
  split
  · exact (follows_emit _).bind fun _ => follows_refuse _
  · exact follows_refuse _

/-- Reading a stream of documents follows its course. -/
theorem readDocuments_follows (documents : Yaml.Documents) (label : Option String) :
    (readDocuments documents label).Follows (Document.course documents label) := by
  refine ((Program.run_follows _ (Document.streamProgram_isOperational documents)).tryCatch
    (blameSource_follows label)).bind fun _ => ?_
  constructor
  intro s intact
  refine (follows_emit (.sourceRead label s.reader.tables.privileges.length
    s.reader.tables.roles.length s.reader.tables.rules.length)).yields_of intact ?_ rfl
  simp only [run_bind, run_get, intact.sizes]

end Action

end AccessPolicy
