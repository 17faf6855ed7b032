import AccessPolicy.Proofs.Binding
import AccessPolicy.Proofs.Course
import AccessPolicy.Proofs.Table
import AccessPolicy.Policy.Statement

/-! The courses of statements. A statement that opens a block makes its call where its options fit
the operation, and its arguments are then the options by their names. -/

namespace AccessPolicy

namespace Statement

def statementsOf? : Value → Option (List Value)
  | .null => some []
  | .list statements | .cyclic _ (.list statements) => some statements
  | _ => none

def partsOf? : Value → Option (Value × Value × List (Value × Value))
  | .map ((keyword, argument) :: options)
  | .cyclic _ (.map ((keyword, argument) :: options)) => some (keyword, argument, options)
  | _ => none

theorem steps_eq_map (block : Block) (statements : List Value) :
    steps block statements = statements.map (stepOf block) := by
  induction statements with
  | nil => rfl
  | cons statement rest ih => rw [steps, ih, List.map_cons]

theorem program_of_statements {block : Block} {value : Value} {statements : List Value}
    (form : statementsOf? value = some statements) :
    program block value = statements.map (stepOf block) := by
  unfold statementsOf? at form
  split at form <;> cases form <;> simp only [program, steps_eq_map, List.map_nil]

theorem program_of_none {block : Block} {value : Value} (form : statementsOf? value = none) :
    program block value = [.refuse (.form (.notStatements value))] := by
  unfold statementsOf? at form
  split at form
  · cases form
  · cases form
  · cases form
  · rw [program] <;> assumption

theorem stepOf_of_parts {block : Block} {value keyword argument : Value}
    {options : List (Value × Value)} (form : partsOf? value = some (keyword, argument, options)) :
    stepOf block value = step block keyword argument (arguments block options) := by
  unfold partsOf? at form
  split at form <;> cases form <;> rw [stepOf]

theorem stepOf_of_none {block : Block} {value : Value} (form : partsOf? value = none) :
    stepOf block value = .refuse (.form (.notStatement value)) := by
  unfold partsOf? at form
  split at form
  · cases form
  · cases form
  · rw [stepOf] <;> assumption

/-- What holds of bodies and of statements holds by way of the statements of a body and the options
of a statement, among which its own body is. -/
theorem nesting_induction (bodies statement : Value → Prop)
    (list : ∀ value statements, statementsOf? value = some statements →
      (∀ s ∈ statements, statement s) → bodies value)
    (noList : ∀ value, statementsOf? value = none → bodies value)
    (parts : ∀ value keyword argument options, partsOf? value = some (keyword, argument, options) →
      (∀ o ∈ options, bodies o.2) → statement value)
    (noParts : ∀ value, partsOf? value = none → statement value) :
    (∀ value, bodies value) ∧ ∀ value, statement value := by
  have all := program.mutual_induct bodies (fun statements => ∀ s ∈ statements, statement s)
    statement (fun options => ∀ o ∈ options, bodies o.2)
    (list _ [] rfl (by simp)) (fun statements ih => list _ statements rfl ih)
    (fun _ statements ih => list _ statements rfl ih)
    (fun value notNull notList notCyclic => noList value (by
      unfold statementsOf?
      split
      · exact (notNull rfl).elim
      · exact (notList _ rfl).elim
      · exact (notCyclic _ _ rfl).elim
      · rfl))
    (fun keyword argument options ih => parts _ keyword argument options rfl ih)
    (fun _ keyword argument options ih => parts _ keyword argument options rfl ih)
    (fun value notMap notCyclic => noParts value (by
      unfold partsOf?
      split
      · exact (notMap _ _ _ rfl).elim
      · exact (notCyclic _ _ _ _ rfl).elim
      · rfl))
    (by simp) (fun _ _ first rest => List.forall_mem_cons.mpr ⟨first, rest⟩)
    (by simp) (fun _ _ _ first rest => List.forall_mem_cons.mpr ⟨first, rest⟩)
  exact ⟨all.1, all.2.2.1⟩

def textKeyed? : List (Value × Value) → Option (List (String × Value))
  | [] => some []
  | (.text name, value) :: rest => (textKeyed? rest).map ((name, value) :: ·)
  | _ => none

def option? (name : String) (options : List (Value × Value)) : Option Value :=
  (Table.mk options).get? (.text name)

theorem mem_of_option? {name : String} {options : List (Value × Value)} {value : Value}
    (found : option? name options = some value) : ∃ o ∈ options, o.2 = value := by
  obtain ⟨o, isFirst, same⟩ := Option.map_eq_some_iff.mp found
  exact ⟨o, List.mem_of_find?_eq_some isFirst, same⟩

def option (name : String) (options : List (Value × Value)) : Value :=
  (option? name options).getD .null

def argument (block : Block) (name : String) (value : Value) : Argument :=
  if name = "body" then .body (program block value) else .value value

theorem namedOptions_arguments (block : Block) (options : List (Value × Value)) :
    namedOptions (arguments block options) =
      (textKeyed? options).map fun named => named.map fun o => (o.1, argument block o.1 o.2) := by
  induction options with
  | nil => simp [arguments, namedOptions, textKeyed?]
  | cons option rest ih =>
    obtain ⟨key, value⟩ := option
    cases key <;> simp [arguments, namedOptions, textKeyed?, ih, Function.comp_def, argument,
      Value.same_text_iff]

def asEntries (named : List (String × Value)) : List (Value × Value) :=
  named.map fun o => (.text o.1, o.2)

theorem textKeyed?_eq_some {options : List (Value × Value)} {named : List (String × Value)} :
    textKeyed? options = some named ↔ options = asEntries named := by
  induction options generalizing named with
  | nil => cases named <;> simp [textKeyed?, asEntries]
  | cons option rest ih =>
    obtain ⟨key, value⟩ := option
    cases key with
    | text name =>
      simp only [textKeyed?, Option.map_eq_some_iff, ih]
      constructor
      · rintro ⟨others, rfl, rfl⟩
        rfl
      · intro same
        cases named with
        | nil => cases same
        | cons first others =>
          cases same
          exact ⟨others, rfl, rfl⟩
    | _ => cases named <;> simp [textKeyed?, asEntries]

/-- An option is found under its name. -/
theorem get?_asEntries (named : List (String × Value)) (name : String) :
    (Table.mk (asEntries named)).get? (.text name) = named.lookup name := by
  induction named with
  | nil => rfl
  | cons option rest ih =>
    obtain ⟨key, value⟩ := option
    rw [asEntries, List.map_cons, Table.get?_cons, ← asEntries, ih]
    by_cases equal : key = name
    · simp [equal, Value.same_text_iff]
    · rw [if_neg (by simpa [Value.same_text_iff] using equal),
        Given.lookup_cons_ne (Ne.symm equal)]

theorem lookup_of_textKeyed? {options : List (Value × Value)} {named : List (String × Value)}
    (keyed : textKeyed? options = some named) (name : String) :
    named.lookup name = option? name options := by
  rw [textKeyed?_eq_some.mp keyed, option?, get?_asEntries]

theorem asEntries_distinct {named : List (String × Value)} (once : (named.map Prod.fst).Nodup) :
    (Table.mk (asEntries named)).Distinct := by
  simp only [Table.Distinct, Table.keys, asEntries, List.map_map]
  refine List.pairwise_map.mpr ((List.pairwise_map.mp once).imp fun differ together => differ ?_)
  simpa [Value.same_text_iff] using together

/-- What an operation is given by a statement: the argument first, then the options. -/
def given (block : Block) (signature : Signature) (first : String) (value : Value)
    (named : List (String × Value)) : Arguments where
  bound := (first, .value value) ::
    (named.filter fun o => signature.parameters.contains o.1).map fun o =>
      (o.1, argument block o.1 o.2)
  others := (named.filter fun o => !signature.parameters.contains o.1).map fun o =>
    (o.1, argument block o.1 o.2)

section Given

variable {block : Block} {signature : Signature} {first : String} {value : Value}
  {named : List (String × Value)}

theorem value_given_first : (given block signature first value named).value first = value := by
  simp [Arguments.value, Given.get?, given]

theorem get?_given {name : String} (parameter : name ∈ signature.parameters)
    (other : name ≠ first) :
    (given block signature first value named).get? name =
      (named.lookup name).map (argument block name) := by
  rw [Given.get?, given, Given.lookup_cons_ne other, Given.lookup_map,
    Given.lookup_filter (fun name => signature.parameters.contains name) (by simpa)]

theorem value_given {name : String} (parameter : name ∈ signature.parameters)
    (other : name ≠ first) (plain : name ≠ "body") :
    (given block signature first value named).value name = (named.lookup name).getD .null := by
  rw [Arguments.value, get?_given parameter other]
  cases named.lookup name <;> simp [argument, plain]

theorem body_given (parameter : "body" ∈ signature.parameters) (other : "body" ≠ first) :
    (given block signature first value named).body block =
      (named.lookup "body").map (program block) := by
  rw [Arguments.body, get?_given parameter other]
  cases named.lookup "body" <;> simp [argument]

theorem otherValues_given (parameter : "body" ∈ signature.parameters) :
    (given block signature first value named).otherValues =
      named.filter fun o => !signature.parameters.contains o.1 := by
  simp only [Arguments.otherValues, given, List.filterMap_map, Function.comp_def]
  induction named with
  | nil => rfl
  | cons option rest ih =>
    obtain ⟨name, value⟩ := option
    by_cases known : name ∈ signature.parameters
    · simpa [List.filter_cons, known] using ih
    · have plain : name ≠ "body" := fun same => known (same ▸ parameter)
      simpa [List.filter_cons, known, argument, plain] using ih

end Given

/-- The options can be given to an operation beside its first argument. -/
def Fits (signature : Signature) (first : String) (options : List (Value × Value)) : Prop :=
  ∃ named, textKeyed? options = some named ∧ signature.Fits [first] [] (named.map Prod.fst)

open Program Course

section Block

variable {block : Block} {keyword first : String} {optional : List String} {others : Bool}
  {make : Arguments → Step}

theorem bind_of_fits {named : List (String × Value)} (operation : String) (value : Value)
    (fits : (Signature.mk [first] optional false others).Fits [first] [] (named.map Prod.fst)) :
    Given.bind operation ⟨[first], optional, false, others⟩ [Argument.value value]
      (named.map fun o => (o.1, argument block o.1 o.2)) =
      .ok (given block ⟨[first], optional, false, others⟩ first value named) := by
  have bound := Given.bindNamed_of_fits operation
    (named.map fun o => (o.1, argument block o.1 o.2)) ⟨[(first, .value value)], [], []⟩
    (by simpa [Function.comp_def] using fits)
  simp only [Given.bind, Signature.parameters, List.singleton_append, List.zip_cons_cons,
    List.zip_nil_right, List.length_cons, List.drop_succ_cons, List.drop_nil, bound]
  simp [bind, Except.bind, Given.joined, Given.get?, given, List.filter_map, Function.comp_def,
    Signature.parameters, List.lookup_cons]

theorem bind_of_not_fits (block : Block) {named : List (String × Value)} (operation : String) (value : Value)
    (unfit : ¬ (Signature.mk [first] optional false others).Fits [first] []
      (named.map Prod.fst)) :
    ∃ fault, Given.bind operation ⟨[first], optional, false, others⟩ [Argument.value value]
      (named.map fun o => (o.1, argument block o.1 o.2)) = .error fault := by
  obtain ⟨fault, failed⟩ := Given.bindNamed_of_not_fits operation
    (named.map fun o => (o.1, argument block o.1 o.2)) ⟨[(first, .value value)], [], []⟩
    (by simpa [Function.comp_def] using unfit)
  refine ⟨fault, ?_⟩
  simp only [Given.bind, Signature.parameters, List.singleton_append, List.zip_cons_cons,
    List.zip_nil_right, List.length_cons, List.drop_succ_cons, List.drop_nil, failed]
  rfl

variable (operation : block.operation? keyword = some (⟨[first], optional, false, others⟩, make))
  (shape : block.statements.lookup keyword = some .block)

include operation shape

theorem step_of_fits {options : List (Value × Value)} {named : List (String × Value)}
    (keyed : textKeyed? options = some named)
    (fits : (Signature.mk [first] optional false others).Fits [first] [] (named.map Prod.fst))
    (value : Value) :
    ∃ access, step block (.text keyword) value (arguments block options) =
      .overridable block access
        (make (given block ⟨[first], optional, false, others⟩ first value named)) := by
  simp [step, keyword?, shape, namedOptions_arguments, keyed, Block.call, operation,
    bind_of_fits _ _ fits]

theorem stepCourse_of_fits {options : List (Value × Value)} {named : List (String × Value)}
    (keyed : textKeyed? options = some named)
    (fits : (Signature.mk [first] optional false others).Fits [first] [] (named.map Prod.fst))
    (value : Value) :
    stepCourse (step block (.text keyword) value (arguments block options)) =
      stepCourse (make (given block ⟨[first], optional, false, others⟩ first value named)) := by
  obtain ⟨access, same⟩ := step_of_fits operation shape keyed fits value
  rw [same, stepCourse]

theorem step_of_not_fits {options : List (Value × Value)}
    (unfit : ¬ Fits ⟨[first], optional, false, others⟩ first options) (value : Value) :
    ∃ fault, step block (.text keyword) value (arguments block options) = .refuse (.usage fault) ∨
      ∃ access, step block (.text keyword) value (arguments block options) =
        .overridable block access (.refuse (.usage fault)) := by
  simp only [step, keyword?, shape, Option.map_some, namedOptions_arguments]
  cases keyed : textKeyed? options with
  | none => exact ⟨_, .inl rfl⟩
  | some named =>
    obtain ⟨fault, failed⟩ := bind_of_not_fits block (block.operationName keyword) value
      fun fits => unfit ⟨named, keyed, fits⟩
    exact ⟨fault, .inr (by simp [Block.call, operation, failed])⟩

theorem stepCourse_of_not_fits {options : List (Value × Value)}
    (unfit : ¬ Fits ⟨[first], optional, false, others⟩ first options) (value : Value) :
    ∃ fault, stepCourse (step block (.text keyword) value (arguments block options)) =
      refuse (.usage fault) := by
  obtain ⟨fault, same | ⟨access, same⟩⟩ := step_of_not_fits operation shape unfit value
  · exact ⟨fault, by rw [same, stepCourse]⟩
  · exact ⟨fault, by rw [same, stepCourse, stepCourse]⟩

end Block

def optionBody (block : Block) (options : List (Value × Value)) : Option Course :=
  (option? "body" options).map fun body => course (program block body)

/-- What holds of the courses of all options holds of that of the body among them. -/
theorem forall_optionBody {holds : Course → Prop} {block : Block} {options : List (Value × Value)}
    (bodies : ∀ o ∈ options, holds (course (program block o.2))) :
    ∀ c ∈ optionBody block options, holds c := by
  intro c given
  obtain ⟨_, found, rfl⟩ := Option.map_eq_some_iff.mp given
  obtain ⟨o, held, rfl⟩ := mem_of_option? found
  exact bodies o held

def privilegeSignature : Signature := ⟨["privilege"], ["context", "options", "body"], false, true⟩

def roleSignature : Signature := ⟨["role"], ["body", "title", "description"], false, false⟩

def grantSignature : Signature := ⟨["context"], ["to", "body"], false, false⟩

def extraOptions (named : List (String × Value)) : List (String × Value) :=
  named.filter fun o => !privilegeSignature.parameters.contains o.1

section Keywords

variable {options : List (Value × Value)} {named : List (String × Value)}

theorem bodyCourse_given {block : Block} {signature : Signature} {first : String} {value : Value}
    (keyed : textKeyed? options = some named) (parameter : "body" ∈ signature.parameters)
    (other : "body" ≠ first) :
    bodyCourse ((given block signature first value named).body block) =
      optionBody block options := by
  rw [body_given parameter other, lookup_of_textKeyed? keyed, optionBody]
  cases option? "body" options <;> rfl

theorem option_given {block : Block} {signature : Signature} {first : String} {value : Value}
    (keyed : textKeyed? options = some named) {name : String}
    (parameter : name ∈ signature.parameters) (other : name ≠ first) (plain : name ≠ "body") :
    (given block signature first value named).value name = option name options := by
  rw [value_given parameter other plain, lookup_of_textKeyed? keyed, option]

theorem stepCourse_privilege (keyed : textKeyed? options = some named)
    (fits : privilegeSignature.Fits ["privilege"] [] (named.map Prod.fst)) (value : Value) :
    stepCourse (step .privileges (.text "privilege") value (arguments .privileges options)) =
      Privilege.course value (option "context" options) (option "options" options)
        (extraOptions named) (optionBody .privileges options) := by
  rw [stepCourse_of_fits rfl rfl keyed fits, stepCourse, value_given_first,
    bodyCourse_given keyed (by simp [Signature.parameters]) (by simp),
    option_given keyed (by simp [Signature.parameters]) (by simp) (by simp),
    option_given keyed (by simp [Signature.parameters]) (by simp) (by simp),
    otherValues_given (by simp [Signature.parameters])]
  rfl

theorem stepCourse_role (keyed : textKeyed? options = some named)
    (fits : roleSignature.Fits ["role"] [] (named.map Prod.fst)) (value : Value) :
    stepCourse (step .authorization (.text "role") value (arguments .authorization options)) =
      Role.course value (option "title" options) (option "description" options)
        (optionBody .authorization options) := by
  rw [stepCourse_of_fits rfl rfl keyed fits, stepCourse, value_given_first,
    bodyCourse_given keyed (by simp [Signature.parameters]) (by simp),
    option_given keyed (by simp [Signature.parameters]) (by simp) (by simp),
    option_given keyed (by simp [Signature.parameters]) (by simp) (by simp)]

theorem stepCourse_grant (keyed : textKeyed? options = some named)
    (fits : grantSignature.Fits ["context"] [] (named.map Prod.fst)) (value : Value) :
    stepCourse
        (step .authorization (.text "has_permission_on") value (arguments .authorization options)) =
      Grant.course value (option "to" options) (optionBody .authorization options) := by
  rw [stepCourse_of_fits rfl rfl keyed fits, stepCourse, value_given_first,
    bodyCourse_given keyed (by simp [Signature.parameters]) (by simp),
    option_given keyed (by simp [Signature.parameters]) (by simp) (by simp)]

theorem step_unwanted {block : Block} {keyword : String} {shape : StatementShape}
    (known : block.statements.lookup keyword = some shape) (plain : shape ≠ .block)
    (value : Value) (unwanted : options ≠ []) :
    ∃ fault, step block (.text keyword) value (arguments block options) =
      .refuse (.form fault) := by
  obtain ⟨option, rest, rfl⟩ := List.exists_cons_of_ne_nil unwanted
  refine ⟨.unwantedOptions keyword ((arguments block (option :: rest)).map Prod.fst), ?_⟩
  cases shape with
  | block => exact absurd rfl plain
  | names | value => simp [step, keyword?, known, arguments]

/-- A statement of names passes them on. -/
theorem step_names {block : Block} {keyword : String} {make : Arguments → Step}
    (operation : block.operation? keyword = some (⟨[], [], true, false⟩, make))
    (shape : block.statements.lookup keyword = some .names) {value : Value}
    (proper : (names value).all isName) :
    ∃ access, step block (.text keyword) value [] =
      .overridable block access (make ⟨[], (names value).map .value, []⟩) := by
  simp [step, keyword?, shape, proper, Block.call, operation, Given.bind, Given.bindNamed,
    Signature.parameters, bind, Except.bind]

theorem stepCourse_names {block : Block} {keyword : String} {make : Arguments → Step}
    (operation : block.operation? keyword = some (⟨[], [], true, false⟩, make))
    (shape : block.statements.lookup keyword = some .names) {value : Value}
    (proper : (names value).all isName) :
    stepCourse (step block (.text keyword) value []) =
      stepCourse (make ⟨[], (names value).map .value, []⟩) := by
  obtain ⟨access, same⟩ := step_names operation shape proper
  rw [same, stepCourse]

theorem stepCourse_notNames {block : Block} {keyword : String}
    (shape : block.statements.lookup keyword = some .names) {value : Value}
    (improper : ¬ (names value).all isName) :
    stepCourse (step block (.text keyword) value []) = refuse (.form (.notNames keyword value)) := by
  simp [step, keyword?, shape, improper, stepCourse]

theorem moreValues_names (names : List Value) :
    Arguments.moreValues ⟨[], names.map .value, []⟩ = names := by
  induction names with
  | nil => rfl
  | cons name rest ih => exact congrArg (name :: ·) ih

theorem keyword?_eq_some {block : Block} {keyword : Value} {name : String}
    {shape : StatementShape} (known : keyword? block keyword = some (name, shape)) :
    keyword = .text name ∧ block.statements.lookup name = some shape := by
  cases keyword with
  | text given =>
    obtain ⟨found, shaped, same⟩ := Option.map_eq_some_iff.mp known
    cases same
    exact ⟨rfl, shaped⟩
  | _ => cases known

/-- The keywords of either kind of block, with the shapes of their statements. -/
inductive IsKeyword : Block → String → StatementShape → Prop
  | privilege : IsKeyword .privileges "privilege" .block
  | includePrivileges : IsKeyword .privileges "includes" .names
  | role : IsKeyword .authorization "role" .block
  | includeRoles : IsKeyword .authorization "includes" .names
  | title : IsKeyword .authorization "title" .value
  | description : IsKeyword .authorization "description" .value
  | grant : IsKeyword .authorization "has_permission_on" .block
  | addPrivileges : IsKeyword .authorization "to" .names
  | restrict : IsKeyword .authorization "if_attribute" .value

theorem isKeyword_of_keyword? {block : Block} {keyword : Value} {name : String}
    {shape : StatementShape} (known : keyword? block keyword = some (name, shape)) :
    keyword = .text name ∧ IsKeyword block name shape := by
  obtain ⟨rfl, shaped⟩ := keyword?_eq_some known
  refine ⟨rfl, ?_⟩
  have member := Given.mem_of_lookup shaped
  cases block with
  | privileges =>
    simp only [Block.statements, List.mem_cons, Prod.mk.injEq, List.not_mem_nil, or_false] at member
    rcases member with ⟨rfl, rfl⟩ | ⟨rfl, rfl⟩ <;> constructor
  | authorization =>
    simp only [Block.statements, List.mem_cons, Prod.mk.injEq, List.not_mem_nil, or_false] at member
    rcases member with ⟨rfl, rfl⟩ | ⟨rfl, rfl⟩ | ⟨rfl, rfl⟩ | ⟨rfl, rfl⟩ | ⟨rfl, rfl⟩ |
      ⟨rfl, rfl⟩ | ⟨rfl, rfl⟩ <;> constructor

theorem stepCourse_unknown {block : Block} {keyword : Value} (unknown : keyword? block keyword = none)
    (value : Value) (given : List (Value × Argument)) :
    stepCourse (step block keyword value given) = refuse (.form (.unknownStatement keyword)) := by
  simp only [step, unknown, stepCourse]

end Keywords

/-- What the course of a statement is: a refusal, or the call of its keyword. -/
inductive Makes : Block → Value → Value → List (Value × Value) → Course → Prop
  | refused {block : Block} {keyword argument : Value} {options : List (Value × Value)}
    (fault : Fault) : Makes block keyword argument options (refuse fault)
  | privilege {argument : Value} {options : List (Value × Value)} {named : List (String × Value)}
    (keyed : textKeyed? options = some named) (once : (named.map Prod.fst).Nodup) :
    Makes .privileges (.text "privilege") argument options
      (Privilege.course argument (option "context" options) (option "options" options)
        (extraOptions named) (optionBody .privileges options))
  | includePrivileges {argument : Value} (proper : (names argument).all isName) :
    Makes .privileges (.text "includes") argument [] (Privilege.includesCourse (names argument))
  | role {argument : Value} {options : List (Value × Value)} :
    Makes .authorization (.text "role") argument options
      (Role.course argument (option "title" options) (option "description" options)
        (optionBody .authorization options))
  | includeRoles {argument : Value} (proper : (names argument).all isName) :
    Makes .authorization (.text "includes") argument [] (Role.includesCourse (names argument))
  | title {argument : Value} :
    Makes .authorization (.text "title") argument [] (Role.titleCourse argument)
  | description {argument : Value} :
    Makes .authorization (.text "description") argument [] (Role.descriptionCourse argument)
  | grant {argument : Value} {options : List (Value × Value)} :
    Makes .authorization (.text "has_permission_on") argument options
      (Grant.course argument (option "to" options) (optionBody .authorization options))
  | addPrivileges {argument : Value} (proper : (names argument).all isName) :
    Makes .authorization (.text "to") argument [] (Grant.addPrivilegesCourse (names argument))
  | restrict {argument : Value} :
    Makes .authorization (.text "if_attribute") argument [] (Grant.restrictCourse argument [])

section Cases

variable {holds : Course → Prop}
  (refused : ∀ fault : Fault, fault.makesIllegal → holds (refuse fault))
  {block : Block} {keyword first : String} {argument : Value} {options : List (Value × Value)}
  {optional : List String} {others : Bool} {make : Arguments → Step}

include refused

/-- What refusals have, a statement with a block has if it does where its options fit the call. -/
theorem stepCourse_of_block
    (operation : block.operation? keyword = some (⟨[first], optional, false, others⟩, make))
    (shape : block.statements.lookup keyword = some .block)
    (fitting : Fits ⟨[first], optional, false, others⟩ first options →
      holds (stepCourse (step block (.text keyword) argument (arguments block options)))) :
    holds (stepCourse (step block (.text keyword) argument (arguments block options))) := by
  by_cases fits : Fits ⟨[first], optional, false, others⟩ first options
  · exact fitting fits
  · obtain ⟨fault, same⟩ := stepCourse_of_not_fits operation shape fits argument
    rw [same]
    exact refused _ rfl

theorem stepCourse_of_bare {shape : StatementShape}
    (known : block.statements.lookup keyword = some shape) (plain : shape ≠ .block)
    (bare : options = [] → holds (stepCourse (step block (.text keyword) argument []))) :
    holds (stepCourse (step block (.text keyword) argument (arguments block options))) := by
  by_cases none : options = []
  · rw [none, arguments]
    exact bare none
  · obtain ⟨fault, same⟩ := step_unwanted known plain argument none
    rw [same]
    exact refused _ rfl

theorem stepCourse_of_names
    (operation : block.operation? keyword = some (⟨[], [], true, false⟩, make))
    (shape : block.statements.lookup keyword = some .names)
    (named : options = [] → (names argument).all isName →
      holds (stepCourse (make ⟨[], (names argument).map .value, []⟩))) :
    holds (stepCourse (step block (.text keyword) argument (arguments block options))) := by
  refine stepCourse_of_bare refused shape (by simp) fun none => ?_
  by_cases proper : (names argument).all isName
  · rw [stepCourse_names operation shape proper]
    exact named none proper
  · rw [stepCourse_notNames shape proper]
    exact refused _ rfl

end Cases

/-- Of a statement nothing else comes. -/
theorem stepCourse_makes (block : Block) (keyword argument : Value)
    (options : List (Value × Value)) :
    Makes block keyword argument options
      (stepCourse (step block keyword argument (arguments block options))) := by
  have refused (fault : Fault) (_ : fault.makesIllegal) :
      Makes block keyword argument options (refuse fault) := .refused fault
  cases known : keyword? block keyword with
  | none =>
    rw [stepCourse_unknown known]
    exact refused _ rfl
  | some found =>
    obtain ⟨name, shape⟩ := found
    obtain ⟨rfl, isKeyword⟩ := isKeyword_of_keyword? known
    cases isKeyword with
    | privilege =>
      refine stepCourse_of_block refused rfl rfl fun ⟨named, keyed, fits⟩ => ?_
      rw [stepCourse_privilege keyed fits]
      exact .privilege keyed fits.once
    | includePrivileges =>
      refine stepCourse_of_names refused rfl rfl fun none proper => ?_
      rw [none, stepCourse, moreValues_names]
      exact .includePrivileges proper
    | role =>
      refine stepCourse_of_block refused rfl rfl fun ⟨named, keyed, fits⟩ => ?_
      rw [stepCourse_role keyed fits]
      exact .role
    | includeRoles =>
      refine stepCourse_of_names refused rfl rfl fun none proper => ?_
      rw [none, stepCourse, moreValues_names]
      exact .includeRoles proper
    | title => exact stepCourse_of_bare refused rfl (by simp) fun none => none ▸ .title
    | description => exact stepCourse_of_bare refused rfl (by simp) fun none => none ▸ .description
    | grant =>
      refine stepCourse_of_block refused rfl rfl fun ⟨named, keyed, fits⟩ => ?_
      rw [stepCourse_grant keyed fits]
      exact .grant
    | addPrivileges =>
      refine stepCourse_of_names refused rfl rfl fun none proper => ?_
      rw [none, stepCourse, moreValues_names]
      exact .addPrivileges proper
    | restrict => exact stepCourse_of_bare refused rfl (by simp) fun none => none ▸ .restrict

/-- What refusals have, what is handed on from one course to the next, and what a statement has if
its body does: that the courses of all statements have, at whatever depth. -/
theorem course_induction {holds : Course → Prop} {block : Block} (done : holds done)
    (refuse : ∀ fault, holds (refuse fault))
    (andThen : ∀ {c d}, holds c → holds d → holds (c.andThen d))
    (makes : ∀ {keyword argument options c}, Makes block keyword argument options c →
      (∀ body ∈ optionBody block options, holds body) → holds c) (value : Value) :
    holds (course (program block value)) := by
  refine (nesting_induction (fun value => holds (course (program block value)))
    (fun value => holds (stepCourse (stepOf block value)))
    (fun value statements form ih => ?_) (fun value form => ?_)
    (fun value keyword argument options form ih => ?_) (fun value form => ?_)).1 value
  · rw [program_of_statements form]
    clear form
    induction statements with
    | nil => exact done
    | cons s rest others =>
      exact andThen (ih s (by simp)) (others fun s held => ih s (by simp [held]))
  · rw [program_of_none form]
    exact andThen (refuse _) done
  · rw [stepOf_of_parts form]
    exact makes (stepCourse_makes ..) (forall_optionBody ih)
  · rw [stepOf_of_none form]
    exact refuse _

end Statement

end AccessPolicy
