import AccessPolicy.Proofs.Reading

/-! The grammar of policies. A document that is not of it has flaws, which are listed in the order
in which a reader comes to them; each is one of scope or one of form. Both the grammar and the flaws
are told from the text of a document alone. -/

namespace AccessPolicy

/-- What is wrong at a place of a document: something stands where it means nothing, or it is not
of the form that it has to have. -/
inductive Flaw where
  | scope
  | form
  deriving DecidableEq

namespace Grammar

open Statement

/-! ## The grammar -/

def hasOptions (allowed : List String) (options : List (Value × Value)) : Bool :=
  match textKeyed? options with
  | none => false
  | some named =>
    decide (named.map Prod.fst).Nodup && (named.map Prod.fst).all (allowed.contains ·)

def isNames (argument : Value) : Bool := (names argument).all isName

def isNullOrMap (argument : Value) : Bool :=
  match argument.opened with
  | .null | .map _ => true
  | _ => false

/-- A grant gives privileges by its body, or by an option that is neither null nor an empty list. -/
def gives (options : List (Value × Value)) : Bool :=
  (option? "body" options).isSome ||
    match (option "to" options).opened with
    | .null | .list [] => false
    | _ => true

def IsBody (statement : Value → Prop) (body : Value) : Prop :=
  ∃ statements, statementsOf? body = some statements ∧ ∀ s ∈ statements, statement s

def IsStatement (keyword : String) (proper : Value → List (Value × Value) → Prop)
    (statement : Value) : Prop :=
  ∃ argument options, partsOf? statement = some (.text keyword, argument, options) ∧
    proper argument options

def IsAlone (keyword : String) (proper : Value → Prop) : Value → Prop :=
  IsStatement keyword fun argument options => options = [] ∧ proper argument

def IsIncludes : Value → Prop := IsAlone "includes" (isNames ·)

def IsPrivilege : Value → Prop :=
  IsStatement "privilege" fun _ options =>
    hasOptions ["context", "includes", "body"] options ∧ IsBody IsIncludes (option "body" options)

def IsDescription (statement : Value) : Prop :=
  IsIncludes statement ∨ IsAlone "title" (fun _ => True) statement ∨
    IsAlone "description" (fun _ => True) statement

def IsInGrant (statement : Value) : Prop :=
  IsDescription statement ∨ IsAlone "to" (isNames ·) statement ∨
    IsAlone "if_attribute" (isNullOrMap ·) statement

def IsGrant : Value → Prop :=
  IsStatement "has_permission_on" fun _ options =>
    hasOptions ["to", "body"] options ∧ gives options ∧ IsBody IsInGrant (option "body" options)

def IsInRole (statement : Value) : Prop := IsDescription statement ∨ IsGrant statement

def IsRole : Value → Prop :=
  IsStatement "role" fun _ options =>
    hasOptions ["body", "title", "description"] options ∧ IsBody IsInRole (option "body" options)

def IsBlock (name statements : Value) : Prop :=
  (name = .text "privileges" ∧ IsBody IsPrivilege statements) ∨
    (name = .text "authorization" ∧ IsBody IsRole statements) ∨ name = .text "contexts"

def IsDocument (document : Value) : Prop :=
  ∃ blocks, Document.blocksOf? document = some blocks ∧ ∀ b ∈ blocks, IsBlock b.1 b.2

/-! ## Flaws -/

def demand (fine : Bool) (flaw : Flaw) : List Flaw := if fine then [] else [flaw]

theorem demand_eq_nil {fine : Bool} {flaw : Flaw} : demand fine flaw = [] ↔ fine := by
  cases fine <;> simp [demand]

def bodyFlaws (each : Value → List Flaw) (body : Value) : List Flaw :=
  match statementsOf? body with
  | none => [.form]
  | some statements => statements.flatMap each

/-- Flaws of a statement of names; its form is asked for before its scope. -/
def namesFlaws (inScope : Bool) (argument : Value) (options : List (Value × Value)) : List Flaw :=
  demand options.isEmpty .form ++ (demand (isNames argument) .form ++ demand inScope .scope)

def valueFlaws (inScope : Bool) (options : List (Value × Value)) : List Flaw :=
  demand options.isEmpty .form ++ demand inScope .scope

/-- Flaws of a statement that stands within a role or a grant, or within neither. -/
def innerFlaws (inRole inGrant : Bool) (statement : Value) : List Flaw :=
  match partsOf? statement with
  | some (.text "includes", argument, options) => namesFlaws inRole argument options
  | some (.text "title", _, options) => valueFlaws inRole options
  | some (.text "description", _, options) => valueFlaws inRole options
  | some (.text "to", argument, options) => namesFlaws inGrant argument options
  | some (.text "if_attribute", argument, options) =>
    valueFlaws inGrant options ++ demand (isNullOrMap argument) .scope
  | _ => [.form]

/-- Flaws of a grant; what it gives is asked for before its body. -/
def grantFlaws (inRole : Bool) (statement : Value) : List Flaw :=
  match partsOf? statement with
  | some (.text "has_permission_on", _, options) =>
    demand (hasOptions ["to", "body"] options) .form ++ (demand inRole .scope ++
      (demand (gives options) .scope ++
        bodyFlaws (innerFlaws inRole true) (option "body" options)))
  | _ => innerFlaws inRole false statement

def roleFlaws (statement : Value) : List Flaw :=
  match partsOf? statement with
  | some (.text "role", _, options) =>
    demand (hasOptions ["body", "title", "description"] options) .form ++
      bodyFlaws (grantFlaws true) (option "body" options)
  | _ => grantFlaws false statement

def includesFlaws (inPrivilege : Bool) (statement : Value) : List Flaw :=
  match partsOf? statement with
  | some (.text "includes", argument, options) => namesFlaws inPrivilege argument options
  | _ => [.form]

def privilegeFlaws (statement : Value) : List Flaw :=
  match partsOf? statement with
  | some (.text "privilege", _, options) =>
    demand (hasOptions ["context", "includes", "body"] options) .form ++
      bodyFlaws (includesFlaws true) (option "body" options)
  | _ => includesFlaws false statement

def blockFlaws (name statements : Value) : List Flaw :=
  match name with
  | .text "privileges" => bodyFlaws privilegeFlaws statements
  | .text "authorization" => bodyFlaws roleFlaws statements
  | .text "contexts" => []
  | _ => [.form]

/-- The flaws of a document in which no block stands in the body of one of its own kind, and no
role in the body of a grant. -/
def flaws (document : Value) : List Flaw :=
  match Document.blocksOf? document with
  | none => [.form]
  | some blocks => blocks.flatMap fun b => blockFlaws b.1 b.2

/-! ## Plain documents -/

def each (holds : Value → Bool) (body : Value) : Bool :=
  match statementsOf? body with
  | none => true
  | some statements => statements.all holds

/-- What holds of the argument and the options if the statement is of a keyword. -/
def whenever (keyword : String) (holds : Value → List (Value × Value) → Bool) (statement : Value) :
    Bool :=
  match partsOf? statement with
  | some (.text key, argument, options) => key != keyword || holds argument options
  | _ => true

def without (keyword : String) : Value → Bool := whenever keyword fun _ _ => false

def isText (argument : Value) : Bool := argument matches .text _

def isTuple (given : Value) : Bool := given.opened matches .tuple _

def plainPrivilege : Value → Bool :=
  whenever "privilege" fun argument options =>
    isText argument && (option? "options" options).isNone && !(option "context" options).isMap &&
      each (without "privilege") (option "body" options)

def plainGrant : Value → Bool :=
  whenever "has_permission_on" fun _ options =>
    !isTuple (option "to" options) &&
      each (fun s => without "role" s && without "has_permission_on" s) (option "body" options)

def plainRole : Value → Bool :=
  whenever "role" fun argument options =>
    isText argument &&
      each (fun s => without "role" s && plainGrant s) (option "body" options)

def plainBlock (name statements : Value) : Bool :=
  match name with
  | .text "privileges" => each plainPrivilege statements
  | .text "authorization" => each plainRole statements
  | _ => true

/-- Roles and privileges are named by text, no block stands in the body of one of its own kind and
no role in the body of a grant, no grant is given a tuple, and privileges have neither the option
for options nor a map as their context. -/
def isPlain (document : Value) : Bool :=
  match Document.blocksOf? document with
  | none => true
  | some blocks => blocks.all fun b => plainBlock b.1 b.2

theorem of_each {holds : Value → Bool} {body : Value} (all : each holds body)
    {statements : List Value} (form : statementsOf? body = some statements) :
    ∀ s ∈ statements, holds s := by
  rw [each, form] at all
  exact List.all_eq_true.mp all

theorem of_whenever {keyword : String} {holds : Value → List (Value × Value) → Bool}
    {statement argument : Value} {options : List (Value × Value)}
    (each : whenever keyword holds statement)
    (form : partsOf? statement = some (.text keyword, argument, options)) :
    holds argument options := by
  simpa [whenever, form] using each

theorem without_iff {keyword : String} {statement : Value} :
    without keyword statement ↔ ∀ argument options,
      partsOf? statement = some (.text keyword, argument, options) → False := by
  constructor
  · intro none argument options form
    exact nomatch of_whenever none form
  · intro other
    unfold without whenever
    split
    · rename_i key argument options form
      have differ : key ≠ keyword := fun same => other argument options (same ▸ form)
      simpa using differ
    · rfl

theorem isText_iff {argument : Value} : isText argument ↔ ∃ name, argument = .text name := by
  cases argument <;> simp [isText]

/-! ## Documents of the grammar are those without flaws -/

theorem bodyFlaws_eq_nil {each : Value → List Flaw} {statement : Value → Prop}
    (same : ∀ s, each s = [] ↔ statement s) (body : Value) :
    bodyFlaws each body = [] ↔ IsBody statement body := by
  unfold bodyFlaws IsBody
  cases statementsOf? body with
  | none => simp
  | some statements => simp [List.flatMap_eq_nil_iff, same]

theorem namesFlaws_eq_nil {inScope : Bool} {argument : Value} {options : List (Value × Value)} :
    namesFlaws inScope argument options = [] ↔ options = [] ∧ isNames argument ∧ inScope := by
  simp [namesFlaws, demand_eq_nil]

theorem valueFlaws_eq_nil {inScope : Bool} {options : List (Value × Value)} :
    valueFlaws inScope options = [] ↔ options = [] ∧ inScope := by
  simp [valueFlaws, demand_eq_nil]

theorem isStatement_of_parts {keyword : String} {proper : Value → List (Value × Value) → Prop}
    {statement argument : Value} {key : Value} {options : List (Value × Value)}
    (form : partsOf? statement = some (key, argument, options)) :
    IsStatement keyword proper statement ↔ key = .text keyword ∧ proper argument options := by
  simp only [IsStatement, form, Option.some.injEq, Prod.mk.injEq]
  constructor
  · rintro ⟨_, _, ⟨same, rfl, rfl⟩, holds⟩
    exact ⟨same, holds⟩
  · rintro ⟨same, holds⟩
    exact ⟨_, _, ⟨same, rfl, rfl⟩, holds⟩

theorem not_isStatement {keyword : String} {proper : Value → List (Value × Value) → Prop}
    {statement : Value} (other : ∀ argument options,
      partsOf? statement = some (.text keyword, argument, options) → False) :
    ¬ IsStatement keyword proper statement :=
  fun ⟨argument, options, form, _⟩ => other argument options form

theorem innerFlaws_eq_nil {inRole inGrant : Bool} {statement : Value} :
    innerFlaws inRole inGrant statement = [] ↔ (inRole ∧ IsDescription statement) ∨
      (inGrant ∧ (IsAlone "to" (isNames ·) statement ∨
        IsAlone "if_attribute" (isNullOrMap ·) statement)) := by
  unfold innerFlaws IsDescription IsIncludes IsAlone
  cases form : partsOf? statement with
  | none => simp [not_isStatement, form]
  | some parts =>
    obtain ⟨key, argument, options⟩ := parts
    simp only [isStatement_of_parts form]
    split <;> simp_all [namesFlaws_eq_nil, valueFlaws_eq_nil, demand_eq_nil]
    all_goals grind

/-- A statement of one keyword is not one of another. -/
theorem IsStatement.keyword {keyword other : String}
    {proper : Value → List (Value × Value) → Prop} {statement argument : Value}
    {options : List (Value × Value)} (holds : IsStatement keyword proper statement)
    (form : partsOf? statement = some (.text other, argument, options)) : other = keyword := by
  have same := ((isStatement_of_parts form).mp holds).1
  injection same

theorem not_isDescription {keyword : String} {statement argument : Value}
    {options : List (Value × Value)} (form : partsOf? statement = some (.text keyword, argument, options))
    (other : keyword ∉ ["includes", "title", "description"]) : ¬ IsDescription statement := by
  rintro (holds | holds | holds) <;> exact other (by simp [holds.keyword form])

theorem grantFlaws_eq_nil {inRole : Bool} {statement : Value} :
    grantFlaws inRole statement = [] ↔ inRole ∧ IsInRole statement := by
  unfold grantFlaws
  split
  · rename_i form
    have inner : ∀ body, bodyFlaws (innerFlaws true true) body = [] ↔ IsBody IsInGrant body :=
      bodyFlaws_eq_nil fun s => by simp [innerFlaws_eq_nil, IsInGrant]
    cases inRole with
    | false => simp [demand]
    | true =>
      simp [demand_eq_nil, inner, IsInRole, IsGrant, isStatement_of_parts form,
        not_isDescription form]
  · rename_i other
    have noGrant : ¬ IsGrant statement := not_isStatement other
    simp [innerFlaws_eq_nil, IsInRole, noGrant]

theorem roleFlaws_eq_nil (statement : Value) : roleFlaws statement = [] ↔ IsRole statement := by
  unfold roleFlaws
  split
  · rename_i form
    have inner : ∀ body, bodyFlaws (grantFlaws true) body = [] ↔ IsBody IsInRole body :=
      bodyFlaws_eq_nil fun s => by simp [grantFlaws_eq_nil]
    simp [demand_eq_nil, inner, IsRole, isStatement_of_parts form]
  · rename_i other
    have noRole : ¬ IsRole statement := not_isStatement other
    simp [grantFlaws_eq_nil, noRole]

theorem includesFlaws_eq_nil {inPrivilege : Bool} {statement : Value} :
    includesFlaws inPrivilege statement = [] ↔ inPrivilege ∧ IsIncludes statement := by
  unfold includesFlaws
  split
  · rename_i form
    cases inPrivilege <;>
      simp [namesFlaws_eq_nil, IsIncludes, IsAlone, isStatement_of_parts form]
  · rename_i other
    have noIncludes : ¬ IsIncludes statement := not_isStatement other
    simp [noIncludes]

theorem privilegeFlaws_eq_nil (statement : Value) :
    privilegeFlaws statement = [] ↔ IsPrivilege statement := by
  unfold privilegeFlaws
  split
  · rename_i form
    have inner : ∀ body, bodyFlaws (includesFlaws true) body = [] ↔ IsBody IsIncludes body :=
      bodyFlaws_eq_nil fun s => by simp [includesFlaws_eq_nil]
    simp [demand_eq_nil, inner, IsPrivilege, isStatement_of_parts form]
  · rename_i other
    have noPrivilege : ¬ IsPrivilege statement := not_isStatement other
    simp [includesFlaws_eq_nil, noPrivilege]

theorem blockFlaws_eq_nil (name statements : Value) :
    blockFlaws name statements = [] ↔ IsBlock name statements := by
  unfold blockFlaws IsBlock
  split
  · simp [bodyFlaws_eq_nil privilegeFlaws_eq_nil]
  · simp [bodyFlaws_eq_nil roleFlaws_eq_nil]
  · simp
  · simp_all

/-- The documents of the grammar are those without flaws. -/
theorem flaws_eq_nil (document : Value) : flaws document = [] ↔ IsDocument document := by
  unfold flaws IsDocument
  cases Document.blocksOf? document with
  | none => simp
  | some blocks => simp [List.flatMap_eq_nil_iff, blockFlaws_eq_nil]

end Grammar

end AccessPolicy
