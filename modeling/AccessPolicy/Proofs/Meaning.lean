import AccessPolicy.Proofs.Statement

/-! What a policy means by lexical scoping. One walk over the text of a document tells it: a
statement looks up the blocks that stand around it, and declares something of them. -/

namespace AccessPolicy

/-- The innermost blocks around a statement: a privilege with its context, and a role. -/
structure Scope where
  privilege : Option (Value × Value) := none
  role : Option Value := none

/-- What statements declare, in the order of the text. What they add to the grant around them
stands apart from the rules of the grants among them. -/
structure Meaning where
  privileges : List Value := []
  edges : List (Value × PrivilegeEdge) := []
  roles : List Value := []
  lower : List (Value × List Value) := []
  titles : List (Value × Value) := []
  descriptions : List (Value × Value) := []
  rules : List Rule := []
  granted : List Value := []
  conditions : List Conditions := []
  /-- The serial after those of the bare values in conditions. -/
  next : Nat

namespace Meaning

def nothing (serial : Nat) : Meaning := { next := serial }

def andThen (a b : Meaning) : Meaning where
  privileges := a.privileges ++ b.privileges
  edges := a.edges ++ b.edges
  roles := a.roles ++ b.roles
  lower := a.lower ++ b.lower
  titles := a.titles ++ b.titles
  descriptions := a.descriptions ++ b.descriptions
  rules := a.rules ++ b.rules
  granted := a.granted ++ b.granted
  conditions := a.conditions ++ b.conditions
  next := b.next

/-- The tables of what is declared. A name that equals an earlier one is dropped, and a key keeps
its first place. -/
def tables (meaning : Meaning) : Tables where
  privileges := meaning.privileges.foldl Value.register []
  privilegeHierarchy :=
    meaning.edges.foldl (fun t (name, edge) => t.alter name [] (· ++ [edge])) {}
  roles := meaning.roles.foldl Value.register []
  roleHierarchy := meaning.lower.foldl (fun t (role, names) => t.alter role [] (· ++ names)) {}
  roleTitles := meaning.titles.foldl (fun t (role, text) => t.put role text) {}
  roleDescriptions := meaning.descriptions.foldl (fun t (role, text) => t.put role text) {}
  rules := meaning.rules

end Meaning

namespace Lexical

open Statement (option? option)

def entriesOf (given : Value) : List (Value × Value) :=
  match given.opened with
  | .map entries => entries
  | _ => []

/-- The names in a value, whatever the depth of lists they stand in. -/
def flattened : Value → List Value
  | .cyclic _ (.list names) | .cyclic _ (.tuple names) => Value.leavesOf names
  | given => given.leaves

/-- One name or a list of names, which are taken as they are. -/
def listed (given : Value) : List Value :=
  match given.opened with
  | .null => []
  | .list names | .tuple names => names
  | _ => [given]

/-- The context of a privilege statement, and the options that stand in its place or beside it. -/
def contextOf (options : List (Value × Value)) : Value × List (Value × Value) :=
  if (option "context" options).isMap then (.null, entriesOf (option "context" options))
  else (option "context" options, entriesOf (option "options" options))

/-- The names in an option. One whose value does not count as given has none. -/
def optionNames : Option Value → List Value
  | some given => if given.isTruthy then flattened given else []
  | none => []

def includedBy (options : List (Value × Value)) : List Value :=
  optionNames (option? "includes" options <|> option? "includes" (contextOf options).2)

def includes (scope : Scope) (serial : Nat) (names : List Value) : Meaning :=
  match scope.privilege with
  | none => .nothing serial
  | some (name, context) =>
    { privileges := names, edges := names.map fun lower => (name, ⟨lower, context⟩),
      next := serial }

def ofRole (scope : Scope) (serial : Nat) (meaning : Value → Meaning) : Meaning :=
  match scope.role with
  | none => .nothing serial
  | some role => meaning role

def textOf (role text : Value) : List (Value × Value) :=
  if text matches .null then [] else [(role, text)]

def condition (serial : Nat) (given : Value) : Meaning :=
  let (trees, next) := ConditionTree.ofEntries serial (entriesOf given)
  { conditions := [trees], next := next }

/-- The rule of a grant takes up what its body adds to it. -/
def grant (role context privileges : Value) (body : Meaning) : Meaning :=
  { body with
    rules := ⟨role, listed privileges ++ body.granted, context, body.conditions⟩ :: body.rules
    granted := []
    conditions := [] }

/-- The meaning of a statement, from that of its body by what stands around the body. -/
def ofParts (block : Block) (scope : Scope) (serial : Nat) (keyword argument : Value)
    (options : List (Value × Value)) (body : Scope → Meaning) : Meaning :=
  match block, keyword with
  | .privileges, .text "privilege" =>
    let inner := { scope with privilege := some (argument, (contextOf options).1) }
    let before := { privileges := [argument], next := serial : Meaning }.andThen (body inner)
    before.andThen (includes inner before.next (includedBy options))
  | .privileges, .text "includes" => includes scope serial (flattened argument)
  | .authorization, .text "role" =>
    { roles := [argument], titles := textOf argument (option "title" options),
      descriptions := textOf argument (option "description" options),
      next := serial : Meaning }.andThen (body { scope with role := some argument })
  | .authorization, .text "includes" =>
    ofRole scope serial fun role => { lower := [(role, flattened argument)], next := serial }
  | .authorization, .text "title" =>
    ofRole scope serial fun role => { titles := [(role, argument)], next := serial }
  | .authorization, .text "description" =>
    ofRole scope serial fun role => { descriptions := [(role, argument)], next := serial }
  | .authorization, .text "has_permission_on" =>
    ofRole scope serial fun role => grant role argument (option "to" options) (body scope)
  | .authorization, .text "to" => { granted := flattened argument, next := serial }
  | .authorization, .text "if_attribute" => condition serial argument
  | _, _ => .nothing serial

mutual

def ofBody (block : Block) (scope : Scope) (serial : Nat) : Value → Meaning
  | .list statements | .cyclic _ (.list statements) => ofStatements block scope serial statements
  | _ => .nothing serial

def ofStatements (block : Block) (scope : Scope) (serial : Nat) : List Value → Meaning
  | [] => .nothing serial
  | statement :: rest =>
    let first := ofStatement block scope serial statement
    first.andThen (ofStatements block scope first.next rest)

def ofStatement (block : Block) (scope : Scope) (serial : Nat) : Value → Meaning
  | .map ((keyword, argument) :: options)
  | .cyclic _ (.map ((keyword, argument) :: options)) =>
    ofParts block scope serial keyword argument options fun inner =>
      ofOptions block inner serial options
  | _ => .nothing serial

def ofOptions (block : Block) (scope : Scope) (serial : Nat) : List (Value × Value) → Meaning
  | [] => .nothing serial
  | (key, value) :: rest =>
    if key.same (.text "body") then ofBody block scope serial value
    else ofOptions block scope serial rest

end

/-- The meaning of one of the blocks of a document; nothing stands around it. -/
def ofBlock (serial : Nat) (name statements : Value) : Meaning :=
  match name with
  | .text "privileges" => ofBody .privileges {} serial statements
  | .text "authorization" => ofBody .authorization {} serial statements
  | _ => .nothing serial

def ofBlocks (serial : Nat) : List (Value × Value) → Meaning
  | [] => .nothing serial
  | (name, statements) :: rest =>
    let first := ofBlock serial name statements
    first.andThen (ofBlocks first.next rest)

def ofDocuments (serial : Nat) : List Value → Meaning
  | [] => .nothing serial
  | document :: rest =>
    let first := ofBlocks serial (entriesOf document)
    first.andThen (ofDocuments first.next rest)

end Lexical

end AccessPolicy
