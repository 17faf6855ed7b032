import AccessPolicy.Value.Member

/-! What a name leads to from a thing by its kind: to a member of the kind itself, or of the
kinds whose members it has too. -/

namespace AccessPolicy

inductive Member where
  | hook
  | operation
  | maker
  | static
  | function (function : Function)
  | makerFunction (function : Function)
  | computed (kind : Kind)
  | stored (kind : Kind)
  | constant (place : Place)

def Function.place (owner : Kind) (f : Function) : Place :=
  let things (names : List String) : List (String × Place) :=
    names.map (·, Place.ofUnknown .object)
  .object .function
    [("__name__", .text f.name), ("__qualname__", .text (owner.name ++ "." ++ f.name)),
     ("__module__", .text owner.moduleName),
     ("__doc__", if f.isDocumented then .ofUnknown .text else .null),
     ("__defaults__", if f.defaults.isEmpty then .null else .value (.tuple f.defaults)),
     ("__kwdefaults__", .null), ("__closure__", .null), ("__dict__", .value (.map [])),
     ("__annotations__", .table .map (things f.annotated)),
     ("__globals__", .table .map (things owner.neighbours)),
     ("__code__", .object .code [("co_name", .text f.name),
        ("co_qualname", .text (owner.name ++ "." ++ f.name))])]

private def boundFunction (self : Place) (owner : Kind) (f : Function) : Place :=
  .object .method [("__self__", self), ("__func__", f.place owner)]

/-- An operation together with what it is called on; the name in full begins with that of
the kind, which may be called on itself. -/
private def boundOperation (self : Place) (owner : Kind) (name : String) : Place :=
  let kind := match self with
    | .kind kind => kind
    | _ => owner
  .object .operation
    [("__self__", self), ("__name__", .text name),
     ("__qualname__", .text (kind.name ++ "." ++ name)), ("__module__", .null)]

namespace Kind

def own? (kind : Kind) (name : String) : Option Member :=
  let members := kind.members
  let named (f : Function) : Bool := f.name = name
  if members.hooks.contains name then some .hook
  else if members.operations.contains name then some .operation
  else if members.makers.contains name then some .maker
  else if members.statics.contains name then some .static
  else
    (members.functions.find? named).map .function <|>
    (members.makerFunctions.find? named).map .makerFunction <|>
    (members.computed.lookup name).map .computed <|>
    (members.stored.lookup name).map .stored <|>
    (members.constants.lookup name).map .constant

def member? (kind : Kind) (name : String) : Option (Kind × Member) :=
  (kind :: kind.ancestors).findSome? fun owner => (owner.own? name).map (owner, ·)

def memberOn (kind : Kind) (self : Place) (name : String) (owner : Kind) : Member → Place
  | .hook =>
    .object .hook
      [("__self__", self), ("__name__", .text name), ("__objclass__", .kind owner),
       ("__qualname__", .text (owner.name ++ "." ++ name))]
  | .operation => boundOperation self kind name
  | .maker => boundOperation (.kind kind) kind name
  | .static =>
    -- What makes a thing is called on the kind, any other static operation on nothing.
    boundOperation (if name = "__new__" then .kind owner else .null) owner name
  | .function f => boundFunction self owner f
  | .makerFunction f => boundFunction (.kind kind) owner f
  | .computed k | .stored k => if name = "__class__" then .kind kind else .ofUnknown k
  | .constant place => place

/-- A member as it is on the kind itself, as far as that differs from things of it. -/
def memberOfKind (kind : Kind) (name : String) (owner : Kind) (member : Member) : Place :=
  let described (sort : Kind) : Place :=
    .object sort
      [("__name__", .text name), ("__objclass__", .kind owner),
       ("__qualname__", .text (owner.name ++ "." ++ name))]
  match member with
  | .hook => described .hookOfKind
  | .operation => described .operationOfKind
  | .function f => f.place owner
  | .computed _ => described .computedOfKind
  | .stored _ => described .storedOfKind
  | member => kind.memberOn (.kind kind) name owner member

def memberOf? (kind : Kind) (self : Place) (name : String) : Option Place :=
  (kind.member? name).map fun (owner, member) => kind.memberOn self name owner member

private def ownTable (kind : Kind) : Place :=
  let members := kind.members
  let names := members.hooks ++ members.operations ++ members.makers ++ members.statics ++
    (members.functions ++ members.makerFunctions).map Function.name ++
    (members.computed ++ members.stored).map Prod.fst ++ members.constants.map Prod.fst
  .table .view (names.filterMap fun name =>
    (kind.own? name).map fun member => (name, kind.memberOfKind name kind member))

private def description? (kind : Kind) (name : String) : Option Place :=
  match name with
  | "__name__" | "__qualname__" => some (.text kind.name)
  | "__module__" => some (.text kind.moduleName)
  | "__class__" => some (.kind kind.ofKind)
  | "__base__" => some (kind.ancestors.head?.elim .null .kind)
  | "__dict__" => some kind.ownTable
  | "__doc__" =>
    match kind.members.constants.lookup "__doc__" with
    | some place => some place
    | none => some (.ofUnknown .text)
  | "__annotations__" =>
    if kind.isWritten then
      some ((kind.members.constants.lookup "__annotations__").getD (.value (.map [])))
    else none
  | "__abstractmethods__" => none
  | name =>
    (Kind.type.members.computed ++ Kind.type.members.stored).lookup name |>.map Place.ofUnknown

/-- The names that a kind can tell of itself but need not. -/
private def isTold (name : String) : Bool :=
  name = "__abstractmethods__" || name = "__annotations__"

/-- What a name leads to from a kind: to what it tells of itself, to a member of its things,
or to a member that all kinds have. -/
def field? (kind : Kind) (name : String) : Option Place :=
  kind.description? name <|>
  if isTold name then none
  else
    ((kind.member? name).map fun (owner, member) => kind.memberOfKind name owner member) <|>
    kind.ofKind.memberOf? (.kind kind) name

/-- What a thing of the kind shows the members of besides its own: a method its function, and
a logger the one that it makes when it is used. -/
def behind? (kind : Kind) (parts : List (String × Place)) : Option Place :=
  match kind with
  | .method => parts.lookup "__func__"
  | .logger => some (.object .boundLogger
      [("_logger", .ofUnknown .object), ("_processors", .ofUnknown .list),
       ("_context", .ofUnknown .map)])
  | _ => none

end Kind

def Place.shownMember? (place : Place) (name : String) : Option Place :=
  match place with
  | .object k parts => parts.lookup name <|> k.memberOf? place name
  | _ => none

end AccessPolicy
