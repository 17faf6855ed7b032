import AccessPolicy.Value.Render

/-! What a path can come to: a value, a kind of things, or a thing that is no value but has
parts with names. -/

namespace AccessPolicy

inductive Place where
  | value (value : Value)
  | kind (kind : Kind)
  /-- A thing of the given kind with those parts of it that are known. -/
  | object (kind : Kind) (parts : List (String × Place))
  /-- A table whose entries are no values. -/
  | table (kind : Kind) (entries : List (String × Place))
  deriving Repr, Inhabited

namespace Place

def text (s : String) : Place := .value (.text s)

def null : Place := .value .null

def ofUnknown (k : Kind) : Place :=
  match k with
  | .null => null
  | .map | .view => .table k []
  | _ => .object k []

def kindOf : Place → Kind
  | .value v => v.kind
  | .kind k => k.ofKind
  | .object k _ | .table k _ => k

def owner : Place → String
  | .kind k => "type object '" ++ k.messageName ++ "'"
  | place => "'" ++ place.kindOf.messageName ++ "' object"

def ofOperator (operator : Operator) : Place :=
  let name := match operator with
    | .is => "IS"
    | .contains => "CONTAINS"
  .object .operator
    [("name", text name), ("_name_", text name), ("value", text operator.tag),
     ("_value_", text operator.tag), ("__objclass__", .kind .operator),
     ("_sort_order_", .value (.ofNat (if operator = .is then 0 else 1)))]

def toValue : Place → Value
  | .value v => v
  | .kind k => .text ("<class '" ++ k.pathName ++ "'>")
  | .object .operator parts =>
    match parts.lookup "value" with
    | some (.value v) => v
    | _ => .null
  | .object .. | .table .. => .null

def span (days seconds microseconds : Nat) : Place :=
  .object .span
    [("days", .value (.ofNat days)), ("seconds", .value (.ofNat seconds)),
     ("microseconds", .value (.ofNat microseconds))]

end Place

end AccessPolicy
