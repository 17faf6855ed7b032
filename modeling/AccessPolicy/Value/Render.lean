import AccessPolicy.Number.Written
import AccessPolicy.Value.Basic

/-! Values in messages: in source form, or plainly, where text stands for itself and
dates are in ISO form. However deeply values are nested, they can be written. -/

namespace AccessPolicy

def Operator.tag : Operator → String
  | .is => "is"
  | .contains => "contains"

def Operator.source : Operator → String
  | .is => "<ConditionOperator.IS: 'is'>"
  | .contains => "<ConditionOperator.CONTAINS: 'contains'>"

namespace Value

private def listed (opening : String) (items : List String) (closing : String) : String :=
  opening ++ ", ".intercalate items ++ closing

/-- What stands for a list, tuple or map within itself. -/
private def ellipsis : Value → String
  | .map _ => "\x7b...\x7d"
  | .tuple _ => "(...)"
  | _ => "[...]"

mutual

/-- The source form of a value within the given ones that hold themselves. -/
def sourceIn (around : List Nat) : Value → String
  | .null => "None"
  | .bool b => if b then "True" else "False"
  | .int i => toString i
  | .float x => x.text .plain
  | .text s => Text.quoted s
  | .bytes b => Text.quotedBytes b
  | .date d => d.expression
  | .moment m => m.expression
  | .list items => listed "[" (sourcesIn around items) "]"
  | .tuple items =>
    listed "(" (sourcesIn around items) (if items.length = 1 then ",)" else ")")
  | .set [] => "set()"
  | .set members => listed "\x7b" (sourcesIn around members) "\x7d"
  | .map entries => listed "\x7b" (entrySourcesIn around entries) "\x7d"
  | .record fields => listed "namespace(" (fieldSourcesIn around fields) ")"
  | .condition operator compute =>
    "AttributeCondition(operator=" ++ operator.source ++ ", compute=" ++
      sourceIn around compute ++ ")"
  | .literal _ value => "Literal(" ++ sourceIn around value ++ ")"
  | .userPath _ path => "UserAttribute(" ++ Text.quoted path ++ ")"
  | .cyclic serial value =>
    if around.contains serial then ellipsis value else sourceIn (serial :: around) value

def sourcesIn (around : List Nat) : List Value → List String
  | [] => []
  | v :: rest => sourceIn around v :: sourcesIn around rest

def entrySourcesIn (around : List Nat) : List (Value × Value) → List String
  | [] => []
  | (k, v) :: rest =>
    (sourceIn around k ++ ": " ++ sourceIn around v) :: entrySourcesIn around rest

/-- A field without a name is not shown. -/
def fieldSourcesIn (around : List Nat) : List (String × Value) → List String
  | [] => []
  | (name, v) :: rest =>
    if name.isEmpty then fieldSourcesIn around rest
    else (name ++ "=" ++ sourceIn around v) :: fieldSourcesIn around rest

end

def source (v : Value) : String := v.sourceIn []

def plain : Value → String
  | .text s => s
  | .date d => d.iso
  | .moment m => m.iso " "
  | v => v.source

mutual

/-- Whether the source form of a value holds a number that is too long to be written. -/
def holdsLongNumber : Value → Bool
  | .int i => Number.isTooLong i
  | .list items | .tuple items | .set items => anyLongNumber items
  | .map entries => entryLongNumber entries
  | .record fields => fieldLongNumber fields
  | .condition _ compute => compute.holdsLongNumber
  | .literal _ value => value.holdsLongNumber
  | .cyclic _ value => value.holdsLongNumber
  | _ => false

def anyLongNumber : List Value → Bool
  | [] => false
  | v :: rest => v.holdsLongNumber || anyLongNumber rest

def entryLongNumber : List (Value × Value) → Bool
  | [] => false
  | (k, v) :: rest => k.holdsLongNumber || v.holdsLongNumber || entryLongNumber rest

def fieldLongNumber : List (String × Value) → Bool
  | [] => false
  | (name, v) :: rest => (!name.isEmpty && v.holdsLongNumber) || fieldLongNumber rest

end

end Value

end AccessPolicy
