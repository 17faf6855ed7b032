import AccessPolicy.Number.Shortest
import AccessPolicy.Time.Calendar
import AccessPolicy.Text.Quoted
import AccessPolicy.Value.Kind

/-! Values of a policy document and of the callers' side. A deferred computation carries
a serial number, by which two of them are told apart even if they compute the same. -/

namespace AccessPolicy

inductive Operator where
  | is
  | contains
  deriving DecidableEq, Repr

open Number (Binary64 Numeral) in
open Time (Date Moment) in
inductive Value where
  | null
  | bool (value : Bool)
  | int (value : Int)
  | float (value : Binary64)
  | text (value : String)
  | bytes (value : List UInt8)
  | date (value : Date)
  | moment (value : Moment)
  | list (items : List Value)
  | tuple (items : List Value)
  | set (members : List Value)
  | map (entries : List (Value × Value))
  | record (fields : List (String × Value))
  | condition (operator : Operator) (compute : Value)
  | literal (serial : Nat) (value : Value)
  | userPath (serial : Nat) (path : String)
  /-- A list, tuple or map that holds itself, known by a serial number. -/
  | cyclic (serial : Nat) (value : Value)
  deriving Repr, Inhabited

namespace Value

open Number (Numeral Layout)

def ofNat (n : Nat) : Value := .int n

/-- The value itself, also if it holds itself. -/
def opened : Value → Value
  | .cyclic _ v => v
  | v => v

/-- The number that a value counts as where names are compared. -/
def numeral? : Value → Option Numeral
  | .bool b => some (.integral (if b then 1 else 0))
  | .int i => some (.integral i)
  | .float x => some x.numeral
  | _ => none

def isMap : Value → Bool
  | .map _ => true
  | .cyclic _ v => v.isMap
  | _ => false

/-- Absent, zero and empty values do not count as given. -/
def isTruthy : Value → Bool
  | .null => false
  | .bool b => b
  | .int i => i != 0
  | .float x => !x.isZero
  | .text s => !s.isEmpty
  | .bytes b => !b.isEmpty
  | .list items | .tuple items | .set items => !items.isEmpty
  | .map entries => !entries.isEmpty
  | .cyclic _ v => v.isTruthy
  | _ => true

def kind : Value → Kind
  | .null => .null
  | .bool _ => .bool
  | .int _ => .int
  | .float _ => .float
  | .text _ => .text
  | .bytes _ => .bytes
  | .date _ => .date
  | .moment _ => .moment
  | .list _ => .list
  | .tuple _ => .tuple
  | .set _ => .set
  | .map _ => .map
  | .record _ => .record
  | .condition .. => .condition
  | .literal .. => .literal
  | .userPath .. => .userPath
  | .cyclic _ v => v.kind

def typeName (v : Value) : String := v.kind.name

def typePath (v : Value) : String := v.kind.pathName

def qualifiedTypeName (v : Value) : String := v.kind.messageName

mutual

/-- The names in a value: lists and tuples are opened, whatever their depth. -/
def leaves : Value → List Value
  | .list items | .tuple items => leavesOf items
  | v => [v]

def leavesOf : List Value → List Value
  | [] => []
  | v :: rest => v.leaves ++ leavesOf rest

end

/-- What a loop over the value visits; `none` if it cannot be looped over. -/
def elements? : Value → Option (List Value)
  | .text s =>
    some ((Text.Surrogate.codes s.toList).map fun code =>
      .text (String.ofList (Text.Surrogate.held code)))
  | .bytes b => some (b.map fun byte => .int byte.toNat)
  | .list items | .tuple items | .set items => some items
  | .map entries => some (entries.map Prod.fst)
  | .cyclic _ v => v.elements?
  | _ => none

mutual

/-- The part of a value for which it cannot be a key; `none` if it can. -/
def keyObstacle? : Value → Option Value
  | v@(.list _) | v@(.set _) | v@(.map _) | v@(.record _) => some v
  | .tuple items => keyObstacleOf? items
  | .condition _ compute => compute.keyObstacle?
  | .cyclic _ v => v.keyObstacle?
  | _ => none

def keyObstacleOf? : List Value → Option Value
  | [] => none
  | v :: rest => match v.keyObstacle? with
    | some part => some part
    | none => keyObstacleOf? rest

end

end Value

end AccessPolicy
