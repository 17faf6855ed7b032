import AccessPolicy.Text.Case
import AccessPolicy.Value.UserPath
import AccessPolicy.Yaml.Base64
import AccessPolicy.Yaml.Tag

/-! Values of scalars under their tags. -/

namespace AccessPolicy.Yaml

open Number (Binary64)

inductive ScalarFault where
  | misspelled (problem : Misspelling)
  | misconstructed (problem : Misconstruction)
  deriving DecidableEq, Repr

abbrev Scalar := Except ScalarFault Value

namespace Scalar

private def misspelled {α : Type} (problem : Misspelling) : Except ScalarFault α :=
  .error (.misspelled problem)

def ofBool (text : String) : Scalar :=
  let word := Text.lowercase text
  if ["yes", "true", "on"].contains word then .ok (.bool true)
  else if ["no", "false", "off"].contains word then .ok (.bool false)
  else misspelled (.boolean word)

private def int (base : Nat) (text : List Char) : Except ScalarFault Int :=
  match Number.readInt base text with
  | .ok i => .ok i
  | .error .invalid => misspelled (.integer base (String.ofList text))
  | .error (.tooLong digits) => misspelled (.longInteger digits)

private def float (text : List Char) : Except ScalarFault Binary64 :=
  match Number.readFloat? text with
  | some x => .ok x
  | none => misspelled (.float (String.ofList text))

private def magnitude (text : List Char) : Except ScalarFault Int :=
  match text with
  | [] => misspelled .emptyNumber
  | '0' :: 'b' :: digits => int 2 digits
  | '0' :: 'x' :: digits => int 16 digits
  | ['0'] => .ok 0
  | '0' :: _ => int 8 text
  | _ =>
    if text.contains ':' then do
      let parts ← (text.splitOn ':').mapM (int 10)
      return parts.foldl (fun n part => n * 60 + part) 0
    else int 10 text

/-- Underscores do not count. A sign stands before the digits, then a mark of the base;
parts between colons are digits in base sixty. -/
def ofInt (text : String) : Scalar := do
  let text := text.toList.filter (· != '_')
  if text.isEmpty then misspelled .emptyNumber
  else
    let (negative, rest) := Number.splitSign text
    let n ← magnitude rest
    return .int (if negative then -n else n)

/-- The sum of the parts, each times its power of sixty, from the last part on. -/
private def sexagesimal (sum : Binary64) (power : Nat) :
    List Binary64 → Except ScalarFault Binary64
  | [] => .ok sum
  | part :: rest =>
    match Binary64.ofInt power with
    | .infinite _ => misspelled .longFloat
    | weight => sexagesimal (sum.add (part.mul weight)) (power * 60) rest

/-- The case of letters does not count either. The word `.nan` always names one and the
same datum; what is not a number for another reason is told apart by the serial. -/
def ofFloat (serial : Nat) (text : String) : Scalar := do
  let text := (Text.lowercase (String.ofList (text.toList.filter (· != '_')))).toList
  if text.isEmpty then misspelled .emptyNumber
  else
    let (negative, rest) := Number.splitSign text
    let x ←
      if rest == ".inf".toList then .ok (.infinite false)
      else if rest == ".nan".toList then .ok (.nan 0)
      else if rest.contains ':' then do
        let parts ← (rest.splitOn ':').mapM float
        (sexagesimal (.zero false) 1 parts.reverse).map (·.withPayload (serial + 1))
      else (float rest).map (·.withPayload (serial + 1))
    return .float (if negative then x.neg else x)

def ofBinary (text : String) : Scalar :=
  match Base64.decode text.toList with
  | .ok bytes => .ok (.bytes bytes)
  | .error problem => .error (.misconstructed problem)

private def calendar {α : Type} (result : Except Time.Fault α) : Except ScalarFault α :=
  match result with
  | .ok a => .ok a
  | .error fault => misspelled (.calendar fault)

def ofTimestamp (text : String) : Scalar :=
  match Stamp.read (Tag.withoutFinalBreak text.toList) with
  | none => misspelled .timestamp
  | some stamp =>
    match stamp.time with
    | none => do return .date (← calendar stamp.date)
    | some time => do return .moment (← calendar (stamp.moment time))

def ofExpression (operator : Operator) (serial : Nat) (text : String) : Scalar :=
  match UserPath.ofExpression? text with
  | some path => .ok (.condition operator (.userPath serial path))
  | none => .error (.misconstructed (.expression (Text.quoted text)))

def ofTag? (tag : Tag) (serial : Nat) (text : String) : Option Scalar :=
  match tag with
  | .null => some (.ok .null)
  | .bool => some (ofBool text)
  | .int => some (ofInt text)
  | .float => some (ofFloat serial text)
  | .binary => some (ofBinary text)
  | .timestamp => some (ofTimestamp text)
  | .text => some (.ok (.text text))
  | .operator operator => some (ofExpression operator serial text)
  | _ => none

end Scalar

end AccessPolicy.Yaml
