import AccessPolicy.Text.Blank
import AccessPolicy.Value.Equality
import AccessPolicy.Value.Field

/-! Paths into the user that a condition refers to: how an expression names one, and what
it leads to. -/

namespace AccessPolicy.UserPath

/-- The path of an expression: what follows the word `user` and a point after it. Blanks
around the expression do not count. -/
def ofExpression? (expression : String) : Option String :=
  let text := Text.trim expression.toList
  let root := text.takeWhile (· != '.')
  if root = "user".toList then some (String.ofList (text.drop (root.length + 1))) else none

def splitPoints : List Char → List (List Char)
  | [] => [[]]
  | c :: rest =>
    if c = '.' then [] :: splitPoints rest
    else match splitPoints rest with
      | first :: others => (c :: first) :: others
      | [] => [[c]]

/-- The names between the points of a path; empty ones do not count. -/
def segments (path : String) : List String :=
  ((splitPoints path.toList).filter (!·.isEmpty)).map String.ofList

private def entry (name : String) (value : Value) : Value × Value := (.text name, value)

/-- The parts of a number: it is its own real part, and a whole number its own numerator. -/
private def intPart? (i : Int) (name : String) : Option Value :=
  match name with
  | "real" | "numerator" => some (.int i)
  | "imag" => some (.int 0)
  | "denominator" => some (.int 1)
  | _ => none

private def datePart? (date : Time.Date) (name : String) : Option Value :=
  match name with
  | "year" => some (.ofNat date.year)
  | "month" => some (.ofNat date.month)
  | "day" => some (.ofNat date.day)
  | _ => none

private def momentPart? (m : Time.Moment) (name : String) : Option Place :=
  match name with
  | "hour" => some (.value (.ofNat m.hour))
  | "minute" => some (.value (.ofNat m.minute))
  | "second" => some (.value (.ofNat m.second))
  | "microsecond" => some (.value (.ofNat m.microsecond))
  | "fold" => some (.value (.ofNat 0))
  | "tzinfo" => some (if m.offset.isSome then .ofUnknown .offset else .null)
  | name => (datePart? m.date name).map .value

def valuePart? (v : Value) (name : String) : Option Place :=
  match v, name with
  | .bool b, name => (intPart? (if b then 1 else 0) name).map .value
  | .int i, name => (intPart? i name).map .value
  | .float x, "real" => some (.value (.float x))
  | .float _, "imag" => some (.value (.float (.zero false)))
  | .date d, name => (datePart? d name).map .value
  | .moment m, name => momentPart? m name
  | .record _, "__class__" => some (.kind .record)
  | .record fields, "__dict__" =>
    some (.value (.map (fields.map fun (name, value) => entry name value)))
  | .record fields, name => (fields.lookup name).map .value
  | .condition operator _, "operator" => some (.ofOperator operator)
  | .condition _ compute, "compute" => some (.value compute)
  | .condition operator compute, "__dict__" =>
    some (.value (.map [entry "operator" (.text operator.tag), entry "compute" compute]))
  | .literal _ value, "value" => some (.value value)
  | .literal _ value, "__dict__" => some (.value (.map [entry "value" value]))
  | .userPath _ path, "path" => some (.value (.text path))
  | .userPath _ path, "segments" => some (.value (.list ((segments path).map .text)))
  | .userPath _ path, "__dict__" =>
    some (.value (.map
      [entry "path" (.text path), entry "segments" (.list ((segments path).map .text))]))
  | _, _ => none

inductive Fault where
  | missingKey (name : String)
  | missingField (owner name : String)
  /-- A name that is missing where nothing is told of the thing that lacks it. -/
  | missingName (name : String)
  /-- A member that cannot be replaced. -/
  | fixedField (kind : Kind) (name : String)
  deriving DecidableEq, Repr

def Fault.message : Fault → String
  | .missingKey name => Text.quoted name
  | .missingField owner name => owner ++ " has no attribute '" ++ name ++ "'"
  | .missingName name => name
  | .fixedField kind name =>
    "attribute '" ++ name ++ "' of '" ++ kind.messageName ++ "' objects is not writable"

def missing (place : Place) (name : String) : Fault :=
  match place with
  | .kind k =>
    if k.ofKind = .enumerationType || name = "__abstractmethods__" then .missingName name
    else .missingField place.owner name
  | _ => .missingField place.owner name

/-- The member of the given name of a thing. What is called on a thing shows the members of
its function too. -/
def field (place : Place) (name : String) : Except Fault Place :=
  match place with
  | .kind k => (k.field? name).elim (.error (missing place name)) .ok
  | .object k parts =>
    match parts.lookup name <|> k.memberOf? place name with
    | some found => .ok found
    | none =>
      let behind := (k.behind? parts).getD place
      (behind.shownMember? name).elim (.error (missing behind name)) .ok
  | .table k _ => (k.memberOf? place name).elim (.error (missing place name)) .ok
  | .value v =>
    (valuePart? v.opened name <|> v.kind.memberOf? place name).elim
      (.error (missing place name)) .ok

/-- The entry of a table, or the member of anything else, of the given name. -/
def step (place : Place) (name : String) : Except Fault Place :=
  match place with
  | .table _ entries => (entries.lookup name).elim (.error (.missingKey name)) .ok
  | .value v =>
    match v.opened with
    | .map entries =>
      match entries.find? fun (key, _) => key.same (.text name) with
      | some (_, value) => .ok (.value value)
      | none => .error (.missingKey name)
    | _ => field place name
  | place => field place name

def follow : List String → Place → Except Fault Place
  | [], place => .ok place
  | name :: rest, place => do follow rest (← step place name)

theorem follow_append (p q : List String) (place : Place) :
    follow (p ++ q) place = (follow p place).bind (follow q) := by
  induction p generalizing place with
  | nil => rfl
  | cons name rest ih =>
    show (step place name).bind (follow (rest ++ q)) =
      ((step place name).bind (follow rest)).bind _
    cases step place name with
    | error _ => rfl
    | ok inner => exact ih inner

end AccessPolicy.UserPath
