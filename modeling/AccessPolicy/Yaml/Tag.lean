import AccessPolicy.Value.Render
import AccessPolicy.Yaml.Cursor
import AccessPolicy.Yaml.Stamp

/-! Tags of nodes, and the tag that the text of a plain scalar shows. -/

namespace AccessPolicy.Yaml

inductive Tag where
  | null
  | bool
  | int
  | float
  | binary
  | timestamp
  | omap
  | pairs
  | set
  | text
  | sequence
  | mapping
  | merge
  | value
  | operator (operator : Operator)
  | other (name : String)
  deriving DecidableEq, Repr

namespace Tag

def shared : List (String × Tag) :=
  [("null", .null), ("bool", .bool), ("int", .int), ("float", .float), ("binary", .binary),
   ("timestamp", .timestamp), ("omap", .omap), ("pairs", .pairs), ("set", .set), ("str", .text),
   ("seq", .sequence), ("map", .mapping), ("merge", .merge), ("value", .value)]

def sharedName (word : String) : String := "tag:yaml.org,2002:" ++ word

def named : List (String × Tag) :=
  shared.map (fun (word, tag) => (sharedName word, tag)) ++
    [Operator.is, .contains].map fun operator => ("!" ++ operator.tag, Tag.operator operator)

def ofName (name : String) : Tag := (named.lookup name).getD (.other name)

def name : Tag → String
  | .other name => name
  | tag => ((named.find? fun (_, known) => known == tag).map Prod.fst).getD ""

/-! ## Tags that texts show -/

private def isBool (text : List Char) : Bool :=
  ["yes", "Yes", "YES", "no", "No", "NO", "true", "True", "TRUE", "false", "False", "FALSE",
   "on", "On", "ON", "off", "Off", "OFF"].contains (String.ofList text)

private def isNull (text : List Char) : Bool :=
  ["~", "null", "Null", "NULL"].contains (String.ofList text)

private def isDigitOrGap (c : Char) : Bool := c.isDigit || c == '_'

private def isDigits : List Char → Bool
  | first :: rest => first.isDigit && rest.all isDigitOrGap
  | [] => false

/-- A part of a number in base sixty: up to 59, in one or two digits. -/
private def isSixtieth : List Char → Bool
  | [d] => d.isDigit
  | [t, d] => '0' ≤ t && t ≤ '5' && d.isDigit
  | _ => false

private def splitColons (text : List Char) : List (List Char) := text.splitOn ':'

private def isPositiveStart : List Char → Bool
  | first :: _ => '1' ≤ first && first ≤ '9'
  | [] => false

private def isInt (text : List Char) : Bool :=
  let body := (Number.splitSign text).2
  (match body with
    | '0' :: 'b' :: digits =>
      !digits.isEmpty && digits.all fun c => c == '0' || c == '1' || c == '_'
    | '0' :: 'x' :: digits => !digits.isEmpty && digits.all fun c => isHexDigit c || c == '_'
    | ['0'] => true
    | '0' :: digits => digits.all fun c => ('0' ≤ c && c ≤ '7') || c == '_'
    | _ => false) ||
  match splitColons body with
  | first :: rest => isPositiveStart first && isDigits first && rest.all isSixtieth
  | [] => false

private def isExponent : List Char → Bool
  | [] => true
  | mark :: sign :: digits =>
    (mark == 'e' || mark == 'E') && (sign == '+' || sign == '-') && !digits.isEmpty &&
      digits.all Char.isDigit
  | _ => false

/-- A fraction without digits is allowed after a whole part, and a sign only before one. -/
private def isDecimal (text : List Char) : Bool :=
  match text with
  | '.' :: fraction =>
    isDigits (fraction.takeWhile isDigitOrGap) && isExponent (fraction.dropWhile isDigitOrGap)
  | _ =>
    let body := (Number.splitSign text).2
    isDigits (body.takeWhile isDigitOrGap) &&
      match body.dropWhile isDigitOrGap with
      | '.' :: fraction => isExponent (fraction.dropWhile isDigitOrGap)
      | _ => false

private def isSixtiethDecimal (text : List Char) : Bool :=
  let body := (Number.splitSign text).2
  let whole := body.takeWhile (· != '.')
  match body.drop whole.length, splitColons whole with
  | '.' :: fraction, first :: rest =>
    fraction.all isDigitOrGap && isDigits first && !rest.isEmpty && rest.all isSixtieth
  | _, _ => false

private def isFloat (text : List Char) : Bool :=
  isDecimal text || isSixtiethDecimal text ||
    [".inf", ".Inf", ".INF"].contains (String.ofList (Number.splitSign text).2) ||
    [".nan", ".NaN", ".NAN"].contains (String.ofList text)

private def isTimestamp (text : List Char) : Bool :=
  (Stamp.read text).any fun stamp => stamp.time.isSome || stamp.isPadded

/-- A line break at the end of a text does not count. -/
def withoutFinalBreak (text : List Char) : List Char :=
  if text.getLast? == some '\n' then text.dropLast else text

/-- The tag that a text shows. The kinds exclude each other, save that text is what is
left. -/
def shownBy (text : String) : Tag :=
  if text.isEmpty then .null
  else
    let cs := withoutFinalBreak text.toList
    if isBool cs then .bool
    else if isFloat cs then .float
    else if isInt cs then .int
    else if cs == "<<".toList then .merge
    else if isNull cs then .null
    else if isTimestamp cs then .timestamp
    else if cs == ['='] then .value
    else if ["!", "&", "*"].contains (String.ofList cs) then .other (sharedName "yaml")
    else .text

end Tag

end AccessPolicy.Yaml
