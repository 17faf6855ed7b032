import AccessPolicy.Json.Value
import AccessPolicy.Policy.Entries
import AccessPolicy.Policy.Signature
import AccessPolicy.Text.Encoded

/-! Responses: what a caller is told of a fault. Dates and bytes are text in them, and a
condition is an object; a computation cannot be told. -/

namespace AccessPolicy

inductive ResponseFault where
  | unknownType (value : Value)
  | brokenText (position length : Nat)
  | cutText (position : Nat)
  | unknownKey (key : Value)
  | surrogates (fault : Text.EncodingFault)
  | brokenKey (fault : Text.Utf8Fault)
  | longKey
  | circular
  | deep
  /-- A code, a message or the name of a detail that is no text. -/
  | notText (value : Value)
  /-- Details that have no names. -/
  | notTable (value : Value)
  deriving Repr

private def unknownTypeText (value : Value) : String :=
  "Unable to serialize unknown type: <class '" ++ value.typePath ++ "'>"

def ResponseFault.message : ResponseFault → String
  | .unknownType value => unknownTypeText value
  | .brokenText position length =>
    "Error serializing to JSON: invalid utf-8 sequence of " ++ toString length ++
      " bytes from index " ++ toString position
  | .cutText position =>
    "Error serializing to JSON: incomplete utf-8 byte sequence from index " ++ toString position
  | .unknownKey key =>
    "Error serializing to JSON: PydanticSerializationError: " ++ unknownTypeText key
  | .surrogates fault => "Error serializing to JSON: UnicodeEncodeError: " ++ fault.message
  | .brokenKey fault =>
    "Error serializing to JSON: UnicodeDecodeError: " ++ fault.messageWith "invalid utf-8"
  | .longKey => "Error serializing to JSON: ValueError: " ++ Number.longNumberMessage
  | .circular =>
    "Error serializing to JSON: ValueError: Circular reference detected (id repeated)"
  | .deep => "Error serializing to JSON: ValueError: Circular reference detected (depth exceeded)"
  | .notText _ => "Input should be a valid string"
  | .notTable _ => "Input should be a valid dictionary"

namespace Value

def responseText (bytes : List UInt8) : Except ResponseFault String :=
  match Text.ofUtf8 bytes with
  | .ok decoded => .ok decoded
  | .error fault =>
    if fault.reason = .endOfData then .error (.cutText fault.position)
    else .error (.brokenText fault.position fault.broken.length)

mutual

/-- The name of a field. Numbers that have no value have no name of their own, and the
parts of a tuple are joined by commas. -/
def responseKey : Value → Except ResponseFault String
  | .bool b => .ok (if b then "true" else "false")
  | .float (.nan _) | .float (.infinite _) => .ok "None"
  | .bytes content =>
    match Text.ofUtf8 content with
    | .ok decoded => .ok decoded
    | .error fault => .error (.brokenKey fault)
  | .moment m => .ok m.short
  | .tuple parts => do return ",".intercalate (← responseKeys parts)
  | key@(.literal ..) | key@(.userPath ..) => .error (.unknownKey key)
  | key => if key.holdsLongNumber then .error .longKey else .ok key.plain

def responseKeys : List Value → Except ResponseFault (List String)
  | [] => .ok []
  | part :: rest => do
    let name ← part.responseKey
    return name :: (← responseKeys rest)

end

/-- How many values may stand within one another. -/
def responseDepth : Nat := 255

mutual

/-- A value in a response that has room for the given number of values within one another. -/
def responseJson (room : Nat) (value : Value) : Except ResponseFault Json :=
  if room = 0 then .error .deep
  else match value with
    | .null => .ok .null
    | .bool b => .ok (.bool b)
    | .int i => .ok (.int i)
    | .float x => .ok (.float x)
    | .text s =>
      match Text.EncodingFault.ofText? s with
      | none => .ok (.text s)
      | some fault => .error (.surrogates fault)
    | .bytes content => do return .text (← responseText content)
    | .date d => .ok (.text d.iso)
    | .moment m => .ok (.text m.short)
    | .list items | .tuple items | .set items => do return .list (← responseItems (room - 1) items)
    | .map entries => do return .object (← responseFields (room - 1) entries)
    | .condition operator compute =>
      -- An operator takes the room of two: its own and that of its word.
      if room < 3 then .error .deep
      else do
        return .object
          [("operator", .text operator.tag), ("compute", ← compute.responseJson (room - 1))]
    | .cyclic _ value => do
      let _ ← value.responseJson room
      .error .circular
    | value => .error (.unknownType value)

def responseItems (room : Nat) : List Value → Except ResponseFault (List Json)
  | [] => .ok []
  | item :: rest => do
    let item ← item.responseJson room
    return item :: (← responseItems room rest)

def responseFields (room : Nat) : List (Value × Value) → Except ResponseFault (List (String × Json))
  | [] => .ok []
  | (key, value) :: rest => do
    let name ← key.responseKey
    let value ← value.responseJson room
    return (name, value) :: (← responseFields room rest)

end

end Value

/-- What is told of a fault: a code, a message and details, which should be by name. -/
structure Report where
  code : Value
  message : Value
  details : Value
  /-- The source that is to blame, null if none is named. -/
  source : Value := .null
  deriving Repr

/-- The kinds of report: of any fault, of a fault in a policy, and of one in its text. -/
inductive ReportKind where
  | general
  | policy
  | syntactic
  deriving DecidableEq, Repr

namespace ReportKind

def name : ReportKind → String
  | .general => "AccessLayerException"
  | .policy => "DSLError"
  | .syntactic => "DSLSyntaxError"

def signature : ReportKind → Signature
  | .general => ⟨["code", "message"], ["details"], false, false⟩
  | .policy => ⟨[], ["message", "details", "code"], false, false⟩
  | .syntactic => ⟨[], ["message", "source", "details"], false, false⟩

end ReportKind

namespace Report

def tableOf (details : Value) : Except Fault (Table Value) :=
  if details.isTruthy then details.toTable else .ok .empty

def ofDetails (details : Value) : Value := if details.isTruthy then details else .map []

/-- The report of a kind on what is given. A source is named before the message and among
the details. -/
def ofArguments (kind : ReportKind) (given : Given Value) : Except Fault Report := do
  let valueOr (name default : String) : Value :=
    (given.get? name).getD (.text default)
  let details := given.value "details"
  match kind with
  | .general => return ⟨given.value "code", given.value "message", ofDetails details, .null⟩
  | .policy =>
    return ⟨valueOr "code" "DSL_ERROR", valueOr "message" "Invalid authorization DSL",
      ofDetails details, .null⟩
  | .syntactic =>
    let details ← tableOf details
    let code := Value.text "DSL_SYNTAX_ERROR"
    let message := valueOr "message" "Illegal DSL syntax"
    match given.value "source" with
    | .null => return ⟨code, message, .map details.entries, .null⟩
    | source =>
      return ⟨code, .text (source.plain ++ ": " ++ message.plain),
        .map (details.put (.text "source") source).entries, source⟩

def make (kind : ReportKind) (named : List (String × Value)) : Except Fault Report :=
  match Given.bind (kind.name ++ ".__init__") kind.signature [] named with
  | .ok given => ofArguments kind given
  | .error fault => .error (.usage fault)

def ofFault (code : String) (fault : Fault) : Report :=
  ⟨.text code, .text fault.message,
    .map (fault.details.map fun (name, value) => (.text name, value)), .null⟩

end Report

structure Response where
  code : String
  message : String
  details : Table Value
  deriving Repr

namespace Response

/-- A name is text, or bytes that are text in UTF-8. -/
def nameOf (value : Value) : Except ResponseFault String :=
  match value with
  | .text name => .ok name
  | .bytes content =>
    match Text.ofUtf8 content with
    | .ok decoded => .ok decoded
    | .error _ => .error (.notText value)
  | value => .error (.notText value)

def named (done : Table Value) : List (Value × Value) → Except ResponseFault (Table Value)
  | [] => .ok done
  | (key, value) :: rest => do named (done.put (.text (← nameOf key)) value) rest

def ofReport (report : Report) : Except ResponseFault Response := do
  let code ← nameOf report.code
  let message ← nameOf report.message
  match report.details.opened with
  | .map entries => return ⟨code, message, ← named .empty entries⟩
  | details => .error (.notTable details)

def json (response : Response) : Except ResponseFault Json := do
  let room := Value.responseDepth
  return .object
    [("code", ← (Value.text response.code).responseJson room),
     ("message", ← (Value.text response.message).responseJson room),
     ("details", .object (← Value.responseFields room response.details.entries))]

def text (response : Response) : Except ResponseFault String :=
  response.json.map (Json.indented .unicode 0)

end Response

end AccessPolicy
