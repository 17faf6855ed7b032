import AccessPolicy.Policy.Block
import AccessPolicy.Policy.Substitute

/-! What is logged while a policy is read, and where it goes. -/

namespace AccessPolicy

inductive Level where
  | debug
  | info
  | warning
  deriving DecidableEq, Repr

namespace Level

def name : Level → String
  | .debug => "debug"
  | .info => "info"
  | .warning => "warning"

def rank : Level → Nat
  | .debug => 10
  | .info => 20
  | .warning => 30

end Level

inductive LogEvent where
  | privilegeDeclared (privilege context : Value)
  | roleDeclared (role : Value)
  | permissionGranted (role context : Value) (privileges : List Value)
  | sourceRead (label : Option String) (privileges roles rules : Nat)
  | sourceIllegal (label : Option String) (cause : Fault)
  | policyRejected (file code : String)
  deriving Repr

namespace LogEvent

def level : LogEvent → Level
  | .privilegeDeclared .. | .roleDeclared _ | .permissionGranted .. => .debug
  | .sourceRead .. => .info
  | .sourceIllegal .. | .policyRejected .. => .warning

def title : LogEvent → String
  | .privilegeDeclared .. => "Privilege declared"
  | .roleDeclared _ => "Role declared"
  | .permissionGranted .. => "Permission granted"
  | .sourceRead .. => "Authorization DSL parsed"
  | .sourceIllegal .. => "Illegal DSL syntax"
  | .policyRejected .. => "Policy rejected"

def block? : LogEvent → Option Block
  | .privilegeDeclared .. => some .privileges
  | .roleDeclared _ | .permissionGranted .. => some .authorization
  | .sourceRead .. | .sourceIllegal .. | .policyRejected .. => none

def logger : LogEvent → String
  | .privilegeDeclared .. => Block.privileges.loggerName
  | .roleDeclared _ | .permissionGranted .. => Block.authorization.loggerName
  | .sourceRead .. | .sourceIllegal .. => "policy.dsl_reader"
  | .policyRejected .. => "policy.cli"

private def labelValue (label : Option String) : Value := (label.map Value.text).getD .null

def fields : LogEvent → List (String × Value)
  | .privilegeDeclared privilege context => [("privilege", privilege), ("context", context)]
  | .roleDeclared role => [("role", role)]
  | .permissionGranted role context privileges =>
    [("role", role), ("context", context), ("privileges", .list privileges)]
  | .sourceRead label privileges roles rules =>
    [("source", labelValue label), ("privileges", .ofNat privileges), ("roles", .ofNat roles),
     ("rules", .ofNat rules)]
  | .sourceIllegal label cause => [("source", labelValue label), ("error", .text cause.message)]
  | .policyRejected file code => [("source", .text file), ("code", .text code)]

end LogEvent

/-! ## Services -/

/-- An event with the service that its logger belongs to: what stands before the first
point of the logger's name. Names without a point belong to no service. -/
def withService (event : Table Value) : Except Fault (Table Value) := do
  let logger := (event.get? (.text "logger")).getD (.text "")
  if ← logger.holds? (.text ".") then
    match logger with
    | .text name =>
      let service := String.ofList (name.toList.takeWhile (· != '.'))
      return event.put (.text "service") (.text service)
    | logger => .error (.path (.missingField (Place.value logger).owner "split"))
  else return event

namespace Value

def keyWritingFault? (key : Value) : Option Fault :=
  match key with
  | .int i => if Number.isTooLong i then some .longNumber else none
  | .null | .bool _ | .float _ | .text _ => none
  | key => some (.usage (.unwritableKey key))

mutual

/-- Why a value cannot be written out, from what is met first in order of writing. -/
def writingFault? : Value → Option Fault
  | .list items | .tuple items => itemsWritingFault? items
  | .map entries => entriesWritingFault? entries
  | .cyclic _ value => value.writingFault? <|> some .circular
  | value => if value.holdsLongNumber then some .longNumber else none

def itemsWritingFault? : List Value → Option Fault
  | [] => none
  | item :: rest => item.writingFault? <|> itemsWritingFault? rest

def entriesWritingFault? : List (Value × Value) → Option Fault
  | [] => none
  | (key, value) :: rest =>
    key.keyWritingFault? <|> value.writingFault? <|> entriesWritingFault? rest

end

end Value

/-- Where events go: all of them are kept as they are, or those from a rank on are
written out as text. -/
inductive Sink where
  | memory
  | text (threshold : Nat)
  deriving Repr, Inhabited

namespace Sink

def accepts (sink : Sink) (event : LogEvent) : Bool :=
  match sink with
  | .memory => true
  | .text threshold => threshold ≤ event.level.rank

/-- Why an event cannot be written. A label and the lengths of tables always can be. -/
def obstacle? (sink : Sink) (event : LogEvent) : Option Fault :=
  match sink with
  | .memory => none
  | .text _ =>
    match event with
    | .sourceRead .. => none
    | event => event.fields.findSome? fun (_, value) => value.writingFault?

end Sink

end AccessPolicy
