import AccessPolicy.Text.Utf8
import AccessPolicy.Value.UserPath
import AccessPolicy.Yaml.Fault

/-! Why a policy is refused. A fault gives a message, and some give details by name. -/

namespace AccessPolicy

/-- A statement stands outside the block that it needs, or lacks what the block needs. -/
inductive ScopeFault where
  | includesOutsidePrivilege (privileges : List Value)
  | includesOutsideRole (roles : List Value)
  | grantOutsideRole (context : Value)
  | emptyGrant (role context : Value)
  | descriptionOutsideRole
  | titleOutsideRole
  | toOutsideGrant (privileges : List Value)
  | conditionOutsideGrant
  | conditionsNotMapping (given : Value)
  deriving Repr

namespace ScopeFault

def message : ScopeFault → String
  | .includesOutsidePrivilege _ => "includes only in privilege block"
  | .includesOutsideRole _ => "includes only in role blocks"
  | .grantOutsideRole _ => "has_permission_on only allowed in role blocks"
  | .emptyGrant _ _ => "has_permission_on either needs a block or to option"
  | .descriptionOutsideRole => "description only allowed in role blocks"
  | .titleOutsideRole => "title only allowed in role blocks"
  | .toOutsideGrant _ => "to only allowed in has_permission_on blocks"
  | .conditionOutsideGrant => "if_attribute only in has_permission blocks"
  | .conditionsNotMapping _ => "if_attribute expects a mapping of attribute conditions"

def details : ScopeFault → List (String × Value)
  | .includesOutsidePrivilege privileges => [("privileges", .list privileges)]
  | .includesOutsideRole roles => [("roles", .list roles)]
  | .grantOutsideRole context => [("context", context)]
  | .emptyGrant role context => [("role", role), ("context", context)]
  | .toOutsideGrant privileges => [("privileges", .list privileges)]
  | .conditionsNotMapping given => [("got", .text given.typeName)]
  | .descriptionOutsideRole | .titleOutsideRole | .conditionOutsideGrant => []

end ScopeFault

inductive FormFault where
  | notBlocks (given : Value)
  | unknownBlock (name : Value)
  | notStatements (given : Value)
  | notStatement (given : Value)
  | unknownStatement (keyword : Value)
  | unwantedOptions (keyword : String) (options : List Value)
  | notNames (keyword : String) (given : Value)
  | notUserPath (given : Value)
  | notPair (place length : Nat)
  | notByte
  deriving Repr

def FormFault.message : FormFault → String
  | .notBlocks given => "expected a mapping of blocks, got " ++ given.typeName
  | .unknownBlock name => "undefined block '" ++ name.plain ++ "'"
  | .notStatements given => "expected a list of statements, got " ++ given.typeName
  | .notStatement given => "expected a statement mapping, got " ++ given.source
  | .unknownStatement keyword => "undefined statement '" ++ keyword.plain ++ "'"
  | .unwantedOptions keyword options =>
    "'" ++ keyword ++ "' takes no options, got: " ++ ", ".intercalate (options.map Value.plain)
  | .notNames keyword given =>
    "'" ++ keyword ++ "' expects a name or a list of names, got " ++ given.source
  | .notUserPath given => "attribute expression must start with 'user': " ++ given.source
  | .notPair place length =>
    "dictionary update sequence element #" ++ toString place ++ " has length " ++
      toString length ++ "; 2 is required"
  | .notByte => "byte must be in range(0, 256)"

def FormFault.quoted : FormFault → List Value
  | .unknownBlock value | .notStatement value | .unknownStatement value | .notNames _ value
  | .notUserPath value => [value]
  | .unwantedOptions _ options => options
  | .notBlocks _ | .notStatements _ | .notPair .. | .notByte => []

inductive UsageFault where
  | unsuitableKey (part : Value)
  | notMapping (given : Value)
  | notCollection (given : Value)
  | notSequence (place : Nat)
  | notContainer (given : Value)
  | notBytes (given : Value)
  | notComputation (owner : String)
  | unwritableKey (key : Value)
  | unwritableField (key : Value)
  | unwritableValue (given : Value)
  | unknownOptions (names : List Value)
  | namesNotText
  | unknownArgument (operation name : String)
  | repeatedArgument (operation name : String)
  | excessArguments (operation : String) (required possible given : Nat)
  | missingArguments (operation : String) (names : List String)
  | wrongCount (needed given : Nat)
  | wrongCountOf (operation : String) (needed given : Nat)
  | namedArguments (operation : String)
  | fieldNameNotText (name : Value)
  | notKind (given : Value)
  | notFieldTable (given : Value)
  | fixedKind
  | missingKind
  | noKindToMake (given : Value)
  | formatNotText (given : Value)
  | unknownFormat (operation : String)
  | notIterated (owner : Kind) (name : String) (given : Kind)
  | notSubscriptable (owner : Kind)
  | notTextPart (given : Value)
  | notIndex (given : Value)
  | fixedItems (given : Value)
  | noLength (given : Value)
  deriving Repr

private def plural (n : Nat) : String := if n = 1 then "" else "s"

private def enumeration (names : List String) : String :=
  match names.map (fun name => "'" ++ name ++ "'") with
  | [] => ""
  | [name] => name
  | [first, last] => first ++ " and " ++ last
  | names => ", ".intercalate names.dropLast ++ ", and " ++ names.getLastD ""

def UsageFault.message : UsageFault → String
  | .unsuitableKey part => "unhashable type: '" ++ part.qualifiedTypeName ++ "'"
  | .notMapping given => "'" ++ given.qualifiedTypeName ++ "' object is not a mapping"
  | .notCollection given => "'" ++ given.qualifiedTypeName ++ "' object is not iterable"
  | .notSequence place =>
    "cannot convert dictionary update sequence element #" ++ toString place ++ " to a sequence"
  | .notContainer given =>
    "argument of type '" ++ given.qualifiedTypeName ++ "' is not iterable"
  | .notBytes given =>
    "a bytes-like object is required, not '" ++ given.qualifiedTypeName ++ "'"
  | .notComputation owner => owner ++ " is not callable"
  | .unwritableKey key =>
    "keys must be str, int, float, bool or None, not " ++ key.qualifiedTypeName
  | .unwritableField key => "keys must be str, int, float, bool or None, not " ++ key.typeName
  | .unwritableValue given => "Object of type " ++ given.typeName ++ " is not JSON serializable"
  | .unknownOptions names =>
    "privilege got unexpected options: " ++
      ", ".intercalate ((names.map Value.plain).mergeSort Text.Surrogate.precedes)
  | .namesNotText => "keywords must be strings"
  | .unknownArgument operation name =>
    operation ++ "() got an unexpected keyword argument '" ++ name ++ "'"
  | .repeatedArgument operation name =>
    operation ++ "() got multiple values for argument '" ++ name ++ "'"
  | .excessArguments operation required possible given =>
    operation ++ "() takes " ++
      (if required = possible then toString possible ++ " positional argument" ++ plural possible
       else "from " ++ toString required ++ " to " ++ toString possible ++
         " positional arguments") ++
      " but " ++ toString given ++ (if given = 1 then " was given" else " were given")
  | .missingArguments operation names =>
    operation ++ "() missing " ++ toString names.length ++ " required positional argument" ++
      plural names.length ++ ": " ++ enumeration names

  | .wrongCount needed given =>
    (if needed = 2 then " " else "") ++ "expected " ++ toString needed ++ " argument" ++
      plural needed ++ ", got " ++ toString given
  | .wrongCountOf operation needed given =>
    operation ++ "() takes " ++
      (if needed = 0 then "no arguments" else "exactly one argument") ++ " (" ++ toString given ++
      " given)"
  | .namedArguments operation => operation ++ "() takes no keyword arguments"
  | .fieldNameNotText name =>
    "attribute name must be string, not '" ++ name.qualifiedTypeName ++ "'"
  | .notKind given =>
    "__class__ must be set to a class, not '" ++ given.qualifiedTypeName ++ "' object"
  | .notFieldTable given =>
    "__dict__ must be set to a dictionary, not a '" ++ given.qualifiedTypeName ++ "'"
  | .fixedKind => "can't delete __class__ attribute"
  | .missingKind => "object.__new__(): not enough arguments"
  | .noKindToMake given =>
    "object.__new__(X): X is not a type object (" ++ given.qualifiedTypeName ++ ")"
  | .formatNotText given =>
    "__format__() argument must be str, not " ++ given.qualifiedTypeName
  | .unknownFormat operation => "unsupported format string passed to " ++ operation
  | .notIterated owner name given =>
    owner.messageName ++ "." ++ name ++ "() returned a non-iterable (type " ++
      given.messageName ++ ")"
  | .notSubscriptable owner => "'" ++ owner.messageName ++ "' object is not subscriptable"
  | .notTextPart given =>
    "'in <string>' requires string as left operand, not " ++ given.qualifiedTypeName
  | .notIndex given => "list indices must be integers or slices, not " ++ given.qualifiedTypeName
  | .fixedItems given =>
    "'" ++ given.qualifiedTypeName ++ "' object does not support item assignment"
  | .noLength given => "object of type '" ++ given.qualifiedTypeName ++ "' has no len()"

def UsageFault.quoted : UsageFault → List Value
  | .unknownOptions names => names
  | _ => []

inductive IndexFault where
  | absent
  | notAssignable
  | tooLarge
  deriving DecidableEq, Repr

def IndexFault.message : IndexFault → String
  | .absent => "list index out of range"
  | .notAssignable => "list assignment index out of range"
  | .tooLarge => "cannot fit 'int' into an index-sized integer"

inductive Fault where
  | scope (problem : ScopeFault)
  | form (problem : FormFault)
  | usage (problem : UsageFault)
  /-- A number is too long to be written. -/
  | longNumber
  /-- A value that holds itself cannot be written out. -/
  | circular
  | document (problem : Yaml.Fault)
  | encoding (problem : Text.Utf8Fault)
  /-- Raised by a caller's own body. -/
  | raised (message : String)
  | path (problem : UserPath.Fault)
  | index (problem : IndexFault)
  /-- A source is refused for another fault in it. -/
  | illegal (source : Option String) (cause : Fault)
  deriving Repr

namespace Fault

def message : Fault → String
  | .scope problem => problem.message
  | .form problem => problem.message
  | .usage problem => problem.message
  | .longNumber => Number.longNumberMessage
  | .circular => "Circular reference detected"
  | .document problem => problem.message
  | .encoding problem => problem.message
  | .raised message => message
  | .path problem => problem.message
  | .index problem => problem.message
  | .illegal source cause =>
    ((source.map (· ++ ": ")).getD "") ++ "Illegal DSL syntax: " ++ cause.message

def quoted : Fault → List Value
  | .form problem => problem.quoted
  | .usage problem => problem.quoted
  | _ => []

/-- The fault that arises when a fault is told: a message holds no number that is too long
to be written. -/
def told (fault : Fault) : Fault :=
  if fault.quoted.any Value.holdsLongNumber then .longNumber else fault

/-- Faults of this library's own have a code, which callers can tell them by. -/
def code? : Fault → Option String
  | .scope _ => some "DSL_ERROR"
  | .illegal _ _ => some "DSL_SYNTAX_ERROR"
  | _ => none

def details : Fault → List (String × Value)
  | .scope problem => problem.details
  | .illegal (some source) _ => [("source", .text source)]
  | _ => []

/-- Faults that make a source illegal: a wrong form, a wrong type, or text that cannot be
read. Scalars that fail in another way are passed on as they are. -/
def makesIllegal : Fault → Bool
  | .form _ | .usage _ | .longNumber | .circular | .encoding _ => true
  | .document (.misspelled problem) => problem.isRefusal
  | .document _ => true
  | _ => false

end Fault

/-- What a fault is caught as: all that callers can tell it by without reading its message. -/
inductive FaultClass where
  | scope
  | illegal
  | value
  | type
  | key
  | field
  | index
  | overflow
  | decoding
  | raised
  | malformation
  | misreference
  | misconstruction
  deriving DecidableEq, Repr

/-- A scalar that is misspelled fails as the step that reads it does. -/
def Yaml.Misspelling.faultClass : Yaml.Misspelling → FaultClass
  | .integer .. | .longInteger _ | .float _ | .calendar _ | .codePoint => .value
  | .longFloat | .longCodePoint => .overflow
  | .emptyNumber => .index
  | .boolean _ => .key
  | .timestamp => .field
  | .timestampOfMapping => .type

def Yaml.Fault.faultClass : Yaml.Fault → FaultClass
  | .malformed _ _ => .malformation
  | .misreferenced _ _ => .misreference
  | .misconstructed _ _ => .misconstruction
  | .misspelled problem => problem.faultClass

def UserPath.Fault.faultClass : UserPath.Fault → FaultClass
  | .missingKey _ => .key
  | .missingField .. | .missingName _ | .fixedField .. => .field

def Fault.faultClass : Fault → FaultClass
  | .scope _ => .scope
  | .form _ | .longNumber | .circular => .value
  | .usage _ => .type
  | .document problem => problem.faultClass
  | .encoding _ => .decoding
  | .raised _ => .raised
  | .path problem => problem.faultClass
  | .index _ => .index
  | .illegal _ _ => .illegal

end AccessPolicy
