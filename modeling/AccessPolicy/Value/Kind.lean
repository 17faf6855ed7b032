/-! The kinds of things that a path can meet: values, the things that values are made of or
give, and the things that read a policy. -/

namespace AccessPolicy

inductive Kind where
  | object
  | type
  | null
  | bool
  | int
  | float
  | text
  | bytes
  | date
  | moment
  | list
  | tuple
  | set
  | map
  | record
  | condition
  | operator
  | enumeration
  | enumerationType
  | literal
  | userPath
  | span
  | zone
  | offset
  /-- What is written as a part of this program, alone or with the thing it is called on. -/
  | function
  | method
  /-- What a kind of value can do by itself, with the value that it is called on. -/
  | operation
  | hook
  /-- The same as the kind itself holds it. -/
  | operationOfKind
  | hookOfKind
  | makerOfKind
  | computedOfKind
  | storedOfKind
  /-- A table that is only for reading. -/
  | view
  | code
  | rule
  | privilegesReader
  | authorizationReader
  | logger
  | boundLogger
  | boundLoggerBase
  deriving DecidableEq, Repr, Inhabited

namespace Kind

def name : Kind → String
  | .object => "object"
  | .type => "type"
  | .null => "NoneType"
  | .bool => "bool"
  | .int => "int"
  | .float => "float"
  | .text => "str"
  | .bytes => "bytes"
  | .date => "date"
  | .moment => "datetime"
  | .list => "list"
  | .tuple => "tuple"
  | .set => "set"
  | .map => "dict"
  | .record => "SimpleNamespace"
  | .condition => "AttributeCondition"
  | .operator => "ConditionOperator"
  | .enumeration => "Enum"
  | .enumerationType => "EnumType"
  | .literal => "Literal"
  | .userPath => "UserAttribute"
  | .span => "timedelta"
  | .zone => "tzinfo"
  | .offset => "timezone"
  | .function => "function"
  | .method => "method"
  | .operation => "builtin_function_or_method"
  | .hook => "method-wrapper"
  | .operationOfKind => "method_descriptor"
  | .hookOfKind => "wrapper_descriptor"
  | .makerOfKind => "classmethod_descriptor"
  | .computedOfKind => "getset_descriptor"
  | .storedOfKind => "member_descriptor"
  | .view => "mappingproxy"
  | .code => "code"
  | .rule => "AuthorizationRule"
  | .privilegesReader => "PrivilegesReader"
  | .authorizationReader => "AuthorizationRulesReader"
  | .logger => "BoundLoggerLazyProxy"
  | .boundLogger => "BoundLoggerFilteringAtNotset"
  | .boundLoggerBase => "BoundLoggerBase"

def moduleName : Kind → String
  | .date | .moment | .span | .zone | .offset => "datetime"
  | .record => "types"
  | .enumeration | .enumerationType => "enum"
  | .condition | .operator | .rule => "service_policy.app.reader.models"
  | .literal | .userPath => "service_policy.app.reader.conditions"
  | .privilegesReader => "service_policy.app.reader.privileges"
  | .authorizationReader => "service_policy.app.reader.rules"
  | .logger => "structlog._config"
  | .boundLogger | .boundLoggerBase => "structlog._base"
  | _ => "builtins"

def pathName (kind : Kind) : String :=
  if kind.moduleName = "builtins" then kind.name else kind.moduleName ++ "." ++ kind.name

def messageName : Kind → String
  | kind@.date | kind@.moment | kind@.span | kind@.zone | kind@.offset | kind@.record =>
    kind.pathName
  | kind => kind.name

/-- The kinds whose members a kind has too, the nearest first. -/
def ancestors : Kind → List Kind
  | .object => []
  | .bool => [.int, .object]
  | .moment => [.date, .object]
  | .offset => [.zone, .object]
  | .operator => [.text, .enumeration, .object]
  | .enumerationType => [.type, .object]
  | .boundLogger => [.boundLoggerBase, .object]
  | _ => [.object]

def ofKind : Kind → Kind
  | .operator | .enumeration => .enumerationType
  | _ => .type

/-- Kinds that are written as parts of this program, not given with its values. -/
def isWritten : Kind → Bool
  | .condition | .operator | .enumeration | .enumerationType | .literal | .userPath | .rule
  | .privilegesReader | .authorizationReader | .logger | .boundLogger | .boundLoggerBase => true
  | _ => false

end Kind

end AccessPolicy
