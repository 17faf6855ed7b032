import AccessPolicy.Value.Place
import AccessPolicy.Value.Summary

/-! The names that things of each kind answer to. Things that are not written as parts of
this program have members of several sorts, which differ in what they are on a thing and on
its kind. -/

namespace AccessPolicy

structure Function where
  name : String
  isDocumented : Bool := true
  /-- What its last parameters are if they are not given. -/
  defaults : List Value := []
  /-- The parameters whose kinds are noted. -/
  annotated : List String := []

structure Members where
  hooks : List String := []
  operations : List String := []
  /-- Operations on the kind itself. -/
  makers : List String := []
  statics : List String := []
  functions : List Function := []
  /-- Functions on the kind itself. -/
  makerFunctions : List Function := []
  /-- What is computed for a thing, or stored with it, and of which kind it is. -/
  computed : List (String × Kind) := []
  stored : List (String × Kind) := []
  /-- What is the same for all things of the kind. -/
  constants : List (String × Place) := []

namespace Kind

private def splitBlanks : List Char → List (List Char)
  | [] => [[]]
  | c :: rest =>
    if c = ' ' then [] :: splitBlanks rest
    else match splitBlanks rest with
      | first :: others => (c :: first) :: others
      | [] => [[c]]

private def words (text : String) : List String := (splitBlanks text.toList).map String.ofList

/-- Text that no path has a use for. -/
private def unread : Place := .ofUnknown .text

private def givenMembers : Kind → Members
  | .object =>
    { hooks := words
        ("__repr__ __hash__ __str__ __getattribute__ __setattr__ __delattr__ __lt__ __le__ " ++
          "__eq__ __ne__ __gt__ __ge__ __init__")
      operations := words "__reduce_ex__ __reduce__ __getstate__ __format__ __sizeof__ __dir__"
      makers := words "__subclasshook__ __init_subclass__"
      statics := words "__new__"
      computed := [("__class__", .type)] }
  | .type =>
    { hooks := words
        ("__repr__ __call__ __getattribute__ __setattr__ __delattr__ __init__ __or__ __ror__")
      operations := words
        ("mro __subclasses__ __instancecheck__ __subclasscheck__ __dir__ __sizeof__")
      makers := words "__prepare__"
      statics := words "__new__"
      computed :=
        [("__name__", .text), ("__qualname__", .text), ("__bases__", .tuple),
         ("__module__", .text), ("__abstractmethods__", .null), ("__dict__", .view),
         ("__doc__", .text), ("__text_signature__", .null), ("__annotations__", .null)]
      stored :=
        [("__basicsize__", .int), ("__itemsize__", .int), ("__flags__", .int),
         ("__weakrefoffset__", .int), ("__base__", .type), ("__dictoffset__", .int),
         ("__mro__", .tuple)] }
  | .null =>
    { hooks := words "__repr__ __bool__"
      statics := words "__new__"
      constants := [("__doc__", .null)] }
  | .bool =>
    { hooks := words "__repr__ __and__ __rand__ __xor__ __rxor__ __or__ __ror__"
      statics := words "__new__" }
  | .int =>
    { hooks := words
        ("__repr__ __hash__ __getattribute__ __lt__ __le__ __eq__ __ne__ __gt__ __ge__ __add__ " ++
          "__radd__ __sub__ __rsub__ __mul__ __rmul__ __mod__ __rmod__ __divmod__ __rdivmod__ " ++
          "__pow__ __rpow__ __neg__ __pos__ __abs__ __bool__ __invert__ __lshift__ __rlshift__ " ++
          "__rshift__ __rrshift__ __and__ __rand__ __xor__ __rxor__ __or__ __ror__ __int__ " ++
          "__float__ __floordiv__ __rfloordiv__ __truediv__ __rtruediv__ __index__")
      operations := words
        ("conjugate bit_length bit_count to_bytes as_integer_ratio __trunc__ __floor__ " ++
          "__ceil__ __round__ __getnewargs__ __format__ __sizeof__")
      makers := words "from_bytes"
      statics := words "__new__"
      computed := [("real", .int), ("imag", .int), ("numerator", .int), ("denominator", .int)] }
  | .float =>
    { hooks := words
        ("__repr__ __hash__ __getattribute__ __lt__ __le__ __eq__ __ne__ __gt__ __ge__ __add__ " ++
          "__radd__ __sub__ __rsub__ __mul__ __rmul__ __mod__ __rmod__ __divmod__ __rdivmod__ " ++
          "__pow__ __rpow__ __neg__ __pos__ __abs__ __bool__ __int__ __float__ __floordiv__ " ++
          "__rfloordiv__ __truediv__ __rtruediv__")
      operations := words
        ("conjugate __trunc__ __floor__ __ceil__ __round__ as_integer_ratio hex is_integer " ++
          "__getnewargs__ __format__")
      makers := words "fromhex __getformat__"
      statics := words "__new__"
      computed := [("real", .float), ("imag", .float)] }
  | .text =>
    { hooks := words
        ("__repr__ __hash__ __str__ __getattribute__ __lt__ __le__ __eq__ __ne__ __gt__ __ge__ " ++
          "__iter__ __mod__ __rmod__ __len__ __getitem__ __add__ __mul__ __rmul__ __contains__")
      operations := words
        ("encode replace split rsplit join capitalize casefold title center count expandtabs " ++
          "find partition index ljust lower lstrip rfind rindex rjust rstrip rpartition " ++
          "splitlines strip swapcase translate upper startswith endswith removeprefix " ++
          "removesuffix isascii islower isupper istitle isspace isdecimal isdigit isnumeric " ++
          "isalpha isalnum isidentifier isprintable zfill format format_map __format__ " ++
          "__sizeof__ __getnewargs__")
      statics := words "__new__ maketrans" }
  | .bytes =>
    { hooks := words
        ("__repr__ __hash__ __str__ __getattribute__ __lt__ __le__ __eq__ __ne__ __gt__ __ge__ " ++
          "__iter__ __mod__ __rmod__ __len__ __getitem__ __add__ __mul__ __rmul__ __contains__")
      operations := words
        ("__getnewargs__ __bytes__ capitalize center count decode endswith expandtabs find hex " ++
          "index isalnum isalpha isascii isdigit islower isspace istitle isupper join ljust " ++
          "lower lstrip partition replace removeprefix removesuffix rfind rindex rjust " ++
          "rpartition rsplit rstrip split splitlines startswith strip swapcase title translate " ++
          "upper zfill")
      makers := words "fromhex"
      statics := words "__new__ maketrans" }
  | .list =>
    { hooks := words
        ("__repr__ __getattribute__ __lt__ __le__ __eq__ __ne__ __gt__ __ge__ __iter__ " ++
          "__init__ __len__ __setitem__ __delitem__ __add__ __mul__ __rmul__ __contains__ " ++
          "__iadd__ __imul__")
      operations := words
        ("__getitem__ __reversed__ __sizeof__ clear copy append insert extend pop remove index " ++
          "count reverse sort")
      makers := words "__class_getitem__"
      statics := words "__new__"
      constants := [("__hash__", .null)] }
  | .tuple =>
    { hooks := words
        ("__repr__ __hash__ __getattribute__ __lt__ __le__ __eq__ __ne__ __gt__ __ge__ " ++
          "__iter__ __len__ __getitem__ __add__ __mul__ __rmul__ __contains__")
      operations := words "__getnewargs__ index count"
      makers := words "__class_getitem__"
      statics := words "__new__" }
  | .set =>
    { hooks := words
        ("__repr__ __getattribute__ __lt__ __le__ __eq__ __ne__ __gt__ __ge__ __iter__ " ++
          "__init__ __sub__ __rsub__ __and__ __rand__ __xor__ __rxor__ __or__ __ror__ __isub__ " ++
          "__iand__ __ixor__ __ior__ __len__")
      operations := words
        ("__contains__ add clear copy discard difference difference_update intersection " ++
          "intersection_update isdisjoint issubset issuperset pop __reduce__ remove __sizeof__ " ++
          "symmetric_difference symmetric_difference_update union update")
      makers := words "__class_getitem__"
      statics := words "__new__"
      constants := [("__hash__", .null)] }
  | .map =>
    { hooks := words
        ("__repr__ __getattribute__ __lt__ __le__ __eq__ __ne__ __gt__ __ge__ __iter__ " ++
          "__init__ __or__ __ror__ __ior__ __len__ __setitem__ __delitem__")
      operations := words
        ("__getitem__ __contains__ __sizeof__ get setdefault pop popitem keys items values " ++
          "update clear copy __reversed__")
      makers := words "fromkeys __class_getitem__"
      statics := words "__new__"
      constants := [("__doc__", unread), ("__hash__", .null)] }
  | .date =>
    { hooks := words
        ("__repr__ __hash__ __str__ __getattribute__ __lt__ __le__ __eq__ __ne__ __gt__ __ge__ " ++
          "__add__ __radd__ __sub__ __rsub__")
      operations := words
        ("ctime strftime __format__ timetuple isocalendar isoformat isoweekday toordinal " ++
          "weekday replace __reduce__")
      makers := words "fromtimestamp fromordinal fromisoformat fromisocalendar today"
      statics := words "__new__"
      computed := [("year", .int), ("month", .int), ("day", .int)]
      constants :=
        [("min", .value (.date .first)),
         ("max", .value (.date .last)),
         ("resolution", .span 1 0 0)] }
  | .moment =>
    { hooks := words
        ("__repr__ __hash__ __str__ __getattribute__ __lt__ __le__ __eq__ __ne__ __gt__ __ge__ " ++
          "__add__ __radd__ __sub__ __rsub__")
      operations := words
        ("date time timetz ctime timetuple timestamp utctimetuple isoformat utcoffset tzname " ++
          "dst replace astimezone __reduce_ex__ __reduce__")
      makers := words "now utcnow fromtimestamp utcfromtimestamp strptime combine fromisoformat"
      statics := words "__new__"
      computed :=
        [("hour", .int), ("minute", .int), ("second", .int), ("microsecond", .int),
         ("tzinfo", .null), ("fold", .int)]
      constants :=
        [("min", .value (.moment .first)),
         ("max", .value (.moment .last)),
         ("resolution", .span 0 0 1)] }
  | .record =>
    { hooks := words
        ("__repr__ __getattribute__ __setattr__ __delattr__ __lt__ __le__ __eq__ __ne__ __gt__ " ++
          "__ge__ __init__")
      operations := words "__reduce__"
      statics := words "__new__"
      stored := [("__dict__", .map)]
      constants := [("__hash__", .null)] }
  | .span =>
    { hooks := words
        ("__repr__ __hash__ __str__ __getattribute__ __lt__ __le__ __eq__ __ne__ __gt__ __ge__ " ++
          "__add__ __radd__ __sub__ __rsub__ __mul__ __rmul__ __mod__ __rmod__ __divmod__ " ++
          "__rdivmod__ __neg__ __pos__ __abs__ __bool__ __floordiv__ __rfloordiv__ __truediv__ " ++
          "__rtruediv__")
      operations := words "total_seconds __reduce__"
      statics := words "__new__"
      stored := [("days", .int), ("seconds", .int), ("microseconds", .int)]
      constants :=
        [("min", .ofUnknown .span),
         ("max", .ofUnknown .span),
         ("resolution", .span 0 0 1)] }
  | .zone =>
    { hooks := words "__getattribute__"
      operations := words "tzname utcoffset dst fromutc __reduce__"
      statics := words "__new__" }
  | .offset =>
    { hooks := words "__repr__ __hash__ __str__ __lt__ __le__ __eq__ __ne__ __gt__ __ge__"
      operations := words "tzname utcoffset dst fromutc __getinitargs__"
      statics := words "__new__"
      constants :=
        [("utc", .ofUnknown .offset),
         ("min", .ofUnknown .offset),
         ("max", .ofUnknown .offset)] }
  | .function =>
    { hooks := words "__repr__ __call__ __get__"
      statics := words "__new__"
      computed :=
        [("__code__", .code), ("__defaults__", .tuple), ("__kwdefaults__", .null),
         ("__annotations__", .map), ("__dict__", .map), ("__name__", .text),
         ("__qualname__", .text)]
      stored :=
        [("__closure__", .null), ("__doc__", .text), ("__globals__", .map),
         ("__module__", .text), ("__builtins__", .map)] }
  | .method =>
    { hooks := words
        ("__repr__ __hash__ __call__ __getattribute__ __setattr__ __delattr__ __lt__ __le__ " ++
          "__eq__ __ne__ __gt__ __ge__")
      operations := words "__reduce__"
      statics := words "__new__"
      computed := [("__doc__", .text)]
      stored := [("__func__", .function), ("__self__", .object)] }
  | .operation =>
    { hooks := words
        ("__repr__ __hash__ __call__ __getattribute__ __lt__ __le__ __eq__ __ne__ __gt__ " ++
          "__ge__")
      operations := words "__reduce__"
      computed :=
        [("__doc__", .text), ("__name__", .text), ("__qualname__", .text), ("__self__", .text),
         ("__text_signature__", .text)]
      stored := [("__module__", .null)] }
  | .hook =>
    { hooks := words
        ("__repr__ __hash__ __call__ __getattribute__ __lt__ __le__ __eq__ __ne__ __gt__ " ++
          "__ge__")
      operations := words "__reduce__"
      computed :=
        [("__objclass__", .type), ("__name__", .text), ("__qualname__", .text),
         ("__doc__", .text), ("__text_signature__", .text)]
      stored := [("__self__", .int)] }
  | .operationOfKind =>
    { hooks := words "__repr__ __call__ __getattribute__ __get__"
      operations := words "__reduce__"
      computed := [("__doc__", .text), ("__qualname__", .text), ("__text_signature__", .text)]
      stored := [("__objclass__", .type), ("__name__", .text)] }
  | .hookOfKind =>
    { hooks := words "__repr__ __call__ __getattribute__ __get__"
      operations := words "__reduce__"
      computed := [("__doc__", .text), ("__qualname__", .text), ("__text_signature__", .text)]
      stored := [("__objclass__", .type), ("__name__", .text)] }
  | .makerOfKind =>
    { hooks := words "__repr__ __call__ __getattribute__ __get__"
      computed := [("__doc__", .text), ("__qualname__", .text), ("__text_signature__", .text)]
      stored := [("__objclass__", .type), ("__name__", .text)] }
  | .computedOfKind =>
    { hooks := words "__repr__ __getattribute__ __get__ __set__ __delete__"
      computed := [("__doc__", .text), ("__qualname__", .text)]
      stored := [("__objclass__", .type), ("__name__", .text)] }
  | .storedOfKind =>
    { hooks := words "__repr__ __getattribute__ __get__ __set__ __delete__"
      operations := words "__reduce__"
      computed := [("__doc__", .null), ("__qualname__", .text)]
      stored := [("__objclass__", .type), ("__name__", .text)] }
  | .view =>
    { hooks := words
        ("__repr__ __str__ __getattribute__ __lt__ __le__ __eq__ __ne__ __gt__ __ge__ __iter__ " ++
          "__or__ __ror__ __ior__ __len__ __getitem__ __contains__")
      operations := words "get keys values items copy __reversed__"
      makers := words "__class_getitem__"
      statics := words "__new__"
      constants := [("__doc__", .null), ("__hash__", .null)] }
  | .code =>
    { hooks := words
        ("__repr__ __hash__ __getattribute__ __lt__ __le__ __eq__ __ne__ __gt__ __ge__")
      operations := words "__sizeof__ co_lines co_positions replace _varname_from_oparg"
      statics := words "__new__"
      computed :=
        [("co_lnotab", .bytes), ("_co_code_adaptive", .bytes), ("co_varnames", .tuple),
         ("co_cellvars", .tuple), ("co_freevars", .tuple), ("co_code", .bytes)]
      stored :=
        [("co_argcount", .int), ("co_posonlyargcount", .int), ("co_kwonlyargcount", .int),
         ("co_stacksize", .int), ("co_flags", .int), ("co_nlocals", .int),
         ("co_consts", .tuple), ("co_names", .tuple), ("co_filename", .text),
         ("co_name", .text), ("co_qualname", .text), ("co_firstlineno", .int),
         ("co_linetable", .bytes), ("co_exceptiontable", .bytes)]
      constants := [("__doc__", unread)] }
  | _ => {}

private def noted (name : String) (annotated : String) (defaults : List Value := []) : Function :=
  ⟨name, true, defaults, words annotated⟩

private def plain (name : String) (annotated : String) (defaults : List Value := []) : Function :=
  ⟨name, false, defaults, if annotated.isEmpty then [] else words annotated⟩

private def bare (names : String) : List Function := (words names).map (plain · "")

private def names (texts : List String) : Place := .value (.tuple (texts.map .text))

private def written (kind : Kind) (members : Members) : Members :=
  { members with
    computed := members.computed ++ [("__dict__", .map), ("__weakref__", .null)]
    constants := members.constants ++
      [("__module__", .text kind.moduleName),
       ("__doc__", (kind.summary?.map Place.text).getD unread)] }

private def dataMembers (fields : List String) (members : Members) : Members :=
  { members with
    constants := members.constants ++
      [("__match_args__", names fields), ("__dataclass_params__", .ofUnknown .object),
       ("__dataclass_fields__", table fields), ("__annotations__", table fields)] }
where
  table (fields : List String) : Place :=
    .table .map (fields.map fun name => (name, .ofUnknown .object))

private def writtenMembers : Kind → Members
  | .condition => dataMembers ["operator", "compute"]
      { functions := [plain "__init__" "operator compute return"] ++
          bare "__repr__ __eq__ __setattr__ __delattr__ __hash__" }
  | .rule => dataMembers ["role", "privileges", "context", "attributes"]
      { functions := [plain "__init__" "role privileges context attributes return",
            plain "append_privileges" "privileges return",
            plain "append_attribute" "attribute return"] ++ bare "__repr__ __eq__"
        constants := [("context", .null), ("__hash__", .null)] }
  | .literal =>
    { functions := [plain "__init__" "value", plain "__call__" "user return" [.null],
        plain "__repr__" "return"] }
  | .userPath =>
    { functions := [plain "__init__" "path" [.text ""], plain "__call__" "user return" [.null],
        plain "__repr__" "return"]
      makerFunctions := [noted "from_expression" "expression return"] }
  | .operator =>
    { functions := bare "_generate_next_value_ __repr__ __str__ __format__ __new__"
      hooks := ["_value_repr_"]
      statics := ["_new_member_"]
      constants :=
        [("_use_args_", .value (.bool true)),
         ("_member_names_", .value (.list [.text "IS", .text "CONTAINS"])),
         ("_member_map_", members), ("_value2member_map_", .table .map
            [("is", .ofOperator .is), ("contains", .ofOperator .contains)]),
         ("_unhashable_values_", .value (.list [])), ("_member_type_", .kind .text),
         ("IS", .ofOperator .is), ("CONTAINS", .ofOperator .contains)] }
  | .enumeration =>
    { functions := bare ("__init__ _generate_next_value_ __repr__ __str__ __dir__ __format__ " ++
        "__hash__ __reduce_ex__ __deepcopy__ __copy__ _new_member_")
      makerFunctions := bare "_missing_"
      computed := [("name", .text), ("value", .text)] }
  | .enumerationType =>
    { functions := bare ("__new__ __bool__ __call__ __contains__ __delattr__ __dir__ " ++
        "__getattr__ __getitem__ __iter__ __len__ __repr__ __reversed__ __setattr__ _create_ " ++
        "_convert_")
      makerFunctions := bare ("__prepare__ _check_for_existing_members_ _get_mixins_ " ++
        "_find_data_repr_ _find_data_type_ _find_new_")
      constants := [("__members__", members)] }
  | .privilegesReader =>
    { functions := [plain "__init__" "", plain "append_privilege" "privilege return",
        noted "privilege" "privilege context options body return" [.null, .null, .null],
        noted "includes" "privileges return"] }
  | .authorizationReader =>
    { functions := [plain "__init__" "",
        plain "append_role" "role title description return" [.null, .null],
        noted "role" "role body title description return" [.null, .null, .null],
        noted "includes" "roles return",
        noted "has_permission_on" "context to body return" [.null, .null],
        noted "description" "text return", noted "title" "text return",
        noted "to" "privileges return",
        noted "if_attribute" "attr_conditions kwargs return" [.null],
        noted "is_" "compute return", noted "contains" "compute return"] }
  | .logger =>
    { functions := bare ("__init__ __repr__ bind unbind try_unbind new __getattr__ " ++
        "__getstate__ __setstate__")
      computed := [("_context", .map)] }
  | .boundLogger =>
    { functions := bare ("critical acritical error aerror warning awarning info ainfo debug " ++
        "adebug notset anotset log alog exception aexception fatal afatal warn awarn msg amsg " ++
        "err aerr is_enabled_for get_effective_level") }
  | .boundLoggerBase =>
    { functions := bare ("__init__ __repr__ __eq__ __ne__ bind unbind try_unbind new " ++
        "_process_event _proxy_to_logger")
      constants := [("__hash__", .null), ("__annotations__", .table .map
        [("_logger", unread), ("_processors", unread), ("_context", unread)])] }
  | _ => {}
where
  members : Place :=
    .table .map [("IS", .ofOperator .is), ("CONTAINS", .ofOperator .contains)]

private def described (kind : Kind) (members : Members) : Members :=
  match kind.summary? with
  | some summary => { members with constants := ("__doc__", .text summary) :: members.constants }
  | none => members

def members (kind : Kind) : Members :=
  if kind.isWritten then written kind kind.writtenMembers else described kind kind.givenMembers

/-- The names that stand beside a kind in its part of the program. -/
def neighbours (kind : Kind) : List String :=
  words "__name__ __doc__ __package__ __loader__ __spec__ __file__ __cached__ __builtins__" ++
    match kind with
    | .privilegesReader =>
      words ("Mapping Any Callable Dict List Optional DSLError get_logger PrivilegeEdge " ++
        "flatten PrivilegesReader")
    | .authorizationReader =>
      words ("Mapping Any Callable Dict List Optional DSLError get_logger " ++
        "parse_attribute_conditions AttributeCondition AuthorizationRule ConditionOperator " ++
        "Context flatten Body AuthorizationRulesReader")
    | .literal | .userPath =>
      words ("Mapping MappingProxyType Any Dict DSLError AttributeCondition " ++
        "ConditionOperator Literal UserAttribute parse_attribute_conditions freeze_conditions")
    | .rule | .condition | .operator =>
      words ("dataclass field Enum MappingProxyType Any Callable Dict List Mapping NamedTuple " ++
        "Optional Tuple Union ConditionOperator AttributeCondition ConditionTree Context " ++
        "PrivilegeEdge AuthorizationRule CompiledRule AuthorizationModel")
    | _ => []

end Kind

end AccessPolicy
