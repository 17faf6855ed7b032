import AccessPolicy.Policy.Condition
import AccessPolicy.Policy.Signature

/-! Values in the places of things that operations use: what comes of a value that is called,
or that names are looked for in, added to or entered under. -/

namespace AccessPolicy.Value

/-- What a call of a value gives. A computation takes the user, who may be left out; nothing
else can be called. -/
def called (value : Value) (positional : List Value) (named : List (String × Value)) :
    Except Fault Value :=
  match value with
  | .literal .. | .userPath .. =>
    match Given.bind (value.typeName ++ ".__call__") ⟨[], ["user"], false, false⟩
        positional named with
    | .ok given => value.compute (given.value "user")
    | .error fault => .error (.usage fault)
  | value => .error (.usage (.notComputation (Place.value value).owner))

def callMember (value : Value) (name : String) (positional : List Value)
    (named : List (String × Value)) : Except Fault Unit :=
  match UserPath.field (.value value) name with
  | .error fault => .error (.path fault)
  | .ok (.value member) => (member.called positional named).map fun _ => ()
  | .ok place => .error (.usage (.notComputation place.owner))

private def hasPart {α : Type} [BEq α] (part : List α) : List α → Bool
  | [] => part.isEmpty
  | rest@(_ :: tail) => part.isPrefixOf rest || hasPart part tail

/-- Whether a value holds a name: as a part of its text, or as a member. -/
def holds? (value name : Value) : Except Fault Bool :=
  match value.opened, name with
  | .text whole, .text part =>
    .ok (hasPart (Text.Surrogate.codes part.toList) (Text.Surrogate.codes whole.toList))
  | .text _, name => .error (.usage (.notTextPart name))
  | .bytes whole, .bytes part => .ok (hasPart part whole)
  | .bytes whole, name =>
    match name with
    | .int _ | .bool _ =>
      if (List.range 256).any fun byte => (Value.int byte).same name then
        .ok (whole.any fun byte => (Value.int byte.toNat).same name)
      else .error (.form .notByte)
    | name => .error (.usage (.notBytes name))
  | .list items, name | .tuple items, name => .ok (name.within items)
  | .set _, .set _ => .ok false
  | .set items, name =>
    match name.keyObstacle? with
    | some part => .error (.usage (.unsuitableKey part))
    | none => .ok (name.within items)
  | .map entries, name =>
    match name.keyObstacle? with
    | some part => .error (.usage (.unsuitableKey part))
    | none => .ok (name.within (entries.map Prod.fst))
  | value, _ => .error (.usage (.notContainer value))

/-- Add a name to a value that is used as a list, unless it holds the name. -/
def enlist (name value : Value) : Except Fault Value := do
  if ← value.holds? name then return value
  else match value.opened with
    | .list items => return .list (items ++ [name])
    | value =>
      value.callMember "append" [name] []
      return value

/-- Add items to the list that a value, which is used as a table, has under a key. The list
adds them by a member of the given name, which takes them as the given argument. -/
def enterUnder (key : Value) (member : String) (argument : Value) (items : List Value)
    (value : Value) : Except Fault Value := do
  match value.opened with
  | .map entries =>
    let table : Table Value := ⟨entries⟩
    match key.keyObstacle?, (table.get? key).map Value.opened with
    | some part, _ => throw (.usage (.unsuitableKey part))
    | none, none => return .map (table.put key (.list items)).entries
    | none, some (.list before) => return .map (table.put key (.list (before ++ items))).entries
    | none, some other =>
      other.callMember member [argument] []
      return value
  | other =>
    other.callMember "setdefault" [key, .list []] []
    return value

private def lastPlace : Int := 0x7fffffffffffffff

/-- The place in a list of the given length that a number means; negative ones count from the
end. -/
def indexIn (length : Nat) (i : Int) (absence : IndexFault) : Except Fault Nat :=
  let place := if i < 0 then i + length else i
  if i < -lastPlace - 1 || lastPlace < i then .error (.index .tooLarge)
  else if place < 0 || (length : Int) ≤ place then .error (.index absence)
  else .ok place.toNat

def putItem (key item value : Value) : Except Fault Value := do
  match value.opened with
  | .map entries =>
    match key.keyObstacle? with
    | some part => throw (.usage (.unsuitableKey part))
    | none => return .map ((Table.mk entries).put key item).entries
  | .list items =>
    let number ← match key with
      | .int i => pure i
      | .bool b => pure (if b then 1 else 0)
      | key => throw (.usage (.notIndex key))
    return .list (items.set (← indexIn items.length number .notAssignable) item)
  | value => throw (.usage (.fixedItems value))

def size? (value : Value) : Except Fault Nat :=
  match value.elements? with
  | some parts => .ok parts.length
  | none => .error (.usage (.noLength value))

end AccessPolicy.Value
