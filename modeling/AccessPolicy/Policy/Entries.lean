import AccessPolicy.Policy.Condition

/-! Values in the place of tables. A record whose field `keys` can be called is taken for a
table; as nothing can be looked up in a record, it is one only without keys. What else can be
looped over is taken for a table by its pairs. -/

namespace AccessPolicy

/-- Whether a loop over what a path has come to visits nothing; `none` if it cannot be looped
over. -/
def Place.isVoid? : Place → Option Bool
  | .value v => v.elements?.map List.isEmpty
  | .table _ entries => some entries.isEmpty
  | .kind .operator | .kind .enumeration => some false
  | .object .operator _ | .object .text _ | .object .bytes _ | .object .tuple _
  | .object .list _ => some false
  | .kind _ | .object .. => none

/-- The entries of a record that is taken for a table; `none` if it has no keys to call. -/
def Value.keyedEntries? (record : Value) : Option (Except Fault (Table Value)) :=
  match record with
  | .record fields => (fields.lookup "keys").map fun keys => do
    let found ← keys.computed .null
    match found.isVoid? with
    | some true => return .empty
    | some false => throw (.usage (.notSubscriptable .record))
    | none => throw (.usage (.notIterated .record "keys" found.kindOf))
  | _ => none

/-- The entries of pairs, which are counted from the given place on. A pair is anything
with two parts. -/
def pairedEntries (place : Nat) (done : Table Value) : List Value → Except Fault (Table Value)
  | [] => .ok done
  | pair :: rest =>
    match pair.elements? with
    | none => .error (.usage (.notSequence place))
    | some [key, value] =>
      match key.keyObstacle? with
      | some part => .error (.usage (.unsuitableKey part))
      | none => pairedEntries (place + 1) (done.put key value) rest
    | some parts => .error (.form (.notPair place parts.length))

def Value.toTable (value : Value) : Except Fault (Table Value) :=
  match value.opened, value.keyedEntries? with
  | .map entries, _ => .ok ⟨entries⟩
  | _, some entries => entries
  | value, none =>
    match value.elements? with
    | some pairs => pairedEntries 0 .empty pairs
    | none => .error (.usage (.notCollection value))

end AccessPolicy
