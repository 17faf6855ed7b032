import AccessPolicy.Policy.Fault

/-! Names as they are given to operations: alone, or in lists and tuples of any depth. -/

namespace AccessPolicy

def namesIn (given : Value) : Except Fault (List Value) :=
  match given.elements? with
  | some parts => .ok (Value.leavesOf parts)
  | none => .error (.usage (.notCollection given))

end AccessPolicy
