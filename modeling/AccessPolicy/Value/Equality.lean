import AccessPolicy.Value.Basic

/-! Equality of values where names are compared. Numbers are compared by value, whatever
their type, and deferred computations by their serials; maps and sets are compared as
collections, without regard to order. -/

namespace AccessPolicy.Value

open Number (Numeral)

/-- Equality of the values that hold no others, or that are known by their serials. Values that
hold themselves are known so, where a comparison by parts goes into them: it would find a list
of nothing but such a value equal to the value, and of two values that are built alike it would
find no end. -/
def sameLeaf (a b : Value) : Bool :=
  match a.numeral?, b.numeral? with
  | some m, some n => m = n
  | none, none =>
    match a, b with
    | .null, .null => true
    | .text s, .text t => s = t
    | .bytes s, .bytes t => s = t
    | .date d, .date e => d = e
    | .moment m, .moment n => m.instant = n.instant
    | .literal m _, .literal n _ => m = n
    | .userPath m _, .userPath n _ => m = n
    | .cyclic m _, .cyclic n _ => m = n
    | _, _ => false
  | _, _ => false

mutual

/-- Two values are the same name. A datum that is not a number is the same as itself
only. -/
def same : Value → Value → Bool
  | .list xs, .list ys => sameItems xs ys
  | .tuple xs, .tuple ys => sameItems xs ys
  | .set xs, .set ys => eachIn xs ys && ys.all (meets xs)
  | .map xs, .map ys => eachEntryIn xs ys && ys.all (meetsEntry xs)
  | .record xs, .record ys => eachFieldIn xs ys && ys.all (meetsField xs)
  | .condition o x, .condition p y => o = p && same x y
  | a, b => sameLeaf a b

def sameItems : List Value → List Value → Bool
  | [], [] => true
  | x :: xs, y :: ys => same x y && sameItems xs ys
  | _, _ => false

def eachIn : List Value → List Value → Bool
  | [], _ => true
  | x :: xs, ys => ys.any (same x) && eachIn xs ys

def meets : List Value → Value → Bool
  | [], _ => false
  | x :: xs, y => same x y || meets xs y

def eachEntryIn : List (Value × Value) → List (Value × Value) → Bool
  | [], _ => true
  | (k, v) :: xs, ys => (ys.any fun (l, w) => same k l && same v w) && eachEntryIn xs ys

def meetsEntry : List (Value × Value) → Value × Value → Bool
  | [], _ => false
  | (k, v) :: xs, y => (same k y.1 && same v y.2) || meetsEntry xs y

def eachFieldIn : List (String × Value) → List (String × Value) → Bool
  | [], _ => true
  | (k, v) :: xs, ys => (ys.any fun (l, w) => k = l && same v w) && eachFieldIn xs ys

def meetsField : List (String × Value) → String × Value → Bool
  | [], _ => false
  | (k, v) :: xs, y => (k = y.1 && same v y.2) || meetsField xs y

end

/-- Comparison of two values as a question of its own: what is not a number equals
nothing, not even itself, unless it stands within another value. -/
def equals (a b : Value) : Bool :=
  match a with
  | .float (.nan _) => false
  | _ => same a b

def within (name : Value) (names : List Value) : Bool := names.any (same name)

def register (names : List Value) (name : Value) : List Value :=
  if name.within names then names else names ++ [name]

end AccessPolicy.Value
