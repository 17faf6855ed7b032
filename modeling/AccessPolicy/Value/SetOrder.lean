import AccessPolicy.Value.Basic

/-! The order in which the members of a set are visited. The members stand in a row of
slots: each at the first free slot of a search that starts where its hash says. A row that
is three fifths full is replaced by a longer one. Only numbers, empty text and tuples of
such have hashes that every run gives alike. A set with any other member may be visited in
another order by every run; all runs are taken to visit it in the order of entry. -/

namespace AccessPolicy.Value

open Number (Binary64)

/-- Hashes of numbers are remainders of this prime, modulo which `2 ^ 61` is one. -/
def hashPrime : Nat := 2305843009213693951

/-- A hash has the sign of its number, but is never minus one. -/
private def signedHash (negative : Bool) (magnitude : Nat) : Int :=
  if negative then if magnitude = 1 then -2 else -(magnitude : Int) else magnitude

/-- Hashes are whole numbers of 64 bits, whose residues lie below this one. -/
def hashRange : Nat := 18446744073709551616

def hashResidue (hash : Int) : Nat := (hash % hashRange).toNat

/-- The first and last factor by which the hashes of a tuple's items are mixed, and the
number that the mixing starts from. -/
private def mixingFactors : Nat × Nat × Nat :=
  (14029467366897019727, 11400714785074694791, 2870177450012600261)

/-- Mix the hash of an item into those before it, whose bits go round by 31 places. -/
private def mixHash (mixed : Nat) (hash : Int) : Nat :=
  let (first, last, _) := mixingFactors
  let sum := (mixed + hashResidue hash * first) % hashRange
  let turned := sum * 2147483648 % hashRange + sum / 8589934592
  turned * last % hashRange

private def tupleHash (hashes : List Int) : Int :=
  let (_, _, start) := mixingFactors
  let mixed := (hashes.foldl mixHash start + (hashes.length ^^^ (start ^^^ 3527539))) % hashRange
  if mixed = hashRange - 1 then 1546275796
  else if hashRange ≤ 2 * mixed then (mixed : Int) - hashRange
  else mixed

mutual

/-- Numbers that are equal have the same hash. -/
def hash? : Value → Option Int
  | .bool b => some (if b then 1 else 0)
  | .int i => some (signedHash (decide (i < 0)) (i.natAbs % hashPrime))
  | .float (.finite negative significand exponent _) =>
    some (signedHash negative (significand * Nat.pow 2 (exponent % 61).toNat % hashPrime))
  | .float (.infinite negative) => some (signedHash negative 314159)
  | .text "" | .bytes [] => some 0
  | .tuple items => (hashes? items).map tupleHash
  | _ => none

def hashes? : List Value → Option (List Int)
  | [] => some []
  | item :: rest =>
    match item.hash?, hashes? rest with
    | some hash, some hashes => some (hash :: hashes)
    | _, _ => none

end

namespace Slots

/-- A member with the start of its searches, a number below `2 ^ 64`. -/
abbrev Hashed := Nat × Value

abbrev Row := Array (Option Hashed)

/-- How many slots after the one looked at are looked at too, if the row has them. -/
def neighbours : Nat := 9

/-- The first free slot of a search. Once the hash is used up, the search goes round all
slots of the row. -/
def search (row : Row) (slot perturbation : Nat) : Nat → Nat
  | 0 => slot
  | fuel + 1 =>
    let size := row.size
    let beside := if slot + neighbours < size then neighbours else 0
    let isFree (slot : Nat) : Bool := (row[slot]?.join).isNone
    match (List.range' slot (beside + 1)).find? isFree with
    | some free => free
    | none =>
      let perturbation := perturbation / 32
      search row ((slot * 5 + 1 + perturbation) % size) perturbation fuel

def place (row : Row) (member : Hashed) : Row :=
  row.setIfInBounds (search row (member.1 % row.size) member.1 (row.size + 14)) (some member)

/-- The least length of a row, a power of two, that is more than the given number. -/
def lengthOver (n : Nat) : Nat := max 8 (Nat.pow 2 (n.log2 + 1))

def resized (row : Row) (n : Nat) : Row :=
  (row.toList.filterMap id).foldl place (.replicate (lengthOver n) none)

def isFull (count : Nat) (row : Row) : Bool := (row.size - 1) * 3 ≤ count * 5

def members (row : Row) : List Value := (row.toList.filterMap id).map Prod.snd

/-- Enter members one after the other, after the given number of others. -/
def enter (count : Nat) (row : Row) : List Hashed → Row
  | [] => row
  | member :: rest =>
    let row := place row member
    let count := count + 1
    enter count
      (if isFull count row then resized row (if 50000 < count then count * 2 else count * 4)
       else row) rest

def empty : Row := .replicate 8 none

end Slots

private def hashed? (members : List Value) : Option (List Slots.Hashed) :=
  members.mapM fun member => member.hash?.map fun hash => (hashResidue hash, member)

/-- The set of distinct members that are entered one after the other. -/
def setOf (members : List Value) : Value :=
  match hashed? members with
  | some hashed => .set (Slots.members (Slots.enter 0 Slots.empty hashed))
  | none => .set members

/-- The set of distinct members that are known beforehand, for which room is made first. -/
def setOfAll (members : List Value) : Value :=
  match hashed? members with
  | some hashed =>
    let count := members.length
    let row := if Slots.isFull count Slots.empty then Slots.resized Slots.empty (count * 2)
      else Slots.empty
    .set (Slots.members (Slots.enter 0 row hashed))
  | none => .set members

end AccessPolicy.Value
