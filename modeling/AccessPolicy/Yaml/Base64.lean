import AccessPolicy.Yaml.Fault

/-! Bytes as base64 text. Characters outside the alphabet are passed over, and padding
ends the bytes where it fills up a group of four. -/

namespace AccessPolicy.Yaml.Base64

def sextet? (c : Char) : Option Nat :=
  if c.isUpper then some (c.toNat - 'A'.toNat)
  else if c.isLower then some (c.toNat - 'a'.toNat + 26)
  else if c.isDigit then some (c.toNat - '0'.toNat + 52)
  else if c == '+' then some 62
  else if c == '/' then some 63
  else none

/-- A group of four that is not full yet: how many characters it has, their bits that
are in no byte yet, and how much padding stands after them. -/
structure Group where
  size : Nat := 0
  bits : Nat := 0
  padding : Nat := 0

/-- The byte that a further character completes, and the group after it. -/
def Group.add (group : Group) (sextet : Nat) : List UInt8 × Group :=
  let all := group.bits * 64 + sextet
  match group.size with
  | 0 => ([], ⟨1, sextet, 0⟩)
  | 1 => ([UInt8.ofNat (all / 16)], ⟨2, all % 16, 0⟩)
  | 2 => ([UInt8.ofNat (all / 4)], ⟨3, all % 4, 0⟩)
  | _ => ([UInt8.ofNat all], {})

def decodeFrom (group : Group) (done : List UInt8) :
    List Char → Except Misconstruction (List UInt8)
  | [] =>
    match group.size with
    | 0 => .ok done
    | 1 => .error (.base64 (done.length / 3 * 4 + 1))
    | _ => .error .base64Padding
  | c :: rest =>
    if c == '=' then
      if group.size < 2 then decodeFrom group done rest
      else if group.size + group.padding + 1 < 4 then
        decodeFrom { group with padding := group.padding + 1 } done rest
      else .ok done
    else
      match sextet? c with
      | none => decodeFrom group done rest
      | some sextet =>
        let (bytes, group) := group.add sextet
        decodeFrom group (done ++ bytes) rest

def decode (text : List Char) : Except Misconstruction (List UInt8) :=
  let isAscii (code : Nat) : Bool := code < 128
  let codes := Text.Surrogate.codes text
  match codes.dropWhile isAscii with
  | [] => decodeFrom {} [] text
  | foreign =>
    .error (.base64Alphabet (codes.length - foreign.length) (foreign.takeWhile (!isAscii ·)))

end AccessPolicy.Yaml.Base64
