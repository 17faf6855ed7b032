/-! Decoding of UTF-8 and UTF-16. A refusal tells where the bytes stop being text and
why, and how many of them belong to the broken character. -/

namespace AccessPolicy.Text

inductive Utf8Reason where
  | invalidStart
  | invalidContinuation
  | endOfData
  deriving DecidableEq, Repr

def Utf8Reason.message : Utf8Reason → String
  | .invalidStart => "invalid start byte"
  | .invalidContinuation => "invalid continuation byte"
  | .endOfData => "unexpected end of data"

structure Utf8Fault where
  position : Nat
  broken : List UInt8
  reason : Utf8Reason
  deriving DecidableEq, Repr

def Utf8Fault.messageWith (reason : String) (fault : Utf8Fault) : String :=
  let place := match fault.broken with
    | [byte] => "byte 0x" ++ String.ofList (Nat.toDigits 16 byte.toNat) ++
        " in position " ++ toString fault.position
    | broken => "bytes in position " ++ toString fault.position ++ "-" ++
        toString (fault.position + broken.length - 1)
  "'utf-8' codec can't decode " ++ place ++ ": " ++ reason

def Utf8Fault.message (fault : Utf8Fault) : String := fault.messageWith fault.reason.message

namespace Utf8

def isContinuation (byte : UInt8) : Bool := 0x80 ≤ byte && byte < 0xc0

/-- The bytes that follow a lead byte, and the range of the first of them; the range
excludes overlong forms, surrogates and code points past the last. -/
structure Lead where
  count : Nat
  low : UInt8
  high : UInt8
  bits : Nat

def lead? (byte : UInt8) : Option Lead :=
  let code := byte.toNat
  if byte < 0x80 then some ⟨0, 0x80, 0xbf, code⟩
  else if byte < 0xc2 then none
  else if byte < 0xe0 then some ⟨1, 0x80, 0xbf, code - 0xc0⟩
  else if byte < 0xf0 then
    some ⟨2, if byte = 0xe0 then 0xa0 else 0x80, if byte = 0xed then 0x9f else 0xbf, code - 0xe0⟩
  else if byte < 0xf5 then
    some ⟨3, if byte = 0xf0 then 0x90 else 0x80, if byte = 0xf4 then 0x8f else 0xbf, code - 0xf0⟩
  else none

def continuation (lead : Lead) (bytes : List UInt8) : List UInt8 :=
  match bytes.take lead.count with
  | [] => []
  | first :: rest =>
    if lead.low ≤ first && first ≤ lead.high then first :: rest.takeWhile isContinuation else []

def Lead.code (lead : Lead) (tail : List UInt8) : Nat :=
  tail.foldl (fun code byte => code * 64 + (byte.toNat - 0x80)) lead.bits

inductive Step where
  | char (c : Char) (size : Nat)
  | broken (size : Nat) (reason : Utf8Reason)

def step (byte : UInt8) (rest : List UInt8) : Step :=
  match lead? byte with
  | none => .broken 1 .invalidStart
  | some lead =>
    let tail := continuation lead rest
    if tail.length = lead.count then .char (Char.ofNat (lead.code tail)) (1 + tail.length)
    else if tail.length = rest.length then .broken (1 + tail.length) .endOfData
    else .broken (1 + tail.length) .invalidContinuation

private def decodeFrom (position : Nat) (bytes : List UInt8) : Except Utf8Fault (List Char) :=
  match bytes with
  | [] => .ok []
  | byte :: rest =>
    match step byte rest with
    | .char c size => (decodeFrom (position + size) (rest.drop (size - 1))).map (c :: ·)
    | .broken size reason => .error ⟨position, byte :: rest.take (size - 1), reason⟩
  termination_by bytes.length
  decreasing_by simp only [List.length_drop, List.length_cons]; omega

def decode (bytes : List UInt8) : Except Utf8Fault (List Char) := decodeFrom 0 bytes

/-- Each broken character is read as the replacement character. -/
def decodeLossy (bytes : List UInt8) : List Char :=
  match bytes with
  | [] => []
  | byte :: rest =>
    match step byte rest with
    | .char c size => c :: decodeLossy (rest.drop (size - 1))
    | .broken size _ => Char.ofNat 0xfffd :: decodeLossy (rest.drop (size - 1))
  termination_by bytes.length
  decreasing_by all_goals simp only [List.length_drop, List.length_cons]; omega

end Utf8

namespace Utf16

/-- The two bytes of a unit, the low one first if `little`. -/
def units (little : Bool) : List UInt8 → Option (List Nat)
  | [] => some []
  | [_] => none
  | a :: b :: rest =>
    let unit := if little then b.toNat * 256 + a.toNat else a.toNat * 256 + b.toNat
    (units little rest).map (unit :: ·)

/-- A high surrogate has to be followed by a low one, and no low one stands alone. -/
def ofUnits : List Nat → Option (List Char)
  | [] => some []
  | unit :: rest =>
    if unit < 0xd800 ∨ 0xe000 ≤ unit then (ofUnits rest).map (Char.ofNat unit :: ·)
    else if unit < 0xdc00 then
      match rest with
      | low :: rest =>
        if 0xdc00 ≤ low ∧ low < 0xe000 then
          let code := 0x10000 + (unit - 0xd800) * 0x400 + (low - 0xdc00)
          (ofUnits rest).map (Char.ofNat code :: ·)
        else none
      | [] => none
    else none

def decode (little : Bool) (bytes : List UInt8) : Option (List Char) :=
  (units little bytes).bind ofUnits

end Utf16

end AccessPolicy.Text
