import AccessPolicy.Text.Quoted
import AccessPolicy.Text.Utf8

/-! Text and its bytes in UTF-8, which has no form for surrogates. Where text names a file,
those of one range stand for bytes that belong to no character. -/

namespace AccessPolicy.Text

/-- The text of bytes. It holds no surrogates. -/
def ofUtf8 (bytes : List UInt8) : Except Utf8Fault String :=
  (Utf8.decode bytes).map fun chars => Surrogate.ofPlain (String.ofList chars)

def ofUtf8Lossy (bytes : List UInt8) : String :=
  Surrogate.ofPlain (String.ofList (Utf8.decodeLossy bytes))

/-- The first surrogates of a text that cannot be written, one after the other. -/
structure EncodingFault where
  position : Nat
  count : Nat
  first : Nat
  deriving DecidableEq, Repr

def EncodingFault.message (fault : EncodingFault) : String :=
  let place := if fault.count = 1 then
      "character '" ++ String.ofList (codeEscape fault.first) ++ "' in position " ++
        toString fault.position
    else "characters in position " ++ toString fault.position ++ "-" ++
      toString (fault.position + fault.count - 1)
  "'utf-8' codec can't encode " ++ place ++ ": surrogates not allowed"

namespace EncodingFault

def among (isWritten : Nat → Bool) (codes : List Nat) : Option EncodingFault :=
  match codes.dropWhile fun code => !Surrogate.isSurrogate code || isWritten code with
  | [] => none
  | rest@(first :: _) =>
    some ⟨codes.length - rest.length, (rest.takeWhile Surrogate.isSurrogate).length, first⟩

def ofText? (text : String) : Option EncodingFault :=
  among (fun _ => false) (Surrogate.codes text.toList)

/-- Surrogates that stand for a byte in the name of a file. -/
def isByteHolder (code : Nat) : Bool := 0xdc80 ≤ code && code < 0xdd00

def ofName? (name : String) : Option EncodingFault :=
  among isByteHolder (Surrogate.codes name.toList)

end EncodingFault

def byteCount (code : Nat) : Nat :=
  if code < 0x80 || EncodingFault.isByteHolder code then 1
  else if code < 0x800 then 2
  else if code < 0x10000 then 3
  else 4

def nameSize (name : String) : Nat :=
  (Surrogate.codes name.toList).foldl (fun size code => size + byteCount code) 0

end AccessPolicy.Text
