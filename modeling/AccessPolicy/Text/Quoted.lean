import AccessPolicy.Text.Printable
import AccessPolicy.Text.Surrogate

/-! Quoted text and quoted bytes, as they stand in messages. The quote is single unless
the text holds a single quote and no double one. -/

namespace AccessPolicy.Text

def hexDigits (width : Nat) (n : Nat) : List Char :=
  let digits := Nat.toDigits 16 n
  List.replicate (width - digits.length) '0' ++ digits

/-- A code point in the shortest of the three escapes that can hold it. -/
def codeEscape (code : Nat) : List Char :=
  if code < 0x100 then '\\' :: 'x' :: hexDigits 2 code
  else if code < 0x10000 then '\\' :: 'u' :: hexDigits 4 code
  else '\\' :: 'U' :: hexDigits 8 code

def quoteFor (text : List Char) : Char :=
  if text.contains '\'' && !text.contains '"' then '"' else '\''

def namedEscape? (quote : Char) (c : Char) : Option (List Char) :=
  if c == quote || c == '\\' then some ['\\', c]
  else if c == '\t' then some ['\\', 't']
  else if c == '\n' then some ['\\', 'n']
  else if c == '\r' then some ['\\', 'r']
  else none

def quotedChar (quote : Char) (c : Char) : List Char :=
  (namedEscape? quote c).getD (if isPrintable c then [c] else codeEscape c.toNat)

def quotedCode (quote : Char) (code : Nat) : List Char :=
  if Surrogate.isSurrogate code then codeEscape code else quotedChar quote (Char.ofNat code)

def quotedChars (text : List Char) : List Char :=
  let quote := quoteFor text
  quote :: (Surrogate.codes text).flatMap (quotedCode quote) ++ [quote]

def quoted (text : String) : String := String.ofList (quotedChars text.toList)

/-- Bytes beyond printable ASCII are written in hexadecimal. -/
def quotedByte (quote : Char) (byte : UInt8) : List Char :=
  let c := Char.ofNat byte.toNat
  (namedEscape? quote c).getD
    (if 0x20 ≤ byte && byte < 0x7f then [c] else codeEscape byte.toNat)

def quotedBytes (bytes : List UInt8) : String :=
  let quote := quoteFor (bytes.map fun byte => Char.ofNat byte.toNat)
  String.ofList ('b' :: quote :: bytes.flatMap (quotedByte quote) ++ [quote])

end AccessPolicy.Text
