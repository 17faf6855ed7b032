import AccessPolicy.Number.Shortest
import AccessPolicy.Text.Quoted

/-! JSON documents and their text. The fields of an object keep their order, and a name
may occur twice, as the text allows. -/

namespace AccessPolicy

inductive Json where
  | null
  | bool (value : Bool)
  | int (value : Int)
  | float (value : Number.Binary64)
  | text (value : String)
  | list (items : List Json)
  | object (fields : List (String × Json))
  deriving Repr, Inhabited

namespace Json

structure Style where
  layout : Number.Layout
  /-- Numbers without a value are written as null, not by name. -/
  hidesNonfinite : Bool
  /-- Characters beyond printable ASCII are written as escapes. -/
  isAscii : Bool

def Style.ascii : Style := ⟨.json, false, true⟩

def Style.unicode : Style := ⟨.compact, true, false⟩

def escape (code : Nat) : List Char :=
  let unit (n : Nat) : List Char := '\\' :: 'u' :: Text.hexDigits 4 n
  if code < 0x10000 then unit code
  else unit (0xd800 + (code - 0x10000) / 0x400) ++ unit (0xdc00 + (code - 0x10000) % 0x400)

def charText (style : Style) (c : Char) : List Char :=
  match c with
  | '"' => ['\\', '"']
  | '\\' => ['\\', '\\']
  | '\n' => ['\\', 'n']
  | '\r' => ['\\', 'r']
  | '\t' => ['\\', 't']
  | c =>
    if c.toNat = 8 then ['\\', 'b']
    else if c.toNat = 12 then ['\\', 'f']
    else if c.toNat < 0x20 || (style.isAscii && 0x7e < c.toNat) then escape c.toNat
    else [c]

/-- Where text is not written in ASCII, a surrogate gives as many replacement characters as
it has bytes. -/
def codeText (style : Style) (code : Nat) : List Char :=
  if Text.Surrogate.isSurrogate code then
    if style.isAscii then escape code else List.replicate 3 (Char.ofNat 0xfffd)
  else (charText style (Char.ofNat code)).flatMap fun c => Text.Surrogate.held c.toNat

def stringText (style : Style) (text : String) : String :=
  String.ofList ('"' :: (Text.Surrogate.codes text.toList).flatMap (codeText style) ++ ['"'])

def floatText (style : Style) (x : Number.Binary64) : String :=
  match x with
  | .nan _ | .infinite _ => if style.hidesNonfinite then "null" else x.text style.layout
  | x => x.text style.layout

def newline (depth : Nat) : String := "\n" ++ String.ofList (List.replicate (2 * depth) ' ')

/-- Items on lines of their own, one step further in; nothing for none. -/
def block (opening closing : String) (depth : Nat) (items : List String) : String :=
  if items.isEmpty then opening ++ closing
  else
    opening ++ newline (depth + 1) ++ ("," ++ newline (depth + 1)).intercalate items ++
      newline depth ++ closing

mutual

def indented (style : Style) (depth : Nat) : Json → String
  | .null => "null"
  | .bool b => if b then "true" else "false"
  | .int i => toString i
  | .float x => floatText style x
  | .text s => stringText style s
  | .list items => block "[" "]" depth (indentedItems style (depth + 1) items)
  | .object fields => block "\x7b" "\x7d" depth (indentedFields style (depth + 1) fields)

def indentedItems (style : Style) (depth : Nat) : List Json → List String
  | [] => []
  | item :: rest => indented style depth item :: indentedItems style depth rest

def indentedFields (style : Style) (depth : Nat) : List (String × Json) → List String
  | [] => []
  | (name, value) :: rest =>
    (stringText style name ++ ": " ++ indented style depth value) :: indentedFields style depth rest

end

mutual

def line (style : Style) : Json → String
  | .null => "null"
  | .bool b => if b then "true" else "false"
  | .int i => toString i
  | .float x => floatText style x
  | .text s => stringText style s
  | .list items => "[" ++ ", ".intercalate (lineItems style items) ++ "]"
  | .object fields => "\x7b" ++ ", ".intercalate (lineFields style fields) ++ "\x7d"

def lineItems (style : Style) : List Json → List String
  | [] => []
  | item :: rest => line style item :: lineItems style rest

def lineFields (style : Style) : List (String × Json) → List String
  | [] => []
  | (name, value) :: rest =>
    (stringText style name ++ ": " ++ line style value) :: lineFields style rest

end

end Json

end AccessPolicy
