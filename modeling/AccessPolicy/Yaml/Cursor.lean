import AccessPolicy.Yaml.Fault
import AccessPolicy.Text.Utf8

/-! The text of a stream and a place in it. Reading past the end shows no character. -/

namespace AccessPolicy.Yaml

def isAllowed (c : Char) : Bool :=
  let code := c.toNat
  code == 0x9 || code == 0xa || code == 0xd || (0x20 ≤ code && code ≤ 0x7e) || code == 0x85 ||
  (0xa0 ≤ code && code ≤ 0xd7ff) || (0xe000 ≤ code && code ≤ 0xfffd) || 0x10000 ≤ code

def isBreak (c : Char) : Bool :=
  c == '\r' || c == '\n' || c.toNat == 0x85 || c.toNat == 0x2028 || c.toNat == 0x2029

def isWordChar (c : Char) : Bool := c.isAlphanum || c == '-' || c == '_'

def isHexDigit (c : Char) : Bool :=
  c.isDigit || ('a' ≤ c && c ≤ 'f') || ('A' ≤ c && c ≤ 'F')

def endsLine : Option Char → Bool
  | none => true
  | some c => isBreak c

def endsWord : Option Char → Bool
  | some ' ' => true
  | c => endsLine c

def endsToken : Option Char → Bool
  | some '\t' => true
  | c => endsWord c

/-- The byte order mark does not take a column. -/
def byteOrderMark : Char := Char.ofNat 0xfeff

def Position.past (p : Position) (c : Char) (next : Option Char) : Position :=
  if isBreak c && !(c == '\r' && next == some '\n') then ⟨p.index + 1, p.line + 1, 0⟩
  else if c == byteOrderMark then { p with index := p.index + 1 }
  else { p with index := p.index + 1, column := p.column + 1 }

structure Cursor where
  rest : List Char
  place : Position := {}
  deriving Repr, Inhabited

namespace Cursor

def peek (c : Cursor) (k : Nat := 0) : Option Char := c.rest[k]?

def next (c : Cursor) : Cursor :=
  match c.rest with
  | [] => c
  | x :: rest => ⟨rest, c.place.past x rest.head?⟩

def forward (c : Cursor) : Nat → Cursor
  | 0 => c
  | n + 1 => c.next.forward n

def span (p : Char → Bool) (c : Cursor) : List Char × Cursor :=
  let taken := c.rest.takeWhile p
  (taken, c.forward taken.length)

def skip (p : Char → Bool) (c : Cursor) : Cursor := (c.span p).2

def skipSpaces (c : Cursor) : Cursor := c.skip (· == ' ')

def skipComment (c : Cursor) : Cursor :=
  let c := c.skipSpaces
  if c.peek == some '#' then c.skip fun x => !isBreak x else c

/-- A line break as it counts in a scalar; the two Unicode separators are kept. -/
def lineBreak? (c : Cursor) : Option (Char × Cursor) :=
  match c.rest with
  | '\r' :: '\n' :: _ => some ('\n', c.forward 2)
  | x :: _ =>
    if x == '\r' || x == '\n' || x.toNat == 0x85 then some ('\n', c.next)
    else if isBreak x then some (x, c.next)
    else none
  | [] => none

def skipBreak (c : Cursor) : Cursor := (c.lineBreak?.map Prod.snd).getD c

/-- The two marks that separate documents, where they stand as words. -/
def startsWithMark (c : Cursor) : Bool :=
  (c.rest.take 3 == ['-', '-', '-'] || c.rest.take 3 == ['.', '.', '.']) && endsToken (c.peek 3)

end Cursor

/-- Text of a stream in the encoding its first bytes show, UTF-8 if they show none. -/
def decodeStream (bytes : List UInt8) : Option (List Char) :=
  match bytes with
  | 0xff :: 0xfe :: _ => Text.Utf16.decode true bytes
  | 0xfe :: 0xff :: _ => Text.Utf16.decode false bytes
  | _ => (Text.Utf8.decode bytes).toOption

inductive Source where
  | text (content : String)
  | bytes (content : List UInt8)
  deriving Repr, Inhabited

def Source.cursor (source : Source) : Except Fault Cursor :=
  let chars? := match source with
    | .text content => some content.toList
    | .bytes content => decodeStream content
  match chars? with
  | none => .error (.malformed .undecodable {})
  | some chars =>
    match chars.find? (!isAllowed ·) with
    | some c => .error (.malformed (.unprintable c) {})
    | none => .ok ⟨chars, {}⟩

end AccessPolicy.Yaml
