import AccessPolicy.Yaml.Cursor

/-! Tokens of a stream, each with the places where it starts and ends. -/

namespace AccessPolicy.Yaml

/-- A tag as written: verbatim, or a suffix to what its handle stands for. -/
structure TagName where
  handle : Option String
  suffix : String
  deriving DecidableEq, Repr, Inhabited

inductive Directive where
  | version (major minor : Nat)
  | handle (name uri : String)
  | other
  deriving DecidableEq, Repr

inductive TokenKind where
  | directive (directive : Directive)
  | documentStart
  | documentEnd
  | streamEnd
  | blockSequenceStart
  | blockMappingStart
  | blockEnd
  | flowSequenceStart
  | flowSequenceEnd
  | flowMappingStart
  | flowMappingEnd
  | flowEntry
  | blockEntry
  | key
  | value
  | alias (name : String)
  | anchor (name : String)
  | tag (name : TagName)
  | scalar (text : String) (isPlain : Bool)
  deriving DecidableEq, Repr

structure Token where
  kind : TokenKind
  start : Position
  stop : Position
  deriving Repr

/-- A step reads a prefix of the text and tells where it stopped. -/
abbrev Step (α : Type) := Cursor → Except Fault (α × Cursor)

def Cursor.fail {α : Type} (c : Cursor) (problem : Malformation) : Except Fault α :=
  .error (.malformed problem c.place)

end AccessPolicy.Yaml
