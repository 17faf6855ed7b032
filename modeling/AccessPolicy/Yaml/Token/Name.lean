import AccessPolicy.Number.Written
import AccessPolicy.Text.Encoded
import AccessPolicy.Yaml.Token.Basic

/-! Anchors, tags and directives. -/

namespace AccessPolicy.Yaml

/-- The name after `&` or `*`; it has to end where a token may. -/
def readAnchor : Step String := fun c =>
  let (name, after) := c.next.span isWordChar
  if name.isEmpty then c.fail .anchorName
  else if endsToken after.peek || (after.peek.any fun x => "?:,]\x7d%@`".toList.contains x) then
    .ok (String.ofList name, after)
  else after.fail .anchorName

private def isUriChar (c : Char) : Bool :=
  c.isAlphanum || "-;/?:@&=+$,_.!~*'()[]".toList.contains c

private def hexValue (digits : List Char) : Nat :=
  digits.foldl (fun n d =>
    n * 16 + (if d.isDigit then d.toNat - '0'.toNat
      else if d.isUpper then d.toNat - 'A'.toNat + 10 else d.toNat - 'a'.toNat + 10)) 0

private def uriBytes : List Char → Option (List UInt8 × Nat)
  | '%' :: a :: b :: rest =>
    if isHexDigit a && isHexDigit b then
      (uriBytes rest).map fun (bytes, size) => (UInt8.ofNat (hexValue [a, b]) :: bytes, size + 3)
    else none
  | '%' :: _ => none
  | _ => some ([], 0)

private def readUriParts (c : Cursor) : Nat → Except Fault (List Char × Cursor)
  | 0 => .ok ([], c)
  | fuel + 1 => do
    let (plain, c) := c.span isUriChar
    if c.peek != some '%' then return (plain, c)
    match uriBytes c.rest with
    | none => c.fail .uriEscape
    | some (bytes, size) =>
      match Text.ofUtf8 bytes with
      | .error _ => c.fail .uriEscape
      | .ok text =>
        let (rest, c) ← readUriParts (c.forward size) fuel
        return (plain ++ text.toList ++ rest, c)

def readUri : Step String := fun c => do
  if !(c.peek.any fun x => isUriChar x || x == '%') then c.fail .tagUri
  else
    let (uri, c) ← readUriParts c (c.rest.length + 1)
    return (String.ofList uri, c)

/-- A handle: `!`, or a word between two of them; a lone `!` has a space after it. -/
def readHandle : Step String := fun c =>
  if c.peek != some '!' then c.fail .tagHandle
  else if c.peek 1 == some ' ' then .ok ("!", c.next)
  else
    let (word, after) := c.next.span isWordChar
    if after.peek != some '!' then after.fail .tagHandle
    else .ok (String.ofList ('!' :: word ++ ['!']), after.next)

private def hasHandle (c : Cursor) : Bool :=
  (c.next.rest.takeWhile fun x => x != ' ' && !isBreak x).contains '!'

private def readTagName : Step TagName := fun c =>
  if c.peek 1 == some '<' then do
    let (uri, after) ← readUri (c.forward 2)
    if after.peek != some '>' then after.fail .tagUri
    else return (⟨none, uri⟩, after.next)
  else if endsToken (c.peek 1) then .ok (⟨none, "!"⟩, c.next)
  else do
    let (handle, after) ← if hasHandle c then readHandle c else .ok ("!", c.next)
    let (suffix, after) ← readUri after
    return (⟨some handle, suffix⟩, after)

def readTag : Step TagName := fun c => do
  let (name, after) ← readTagName c
  if endsWord after.peek then return (name, after) else after.fail .tagEnd

private def readNumber : Step Nat := fun c =>
  let (digits, after) := c.span Char.isDigit
  if digits.isEmpty then c.fail .directiveVersion
  else if Number.digitLimit < digits.length then .error (.misspelled (.longInteger digits.length))
  else .ok (digits.foldl (fun n d => n * 10 + (d.toNat - '0'.toNat)) 0, after)

private def readVersion : Step Directive := fun c => do
  let (major, c) ← readNumber c.skipSpaces
  if c.peek != some '.' then c.fail .directiveVersion
  else
    let (minor, c) ← readNumber c.next
    if endsWord c.peek then return (.version major minor, c) else c.fail .directiveVersion

private def readHandleDirective : Step Directive := fun c => do
  let (handle, c) ← readHandle c.skipSpaces
  if c.peek != some ' ' then c.fail .tagHandle
  else
    let (uri, c) ← readUri c.skipSpaces
    if endsWord c.peek then return (.handle handle uri, c) else c.fail .tagUri

/-- A directive and the line break after it. Directives of other names are skipped. -/
def readDirective : Step Directive := fun c => do
  let (name, after) := c.next.span isWordChar
  if name.isEmpty || !endsWord after.peek then c.fail .directiveName
  else
    let (directive, after) ←
      if name == "YAML".toList then readVersion after
      else if name == "TAG".toList then readHandleDirective after
      else .ok (.other, after.skip fun x => !isBreak x)
    let after := after.skipComment
    if endsLine after.peek then return (directive, after.skipBreak)
    else after.fail .directiveEnd

end AccessPolicy.Yaml
