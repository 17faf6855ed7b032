import AccessPolicy.Yaml.Token.Basic

/-! The texts of scalars: plain, quoted and block. A single line break within a scalar
counts as a space; of several in a row all but the first count. -/

namespace AccessPolicy.Yaml

def foldBreaks (first : Char) (others : List Char) : List Char :=
  if first != '\n' then first :: others
  else if others.isEmpty then [' '] else others

namespace Plain

def endsBefore (flow : Bool) (c : Char) (next : Option Char) : Bool :=
  endsToken (some c) ||
  (c == ':' && (endsToken next || (flow && next.any fun x => ",[]\x7b\x7d".toList.contains x))) ||
  (flow && ",?[]\x7b\x7d".toList.contains c)

def run (flow : Bool) : List Char → List Char
  | [] => []
  | c :: rest => if endsBefore flow c rest.head? then [] else c :: run flow rest

/-- The breaks and spaces after the first break of a gap; `none` if the lines end at a
mark that separates documents. -/
def breaks (c : Cursor) : Nat → Option (List Char) × Cursor
  | 0 => (some [], c)
  | fuel + 1 =>
    let c := c.skipSpaces
    match c.lineBreak? with
    | none => (some [], c)
    | some (x, c) =>
      if c.startsWithMark then (none, c)
      else
        let (rest, c) := breaks c fuel
        (rest.map (x :: ·), c)

/-- What stands between two words of a plain scalar, and whether a line ended in it. -/
def gap (c : Cursor) : List Char × Bool × Cursor :=
  let (spaces, c) := c.span (· == ' ')
  match c.lineBreak? with
  | none => (spaces, false, c)
  | some (x, c) =>
    if c.startsWithMark then ([], true, c)
    else
      match breaks c (c.rest.length + 1) with
      | (none, c) => ([], true, c)
      | (some others, c) => (foldBreaks x others, true, c)

structure Result where
  text : List Char
  stop : Position
  /-- The reader stands at the start of a line. -/
  atLineStart : Bool
  after : Cursor

def scan (indent : Int) (flow : Bool) (before : Result) (spaces : List Char) : Nat → Result
  | 0 => before
  | fuel + 1 =>
    let word := run flow before.after.rest
    if before.after.peek == some '#' || word.isEmpty then before
    else
      let c := before.after.forward word.length
      let (blank, broken, after) := gap c
      let result := ⟨before.text ++ spaces ++ word, c.place, broken, after⟩
      if blank.isEmpty || (!flow && decide ((after.place.column : Int) < indent)) then result
      else scan indent flow result blank fuel

/-- A plain scalar reaches over lines that are indented at least as far as asked. -/
def read (indent : Int) (flow : Bool) (c : Cursor) : Result :=
  scan indent flow ⟨[], c.place, false, c⟩ [] (c.rest.length + 1)

end Plain

namespace Quoted

def escape? : Char → Option Char
  | '0' => some (Char.ofNat 0)
  | 'a' => some (Char.ofNat 0x7)
  | 'b' => some (Char.ofNat 0x8)
  | 't' | '\t' => some '\t'
  | 'n' => some '\n'
  | 'v' => some (Char.ofNat 0xb)
  | 'f' => some (Char.ofNat 0xc)
  | 'r' => some '\r'
  | 'e' => some (Char.ofNat 0x1b)
  | ' ' => some ' '
  | '"' => some '"'
  | '\\' => some '\\'
  | '/' => some '/'
  | 'N' => some (Char.ofNat 0x85)
  | '_' => some (Char.ofNat 0xa0)
  | 'L' => some (Char.ofNat 0x2028)
  | 'P' => some (Char.ofNat 0x2029)
  | _ => none

def codeWidth? : Char → Option Nat
  | 'x' => some 2
  | 'u' => some 4
  | 'U' => some 8
  | _ => none

def hexDigit (c : Char) : Nat :=
  if c.isDigit then c.toNat - '0'.toNat
  else if c.isUpper then c.toNat - 'A'.toNat + 10 else c.toNat - 'a'.toNat + 10

def textOfCode (code : Nat) : Except Fault (List Char) :=
  if 0x7fffffff < code then .error (.misspelled .longCodePoint)
  else if 0x10ffff < code then .error (.misspelled .codePoint)
  else .ok (Text.Surrogate.held code)

def codePoint (width : Nat) : Step (List Char) := fun c =>
  let digits := c.rest.take width
  if digits.length = width ∧ digits.all isHexDigit then do
    let x ← textOfCode (digits.foldl (fun n d => n * 16 + hexDigit d) 0)
    return (x, c.forward width)
  else c.fail (.escapeDigits width)

private def isGap (c : Char) : Bool := c == ' ' || c == '\t'

def breaks (c : Cursor) : Nat → Except Fault (List Char × Cursor)
  | 0 => .ok ([], c)
  | fuel + 1 =>
    if c.startsWithMark then c.fail .separatorInQuote
    else
      let c := c.skip isGap
      match c.lineBreak? with
      | none => .ok ([], c)
      | some (x, c) => do
        let (rest, c) ← breaks c fuel
        return (x :: rest, c)

def allBreaks : Step (List Char) := fun c => breaks c (c.rest.length + 1)

/-- A backslash at the end of a line drops the break and the blanks that follow it. -/
def escape : Step (List Char) := fun c =>
  match c.peek with
  | none => c.fail .unclosedQuote
  | some x =>
    match escape? x, codeWidth? x with
    | some y, _ => .ok ([y], c.next)
    | none, some width => codePoint width c.next
    | none, none => if isBreak x then allBreaks c.skipBreak else c.fail (.unknownEscape x)

def run (double : Bool) (c : Cursor) : Nat → Except Fault (List Char × Cursor)
  | 0 => .ok ([], c)
  | fuel + 1 => do
    let (plain, c) := c.span fun x =>
      !(x == '\'' || x == '"' || x == '\\' || isGap x || isBreak x)
    let (more, c, goesOn) ← match c.peek with
      | some '\'' =>
        if double then pure (['\''], c.next, true)
        else if c.peek 1 == some '\'' then pure (['\''], c.forward 2, true)
        else pure ([], c, false)
      | some '"' => if double then pure ([], c, false) else pure (['"'], c.next, true)
      | some '\\' =>
        if double then do
          let (text, c) ← escape c.next
          pure (text, c, true)
        else pure (['\\'], c.next, true)
      | _ => pure ([], c, false)
    if goesOn then
      let (rest, c) ← run double c fuel
      return (plain ++ more ++ rest, c)
    else return (plain ++ more, c)

/-- Blanks within a line stand for themselves. -/
def gap : Step (List Char) := fun c =>
  let (blanks, c) := c.span isGap
  match c.peek, c.lineBreak? with
  | none, _ => c.fail .unclosedQuote
  | some _, none => .ok (blanks, c)
  | some _, some (x, c) => do
    let (others, c) ← allBreaks c
    return (foldBreaks x others, c)

def scan (double : Bool) (c : Cursor) : Nat → Except Fault (List Char × Cursor)
  | 0 => c.fail .unclosedQuote
  | fuel + 1 => do
    let (text, c) ← run double c (c.rest.length + 1)
    if c.peek == some (if double then '"' else '\'') then return (text, c.next)
    else
      let (blank, c) ← gap c
      let (rest, c) ← scan double c fuel
      return (text ++ blank ++ rest, c)

def read (double : Bool) : Step (List Char) := fun c =>
  scan double c.next (c.rest.length + 1)

end Quoted

namespace Block

inductive Chomping where
  | clip
  | strip
  | keep
  deriving DecidableEq, Repr

structure Header where
  chomping : Chomping
  increment : Option Nat

def readChomping (c : Cursor) : Option Chomping × Cursor :=
  match c.peek with
  | some '+' => (some .keep, c.next)
  | some '-' => (some .strip, c.next)
  | _ => (none, c)

def readIncrement : Step (Option Nat) := fun c =>
  match c.peek with
  | some d =>
    if d == '0' then c.fail .blockIndicator
    else if d.isDigit then .ok (some (d.toNat - '0'.toNat), c.next)
    else .ok (none, c)
  | none => .ok (none, c)

/-- The two indicators stand in either order. -/
def readIndicators : Step Header := fun c => do
  let (before, c) := readChomping c
  let (increment, c) ← readIncrement c
  let (after, c) := if before.isNone ∧ increment.isSome then readChomping c else (none, c)
  if endsWord c.peek then return (⟨(before.or after).getD .clip, increment⟩, c)
  else c.fail .blockHeader

def readHeader : Step Header := fun c => do
  let (header, c) ← readIndicators c
  let c := c.skipComment
  if endsLine c.peek then return (header, c.skipBreak) else c.fail .blockHeader

/-- Blank lines before the text, the widest column their spaces reach, and the place
after the last of them. -/
def leading (c : Cursor) (widest : Nat) (stop : Position) :
    Nat → List Char × Nat × Position × Cursor
  | 0 => ([], widest, stop, c)
  | fuel + 1 =>
    if c.peek == some ' ' then
      let c := c.next
      leading c (max widest c.place.column) stop fuel
    else
      match c.lineBreak? with
      | none => ([], widest, stop, c)
      | some (x, c) =>
        let (rest, result) := leading c widest c.place fuel
        (x :: rest, result)

def indentTo (indent : Nat) (c : Cursor) : Nat → Cursor
  | 0 => c
  | fuel + 1 =>
    if c.place.column < indent && c.peek == some ' ' then indentTo indent c.next fuel else c

def breaks (indent : Nat) (c : Cursor) (stop : Position) : Nat → List Char × Position × Cursor
  | 0 => ([], stop, c)
  | fuel + 1 =>
    let c := indentTo indent c (indent + 1)
    match c.lineBreak? with
    | none => ([], stop, c)
    | some (x, c) =>
      let (rest, result) := breaks indent c c.place fuel
      (x :: rest, result)

def allBreaks (indent : Nat) (c : Cursor) : List Char × Position × Cursor :=
  breaks indent c c.place (c.rest.length + 1)

private def isGap (c : Option Char) : Bool := c == some ' ' || c == some '\t'

/-- The lines of the text. A break between two lines that both start with text is folded,
if the scalar is. Where the text ends, its last break is kept apart. -/
def lines (folded : Bool) (indent : Nat) (pending : List Char) (stop : Position) (c : Cursor) :
    Nat → List Char × Option Char × List Char × Position × Cursor
  | 0 => ([], none, pending, stop, c)
  | fuel + 1 =>
    if c.place.column = indent ∧ c.peek.isSome then
      let startsWithText := !isGap c.peek
      let (line, c) := c.span fun x => !isBreak x
      let break? := c.lineBreak?
      let c := (break?.map Prod.snd).getD c
      let (blank, stop, c) := allBreaks indent c
      if c.place.column = indent ∧ c.peek.isSome then
        let first := (break?.map fun p => [p.1]).getD []
        let joint :=
          if folded && first == ['\n'] && startsWithText && !isGap c.peek then
            if blank.isEmpty then [' '] else []
          else first
        let (rest, result) := lines folded indent blank stop c fuel
        (pending ++ line ++ joint ++ rest, result)
      else (pending ++ line, break?.map Prod.fst, blank, stop, c)
    else ([], none, pending, stop, c)

def read (folded : Bool) (parent : Int) (c : Cursor) :
    Except Fault (List Char × Position × Cursor) := do
  let (header, c) ← readHeader c.next
  let least := (max 1 (parent + 1)).toNat
  let (indent, blank, stop, c) := match header.increment with
    | none =>
      let (blank, widest, stop, c) := leading c 0 c.place (c.rest.length + 1)
      (max least widest, blank, stop, c)
    | some increment =>
      let indent := least + increment - 1
      let (blank, stop, c) := allBreaks indent c
      (indent, blank, stop, c)
  let (text, last, blank, stop, c) := lines folded indent blank stop c (c.rest.length + 1)
  let tail := match header.chomping with
    | .strip => []
    | .clip => last.toList
    | .keep => last.toList ++ blank
  return (text ++ tail, stop, c)

end Block

end AccessPolicy.Yaml
