import AccessPolicy.Yaml.Token.Name
import AccessPolicy.Yaml.Token.Scalar

/-! The tokens of a stream. A token that may turn out to be a key is held back until the
text shows whether a colon follows, so a fault stops the tokens exactly where a reader
that asks for one token at a time would meet it. -/

namespace AccessPolicy.Yaml

/-- A token that is a key if a colon follows it on its line, and has to be one if it
starts a line of a block mapping. -/
structure Candidate where
  number : Nat
  required : Bool
  place : Position
  deriving Repr

structure Lexer where
  cursor : Cursor
  finished : Bool := false
  flow : Int := 0
  indent : Int := -1
  outer : List Int := []
  keyAllowed : Bool := true
  candidates : List (Int × Candidate) := []
  held : List Token := []
  taken : Nat := 0

namespace Lexer

def inFlow (l : Lexer) : Bool := l.flow != 0

def column (l : Lexer) : Int := l.cursor.place.column

def emit (l : Lexer) (kind : TokenKind) (start stop : Position) : Lexer :=
  { l with held := l.held ++ [⟨kind, start, stop⟩] }

def emitHere (l : Lexer) (kind : TokenKind) : Lexer :=
  l.emit kind l.cursor.place l.cursor.place

def emitIndicator (l : Lexer) (kind : TokenKind) (width : Nat := 1) : Lexer :=
  let after := l.cursor.forward width
  { l.emit kind l.cursor.place after.place with cursor := after }

def insertAt (l : Lexer) (number : Nat) (kind : TokenKind) (place : Position) : Lexer :=
  { l with held := l.held.insertIdx (number - l.taken) ⟨kind, place, place⟩ }

def candidate? (l : Lexer) : Option Candidate := l.candidates.lookup l.flow

def withoutCandidate (l : Lexer) : Lexer :=
  { l with candidates := l.candidates.filter fun (level, _) => level != l.flow }

def dropCandidate (l : Lexer) : Except Fault Lexer :=
  if l.candidate?.any Candidate.required then l.cursor.fail .missingColon
  else .ok l.withoutCandidate

def saveCandidate (l : Lexer) : Except Fault Lexer := do
  if l.keyAllowed then
    let l ← l.dropCandidate
    let required := !l.inFlow && l.indent == l.column
    let candidate := ⟨l.taken + l.held.length, required, l.cursor.place⟩
    return { l with candidates := (l.flow, candidate) :: l.candidates }
  else return l

/-- A key lies within one line and within 1024 characters. -/
def isStale (l : Lexer) (candidate : Candidate) : Bool :=
  candidate.place.line != l.cursor.place.line ||
    1024 + candidate.place.index < l.cursor.place.index

def dropStale (l : Lexer) : Except Fault Lexer :=
  let (stale, fresh) := l.candidates.partition fun (_, candidate) => l.isStale candidate
  if stale.any fun (_, candidate) => candidate.required then l.cursor.fail .missingColon
  else .ok { l with candidates := fresh }

def unwind (l : Lexer) (column : Int) : Lexer :=
  if l.inFlow then l else go l l.outer
where
  go (l : Lexer) : List Int → Lexer
    | [] => l
    | parent :: rest =>
      if column < l.indent then
        go { l.emitHere .blockEnd with indent := parent, outer := rest } rest
      else l

def indentTo (l : Lexer) (column : Int) : Option Lexer :=
  if l.indent < column then some { l with outer := l.indent :: l.outer, indent := column }
  else none

def skipToToken (l : Lexer) : Nat → Lexer
  | 0 => l
  | fuel + 1 =>
    let c := l.cursor.skipComment
    match c.lineBreak? with
    | none => { l with cursor := c }
    | some (_, c) =>
      skipToToken { l with cursor := c, keyAllowed := l.keyAllowed || !l.inFlow } fuel

/-- A mark or directive ends all block collections. -/
def closeBlocks (l : Lexer) : Except Fault Lexer := do
  let l ← (l.unwind (-1)).dropCandidate
  return { l with keyAllowed := false }

def fetchEnd (l : Lexer) : Except Fault Lexer := do
  let l ← l.closeBlocks
  return { l.emitHere .streamEnd with candidates := [], finished := true }

def fetchDirective (l : Lexer) : Except Fault Lexer := do
  let l ← l.closeBlocks
  let (directive, after) ← readDirective l.cursor
  return { l.emit (.directive directive) l.cursor.place after.place with cursor := after }

def fetchMark (l : Lexer) (kind : TokenKind) : Except Fault Lexer := do
  let l ← l.closeBlocks
  return l.emitIndicator kind 3

def fetchFlowStart (l : Lexer) (kind : TokenKind) : Except Fault Lexer := do
  let l ← l.saveCandidate
  return { l.emitIndicator kind with flow := l.flow + 1, keyAllowed := true }

def fetchFlowEnd (l : Lexer) (kind : TokenKind) : Except Fault Lexer := do
  let l ← l.dropCandidate
  return { l.emitIndicator kind with flow := l.flow - 1, keyAllowed := false }

def fetchFlowEntry (l : Lexer) : Except Fault Lexer := do
  let l ← { l with keyAllowed := true }.dropCandidate
  return l.emitIndicator .flowEntry

/-- In a block collection an entry, key or value may stand only where a key may. -/
def openBlock (l : Lexer) (kind : TokenKind) (refusal : Malformation) : Except Fault Lexer :=
  if l.inFlow then .ok l
  else if !l.keyAllowed then l.cursor.fail refusal
  else .ok (((l.indentTo l.column).map (·.emitHere kind)).getD l)

def fetchBlockEntry (l : Lexer) : Except Fault Lexer := do
  let l ← l.openBlock .blockSequenceStart .entryNotAllowed
  let l ← { l with keyAllowed := true }.dropCandidate
  return l.emitIndicator .blockEntry

def fetchKey (l : Lexer) : Except Fault Lexer := do
  let l ← l.openBlock .blockMappingStart .keyNotAllowed
  let l ← { l with keyAllowed := !l.inFlow }.dropCandidate
  return l.emitIndicator .key

/-- A colon makes a key of the candidate before it, and starts a mapping if the key is
indented further than the present collection. -/
def fetchValue (l : Lexer) : Except Fault Lexer := do
  match l.candidate? with
  | some candidate =>
    let l := l.withoutCandidate.insertAt candidate.number .key candidate.place
    let l := if l.inFlow then l else
      ((l.indentTo candidate.place.column).map
        (·.insertAt candidate.number .blockMappingStart candidate.place)).getD l
    return { l with keyAllowed := false }.emitIndicator .value
  | none =>
    let l ← l.openBlock .blockMappingStart .valueNotAllowed
    let l ← { l with keyAllowed := !l.inFlow }.dropCandidate
    return l.emitIndicator .value

def fetchNode {α : Type} (l : Lexer) (kind : α → TokenKind) (read : Step α) :
    Except Fault Lexer := do
  let l ← l.saveCandidate
  let (content, after) ← read l.cursor
  return { l.emit (kind content) l.cursor.place after.place with
    keyAllowed := false, cursor := after }

def fetchQuoted (l : Lexer) (double : Bool) : Except Fault Lexer :=
  l.fetchNode (fun text => .scalar (String.ofList text) false) (Quoted.read double)

def fetchBlock (l : Lexer) (folded : Bool) : Except Fault Lexer := do
  let l ← { l with keyAllowed := true }.dropCandidate
  let (text, stop, after) ← Block.read folded l.indent l.cursor
  return { l.emit (.scalar (String.ofList text) false) l.cursor.place stop with cursor := after }

def fetchPlain (l : Lexer) : Except Fault Lexer := do
  let l ← l.saveCandidate
  let result := Plain.read (l.indent + 1) l.inFlow l.cursor
  return { l.emit (.scalar (String.ofList result.text) true) l.cursor.place result.stop with
    keyAllowed := result.atLineStart, cursor := result.after }

def isIndicator (c : Char) : Bool := "-?:,[]\x7b\x7d#&*!|>'\"%@`".toList.contains c

def startsPlain (l : Lexer) (c : Char) : Bool :=
  !(endsToken (some c) || isIndicator c) ||
    (!endsToken (l.cursor.peek 1) && (c == '-' || (!l.inFlow && (c == '?' || c == ':'))))

def startsMark (l : Lexer) (c : Char) : Bool :=
  l.cursor.place.column == 0 && l.cursor.rest.take 3 == [c, c, c] && endsToken (l.cursor.peek 3)

def fetchAt (l : Lexer) (c : Char) : Except Fault Lexer :=
  let separate := endsToken (l.cursor.peek 1)
  if c == '%' && l.cursor.place.column == 0 then l.fetchDirective
  else if c == '-' && l.startsMark '-' then l.fetchMark .documentStart
  else if c == '.' && l.startsMark '.' then l.fetchMark .documentEnd
  else if c == '[' then l.fetchFlowStart .flowSequenceStart
  else if c == '\x7b' then l.fetchFlowStart .flowMappingStart
  else if c == ']' then l.fetchFlowEnd .flowSequenceEnd
  else if c == '\x7d' then l.fetchFlowEnd .flowMappingEnd
  else if c == ',' then l.fetchFlowEntry
  else if c == '-' && separate then l.fetchBlockEntry
  else if c == '?' && (l.inFlow || separate) then l.fetchKey
  else if c == ':' && (l.inFlow || separate) then l.fetchValue
  else if c == '*' then l.fetchNode .alias readAnchor
  else if c == '&' then l.fetchNode .anchor readAnchor
  else if c == '!' then l.fetchNode .tag readTag
  else if c == '|' && !l.inFlow then l.fetchBlock false
  else if c == '>' && !l.inFlow then l.fetchBlock true
  else if c == '\'' then l.fetchQuoted false
  else if c == '"' then l.fetchQuoted true
  else if l.startsPlain c then l.fetchPlain
  else l.cursor.fail (.noToken c)

def fetch (l : Lexer) : Except Fault Lexer := do
  let l := if l.cursor.place.index == 0 && l.cursor.peek == some byteOrderMark then
    { l with cursor := l.cursor.next } else l
  let l ← (l.skipToToken (l.cursor.rest.length + 1)).dropStale
  let l := l.unwind l.column
  match l.cursor.peek with
  | none => l.fetchEnd
  | some c => l.fetchAt c

/-- Whether the first token held may still become a key. -/
def isOpen (l : Lexer) : Bool :=
  (l.candidates.map fun (_, candidate) => candidate.number).min? == some l.taken

def run (l : Lexer) : Nat → List Token × Option Fault
  | 0 => ([], none)
  | fuel + 1 =>
    let settled := if l.finished || l.held.isEmpty then .ok l else l.dropStale
    match settled with
    | .error fault => ([], some fault)
    | .ok l =>
      if !l.finished && (l.held.isEmpty || l.isOpen) then
        match l.fetch with
        | .error fault => ([], some fault)
        | .ok l => run l fuel
      else
        match l.held with
        | [] => ([], none)
        | token :: held =>
          let (tokens, fault?) := run { l with held := held, taken := l.taken + 1 } fuel
          (token :: tokens, fault?)

end Lexer

/-- The tokens of a stream up to the first fault. Every character starts at most one
token and ends at most one collection, which bounds the number of steps. -/
def tokensOf (cursor : Cursor) : List Token × Option Fault :=
  { cursor : Lexer }.run (8 * (cursor.rest.length + 4))

end AccessPolicy.Yaml
