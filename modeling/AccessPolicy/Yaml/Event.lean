import AccessPolicy.Yaml.Token.Stream

/-! The events of a stream: where documents and collections start and end, scalars, and
aliases. A stack tells what may come next; every step takes its top and yields one event. -/

namespace AccessPolicy.Yaml

/-- What may stand before a node. The tag is written out in full. -/
structure Properties where
  anchor : Option String := none
  tag : Option String := none
  deriving DecidableEq, Repr, Inhabited

inductive EventKind where
  | documentStart
  | documentEnd
  | alias (name : String)
  | scalar (properties : Properties) (text : String) (showsKind : Bool)
  | sequenceStart (properties : Properties)
  | sequenceEnd
  | mappingStart (properties : Properties)
  | mappingEnd
  deriving DecidableEq, Repr

structure Event where
  kind : EventKind
  place : Position
  deriving DecidableEq, Repr

def Event.emptyScalar (place : Position) : Event := ⟨.scalar {} "" true, place⟩

inductive Expectation where
  | firstDocument
  | document
  | documentContent
  | documentEnd
  | node (inBlock mayLackIndent : Bool)
  | blockEntry
  | indentlessEntry
  | blockKey
  | blockValue
  | flowEntry (first : Bool)
  | pairKey
  | pairValue
  | pairEnd
  | flowKey (first : Bool)
  | flowValue
  | flowMissingValue
  deriving DecidableEq, Repr

/-- Tokens not read yet, the fault that ends them, and what tag handles stand for. -/
structure Reading where
  tokens : List Token
  fault? : Option Fault
  handles : List (String × String) := []

abbrev Production := Event × List Expectation

abbrev Grammar := StateT Reading (Except Fault)

namespace Grammar

def peek : Grammar Token := do
  let reading ← get
  match reading.tokens, reading.fault? with
  | token :: _, _ => return token
  | [], some fault => throw fault
  | [], none => return ⟨.streamEnd, {}, {}⟩

def take : Grammar Token := do
  let token ← peek
  modify fun reading => { reading with tokens := reading.tokens.tail }
  return token

def takeIf (p : TokenKind → Bool) : Grammar (Option Token) := do
  if p (← peek).kind then return some (← take) else return none

def fail {α : Type} (problem : Malformation) (token : Token) : Grammar α :=
  throw (.malformed problem token.start)

end Grammar

/-! ## Documents -/

def defaultHandles : List (String × String) := [("!", "!"), ("!!", "tag:yaml.org,2002:")]

namespace Grammar

def declare (directive : Directive) (token : Token) (hasVersion : Bool) : Grammar Bool := do
  match directive with
  | .version major _ =>
    if hasVersion then fail .duplicateVersion token
    else if major != 1 then fail .unsupportedVersion token
    else return true
  | .handle name uri =>
    if ((← get).handles.lookup name).isSome then fail (.duplicateHandle name) token
    else
      modify fun reading => { reading with handles := reading.handles ++ [(name, uri)] }
      return hasVersion
  | .other => return hasVersion

def directives (hasVersion : Bool) : Nat → Grammar Unit
  | 0 => return
  | fuel + 1 => do
    let token ← peek
    match token.kind with
    | .directive directive =>
      let _ ← take
      directives (← declare directive token hasVersion) fuel
    | _ => return

def skipEnds : Nat → Grammar Unit
  | 0 => return
  | fuel + 1 => do
    match ← takeIf (· == .documentEnd) with
    | none => return
    | some _ => skipEnds fuel

/-- A document that a line of three hyphens starts, or the end of the stream. -/
def document : Grammar (Option Production) := do
  skipEnds (← get).tokens.length
  let token ← peek
  if token.kind == .streamEnd then return none
  else
    modify fun reading => { reading with handles := [] }
    directives false (← get).tokens.length
    let mark ← peek
    if mark.kind != .documentStart then fail .expectedDocumentStart mark
    else
      let _ ← take
      modify fun reading => { reading with handles := reading.handles ++ defaultHandles }
      return some (⟨.documentStart, token.start⟩, [.documentContent, .documentEnd])

/-- The first document needs no line of hyphens. -/
def firstDocument : Grammar (Option Production) := do
  let token ← peek
  match token.kind with
  | .directive _ | .documentStart | .streamEnd => document
  | _ =>
    modify fun reading => { reading with handles := defaultHandles }
    return some (⟨.documentStart, token.start⟩, [.node true false, .documentEnd])

def documentEnd : Grammar Production := do
  let token ← peek
  let _ ← takeIf (· == .documentEnd)
  return (⟨.documentEnd, token.start⟩, [.document])

/-! ## Nodes -/

def tagText (name : TagName) (token : Token) : Grammar String := do
  match name.handle with
  | none => return name.suffix
  | some handle =>
    match (← get).handles.lookup handle with
    | none => fail (.undefinedHandle handle) token
    | some uri => return uri ++ name.suffix

def anchor : Grammar (Option String) := do
  match (← peek).kind with
  | .anchor name =>
    let _ ← take
    return some name
  | _ => return none

def tag : Grammar (Option (TagName × Token)) := do
  let token ← peek
  match token.kind with
  | .tag name =>
    let _ ← take
    return some (name, token)
  | _ => return none

/-- An anchor and a tag, in any order, each at most once. -/
def properties : Grammar Properties := do
  let first ← anchor
  let tag? ← tag
  let anchor? ← if first.isNone && tag?.isSome then anchor else pure first
  match tag? with
  | none => return ⟨anchor?, none⟩
  | some (name, token) => return ⟨anchor?, some (← tagText name token)⟩

/-- A node. In a block mapping the entries of a sequence may stand at the column of the
keys. Without content a node is empty text if it has properties. -/
def node (inBlock mayLackIndent : Bool) : Grammar Production := do
  let first ← peek
  match first.kind with
  | .alias name =>
    let _ ← take
    return (⟨.alias name, first.start⟩, [])
  | _ =>
    let given ← properties
    let token ← peek
    let opening (kind : Properties → EventKind) (inside : Expectation) : Grammar Production := do
      let _ ← take
      return (⟨kind given, first.start⟩, [inside])
    match token.kind with
    | .scalar text isPlain =>
      let _ ← take
      let showsKind := (isPlain && given.tag.isNone) || given.tag == some "!"
      return (⟨.scalar given text showsKind, first.start⟩, [])
    | .flowSequenceStart => opening .sequenceStart (.flowEntry true)
    | .flowMappingStart => opening .mappingStart (.flowKey true)
    | kind =>
      if mayLackIndent && kind == .blockEntry then
        return (⟨.sequenceStart given, first.start⟩, [.indentlessEntry])
      else if inBlock && kind == .blockSequenceStart then opening .sequenceStart .blockEntry
      else if inBlock && kind == .blockMappingStart then opening .mappingStart .blockKey
      else if given.anchor.isSome || given.tag.isSome then
        let showsKind := given.tag.isNone || given.tag == some "!"
        return (⟨.scalar given "" showsKind, first.start⟩, [])
      else fail .expectedContent token

/-- A node and what follows it; an empty one if the next token cannot start a node. -/
def nodeBefore (next : Expectation) (inBlock mayLackIndent : Bool) (after : Position)
    (stops : List TokenKind) : Grammar Production := do
  if stops.contains (← peek).kind then return (.emptyScalar after, [next])
  else
    let (event, inside) ← node inBlock mayLackIndent
    return (event, inside ++ [next])

def documentContent : Grammar Production := do
  let token ← peek
  match token.kind with
  | .directive _ | .documentStart | .documentEnd | .streamEnd =>
    return (.emptyScalar token.start, [])
  | _ => node true false

/-! ## Block collections -/

def blockEntry : Grammar Production := do
  let token ← take
  match token.kind with
  | .blockEntry =>
    nodeBefore .blockEntry true false token.stop [.blockEntry, .blockEnd]
  | .blockEnd => return (⟨.sequenceEnd, token.start⟩, [])
  | _ => fail .expectedBlockEnd token

def indentlessEntry : Grammar Production := do
  let token ← peek
  match token.kind with
  | .blockEntry =>
    let _ ← take
    nodeBefore .indentlessEntry true false token.stop [.blockEntry, .key, .value, .blockEnd]
  | _ => return (⟨.sequenceEnd, token.start⟩, [])

def blockKey : Grammar Production := do
  let token ← take
  match token.kind with
  | .key => nodeBefore .blockValue true true token.stop [.key, .value, .blockEnd]
  | .blockEnd => return (⟨.mappingEnd, token.start⟩, [])
  | _ => fail .expectedBlockEnd token

/-- The value after a key, which is empty if there is no colon. -/
def valueBefore (next : Expectation) (inBlock : Bool) (stops : List TokenKind) :
    Grammar Production := do
  let token ← peek
  match token.kind with
  | .value =>
    let _ ← take
    nodeBefore next inBlock inBlock token.stop stops
  | _ => return (.emptyScalar token.start, [next])

def blockValue : Grammar Production := valueBefore .blockKey true [.key, .value, .blockEnd]

/-! ## Flow collections -/

def separator (first : Bool) : Grammar Unit := do
  let token ← peek
  if first then return
  else if token.kind == .flowEntry then
    let _ ← take
  else fail .expectedSeparator token

/-- An entry of a flow sequence; a lone pair is a mapping of its own. -/
def flowEntry (first : Bool) : Grammar Production := do
  match ← takeIf (· == .flowSequenceEnd) with
  | some token => return (⟨.sequenceEnd, token.start⟩, [])
  | none =>
    separator first
    let token ← peek
    match token.kind with
    | .key => return (⟨.mappingStart {}, token.start⟩, [.pairKey, .flowEntry false])
    | .flowSequenceEnd =>
      let _ ← take
      return (⟨.sequenceEnd, token.start⟩, [])
    | _ =>
      let (event, inside) ← node false false
      return (event, inside ++ [.flowEntry false])

def pairKey : Grammar Production := do
  let token ← take
  nodeBefore .pairValue false false token.stop [.value, .flowEntry, .flowSequenceEnd]

def pairValue : Grammar Production := valueBefore .pairEnd false [.flowEntry, .flowSequenceEnd]

def pairEnd : Grammar Production := do
  return (⟨.mappingEnd, (← peek).start⟩, [])

def flowKey (first : Bool) : Grammar Production := do
  match ← takeIf (· == .flowMappingEnd) with
  | some token => return (⟨.mappingEnd, token.start⟩, [])
  | none =>
    separator first
    let token ← peek
    match token.kind with
    | .key =>
      let _ ← take
      nodeBefore .flowValue false false token.stop [.value, .flowEntry, .flowMappingEnd]
    | .flowMappingEnd =>
      let _ ← take
      return (⟨.mappingEnd, token.start⟩, [])
    | _ =>
      let (event, inside) ← node false false
      return (event, inside ++ [.flowMissingValue])

def flowValue : Grammar Production :=
  valueBefore (.flowKey false) false [.flowEntry, .flowMappingEnd]

def flowMissingValue : Grammar Production := do
  return (.emptyScalar (← peek).start, [.flowKey false])

/-! ## Streams -/

def produce : Expectation → Grammar (Option Production)
  | .firstDocument => firstDocument
  | .document => document
  | .documentContent => some <$> documentContent
  | .documentEnd => some <$> documentEnd
  | .node inBlock mayLackIndent => some <$> node inBlock mayLackIndent
  | .blockEntry => some <$> blockEntry
  | .indentlessEntry => some <$> indentlessEntry
  | .blockKey => some <$> blockKey
  | .blockValue => some <$> blockValue
  | .flowEntry first => some <$> flowEntry first
  | .pairKey => some <$> pairKey
  | .pairValue => some <$> pairValue
  | .pairEnd => some <$> pairEnd
  | .flowKey first => some <$> flowKey first
  | .flowValue => some <$> flowValue
  | .flowMissingValue => some <$> flowMissingValue

def run (reading : Reading) (expected : List Expectation) :
    Nat → List Event × Option Fault
  | 0 => ([], none)
  | fuel + 1 =>
    match expected with
    | [] => ([], none)
    | expectation :: rest =>
      match produce expectation reading with
      | .error fault => ([], some fault)
      | .ok (none, _) => ([], none)
      | .ok (some (event, inside), reading) =>
        let (events, fault?) := run reading (inside ++ rest) fuel
        (event :: events, fault?)

end Grammar

/-- The events of a stream up to the first fault. No token takes part in more than four
events, nor does the end of a document. -/
def eventsOf (cursor : Cursor) : List Event × Option Fault :=
  let (tokens, fault?) := tokensOf cursor
  Grammar.run ⟨tokens, fault?, []⟩ [.firstDocument] (8 * (tokens.length + 2))

end AccessPolicy.Yaml
