import AccessPolicy.Json.Basic

/-! Reading of JSON text. What is read are the code points of a text, first as tokens and then as a
document. The fields of an object keep their order, and a name may occur twice, as the text
allows. -/

namespace AccessPolicy.Json

/-- A document as it is read: a number as it is spelled, a text as the code points that it stands
for. -/
inductive Reading where
  | null
  | bool (value : Bool)
  | number (spelling : String)
  | text (codes : List Nat)
  | list (items : List Reading)
  | object (fields : List (List Nat × Reading))
  deriving Repr, Inhabited

inductive Mark where
  | openList
  | closeList
  | openObject
  | closeObject
  | comma
  | colon
  deriving DecidableEq, Repr

inductive Token where
  | mark (mark : Mark)
  | word (codes : List Nat)
  | text (codes : List Nat)
  deriving DecidableEq, Repr

/-! ## Tokens -/

/-- Where a reader is within tokens, with what it has of the present one, the last first. -/
inductive Mode where
  | between
  | word (codes : List Nat)
  | text (units : List Nat)
  | escaped (units : List Nat)
  /-- In an escape of four digits, with the value of those before and the number of those to
  come. -/
  | digits (units : List Nat) (value left : Nat)
  deriving DecidableEq, Repr

namespace Mode

def mark? : Nat → Option Mark
  | 0x5b => some .openList
  | 0x5d => some .closeList
  | 0x7b => some .openObject
  | 0x7d => some .closeObject
  | 0x2c => some .comma
  | 0x3a => some .colon
  | _ => none

def isSpace (code : Nat) : Bool := code = 0x20 || code = 0x0a || code = 0x0d || code = 0x09

def escape? : Nat → Option Nat
  | 0x22 => some 0x22
  | 0x5c => some 0x5c
  | 0x2f => some 0x2f
  | 0x62 => some 8
  | 0x66 => some 12
  | 0x6e => some 10
  | 0x72 => some 13
  | 0x74 => some 9
  | _ => none

def hexValue? (code : Nat) : Option Nat :=
  if 0x30 ≤ code && code ≤ 0x39 then some (code - 0x30)
  else if 0x61 ≤ code && code ≤ 0x66 then some (code - 0x61 + 10)
  else if 0x41 ≤ code && code ≤ 0x46 then some (code - 0x41 + 10)
  else none

def begin (code : Nat) : Mode × List Token :=
  match mark? code with
  | some mark => (.between, [.mark mark])
  | none =>
    if isSpace code then (.between, [])
    else if code = 0x22 then (.text [], [])
    else (.word [code], [])

/-- The next code point, and the tokens that it ends. A word is ended by what cannot be in it. -/
def step : Mode → Nat → Option (Mode × List Token)
  | .between, code => some (begin code)
  | .word codes, code =>
    if code = 0x22 then none
    else if (mark? code).isSome || isSpace code then
      let (mode, tokens) := begin code
      some (mode, .word codes.reverse :: tokens)
    else some (.word (code :: codes), [])
  | .text units, code =>
    if code = 0x22 then some (.between, [.text (Text.Surrogate.joined units.reverse)])
    else if code = 0x5c then some (.escaped units, [])
    else if code < 0x20 then none
    else some (.text (code :: units), [])
  | .escaped units, code =>
    if code = 0x75 then some (.digits units 0 4, [])
    else (escape? code).map fun unit => (.text (unit :: units), [])
  | .digits units value left, code =>
    (hexValue? code).map fun digit =>
      let value := 16 * value + digit
      if left ≤ 1 then (.text (value :: units), []) else (.digits units value (left - 1), [])

def finish? : Mode → Option (List Token)
  | .between => some []
  | .word codes => some [.word codes.reverse]
  | _ => none

def tokens? (mode : Mode) : List Nat → Option (List Token)
  | [] => mode.finish?
  | code :: rest =>
    (mode.step code).bind fun next => (next.1.tokens? rest).map (next.2 ++ ·)

end Mode

/-! ## Documents -/

/-- A container that is not closed yet: a list, an object, or one of whose fields the name has been
read. -/
inductive Frame where
  | list (items : List Reading)
  | object (fields : List (List Nat × Reading))
  | field (fields : List (List Nat × Reading)) (name : List Nat)

inductive Phase where
  | value
  | valueOrClose
  | name
  | nameOrClose
  | colon (name : List Nat)
  | comma
  | whole (reading : Reading)

/-- What has been read of a document, the innermost container first. -/
structure Progress where
  phase : Phase
  frames : List Frame

namespace Progress

/-- A word is a literal name or a number. Of numbers it is checked only which characters they are
written in; data without a value have names. -/
def ofWord? (codes : List Nat) : Option Reading :=
  let word := String.ofList (codes.map Char.ofNat)
  if word = "null" then some .null
  else if word = "true" then some (.bool true)
  else if word = "false" then some (.bool false)
  else if word.toList.all (fun c => Number.isNumeral c || c = 'E') ||
      ["NaN", "Infinity", "-Infinity"].contains word then some (.number word)
  else none

def complete (reading : Reading) : List Frame → Option Progress
  | [] => some ⟨.whole reading, []⟩
  | .list items :: rest => some ⟨.comma, .list (items ++ [reading]) :: rest⟩
  | .field fields name :: rest => some ⟨.comma, .object (fields ++ [(name, reading)]) :: rest⟩
  | .object _ :: _ => none

def openValue (frames : List Frame) : Token → Option Progress
  | .mark .openList => some ⟨.valueOrClose, .list [] :: frames⟩
  | .mark .openObject => some ⟨.nameOrClose, .object [] :: frames⟩
  | .word codes => do complete (← ofWord? codes) frames
  | .text codes => complete (.text codes) frames
  | .mark _ => none

def close : Mark → List Frame → Option Progress
  | .closeList, .list items :: rest => complete (.list items) rest
  | .closeObject, .object fields :: rest => complete (.object fields) rest
  | _, _ => none

def step (progress : Progress) (token : Token) : Option Progress :=
  match progress, token with
  | ⟨.value, frames⟩, token => openValue frames token
  | ⟨.valueOrClose, frames⟩, .mark .closeList => close .closeList frames
  | ⟨.valueOrClose, frames⟩, token => openValue frames token
  | ⟨.nameOrClose, frames⟩, .mark .closeObject => close .closeObject frames
  | ⟨.name, frames⟩, .text name | ⟨.nameOrClose, frames⟩, .text name => some ⟨.colon name, frames⟩
  | ⟨.colon name, .object fields :: rest⟩, .mark .colon => some ⟨.value, .field fields name :: rest⟩
  | ⟨.comma, .list items :: rest⟩, .mark .comma => some ⟨.value, .list items :: rest⟩
  | ⟨.comma, .object fields :: rest⟩, .mark .comma => some ⟨.name, .object fields :: rest⟩
  | ⟨.comma, frames⟩, .mark mark => close mark frames
  | _, _ => none

end Progress

def ofTokens? (tokens : List Token) : Option Reading := do
  match ← tokens.foldlM Progress.step ⟨.value, []⟩ with
  | ⟨.whole reading, _⟩ => some reading
  | _ => none

/-- The one document in a text, with nothing around it but space. -/
def read? (text : String) : Option Reading := do
  ofTokens? (← Mode.between.tokens? (Text.Surrogate.codes text.toList))

end AccessPolicy.Json
