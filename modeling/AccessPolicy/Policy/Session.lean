import AccessPolicy.Policy.Log
import AccessPolicy.Policy.Tables

/-! A policy in the course of being read. What was read up to a fault stays. -/

namespace AccessPolicy

/-- The tables so far and the blocks that are open. A rule is named by its place. -/
structure Reader where
  tables : Tables := {}
  privilege : Option Value := none
  context : Value := .null
  role : Option Value := none
  rule : Option Nat := none
  deriving Repr, Inhabited

inductive Answer where
  | value (value : Value)
  | rule (rule : Rule)
  | rules (rules : List Rule)
  deriving Repr

inductive Outcome where
  | returned (answer : Answer)
  | caught (fault : Fault)
  deriving Repr

/-- A reader with its log, the next serial for computations, and the outcomes of the
operations so far. -/
structure Session where
  reader : Reader := {}
  sink : Sink := .memory
  log : List LogEvent := []
  serial : Nat := 0
  outcomes : List Outcome := []
  /-- What callers have put under names of the reader of a block, none where they have taken
  away what stood there. -/
  changes : List (Block × String × Option Value) := []
  /-- Rules that were given up together, in turn. -/
  retired : List (List Rule) := []
  /-- The turn and the place of an open rule that was given up. -/
  stray : Option (Nat × Nat) := none
  deriving Repr, Inhabited

namespace Session

def change? (session : Session) (block : Block) (name : String) : Option (Option Value) :=
  session.changes.findSome? fun (owner, other, value) =>
    if owner = block && other = name then some value else none

def missing (block : Block) (name : String) : Fault := .path (.missingField block.owner name)

/-- The session with the reader changed, and with it what callers have done to the named
fields of the reader of a block. -/
def withFields (block : Block) (names : List String) (f : Reader → Reader) (session : Session) :
    Session :=
  { session with
    reader := f session.reader
    changes := session.changes.filter fun (owner, name, _) =>
      !(owner = block && names.contains name) }

def openRule? (session : Session) : Option Rule :=
  match session.stray with
  | some (turn, place) => (session.retired[turn]?).bind (·[place]?)
  | none => session.reader.rule.bind (session.reader.tables.rules[·]?)

def loggerFault? (session : Session) (event : LogEvent) : Option Fault := do
  let block ← event.block?
  match ← session.change? block "logger" with
  | none => return missing block "logger"
  | some logger =>
    match logger.callMember event.level.name [.text event.title] event.fields with
    | .ok _ => none
    | .error fault => return fault

end Session

/-- An action changes the session even where it fails. -/
abbrev Action := ExceptT Fault (StateM Session)

namespace Action

def refuse {α : Type} (fault : Fault) : Action α := throw fault.told

def reader : Action Reader := do return (← get).reader

def renew : Action Unit :=
  modify fun session => { session with reader := {}, changes := [], retired := [], stray := none }

def modifyReader (f : Reader → Reader) : Action Unit :=
  modify fun session => { session with reader := f session.reader }

def modifyFields (block : Block) (names : List String) (f : Reader → Reader) : Action Unit :=
  modify (Session.withFields block names f)

def modifyTables (f : Tables → Tables) : Action Unit :=
  modifyReader fun reader => { reader with tables := f reader.tables }

/-- An event that is to be written out has to be writable. -/
def emit (event : LogEvent) : Action Unit := do
  let session ← get
  if let some fault := session.loggerFault? event then refuse fault
  if session.sink.accepts event then
    match session.sink.obstacle? event with
    | some fault => refuse fault
    | none => modify fun session => { session with log := session.log ++ [event] }

def report (outcome : Outcome) : Action Unit :=
  modify fun session => { session with outcomes := session.outcomes ++ [outcome] }

def requireKey (key : Value) : Action Unit :=
  match key.keyObstacle? with
  | some part => refuse (.usage (.unsuitableKey part))
  | none => pure ()

/-- Whatever comes of the action, fields of the reader of a block are written at its end. -/
def ensuring {α : Type} (action : Action α) (block : Block) (names : List String)
    (f : Reader → Reader) : Action α :=
  fun session =>
    let (result, session) := action.run session
    (result, session.withFields block names f)

def requireField (block : Block) (name : String) : Action Unit := do
  if (← get).change? block name matches some none then refuse (Session.missing block name)

/-- Act on a field of the reader of a block. Where callers have put a value in its place, it
is the value that is acted on. -/
def onField (block : Block) (name : String) (other : Value → Except Fault Value)
    (usual : Action Unit) : Action Unit := do
  match (← get).change? block name with
  | none => usual
  | some none => refuse (Session.missing block name)
  | some (some value) =>
    match other value with
    | .error fault => refuse fault
    | .ok value =>
      modify fun session => { session with
        changes := session.changes.map fun (owner, other, held) =>
          if owner = block && other = name then (owner, other, some value)
          else (owner, other, held) }

/-- Call what callers have put under the name of an operation, or else run the operation. -/
def operate (block : Block) (name : String) (positional : List Value) (operation : Action Unit) :
    Action Unit := do
  match (← get).change? block name with
  | some (some value) =>
    match value.called positional [] with
    | .ok _ => pure ()
    | .error fault => refuse fault
  | _ => operation

/-- The conditions of a map; their bare values take serials of the session. -/
def conditions (given : Value) : Action Conditions := do
  match Conditions.read (← get).serial given with
  | .error fault => refuse fault
  | .ok (conditions, serial) =>
    modify fun session => { session with serial := serial }
    return conditions

end Action

end AccessPolicy
