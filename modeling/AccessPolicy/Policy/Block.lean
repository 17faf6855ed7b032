import AccessPolicy.Value.Place

/-! The blocks of a document, each of which is read by a part of the reader. -/

namespace AccessPolicy

inductive Block where
  | privileges
  | authorization
  deriving DecidableEq, Repr

namespace Block

def readerKind : Block → Kind
  | .privileges => .privilegesReader
  | .authorization => .authorizationReader

def readerName (block : Block) : String := block.readerKind.name

def operationName (block : Block) (name : String) : String := block.readerName ++ "." ++ name

def loggerName : Block → String
  | .privileges => "policy.privileges_reader"
  | .authorization => "policy.rules_reader"

def owner (block : Block) : String := (Place.object block.readerKind []).owner

end Block

end AccessPolicy
