/-! Paths of files, without parts that lead nowhere. -/

namespace AccessPolicy.File

structure Path where
  isAbsolute : Bool
  /-- Two slashes at the start, and no more, are kept apart from one. -/
  isDoubled : Bool := false
  names : List String
  deriving DecidableEq, Repr

namespace Path

def splitSlashes : List Char → List (List Char)
  | [] => [[]]
  | c :: rest =>
    if c = '/' then [] :: splitSlashes rest
    else match splitSlashes rest with
      | first :: others => (c :: first) :: others
      | [] => [[c]]

/-- Empty parts and single points are dropped. -/
def parse (text : String) : Path :=
  let chars := text.toList
  let slashes := (chars.takeWhile (· = '/')).length
  let parts := (splitSlashes chars).map String.ofList
  ⟨slashes != 0, slashes == 2, parts.filter fun part => part != "" && part != "."⟩

def text (path : Path) : String :=
  let root := if !path.isAbsolute then "" else if path.isDoubled then "//" else "/"
  let body := root ++ "/".intercalate path.names
  if body.isEmpty then "." else body

end Path

end AccessPolicy.File
