import AccessPolicy.File.Path
import AccessPolicy.Text.Encoded

/-! A directory of files, and what reading a path in it gives. -/

namespace AccessPolicy.File

inductive Fault where
  | missing (path : Path)
  | isDirectory (path : Path)
  | notDirectory (path : Path)
  | tooLong (path : Path)
  /-- No file is named by a path with a null character. -/
  | nullCharacter
  /-- Some text has no bytes, by which a file could be named or which could be written to one. -/
  | unencodable (fault : Text.EncodingFault)
  deriving DecidableEq, Repr

def Fault.message : Fault → String
  | .missing path => "[Errno 2] No such file or directory: " ++ Text.quoted path.text
  | .isDirectory path => "[Errno 21] Is a directory: " ++ Text.quoted path.text
  | .notDirectory path => "[Errno 20] Not a directory: " ++ Text.quoted path.text
  | .tooLong path => "[Errno 36] File name too long: " ++ Text.quoted path.text
  | .nullCharacter => "embedded null byte"
  | .unencodable fault => fault.message

/-- Whether the fault lies in the name itself, not in what the system has under it. -/
def Fault.isOfName : Fault → Bool
  | .nullCharacter | .unencodable _ => true
  | _ => false

/-- Files by their names from the directory down. Directories exist as far as files are
in them. -/
structure Directory where
  files : List (List String × List UInt8) := []

inductive Entry where
  | file (content : List UInt8)
  | directory
  deriving DecidableEq

/-- Where a walk along a path has come to: a directory by its names from the innermost up,
within the working directory or from the root down. -/
inductive Place where
  | within (names : List String)
  | fromRoot (names : List String)

namespace Place

/-- The working directory is a temporary one, and the root is above itself. -/
def up : Place → Place
  | .within (_ :: names) => .within names
  | .within [] => .fromRoot ["tmp"]
  | .fromRoot names => .fromRoot names.tail

def down (place : Place) (name : String) : Place :=
  match place with
  | .within names => .within (name :: names)
  | .fromRoot names => .fromRoot (name :: names)

end Place

namespace Directory

def entry? (directory : Directory) (names : List String) : Option Entry :=
  match directory.files.lookup names with
  | some content => some (.file content)
  | none =>
    if names.isEmpty || directory.files.any fun (file, _) => names.isPrefixOf file then
      some .directory
    else none

def rootNames : List String :=
  ["bin", "boot", "dev", "etc", "home", "lib", "media", "mnt", "opt", "proc", "root", "run",
   "sbin", "srv", "sys", "tmp", "usr", "var"]

def rootEntry? : List String → Option Entry
  | [] => some .directory
  | [name] => if rootNames.contains name then some .directory else none
  | ["dev", "null"] => some (.file [])
  | _ => none

def entryAt? (directory : Directory) : Place → Option Entry
  | .within names => directory.entry? names.reverse
  | .fromRoot names => rootEntry? names.reverse

/-- The most bytes that a name and a whole path may have. -/
def nameLimit : Nat := 255

def pathLimit : Nat := 4095

/-- Walk on from a place; two points lead up. -/
def find (directory : Directory) (path : Path) (place : Place) :
    List String → Except Fault (List UInt8)
  | [] => .error (.isDirectory path)
  | name :: rest =>
    if name = ".." then directory.find path place.up rest
    else if nameLimit < Text.nameSize name then .error (.tooLong path)
    else
      match directory.entryAt? (place.down name) with
      | none => .error (.missing path)
      | some .directory => directory.find path (place.down name) rest
      | some (.file content) =>
        if rest.isEmpty then .ok content else .error (.notDirectory path)

def pathFault? (path : Path) : Option Fault :=
  match Text.EncodingFault.ofName? path.text with
  | some fault => some (.unencodable fault)
  | none =>
    if path.text.toList.contains (Char.ofNat 0) then some .nullCharacter
    else if pathLimit < Text.nameSize path.text then some (.tooLong path)
    else none

def read (directory : Directory) (path : Path) : Except Fault (List UInt8) :=
  match pathFault? path with
  | some fault => .error fault
  | none =>
    directory.find path (if path.isAbsolute then .fromRoot [] else .within []) path.names

end Directory

def plainBreaks : List Char → List Char
  | [] => []
  | '\r' :: '\n' :: rest => '\n' :: plainBreaks rest
  | c :: rest => (if c = '\r' then '\n' else c) :: plainBreaks rest

def textOf (content : List UInt8) : Except Text.Utf8Fault String :=
  (Text.ofUtf8 content).map fun text => String.ofList (plainBreaks text.toList)

end AccessPolicy.File
