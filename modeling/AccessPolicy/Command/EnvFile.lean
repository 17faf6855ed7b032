import AccessPolicy.Text.Blank

/-! Files that set variables, one `name=value` a line. Values may be quoted, and unquoted
ones end at a comment. Values may refer to variables as `${name}` or, with a value for when
there is none, as `${name:-value}`. Lines that cannot be read are skipped and told by their
numbers. -/

namespace AccessPolicy.Command

/-- What a file sets, and the lines of it that cannot be read. A name without a value is
not set. -/
structure EnvFile where
  values : List (String × Option String) := []
  unreadable : List Nat := []
  deriving DecidableEq, Repr

namespace EnvFile

abbrev Binding := String × Option (List Char)

def isInnerBlank (c : Char) : Bool := Text.isBlank c && c != '\n'

def skipInner (text : List Char) : List Char := text.dropWhile isInnerBlank

def skipLine (text : List Char) : List Char := (text.dropWhile (· != '\n')).drop 1

/-- The end of a line after blanks and a comment; `none` if something else is there. -/
def endLine? (text : List Char) : Option (List Char) :=
  let afterBlanks := skipInner text
  let rest := match afterBlanks with
    | '#' :: _ => afterBlanks.dropWhile (· != '\n')
    | _ => afterBlanks
  match rest with
  | [] => some []
  | c :: rest => if c = '\n' then some rest else none

/-- Text up to the quote; a backslash protects the character after it. -/
def quotedValue? (quote : Char) : List Char → Option (List Char × List Char)
  | [] => none
  | '\\' :: c :: rest =>
    (quotedValue? quote rest).map fun (value, after) => ('\\' :: c :: value, after)
  | c :: rest =>
    if c = quote then some ([], rest)
    else (quotedValue? quote rest).map fun (value, after) => (c :: value, after)

def escaped? (c : Char) : Option Char :=
  match c with
  | '\\' | '\'' | '"' => some c
  | 'a' => some (Char.ofNat 7)
  | 'b' => some (Char.ofNat 8)
  | 'f' => some (Char.ofNat 12)
  | 'n' => some '\n'
  | 'r' => some '\r'
  | 't' => some '\t'
  | 'v' => some (Char.ofNat 11)
  | _ => none

def unescape (stands : Char → Option Char) : List Char → List Char
  | [] => []
  | '\\' :: c :: rest =>
    match stands c with
    | some d => d :: unescape stands rest
    | none => '\\' :: unescape stands (c :: rest)
  | c :: rest => c :: unescape stands rest

def singleEscaped? (c : Char) : Option Char := if c = '\\' || c = '\'' then some c else none

/-- Drop comments, which begin with a number sign after a blank. -/
def withoutComment : List Char → List Char
  | [] => []
  | c :: rest =>
    if Text.isBlank c && (rest.dropWhile Text.isBlank).head? = some '#' then []
    else c :: withoutComment rest

/-- A value that goes on to the end of its line; the blanks before it are given with it, as
one of them may begin a comment. -/
def unquotedValue (text : List Char) : List Char × List Char :=
  let line := text.takeWhile (· != '\n')
  (Text.trim (withoutComment line), text.dropWhile (· != '\n'))

def value? (text : List Char) : Option (List Char × List Char) :=
  match skipInner text with
  | '\'' :: rest => (quotedValue? '\'' rest).map fun (value, after) =>
      (unescape singleEscaped? value, after)
  | '"' :: rest => (quotedValue? '"' rest).map fun (value, after) =>
      (unescape escaped? value, after)
  | _ => some (unquotedValue text)

private def isNameChar (c : Char) : Bool := c != '=' && c != '#' && !Text.isBlank c

/-- A name, possibly in single quotes, and what follows; a comment has no name. -/
def name? (text : List Char) : Option (Option (List Char) × List Char) :=
  match text with
  | '#' :: _ => some (none, text)
  | '\'' :: rest =>
    let name := rest.takeWhile (· != '\'')
    match rest.drop name.length with
    | _ :: after => if name.isEmpty then none else some (some name, after)
    | [] => none
  | text =>
    let name := text.takeWhile isNameChar
    if name.isEmpty then none else some (some name, text.drop name.length)

private def skipExport (text : List Char) : List Char :=
  match text with
  | 'e' :: 'x' :: 'p' :: 'o' :: 'r' :: 't' :: rest =>
    if (rest.head?.any isInnerBlank) then skipInner rest else text
  | text => text

inductive Line where
  | binding (binding : Binding)
  | empty
  | unreadable

def Line.ofEnd (name? : Option (List Char)) (value? : Option (List Char)) (rest : List Char) :
    Line × List Char :=
  match endLine? rest, name? with
  | some rest, some name => (.binding (String.ofList name, value?), rest)
  | some rest, none => (.empty, rest)
  | none, _ => (.unreadable, skipLine rest)

/-- The line that a text begins with after blank ones, and the text after the line. A line
that cannot be read is skipped from the place where reading failed. -/
def readLine (text : List Char) : Line × List Char :=
  match text.dropWhile Text.isBlank with
  | [] => (.empty, [])
  | start =>
    let start := skipExport start
    match name? start with
    | none => (.unreadable, skipLine start)
    | some (name?, rest) =>
      match skipInner rest with
      | '=' :: afterSign =>
        match value? afterSign with
        | none => (.unreadable, skipLine (skipInner afterSign))
        | some (value, rest) => Line.ofEnd name? (some value) rest
      | rest => Line.ofEnd name? none rest

/-- All lines in order, each with its number, which is that of the first of the blank lines
before it. Every line takes up at least one character. -/
def readLines (number : Nat) : Nat → List Char → List (Nat × Line)
  | 0, _ => []
  | _, [] => []
  | fuel + 1, text =>
    let (line, rest) := readLine text
    (number, line) :: readLines (number + (text.count '\n' - rest.count '\n')) fuel rest

def Line.binding? : Line → Option Binding
  | .binding given => some given
  | _ => none

/-- A table of names in order of first setting. -/
def set {α : Type} (table : List (String × α)) (name : String) (a : α) : List (String × α) :=
  match table with
  | [] => [(name, a)]
  | (known, b) :: rest => if known = name then (known, a) :: rest else (known, b) :: set rest name a

/-- The value of a reference: the name up to a colon or brace, and a value for when there
is none. -/
def reference? (text : List Char) : Option (List Char × List Char × List Char) :=
  let name := text.takeWhile fun c => c != '\x7d' && c != ':'
  match text.drop name.length with
  | '\x7d' :: rest => some (name, [], rest)
  | ':' :: '-' :: rest =>
    let fallback := rest.takeWhile (· != '\x7d')
    match rest.drop fallback.length with
    | _ :: rest => some (name, fallback, rest)
    | [] => none
  | _ => none

def expand (valueOf : String → Option (Option (List Char))) : Nat → List Char → List Char
  | 0, text => text
  | _, [] => []
  | fuel + 1, '$' :: '\x7b' :: rest =>
    match reference? rest with
    | some (name, fallback, rest) =>
      let value := match valueOf (String.ofList name) with
        | some value => value.getD []
        | none => fallback
      value ++ expand valueOf fuel rest
    | none => '$' :: expand valueOf fuel ('\x7b' :: rest)
  | fuel + 1, c :: rest => c :: expand valueOf fuel rest

/-- The variables that bindings set, in an environment that later bindings see too. -/
def assign (environment : List (String × String)) (table : List (String × Option (List Char))) :
    List Binding → List (String × Option (List Char))
  | [] => table
  | (name, none) :: rest => assign environment (set table name none) rest
  | (name, some value) :: rest =>
    let valueOf (other : String) : Option (Option (List Char)) :=
      match table.lookup other with
      | some value => some value
      | none => (environment.lookup other).map fun text => some text.toList
    assign environment (set table name (some (expand valueOf (2 * value.length + 1) value))) rest

/-- Read a file, for an environment that its values may refer to. A byte order mark at the
start does not count. -/
def read (environment : List (String × String)) (text : String) : EnvFile :=
  let chars := match text.toList with
    | '\ufeff' :: rest => rest
    | chars => chars
  let lines := readLines 1 chars.length chars
  let bindings := lines.filterMap fun (_, line) => line.binding?
  { values := (assign environment [] bindings).map fun (name, value) =>
      (name, value.map String.ofList)
    unreadable := lines.filterMap fun (number, line) =>
      match line with
      | .unreadable => some number
      | _ => none }

def warnings (file : EnvFile) : String :=
  String.join (file.unreadable.map fun number =>
    "python-dotenv could not parse statement starting at line " ++ toString number ++ "\n")

end EnvFile

end AccessPolicy.Command
