import AccessPolicy.Text.Digit
import AccessPolicy.Text.Quoted

/-! The arguments of the command: an optional file, a log level, and a choice of output.
Long options may be cut short as long as one option begins that way. -/

namespace AccessPolicy.Command

inductive OptionName where
  | help
  | logLevel
  | json
  deriving DecidableEq, Repr

namespace OptionName

def spellings : List (String × OptionName) :=
  [("-h", .help), ("--help", .help), ("--log-level", .logLevel), ("--json", .json)]

def label : OptionName → String
  | .help => "-h/--help"
  | .logLevel => "--log-level"
  | .json => "--json"

end OptionName

/-- What an argument is, by its form alone. -/
inductive Word where
  | plain (text : String)
  | separator
  | option (name : OptionName) (spelling : String) (value : Option String)
  | unknown (text : String)
  deriving DecidableEq, Repr

namespace Word

def text : Word → String
  | .plain text | .unknown text => text
  | .separator => "--"
  | .option _ spelling _ => spelling

def isOption : Word → Bool
  | .option .. | .unknown _ => true
  | _ => false

private def splitValue (text : List Char) : List Char × Option (List Char) :=
  let name := text.takeWhile (· != '=')
  match text.drop name.length with
  | [] => (name, none)
  | _ :: value => (name, some value)

private def isDecimal (text : List Char) : Bool :=
  !text.isEmpty && text.all fun c => (Text.digit? c).isSome

/-- A minus sign and digits of any script, with or without a point; a line break may follow. -/
private def isNumber (text : List Char) : Bool :=
  let text := if text.getLast? = some '\n' then text.dropLast else text
  match text with
  | '-' :: body =>
    let whole := body.takeWhile (· != '.')
    match body.drop whole.length with
    | [] => isDecimal whole
    | _ :: fraction => (whole.isEmpty || isDecimal whole) && isDecimal fraction
  | _ => false

private def completions (text : List Char) : List Word :=
  match text with
  | '-' :: '-' :: _ =>
    let (name, value) := splitValue text
    (OptionName.spellings.filter fun (spelling, _) => name.isPrefixOf spelling.toList).map
      fun (spelling, named) => .option named spelling (value.map String.ofList)
  | first :: second :: rest =>
    OptionName.spellings.filterMap fun (spelling, named) =>
      if spelling.toList = [first, second] then
        some (.option named spelling (some (String.ofList rest)))
      else if text.isPrefixOf spelling.toList then some (.option named spelling none)
      else none
  | _ => []

inductive Reading where
  | word (word : Word)
  | ambiguous (spellings : List String)

/-- Tell what an argument is. Negative numbers and what holds a space are no options. -/
def read (text : String) : Reading :=
  let chars := text.toList
  match chars with
  | '-' :: _ :: _ =>
    match OptionName.spellings.lookup text with
    | some named => .word (.option named text none)
    | none =>
      let (name, value) := splitValue chars
      match value, OptionName.spellings.lookup (String.ofList name) with
      | some value, some named =>
        .word (.option named (String.ofList name) (some (String.ofList value)))
      | _, _ =>
        match completions chars with
        | [word] => .word word
        | [] =>
          .word (if isNumber chars || chars.contains ' ' then .plain text else .unknown text)
        | words => .ambiguous (words.map Word.text)
  | _ => .word (.plain text)

end Word

inductive ArgumentFault where
  | ambiguous (text : String) (spellings : List String)
  | missingValue (option : OptionName)
  | unwantedValue (option : OptionName) (value : String)
  | unrecognized (texts : List String)
  deriving DecidableEq, Repr

def ArgumentFault.message : ArgumentFault → String
  | .ambiguous text spellings =>
    "ambiguous option: " ++ text ++ " could match " ++ ", ".intercalate spellings
  | .missingValue option => "argument " ++ option.label ++ ": expected one argument"
  | .unwantedValue option value =>
    "argument " ++ option.label ++ ": ignored explicit argument " ++ Text.quoted value
  | .unrecognized texts => "unrecognized arguments: " ++ " ".intercalate texts

/-- Words up to a separator are told apart; those after it are all plain. -/
def readWords : List String → Except ArgumentFault (List Word)
  | [] => .ok []
  | "--" :: rest => .ok (.separator :: rest.map Word.plain)
  | text :: rest =>
    match Word.read text with
    | .ambiguous spellings => .error (.ambiguous text spellings)
    | .word word => do return word :: (← readWords rest)

structure Arguments where
  file : Option String := none
  logLevel : Option String := none
  json : Bool := false
  /-- A file, or a separator in its place, has been taken. -/
  hasFile : Bool := false
  excess : List String := []
  deriving DecidableEq, Repr

inductive Request where
  | help
  | run (arguments : Arguments)
  deriving DecidableEq, Repr

/-- Letters after a short option without a value are short options themselves. -/
def shortLetters (option : OptionName) : List Char → Except ArgumentFault Unit
  | [] => .ok ()
  | letter :: rest =>
    if letter = 'h' then shortLetters .help rest
    else .error (.unwantedValue option (String.ofList (letter :: rest)))

private def isShort (spelling : String) : Bool := spelling.length = 2

/-- The words after the last option: a file, unless there is one already. -/
def takeLast (arguments : Arguments) (words : List Word) : Arguments :=
  let leftOver (words : List Word) : Arguments :=
    { arguments with excess := arguments.excess ++ words.map Word.text }
  if arguments.hasFile then leftOver words
  else
    match words with
    | .separator :: .plain text :: rest => { leftOver rest with file := some text }
    | .plain text :: .separator :: rest => { leftOver rest with file := some text }
    | .plain text :: rest => { leftOver rest with file := some text }
    | .separator :: rest => leftOver rest
    | words => leftOver words

/-- Take the words in order. The first plain word is the file, and further ones are too
many. -/
def takeWords (arguments : Arguments) : List Word → Except ArgumentFault Request
  | [] => .ok (.run arguments)
  | .unknown text :: rest =>
    takeWords { arguments with excess := arguments.excess ++ [text] } rest
  | .option .help spelling value :: _ =>
    match value with
    | none => .ok .help
    | some value =>
      if isShort spelling && !value.isEmpty then do
        shortLetters .help value.toList
        return .help
      else .error (.unwantedValue .help value)
  | .option .json _ none :: rest => takeWords { arguments with json := true } rest
  | .option .json _ (some value) :: _ => .error (.unwantedValue .json value)
  | .option .logLevel _ (some value) :: rest =>
    takeWords { arguments with logLevel := some value } rest
  | .option .logLevel _ none :: .plain value :: rest =>
    takeWords { arguments with logLevel := some value } rest
  | .option .logLevel _ none :: _ => .error (.missingValue .logLevel)
  | word :: rest =>
    if !rest.any Word.isOption then .ok (.run (takeLast arguments (word :: rest)))
    else if arguments.hasFile then
      takeWords { arguments with excess := arguments.excess ++ [word.text] } rest
    else takeWords { arguments with file := some word.text, hasFile := true } rest

def readArguments (texts : List String) : Except ArgumentFault Request := do
  match ← takeWords {} (← readWords texts) with
  | .help => return .help
  | .run arguments =>
    if arguments.excess.isEmpty then return .run arguments
    else .error (.unrecognized arguments.excess)

/-! ## Help -/

def programName : String := "policy-reader"

def usage : String :=
  "usage: " ++ programName ++ " [-h] [--log-level LOG_LEVEL] [--json] [policy_file]\n"

def help : String :=
  usage ++
  "\nCompile an authorization policy and print a summary.\n" ++
  "\npositional arguments:\n" ++
  "  policy_file           Policy file (defaults to ACCESS_POLICY_FILE)\n" ++
  "\noptions:\n" ++
  "  -h, --help            show this help message and exit\n" ++
  "  --log-level LOG_LEVEL\n" ++
  "                        Log level\n" ++
  "  --json                Print summary and errors as JSON\n"

def refusal (fault : ArgumentFault) : String :=
  usage ++ programName ++ ": error: " ++ fault.message ++ "\n"

end AccessPolicy.Command
