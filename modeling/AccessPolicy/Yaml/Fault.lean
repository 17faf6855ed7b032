import AccessPolicy.Text.Quoted
import AccessPolicy.Time.Calendar

/-! Why a stream of documents cannot be read. The layers of a document fail apart: its
text, the references between its nodes, and the meaning of its nodes. -/

namespace AccessPolicy.Yaml

/-- Places are counted from zero. -/
structure Position where
  index : Nat := 0
  line : Nat := 0
  column : Nat := 0
  deriving DecidableEq, Repr, Inhabited

inductive Malformation where
  | undecodable
  | unprintable (c : Char)
  | missingColon
  | entryNotAllowed
  | keyNotAllowed
  | valueNotAllowed
  | noToken (c : Char)
  | directiveName
  | directiveVersion
  | directiveEnd
  | anchorName
  | tagHandle
  | tagUri
  | tagEnd
  | uriEscape
  | blockIndicator
  | blockHeader
  | unclosedQuote
  | separatorInQuote
  | unknownEscape (c : Char)
  | escapeDigits (count : Nat)
  | expectedDocumentStart
  | duplicateVersion
  | unsupportedVersion
  | duplicateHandle (handle : String)
  | undefinedHandle (handle : String)
  | expectedBlockEnd
  | expectedContent
  | expectedSeparator
  deriving DecidableEq, Repr

def Malformation.message : Malformation → String
  | .undecodable => "the bytes are not text in the encoding of the stream"
  | .unprintable c => "special characters are not allowed: #x" ++
      String.ofList (Text.hexDigits 4 c.toNat)
  | .missingColon => "could not find expected ':'"
  | .entryNotAllowed => "sequence entries are not allowed here"
  | .keyNotAllowed => "mapping keys are not allowed here"
  | .valueNotAllowed => "mapping values are not allowed here"
  | .noToken c => "found character " ++ Text.quoted (String.singleton c) ++
      " that cannot start any token"
  | .directiveName => "expected alphabetic or numeric character in a directive name"
  | .directiveVersion => "expected a version of two numbers"
  | .directiveEnd => "expected a comment or a line break after a directive"
  | .anchorName => "expected alphabetic or numeric character in an anchor or alias"
  | .tagHandle => "expected '!' around a tag handle"
  | .tagUri => "expected URI"
  | .tagEnd => "expected ' ' after a tag"
  | .uriEscape => "expected URI escape sequence of 2 hexadecimal numbers in UTF-8"
  | .blockIndicator => "expected indentation indicator in the range 1-9"
  | .blockHeader => "expected a comment or a line break after a block scalar header"
  | .unclosedQuote => "found unexpected end of stream"
  | .separatorInQuote => "found unexpected document separator"
  | .unknownEscape c => "found unknown escape character " ++ Text.quoted (String.singleton c)
  | .escapeDigits count => "expected escape sequence of " ++ toString count ++
      " hexadecimal numbers"
  | .expectedDocumentStart => "expected '<document start>'"
  | .duplicateVersion => "found duplicate YAML directive"
  | .unsupportedVersion => "found incompatible YAML document (version 1.* is required)"
  | .duplicateHandle handle => "duplicate tag handle " ++ Text.quoted handle
  | .undefinedHandle handle => "found undefined tag handle " ++ Text.quoted handle
  | .expectedBlockEnd => "expected <block end>"
  | .expectedContent => "expected the node content"
  | .expectedSeparator => "expected ',' or the end of the collection"

inductive Misreference where
  | undefinedAlias (name : String)
  | repeatedAnchor (name : String)
  deriving DecidableEq, Repr

def Misreference.message : Misreference → String
  | .undefinedAlias name => "found undefined alias " ++ Text.quoted name
  | .repeatedAnchor _ => "second occurrence"

inductive NodeKind where
  | scalar
  | sequence
  | mapping
  deriving DecidableEq, Repr

def NodeKind.name : NodeKind → String
  | .scalar => "scalar"
  | .sequence => "sequence"
  | .mapping => "mapping"

inductive Misconstruction where
  | unknownTag (tag : String)
  | expectedNode (wanted found : NodeKind)
  | collectionKey
  | expectedMerged (found : NodeKind)
  | expectedMergedItem (found : NodeKind)
  | expectedSequence (found : NodeKind)
  | expectedPair (found : NodeKind)
  | expectedSingle (count : Nat)
  | recursive
  | base64 (characters : Nat)
  | base64Padding
  | base64Alphabet (position : Nat) (run : List Nat)
  | expression (source : String)
  deriving DecidableEq, Repr

private def base64AlphabetText (position : Nat) (run : List Nat) : String :=
  let place := match run with
    | [code] => "character '" ++ String.ofList (Text.codeEscape code) ++ "' in position " ++
        toString position
    | _ => "characters in position " ++ toString position ++ "-" ++
        toString (position + run.length - 1)
  "'ascii' codec can't encode " ++ place ++ ": ordinal not in range(128)"

def Misconstruction.message : Misconstruction → String
  | .unknownTag tag => "could not determine a constructor for the tag " ++ Text.quoted tag
  | .expectedNode wanted found =>
    "expected a " ++ wanted.name ++ " node, but found " ++ found.name
  | .collectionKey => "found unhashable key"
  | .expectedMerged found =>
    "expected a mapping or list of mappings for merging, but found " ++ found.name
  | .expectedMergedItem found => "expected a mapping for merging, but found " ++ found.name
  | .expectedSequence found => "expected a sequence, but found " ++ found.name
  | .expectedPair found => "expected a mapping of length 1, but found " ++ found.name
  | .expectedSingle count =>
    "expected a single mapping item, but found " ++ toString count ++ " items"
  | .recursive => "found unconstructable recursive node"
  | .base64 characters =>
    "failed to decode base64 data: Invalid base64-encoded string: number of data characters (" ++
      toString characters ++ ") cannot be 1 more than a multiple of 4"
  | .base64Padding => "failed to decode base64 data: Incorrect padding"
  | .base64Alphabet position run =>
    "failed to convert base64 data into ascii: " ++ base64AlphabetText position run
  | .expression source => "attribute expression must start with 'user': " ++ source

inductive Misspelling where
  | integer (base : Nat) (text : String)
  | longInteger (digits : Nat)
  | float (text : String)
  | longFloat
  | emptyNumber
  | boolean (text : String)
  | timestamp
  | timestampOfMapping
  | calendar (fault : Time.Fault)
  | codePoint
  | longCodePoint
  deriving DecidableEq, Repr

def Misspelling.message : Misspelling → String
  | .integer base text =>
    "invalid literal for int() with base " ++ toString base ++ ": " ++
      String.ofList ((Text.quotedChars text.toList).take 200)
  | .longInteger digits =>
    "Exceeds the limit (4300 digits) for integer string conversion: value has " ++
      toString digits ++ " digits; use sys.set_int_max_str_digits() to increase the limit"
  | .float text => "could not convert string to float: " ++ Text.quoted text
  | .longFloat => "int too large to convert to float"
  | .emptyNumber => "string index out of range"
  | .boolean text => Text.quoted text
  | .timestamp => "'NoneType' object has no attribute 'groupdict'"
  | .timestampOfMapping => "expected string or bytes-like object, got 'list'"
  | .calendar fault => fault.message
  | .codePoint => "chr() arg not in range(0x110000)"
  | .longCodePoint => "Python int too large to convert to C int"

/-- The scalar was looked at and refused. The other misspellings are found only by a step
that presumes a well-spelled scalar. -/
def Misspelling.isRefusal : Misspelling → Bool
  | .longFloat | .emptyNumber | .boolean _ | .timestamp | .longCodePoint => false
  | _ => true

inductive Fault where
  | malformed (problem : Malformation) (place : Position)
  | misreferenced (problem : Misreference) (place : Position)
  | misconstructed (problem : Misconstruction) (place : Position)
  | misspelled (problem : Misspelling)
  deriving DecidableEq, Repr

def Fault.message : Fault → String
  | .malformed problem _ => problem.message
  | .misreferenced problem _ => problem.message
  | .misconstructed problem _ => problem.message
  | .misspelled problem => problem.message

end AccessPolicy.Yaml
