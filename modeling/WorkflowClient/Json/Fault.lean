import WorkflowClient.Json.Printer
import WorkflowClient.Text.Quoted
import WorkflowClient.Text.Utf8

/-!
# Objections to a JSON text

A reader that cannot go on names its reason and where it stands: what is left of the text, and how many bytes of
it count as read. That place becomes a line, counted from one, and a column, the number of bytes
since the line began. No place lies beyond the end of the text.
-/

namespace WorkflowClient.Json

/-- What was found in the place of something else. -/
inductive Found where
  | null
  | bool (value : Bool)
  | integer (value : Int)
  | float (value : Binary64)
  | text (value : String)
  | sequence
  | map
deriving Repr

/-- What should have been found. -/
inductive Expectation where
  | map
  | text
deriving DecidableEq, Repr

/-- Why a text is refused. -/
inductive Reason where
  | unfinishedList
  | unfinishedObject
  | unfinishedText
  | unfinishedValue
  | missingColon
  | missingListSeparator
  | missingObjectSeparator
  | unknownWord
  | missingValue
  | unknownEscape
  | malformedNumber
  | numberOutOfRange
  | bareControl
  | keyNotText
  | loneSurrogate
  | halfSurrogatePair
  | trailingComma
  | trailingCharacters
  | nestedTooDeeply
  | mismatch (found : Found) (expected : Expectation)
deriving Repr

/-- What was found, in words. -/
def Found.description : Found → String
  | .null => "null"
  | .bool value => "boolean `" ++ (if value then "true" else "false") ++ "`"
  | .integer value => "integer `" ++ String.ofList (integerText value) ++ "`"
  | .float value => "floating point `" ++ String.ofList (floatText value) ++ "`"
  | .text value => "string " ++ Text.Quoted.text value
  | .sequence => "sequence"
  | .map => "map"

/-- What a scalar is when something else should stand in its place. -/
def Found.ofJson : Json → Found
  | .null => .null
  | .bool value => .bool value
  | .number (.integer value) => .integer value
  | .number (.float value) => .float value
  | .string value => .text value
  | .list _ => .sequence
  | .object _ => .map

/-- What should have been found, in words. -/
def Expectation.description : Expectation → String
  | .map => "a map"
  | .text => "a string"

/-- The reason in words. -/
def Reason.message : Reason → String
  | .unfinishedList => "EOF while parsing a list"
  | .unfinishedObject => "EOF while parsing an object"
  | .unfinishedText => "EOF while parsing a string"
  | .unfinishedValue => "EOF while parsing a value"
  | .missingColon => "expected `:`"
  | .missingListSeparator => "expected `,` or `]`"
  | .missingObjectSeparator => "expected `,` or `\x7d`"
  | .unknownWord => "expected ident"
  | .missingValue => "expected value"
  | .unknownEscape => "invalid escape"
  | .malformedNumber => "invalid number"
  | .numberOutOfRange => "number out of range"
  | .bareControl => "control character (\\u0000-\\u001F) found while parsing a string"
  | .keyNotText => "key must be a string"
  | .loneSurrogate => "lone leading surrogate in hex escape"
  | .halfSurrogatePair => "unexpected end of hex escape"
  | .trailingComma => "trailing comma"
  | .trailingCharacters => "trailing characters"
  | .nestedTooDeeply => "recursion limit exceeded"
  | .mismatch found expected =>
      "invalid type: " ++ found.description ++ ", expected " ++ expected.description

/-- An objection before it has a line and a column: the reason, the text left when it arose, and how many bytes
of that text count as read. -/
structure Fault where
  reason : Reason
  rest : List Char
  ahead : Nat
deriving Repr

/-- An objection to a text, with the line and the column where it arose. -/
structure ParseError where
  reason : Reason
  line : Nat
  column : Nat
deriving Repr

/-- The objection in words. -/
def ParseError.message (error : ParseError) : String :=
  error.reason.message ++ " at line " ++ error.line.repr ++ " column " ++ error.column.repr

/-- The line and the column of a byte index of the text, where the text begins at the given ones. -/
def locate (line column : Nat) : List Char → Nat → Nat × Nat
  | [], _ => (line, column)
  | c :: rest, index =>
      if index < c.utf8Size then (line, column + index)
      else if c = '\n' then locate (line + 1) 0 rest (index - c.utf8Size)
      else locate line (column + c.utf8Size) rest (index - c.utf8Size)

/-- The byte index in the whole text at which a fault arose. -/
def Fault.index (fault : Fault) (text : List Char) : Nat :=
  min (Text.Utf8.size text) (Text.Utf8.size text - Text.Utf8.size fault.rest + fault.ahead)

/-- The objection to a text that a fault amounts to. -/
def Fault.toError (fault : Fault) (text : List Char) : ParseError :=
  let (line, column) := locate 1 0 text (fault.index text)
  ⟨fault.reason, line, column⟩

end WorkflowClient.Json
