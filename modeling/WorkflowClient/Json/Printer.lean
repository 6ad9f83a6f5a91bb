import WorkflowClient.Json.Basic
import WorkflowClient.Number.Shortest

/-!
# Writing JSON

One printer writes both forms of a value. A layout says what stands where a line may break and after a key's
colon: nothing and the colon alone in the compact form, a new line with two spaces a level and a
colon with a space in the indented form. Empty lists and objects stay on one line in both. Texts
escape the quote, the backslash and the controls below the space, and nothing else.
-/

namespace WorkflowClient.Json

/-- What stands at line breaks, by the level of the next line, and between a key and its value. -/
structure Layout where
  lineBreak : Nat → List Char
  colon : List Char

/-- Everything on one line, without blanks. -/
def Layout.compact : Layout where
  lineBreak _ := []
  colon := [':']

/-- One item a line, two spaces deeper at each level. -/
def Layout.indented : Layout where
  lineBreak level := '\n' :: List.replicate (2 * level) ' '
  colon := [':', ' ']

/-- One character of a quoted text. -/
def escaped (c : Char) : List Char :=
  if c = '"' then ['\\', '"']
  else if c = '\\' then ['\\', '\\']
  else if c = '\n' then ['\\', 'n']
  else if c = '\r' then ['\\', 'r']
  else if c = '\t' then ['\\', 't']
  else if c = '\x08' then ['\\', 'b']
  else if c = '\x0c' then ['\\', 'f']
  else if c.toNat < 0x20 then
    ['\\', 'u', '0', '0', Nat.digitChar (c.toNat / 16), Nat.digitChar (c.toNat % 16)]
  else [c]

/-- A text between quotes. -/
def quoted (text : List Char) : List Char := '"' :: text.flatMap escaped ++ ['"']

/-- An integer in decimal digits. -/
def integerText (value : Int) : List Char :=
  if value < 0 then '-' :: Number.digits value.natAbs else Number.digits value.natAbs

/-- A floating-point number: the shortest digits that read back, the even one of two equally near. Numbers
from `1e-5` up to below `1e16` are written with a point, all others with an exponent. What is not finite
has no JSON form and is written as null. -/
def floatText (x : Binary64) : List Char :=
  match x.shape with
  | .nan | .infinite => "null".toList
  | .finite significand exponent =>
      let sign := if x.isNegative then ['-'] else []
      if significand = 0 then sign ++ ['0', '.', '0']
      else
        let decimal := Number.shortest .toEven significand exponent
        sign ++ if -5 ≤ decimal.leadingPower ∧ decimal.leadingPower ≤ 15 then decimal.positionalWithPoint
          else decimal.scientific

/-- A number in decimal digits. -/
def Number.written : Number → List Char
  | .integer value => integerText value
  | .float value => floatText value

mutual

/-- A value whose first line stands at the given level. -/
def written (layout : Layout) (level : Nat) : Json → List Char
  | .null => "null".toList
  | .bool true => "true".toList
  | .bool false => "false".toList
  | .number value => value.written
  | .string value => quoted value.toList
  | .list [] => ['[', ']']
  | .list (item :: rest) =>
      '[' :: layout.lineBreak (level + 1) ++ written layout (level + 1) item ++
        itemsWritten layout (level + 1) rest ++ layout.lineBreak level ++ [']']
  | .object [] => ['\x7b', '\x7d']
  | .object ((key, value) :: rest) =>
      '\x7b' :: layout.lineBreak (level + 1) ++ quoted key.toList ++ layout.colon ++
        written layout (level + 1) value ++ membersWritten layout (level + 1) rest ++
        layout.lineBreak level ++ ['\x7d']

/-- The items after the first one, each behind a comma. -/
def itemsWritten (layout : Layout) (level : Nat) : List Json → List Char
  | [] => []
  | item :: rest =>
      ',' :: layout.lineBreak level ++ written layout level item ++ itemsWritten layout level rest

/-- The members after the first one, each behind a comma. -/
def membersWritten (layout : Layout) (level : Nat) : List (String × Json) → List Char
  | [] => []
  | (key, value) :: rest =>
      ',' :: layout.lineBreak level ++ quoted key.toList ++ layout.colon ++ written layout level value ++
        membersWritten layout level rest

end

/-- A value on one line. -/
def compact (value : Json) : String := String.ofList (written .compact 0 value)

/-- A value with one item a line. -/
def indented (value : Json) : String := String.ofList (written .indented 0 value)

/-- A value for output, in the form asked for. -/
def render (pretty : Bool) (value : Json) : String := if pretty then indented value else compact value

/-- The compact form has no blanks, the indented form one line a member. -/
example :
    render false (.object [("a", .list [integer 1, .null])]) = "\x7b\"a\":[1,null]\x7d" ∧
      render true (.object [("a", .list [])]) = "\x7b\n  \"a\": []\n\x7d" := by decide +kernel

end WorkflowClient.Json
