import WorkflowClient.Json.Reader

/-!
# Frames

A client message is a frame: one byte for its kind, a JSON value in compact form, and a newline. Compact JSON has no
newline, so a frame is one line. Reading a frame takes one line, with or without its end; carriage
returns and newlines at the end do not count.
-/

namespace WorkflowClient

/-- The kind of a client message. -/
inductive Frame.Tag where
  | credentials
  | query
deriving DecidableEq, Repr

/-- A client message. -/
structure Frame where
  tag : Frame.Tag
  body : Json

namespace Frame

/-- The character that announces a kind. -/
def Tag.letter : Tag → Char
  | .credentials => 'c'
  | .query => 'q'

/-- The byte that announces a kind. -/
def Tag.byte (tag : Tag) : UInt8 := tag.letter.toUInt8

/-- The kind that a byte announces. -/
def Tag.ofByte? (byte : UInt8) : Option Tag :=
  if byte = Tag.credentials.byte then some .credentials
  else if byte = Tag.query.byte then some .query
  else none

/-- The kind that a character announces. -/
def Tag.ofLetter? (c : Char) : Option Tag :=
  if c = Tag.credentials.letter then some .credentials
  else if c = Tag.query.letter then some .query
  else none

/-- The characters of a frame. -/
def line (tag : Tag) (body : Json) : List Char := tag.letter :: Json.written .compact 0 body ++ ['\n']

/-- The bytes of a frame. -/
def encode (tag : Tag) (body : Json) : List UInt8 := Text.Utf8.encode (line tag body)

/-- Why a line is no frame. -/
inductive Error where
  | empty
  | unknownTag (found : Char)
  | malformedBody (error : Json.ParseError)
deriving Repr

/-- The objection in words. -/
def Error.message : Error → String
  | .empty => "empty frame"
  | .unknownTag found => "unknown message tag " ++ Text.Quoted.character found
  | .malformedBody error => "invalid frame body: " ++ error.message

/-- The characters that end a line. -/
def isLineEnd (c : Char) : Bool := c = '\r' || c = '\n'

/-- A line without the characters that end it. -/
def withoutEnd (text : List Char) : List Char := (text.reverse.dropWhile isLineEnd).reverse

/-- The frame that a line writes. -/
def parse (line : String) : Except Error Frame :=
  match withoutEnd line.toList with
  | [] => .error .empty
  | c :: body =>
    match Tag.ofLetter? c with
    | none => .error (.unknownTag c)
    | some tag =>
      match Json.parse (String.ofList body) with
      | .ok value => .ok ⟨tag, value⟩
      | .error error => .error (.malformedBody error)

end Frame

end WorkflowClient
