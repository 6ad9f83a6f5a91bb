import WorkflowClient.Text.Shapeless

/-!
# Quoted display of characters and texts

A message that quotes what it found puts it between quotes in a form that shows every character: the
usual short escapes, the enclosing quote and the backslash behind a backslash, and characters
without a shape of their own by their code point in hexadecimal digits.
-/

namespace WorkflowClient.Text.Quoted

/-- The code point of a character in lower-case hexadecimal digits, between braces. -/
def codePoint (c : Char) : List Char :=
  '\\' :: 'u' :: '\x7b' :: Nat.toDigits 16 c.toNat ++ ['\x7d']

/-- One character as it stands between quotes of the given kind. -/
def shown (quote c : Char) : List Char :=
  if c = '\x00' then ['\\', '0']
  else if c = '\t' then ['\\', 't']
  else if c = '\r' then ['\\', 'r']
  else if c = '\n' then ['\\', 'n']
  else if c = '\\' || c = quote then ['\\', c]
  else if isShapeless c then codePoint c
  else [c]

/-- A character between single quotes. -/
def character (c : Char) : String := String.ofList ('\'' :: shown '\'' c ++ ['\''])

/-- A text between double quotes. -/
def text (s : String) : String := String.ofList ('"' :: s.toList.flatMap (shown '"') ++ ['"'])

end WorkflowClient.Text.Quoted
