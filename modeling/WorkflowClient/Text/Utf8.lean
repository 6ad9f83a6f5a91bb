/-!
# Reading bytes as UTF-8

A byte sequence is well formed when it is the concatenation of the encodings of a list of characters.
`decode` reads such a sequence back and otherwise says where the longest well-formed part ends and how
many bytes there form the longest start of an encoding. Overlong forms, surrogates and code points
above U+10FFFF fail at their second byte, so only their lead byte is counted.
-/

namespace WorkflowClient.Text.Utf8

/-- The bytes of a list of characters. -/
def encode (text : List Char) : List UInt8 := text.flatMap String.utf8EncodeChar

/-- Why bytes are not a text: everything before `index` is well formed. With a `length`, that many bytes
from there on can start no encoding together with the byte after them; without one, the bytes end
inside an encoding. -/
structure Fault where
  index : Nat
  length : Option Nat
deriving DecidableEq, Repr

/-- The fault in words. -/
def Fault.message (fault : Fault) : String :=
  match fault.length with
  | some length => "invalid utf-8 sequence of " ++ length.repr ++ " bytes from index " ++ fault.index.repr
  | none => "incomplete utf-8 byte sequence from index " ++ fault.index.repr

/-- Bytes that continue an encoding. -/
def isContinuation (byte : UInt8) : Bool := 0x80 ≤ byte && byte ≤ 0xbf

/-- How long the encoding is that this byte leads, if it leads any. -/
def leadLength? (lead : UInt8) : Option Nat :=
  if lead ≤ 0x7f then some 1
  else if 0xc2 ≤ lead && lead ≤ 0xdf then some 2
  else if 0xe0 ≤ lead && lead ≤ 0xef then some 3
  else if 0xf0 ≤ lead && lead ≤ 0xf4 then some 4
  else none

/-- The second bytes that may follow a lead byte. The narrower ranges shut out overlong forms,
surrogates and code points beyond the last one. -/
def mayFollow (lead second : UInt8) : Bool :=
  if lead == 0xe0 then 0xa0 ≤ second && second ≤ 0xbf
  else if lead == 0xed then 0x80 ≤ second && second ≤ 0x9f
  else if lead == 0xf0 then 0x90 ≤ second && second ≤ 0xbf
  else if lead == 0xf4 then 0x80 ≤ second && second ≤ 0x8f
  else isContinuation second

/-- The six payload bits of a continuation byte. -/
def payload (byte : UInt8) : Nat := byte.toNat % 0x40

/-- Read a whole byte sequence, whose first byte stands at `index` of the sequence reported on. -/
def decodeFrom (index : Nat) : List UInt8 → Except Fault (List Char)
  | [] => .ok []
  | first :: rest =>
    match leadLength? first with
    | some 1 => (Char.ofNat first.toNat :: ·) <$> decodeFrom (index + 1) rest
    | some 2 =>
      match rest with
      | [] => .error ⟨index, none⟩
      | second :: rest =>
        if isContinuation second then
          (Char.ofNat (first.toNat % 0x20 * 0x40 + payload second) :: ·) <$> decodeFrom (index + 2) rest
        else .error ⟨index, some 1⟩
    | some 3 =>
      match rest with
      | [] => .error ⟨index, none⟩
      | second :: rest =>
        if mayFollow first second then
          match rest with
          | [] => .error ⟨index, none⟩
          | third :: rest =>
            if isContinuation third then
              (Char.ofNat ((first.toNat % 0x10 * 0x40 + payload second) * 0x40 + payload third) :: ·) <$>
                decodeFrom (index + 3) rest
            else .error ⟨index, some 2⟩
        else .error ⟨index, some 1⟩
    | some _ =>
      match rest with
      | [] => .error ⟨index, none⟩
      | second :: rest =>
        if mayFollow first second then
          match rest with
          | [] => .error ⟨index, none⟩
          | third :: rest =>
            if isContinuation third then
              match rest with
              | [] => .error ⟨index, none⟩
              | fourth :: rest =>
                if isContinuation fourth then
                  (Char.ofNat (((first.toNat % 0x08 * 0x40 + payload second) * 0x40 + payload third) * 0x40 +
                    payload fourth) :: ·) <$> decodeFrom (index + 4) rest
                else .error ⟨index, some 3⟩
            else .error ⟨index, some 2⟩
        else .error ⟨index, some 1⟩
    | none => .error ⟨index, some 1⟩

/-- The characters that the bytes encode. -/
def decode (bytes : List UInt8) : Except Fault (List Char) := decodeFrom 0 bytes

/-- The string that the bytes encode. -/
def decodeString (bytes : List UInt8) : Except Fault String := (decode bytes).map String.ofList

/-- The number of bytes of a list of characters. -/
def size : List Char → Nat
  | [] => 0
  | c :: rest => c.utf8Size + size rest

/-- The empty text has no bytes. -/
@[simp] theorem size_nil : size [] = 0 := rfl

/-- The first character counts before the rest. -/
@[simp] theorem size_cons (c : Char) (text : List Char) : size (c :: text) = c.utf8Size + size text := rfl

/-- Encoding goes through concatenation, so a text may be encoded piece by piece. -/
@[simp] theorem encode_append (left right : List Char) : encode (left ++ right) = encode left ++ encode right := by
  simp [encode]

end WorkflowClient.Text.Utf8
