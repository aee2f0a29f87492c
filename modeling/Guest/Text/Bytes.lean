/-!
# Texts as bytes

A text is held as the UTF-8 encodings of its characters.  A search compares bytes and tells where it
found something by an offset among them; positions count characters.  Both are converted into each
other: the offset of a character is the count of the bytes before it, and the index of a character
is the count of the bytes before it that start one.
-/

namespace Guest

namespace Text

/-- The bytes of a text. -/
def bytes (s : List Char) : List UInt8 := s.flatMap String.utf8EncodeChar

/-- The characters of a text, each with its offset among the bytes; the first one stands at
`offset`. -/
def charOffsets (offset : Nat) : List Char → List (Nat × Char)
  | [] => []
  | c :: rest => (offset, c) :: charOffsets (offset + c.utf8Size) rest

/-- The offset among the bytes of the character at an index, and that of the end of the text where
there is no character. -/
def byteOffset (s : List Char) (i : Nat) : Nat :=
  match (charOffsets 0 s)[i]? with
  | some (offset, _) => offset
  | none => (bytes s).length

/-- Tells the bytes that start a character. -/
def startsChar (b : UInt8) : Bool := decide b.IsUTF8FirstByte

/-- The count of the characters in a part of a text. -/
def charCount (bytes : List UInt8) : Nat := bytes.countP startsChar

/-- The index of the character at an offset among the bytes. -/
def charIndex (s : List Char) (offset : Nat) : Nat := charCount ((bytes s).take offset)

end Text

end Guest
