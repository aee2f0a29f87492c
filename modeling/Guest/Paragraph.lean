import Guest.Json.Value
import Guest.Text.Search

/-!
# Paragraphs

A text is cut into paragraphs at its newlines; an empty line is an empty paragraph, and an empty
text has none.
-/

namespace Guest

/-- A paragraph. -/
structure Paragraph where
  text : String
  deriving DecidableEq, Repr

namespace Paragraph

/-- The paragraphs of a text.  A carriage return at the end of a paragraph does not count. -/
def split (source : String) : List Paragraph :=
  if source.isEmpty then []
  else (Text.splitNewlines source.toList).map fun s => ⟨String.ofList (Text.dropReturn s)⟩

/-- A paragraph as a node with one run of text. -/
def toJson (paragraph : Paragraph) : JsonValue :=
  .object [("type", .string "p"),
    ("children", .array [.object [("text", .string paragraph.text)]])]

end Paragraph

end Guest
