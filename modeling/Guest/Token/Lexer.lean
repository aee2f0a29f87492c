import Guest.Token.Scan

/-!
# Reading tokens in order

A `Lexer` stands somewhere in a source text.  Each step skips blanks, reads one token and moves
on; a step that fails leaves the lexer behind the characters it read.
-/

namespace Guest

/-- A fault and where the wrong token starts. -/
structure LexError where
  fault : Fault
  position : Position
  deriving DecidableEq

namespace LexError

/-- The error in words. -/
def message (e : LexError) : String :=
  match e.fault with
  | .unterminated => s!"unterminated string starting at {e.position.describe}"
  | .malformed text => s!"malformed number '{text}' at {e.position.describe}"
  | .unexpected character => s!"unexpected character '{character}' at {e.position.describe}"

end LexError

/-- A place in a source text from which tokens are read. -/
structure Lexer where
  dialect : Dialect
  source : List Char
  rest : List Char
  /-- Where the unread part starts. -/
  position : Position
  /-- The end or an error has been reached by iteration. -/
  finished : Bool

namespace Lexer

/-- A lexer at the start of a source. -/
def ofChars (dialect : Dialect) (source : List Char) : Lexer :=
  ⟨dialect, source, source, .start, false⟩

/-- A lexer at the start of a source. -/
def ofString (dialect : Dialect) (source : String) : Lexer := ofChars dialect source.toList

/-- The part of the source between two offsets; offsets past the end are moved back. -/
def slice (lexer : Lexer) (start stop : Nat) : List Char :=
  (lexer.source.take stop).drop start

/-- Reads one token. -/
def next (lexer : Lexer) : Except LexError Spanned × Lexer :=
  let start := lexer.position.advance (lexer.rest.takeWhile Text.isBlank)
  let visible := lexer.rest.dropWhile Text.isBlank
  let lexeme := Lexeme.scan lexer.dialect visible
  let stop := start.advance (visible.take lexeme.length)
  let moved := { lexer with rest := visible.drop lexeme.length, position := stop }
  match lexeme.outcome with
  | .ok token => (.ok ⟨token, start, stop⟩, moved)
  | .error fault => (.error ⟨fault, start⟩, moved)

/-- Tells the results after which iteration ends. -/
def isLast : Except LexError Spanned → Bool
  | .ok spanned => spanned.token == .endOfText
  | .error _ => true

/-- The next item of the iteration over all tokens; it ends with the end of the text or the first
error. -/
def iterate (lexer : Lexer) : Option (Except LexError Spanned) × Lexer :=
  if lexer.finished then (none, lexer)
  else
    let (item, moved) := lexer.next
    (some item, { moved with finished := isLast item })

/-- At most `count` items. -/
def takeItems : Nat → Lexer → List (Except LexError Spanned)
  | 0, _ => []
  | count + 1, lexer =>
    let (item, moved) := lexer.next
    if isLast item then [item] else item :: takeItems count moved

/-- All items: every token up to the end of the text, or up to the first error.  Every token but
the last has a character, so one item more than there are characters is enough. -/
def items (lexer : Lexer) : List (Except LexError Spanned) :=
  takeItems (lexer.rest.length + 1) lexer

end Lexer

end Guest
