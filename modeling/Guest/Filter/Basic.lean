import Guest.Value.Basic

/-!
# Query filters

A filter is a condition on the fields of a row: comparisons and full-text searches, combined by
conjunction, disjunction and negation.
-/

namespace Guest

/-- A comparison of a field with an operand. -/
inductive Comparison where
  | equal | notEqual | less | lessEqual | greater | greaterEqual
  | like
  | likeAnyCase
  | is
  | oneOf
  deriving DecidableEq, Repr

namespace Comparison

/-- The name of the comparison in a query. -/
def name : Comparison → String
  | equal => "eq"
  | notEqual => "neq"
  | less => "lt"
  | lessEqual => "lte"
  | greater => "gt"
  | greaterEqual => "gte"
  | like => "like"
  | likeAnyCase => "ilike"
  | is => "is"
  | oneOf => "in"

/-- The comparisons that are written as words. -/
def words : List (String × Comparison) :=
  [("LIKE", like), ("ILIKE", likeAnyCase), ("IS", is), ("IN", oneOf)]

end Comparison

/-- A way to read the term of a full-text search. -/
inductive SearchKind where
  | query
  | plain
  | phrase
  | web
  deriving DecidableEq, Repr

namespace SearchKind

/-- The name of the search in a query. -/
def name : SearchKind → String
  | query => "fts"
  | plain => "plfts"
  | phrase => "phfts"
  | web => "wfts"

/-- The words that searches are written as. -/
def words : List (String × SearchKind) :=
  [("FTS", query), ("PLFTS", plain), ("PHFTS", phrase), ("WFTS", web)]

end SearchKind

/-- A filter. -/
inductive Filter where
  | compare (field : String) (op : Comparison) (operand : Value)
  | search (field : String) (kind : SearchKind) (term : String) (language : Option String)
  | not (inner : Filter)
  | all (items : List Filter)
  | any (items : List Filter)
  deriving Inhabited

end Guest
