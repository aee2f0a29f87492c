import Guest.Expr.Basic

/-!
# Type expressions

A type expression is a union of single types.  A single type has a name, unions as template
arguments, and an object literal that configures it.
-/

namespace Guest

/-- A single type. -/
structure TypeTerm where
  name : String
  config : Option Entries
  /-- The source text, from the name to the last token. -/
  fullname : String
  /-- The template arguments; each is a union. -/
  template : List (List TypeTerm)

/-- A union of single types. -/
abbrev TypeUnion := List TypeTerm

end Guest
