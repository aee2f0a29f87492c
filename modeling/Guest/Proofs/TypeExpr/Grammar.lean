import Guest.Proofs.Expr.Grammar
import Guest.Token.Lexer
import Guest.TypeExpr.Basic

/-!
# The grammar of type expressions

The grammar is given by rules over tokens with their places, because a type keeps its source text.
The lexer knows nothing about types and joins closing angle brackets to shift signs.  Outside the
braces of configurations such a sign stands for so many closing brackets, each with its own place.
-/

namespace Guest
namespace TypeGrammar

/-! ## Closing angle brackets -/

/-- The closing angle brackets that a shift sign is made of; any other token stands for itself. -/
def brackets (spanned : Spanned) : List Spanned :=
  let second := spanned.start.step '>'
  let third := second.step '>'
  match spanned.token with
  | .sign .shiftRight =>
    [⟨.sign .greater, spanned.start, second⟩, ⟨.sign .greater, second, spanned.stop⟩]
  | .sign .shiftRightZero =>
    [⟨.sign .greater, spanned.start, second⟩, ⟨.sign .greater, second, third⟩,
      ⟨.sign .greater, third, spanned.stop⟩]
  | _ => [spanned]

/-- How many braces are open behind a token. -/
def bracesBehind (depth : Nat) : Token → Nat
  | .sign .leftBrace => depth + 1
  | .sign .rightBrace => depth - 1
  | _ => depth

/-- The tokens with every shift sign outside braces taken apart, where a number of braces are open
at the start. -/
def splitAngles : Nat → List Spanned → List Spanned
  | _, [] => []
  | depth, spanned :: rest =>
    (if depth = 0 then brackets spanned else [spanned]) ++
      splitAngles (bracesBehind depth spanned.token) rest

/-! ## The rules -/

/-- The source text from the first character of a token to the last character of the tokens behind
it. -/
def textOf (source : List Char) (first : Spanned) (more : List Spanned) : String :=
  String.ofList ((source.take (more.getLastD first).stop.offset).drop first.start.offset)

/-- No configuration, or the entries of an object literal between braces. -/
inductive Config : List Spanned → Option Entries → Prop where
  | none :
      Config [] none
  | braces {opening closing ts entries} :
      opening.token = .sign .leftBrace →
      Grammar.EntrySequence (ts.map Spanned.token) entries →
      closing.token = .sign .rightBrace →
      Config (opening :: (ts ++ [closing])) (some entries)

mutual

/-- One or more single types between bars. -/
inductive Union (source : List Char) : List Spanned → TypeUnion → Prop where
  | last {ts term} :
      Term source ts term → Union source ts [term]
  | more {ts bar us term union} :
      Term source ts term → bar.token = .sign .bar → Union source us union →
      Union source (ts ++ bar :: us) (term :: union)

/-- A name, with template arguments and a configuration if they follow. -/
inductive Term (source : List Char) : List Spanned → TypeTerm → Prop where
  | named {name text ts us template config} :
      name.token = .identifier text → Angled source ts template → Config us config →
      Term source (name :: (ts ++ us))
        ⟨text, config, textOf source name (ts ++ us), template⟩

/-- Nothing, or arguments between angle brackets. -/
inductive Angled (source : List Char) : List Spanned → List TypeUnion → Prop where
  | none :
      Angled source [] []
  | angles {opening ts closing template} :
      opening.token = .sign .less → Unions source ts template →
      closing.token = .sign .greater →
      Angled source (opening :: (ts ++ [closing])) template

/-- One or more unions between commas. -/
inductive Unions (source : List Char) : List Spanned → List TypeUnion → Prop where
  | last {ts union} :
      Union source ts union → Unions source ts [union]
  | more {ts comma us union unions} :
      Union source ts union → comma.token = .sign .comma → Unions source us unions →
      Unions source (ts ++ comma :: us) (union :: unions)

end

end TypeGrammar
end Guest
