import Guest.Proofs.Expr.Grammar
import Guest.Proofs.Token.Spelling

/-!
# Printing expressions

An expression is printed as tokens with a blank between neighbours.  A child stands between
parentheses exactly where it binds looser than its position requires: a conditional is loosest,
then come the ten levels of chains, operators before an operand, the power, accesses and primaries.
A well-formed expression has tokens that the lexer reads back from their spelling.
-/

namespace Guest

namespace UnaryOp

/-- The token of an operator before its operand. -/
def token : UnaryOp → Token
  | complement => .sign .tilde
  | not => .sign .bang
  | plus => .sign .plus
  | minus => .sign .minus

theorem unaryOp?_token (op : UnaryOp) : op.token.unaryOp? = some op := by
  cases op <;> rfl

theorem spellable_token (op : UnaryOp) : op.token.Spellable := by
  cases op <;> exact .sign (by decide)

end UnaryOp

namespace BinaryOp

/-- The token of an operator between its operands. -/
def token : BinaryOp → Token
  | or => .sign .orOr
  | and => .sign .andAnd
  | bitOr => .sign .bar
  | bitXor => .sign .caret
  | bitAnd => .sign .ampersand
  | equal => .sign .equal
  | notEqual => .sign .notEqual
  | strictEqual => .sign .strictEqual
  | strictNotEqual => .sign .strictNotEqual
  | less => .sign .less
  | lessEqual => .sign .lessEqual
  | greater => .sign .greater
  | greaterEqual => .sign .greaterEqual
  | shiftLeft => .sign .shiftLeft
  | shiftRight => .sign .shiftRight
  | shiftRightZero => .sign .shiftRightZero
  | add => .sign .plus
  | subtract => .sign .minus
  | multiply => .sign .star
  | divide => .sign .slash
  | remainder => .sign .percent
  | power => .sign .starStar

/-- The strength of an operator's expression: the level of a chain, or that of the power, which
binds tighter than an operator before an operand. -/
def strength : BinaryOp → Nat
  | power => 12
  | op => op.level

/-- The strength that an operator requires of its left operand. -/
def leftLimit : BinaryOp → Nat
  | power => 13
  | op => op.level + 1

/-- The strength that an operator requires of its right operand. -/
def rightLimit : BinaryOp → Nat
  | power => 11
  | op => op.level + 1

theorem binaryOp?_token (op : BinaryOp) : op.token.binaryOp? = some op := by
  cases op <;> rfl

theorem spellable_token (op : BinaryOp) : op.token.Spellable := by
  cases op <;> exact .sign (by decide)

end BinaryOp

namespace Expr

/-- How tightly an expression binds. -/
def strength : Expr → Nat
  | .conditional .. => 0
  | .binary _ ((op, _) :: _) => op.strength
  | .unary .. => 11
  | .accessor .. => 13
  | _ => 14

/-- Tokens between parentheses, where these are needed. -/
def wrap (needed : Bool) (ts : List Token) : List Token :=
  if needed then .sign .leftParen :: (ts ++ [.sign .rightParen]) else ts

/-- The strength that a chain or a power requires of its first operand. -/
def headLimit : List (BinaryOp × Expr) → Nat
  | (op, _) :: _ => op.leftLimit
  | [] => 0

/-- The token of a literal; arrays and objects have none. -/
def literalTokens : Value → List Token
  | .null => [.null]
  | .boolean b => [.boolean b]
  | .number x => [.number x]
  | .string s => [.string s]
  | _ => []

mutual

/-- The tokens of an expression. -/
def tokens : Expr → List Token
  | .literal v => literalTokens v
  | .array items => .sign .leftBracket :: (itemTokens items ++ [.sign .rightBracket])
  | .object entries => .sign .leftBrace :: (entryTokens entries ++ [.sign .rightBrace])
  | .identifier name => [.identifier name]
  | .unary ops operand => ops.map UnaryOp.token ++ wrap (operand.strength < 12) (tokens operand)
  | .binary head tail => wrap (head.strength < headLimit tail) (tokens head) ++ tailTokens tail
  | .conditional test whenTrue whenFalse =>
    wrap (test.strength < 1) (tokens test) ++ (branchTokens whenTrue ++ tokens whenFalse)
  | .accessor base keys => wrap (base.strength < 14) (tokens base) ++ keyTokens keys
  | .call name args =>
    .identifier name :: .sign .leftParen :: (itemTokens args ++ [.sign .rightParen])

/-- The tokens between the test and the second branch of a conditional. -/
def branchTokens : Option Expr → List Token
  | none => [.sign .elvis]
  | some branch => .sign .question :: (tokens branch ++ [.sign .colon])

/-- The tokens of expressions between commas. -/
def itemTokens : List Expr → List Token
  | [] => []
  | [item] => tokens item
  | item :: more => tokens item ++ .sign .comma :: itemTokens more

/-- The tokens of entries between commas. -/
def entryTokens : List (String × Expr) → List Token
  | [] => []
  | [(key, value)] => .string key :: .sign .colon :: tokens value
  | (key, value) :: more =>
    .string key :: .sign .colon :: (tokens value ++ .sign .comma :: entryTokens more)

/-- The tokens of the operators of a chain with their right operands. -/
def tailTokens : List (BinaryOp × Expr) → List Token
  | [] => []
  | (op, right) :: more =>
    op.token :: (wrap (right.strength < op.rightLimit) (tokens right) ++ tailTokens more)

/-- The tokens of steps of access. -/
def keyTokens : List Key → List Token
  | [] => []
  | .name name :: more =>
    .sign .leftBracket :: .string name :: .sign .rightBracket :: keyTokens more
  | .computed key :: more =>
    .sign .leftBracket :: (tokens key ++ .sign .rightBracket :: keyTokens more)

end

/-- The text of an expression. -/
def print (e : Expr) : String := String.ofList (Token.spellAll e.tokens)

example :
    (unary [.minus] (.binary (.unary [.not] (.identifier "a"))
      [(.power, .unary [.plus] (.literal (.string "b")))])).print = "- ( ! a ) ** + 'b'" := rfl

/-! ## Well-formed expressions -/

mutual

/-- The trees that have a text: lists of operators and of keys are not empty, the operators of a
tail are of one level, a power has one right operand, numbers are finite and without a sign, and
names are read as names. -/
inductive WellFormed : Expr → Prop where
  | null :
      WellFormed (.literal .null)
  | boolean (b : Bool) :
      WellFormed (.literal (.boolean b))
  | number {units : Nat} (h : Representable units) :
      WellFormed (.literal (.number (.finite false units h)))
  | string (s : String) :
      WellFormed (.literal (.string s))
  | array {items} :
      WellFormedItems items → WellFormed (.array items)
  | object {entries} :
      WellFormedEntries entries → WellFormed (.object entries)
  | identifier {name} :
      Token.IsName name → WellFormed (.identifier name)
  | unary {ops operand} :
      ops ≠ [] → WellFormed operand → WellFormed (.unary ops operand)
  | binary {level head tail} :
      tail ≠ [] → WellFormed head → WellFormedTail level tail →
      (level = BinaryOp.power.level → tail.length = 1) → WellFormed (.binary head tail)
  | conditional {test whenTrue whenFalse} :
      WellFormed test → WellFormedBranch whenTrue → WellFormed whenFalse →
      WellFormed (.conditional test whenTrue whenFalse)
  | accessor {base keys} :
      keys ≠ [] → WellFormed base → WellFormedKeys keys → WellFormed (.accessor base keys)
  | call {name args} :
      Token.IsName name → WellFormedItems args → WellFormed (.call name args)

/-- The first branch of a conditional, if there is one. -/
inductive WellFormedBranch : Option Expr → Prop where
  | none :
      WellFormedBranch none
  | some {branch} :
      WellFormed branch → WellFormedBranch (some branch)

/-- Items of an array, or arguments. -/
inductive WellFormedItems : List Expr → Prop where
  | nil :
      WellFormedItems []
  | cons {item more} :
      WellFormed item → WellFormedItems more → WellFormedItems (item :: more)

/-- Entries of an object, with any texts for keys. -/
inductive WellFormedEntries : Entries → Prop where
  | nil :
      WellFormedEntries []
  | cons {key value more} :
      WellFormed value → WellFormedEntries more → WellFormedEntries ((key, value) :: more)

/-- Operators of one level with their right operands. -/
inductive WellFormedTail : Nat → List (BinaryOp × Expr) → Prop where
  | nil {level} :
      WellFormedTail level []
  | cons {level op right more} :
      op.level = level → WellFormed right → WellFormedTail level more →
      WellFormedTail level ((op, right) :: more)

/-- Known keys with any texts, and computed keys that are no text literals. -/
inductive WellFormedKeys : List Key → Prop where
  | nil :
      WellFormedKeys []
  | name {name more} :
      WellFormedKeys more → WellFormedKeys (.name name :: more)
  | computed {key more} :
      (∀ s, key ≠ .literal (.string s)) → WellFormed key → WellFormedKeys more →
      WellFormedKeys (.computed key :: more)

end

/-! ## Spellings -/

open Token (AllSpellable allSpellable_nil allSpellable_cons allSpellable_append)

variable {s : Sign} {ts : List Token}

theorem allSpellable_closed (hs : s ≠ .assign) (hts : AllSpellable ts) :
    AllSpellable (ts ++ [.sign s]) :=
  allSpellable_append hts (allSpellable_cons (.sign hs) allSpellable_nil)

theorem allSpellable_wrap {needed : Bool} (hts : AllSpellable ts) :
    AllSpellable (wrap needed ts) := by
  unfold wrap
  split
  · exact allSpellable_cons (.sign (by decide)) (allSpellable_closed (by decide) hts)
  · exact hts

theorem allSpellable_prefixes (ops : List UnaryOp) : AllSpellable (ops.map UnaryOp.token) := by
  intro t ht
  obtain ⟨op, -, rfl⟩ := List.mem_map.mp ht
  exact op.spellable_token

mutual

/-- The tokens of a well-formed expression are read back from their spelling. -/
theorem allSpellable_tokens {e : Expr} : e.WellFormed → AllSpellable e.tokens
  | .null => allSpellable_cons .null allSpellable_nil
  | .boolean b => allSpellable_cons (.boolean b) allSpellable_nil
  | .number h => allSpellable_cons (.number h) allSpellable_nil
  | .string s => allSpellable_cons (.string s) allSpellable_nil
  | .array hitems => by
      rw [tokens]
      exact allSpellable_cons (.sign (by decide))
        (allSpellable_closed (by decide) (allSpellable_itemTokens hitems))
  | .object hentries => by
      rw [tokens]
      exact allSpellable_cons (.sign (by decide))
        (allSpellable_closed (by decide) (allSpellable_entryTokens hentries))
  | .identifier hname => allSpellable_cons (.identifier hname) allSpellable_nil
  | .unary _ hoperand => by
      rw [tokens]
      exact allSpellable_append (allSpellable_prefixes _)
        (allSpellable_wrap (allSpellable_tokens hoperand))
  | .binary _ hhead htail _ => by
      rw [tokens]
      exact allSpellable_append (allSpellable_wrap (allSpellable_tokens hhead))
        (allSpellable_tailTokens htail)
  | .conditional htest hbranch hwhenFalse => by
      rw [tokens]
      exact allSpellable_append (allSpellable_wrap (allSpellable_tokens htest))
        (allSpellable_append (allSpellable_branchTokens hbranch)
          (allSpellable_tokens hwhenFalse))
  | .accessor _ hbase hkeys => by
      rw [tokens]
      exact allSpellable_append (allSpellable_wrap (allSpellable_tokens hbase))
        (allSpellable_keyTokens hkeys)
  | .call hname hargs => by
      rw [tokens]
      exact allSpellable_cons (.identifier hname) (allSpellable_cons (.sign (by decide))
        (allSpellable_closed (by decide) (allSpellable_itemTokens hargs)))

theorem allSpellable_branchTokens {branch : Option Expr} :
    WellFormedBranch branch → AllSpellable (branchTokens branch)
  | .none => allSpellable_cons (.sign (by decide)) allSpellable_nil
  | .some hbranch => by
      rw [branchTokens]
      exact allSpellable_cons (.sign (by decide))
        (allSpellable_closed (by decide) (allSpellable_tokens hbranch))

theorem allSpellable_itemTokens {items : List Expr} :
    WellFormedItems items → AllSpellable (itemTokens items)
  | .nil => allSpellable_nil
  | .cons hitem .nil => by
      rw [itemTokens]
      exact allSpellable_tokens hitem
  | .cons hitem (.cons hnext hmore) => by
      rw [itemTokens]
      · exact allSpellable_append (allSpellable_tokens hitem) (allSpellable_cons (.sign (by decide))
          (allSpellable_itemTokens (.cons hnext hmore)))
      · simp

theorem allSpellable_entryTokens {entries : Entries} :
    WellFormedEntries entries → AllSpellable (entryTokens entries)
  | .nil => allSpellable_nil
  | .cons hvalue .nil => by
      rw [entryTokens]
      exact allSpellable_cons (.string _) (allSpellable_cons (.sign (by decide))
        (allSpellable_tokens hvalue))
  | .cons hvalue (.cons hnext hmore) => by
      rw [entryTokens]
      · exact allSpellable_cons (.string _) (allSpellable_cons (.sign (by decide))
          (allSpellable_append (allSpellable_tokens hvalue) (allSpellable_cons (.sign (by decide))
            (allSpellable_entryTokens (.cons hnext hmore)))))
      · simp

theorem allSpellable_tailTokens {level : Nat} {tail : List (BinaryOp × Expr)} :
    WellFormedTail level tail → AllSpellable (tailTokens tail)
  | .nil => allSpellable_nil
  | .cons _ hright hmore => by
      rw [tailTokens]
      exact allSpellable_cons (BinaryOp.spellable_token _)
        (allSpellable_append (allSpellable_wrap (allSpellable_tokens hright))
          (allSpellable_tailTokens hmore))

theorem allSpellable_keyTokens {keys : List Key} :
    WellFormedKeys keys → AllSpellable (keyTokens keys)
  | .nil => allSpellable_nil
  | .name hmore => by
      rw [keyTokens]
      exact allSpellable_cons (.sign (by decide)) (allSpellable_cons (.string _)
        (allSpellable_cons (.sign (by decide)) (allSpellable_keyTokens hmore)))
  | .computed _ hkey hmore => by
      rw [keyTokens]
      exact allSpellable_cons (.sign (by decide)) (allSpellable_append (allSpellable_tokens hkey)
        (allSpellable_cons (.sign (by decide)) (allSpellable_keyTokens hmore)))

end

end Expr
end Guest
