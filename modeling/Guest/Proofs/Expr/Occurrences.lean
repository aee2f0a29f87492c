import Guest.Proofs.Evaluation.Reach
import Guest.Proofs.Expr.Exactness

/-!
# Occurrences of identifiers

Which names of a text are identifiers can be told from its tokens alone: all but the names behind a
point, in front of an opening parenthesis, and in the place of a key of an object.  An evaluation
reaches the identifiers of its source in their order and each occurrence at most once.  Between the
two stand the identifiers of the tree: the grammar puts them into the order of the tokens, and the
script of a tree looks names up within them.
-/

namespace Guest

/-! ## Identifiers among tokens -/

namespace Token

/-- What a name stands for that comes next. -/
inductive Place where
  | operand
  | property
  | key
  deriving DecidableEq

/-- The signs of the brackets that are open behind a token, from the inside. -/
def openBehind (brackets : List Sign) : Token → List Sign
  | .sign .leftParen => .leftParen :: brackets
  | .sign .leftBracket => .leftBracket :: brackets
  | .sign .leftBrace => .leftBrace :: brackets
  | .sign .rightParen => brackets.tail
  | .sign .rightBracket => brackets.tail
  | .sign .rightBrace => brackets.tail
  | _ => brackets

/-- What a name behind a token stands for: a property behind a point, a key behind a brace and
behind a comma right inside of braces, and an operand otherwise. -/
def placeBehind (brackets : List Sign) : Token → Place
  | .sign .dot => .property
  | .sign .leftBrace => .key
  | .sign .comma => if brackets.head? = some .leftBrace then .key else .operand
  | _ => .operand

/-- The identifier that a token is, in view of the token that follows: the name of a call is
none. -/
def identifierAt? : Place → Token → Option Token → Option String
  | .operand, .identifier name, next =>
    if next = some (.sign .leftParen) then none else some name
  | _, _, _ => none

/-- The identifiers among tokens in order, from a place inside of some brackets. -/
def identifiersFrom : List Sign → Place → List Token → List String
  | _, _, [] => []
  | brackets, place, token :: rest =>
    (identifierAt? place token rest.head?).toList ++
      identifiersFrom (openBehind brackets token) (placeBehind brackets token) rest

/-- The identifiers among the tokens of a text, from left to right. -/
def identifiers (tokens : List Token) : List String := identifiersFrom [] .operand tokens

example :
    identifiers [.identifier "f", .sign .leftParen, .identifier "a", .sign .comma,
      .sign .leftBrace, .identifier "b", .sign .colon, .identifier "c", .sign .dot,
      .identifier "d", .sign .rightBrace, .sign .rightParen] = ["a", "c"] := by decide

end Token

/-! ## Identifiers of a tree -/

namespace Expr

mutual

/-- The identifiers of a tree from left to right. -/
def names : Expr → List String
  | literal _ => []
  | array items => itemNames items
  | object entries => entryNames entries
  | identifier name => [name]
  | unary _ operand => names operand
  | binary head tail => names head ++ tailNames tail
  | conditional test whenTrue whenFalse =>
    names test ++ ((match whenTrue with
      | some branch => names branch
      | none => []) ++ names whenFalse)
  | accessor base keys => names base ++ keyNames keys
  | call _ args => itemNames args

/-- The identifiers of expressions in order. -/
def itemNames : List Expr → List String
  | [] => []
  | item :: rest => names item ++ itemNames rest

/-- The identifiers of the entries of an object. -/
def entryNames : List (String × Expr) → List String
  | [] => []
  | (_, value) :: rest => names value ++ entryNames rest

/-- The identifiers of the operands of a chain. -/
def tailNames : List (BinaryOp × Expr) → List String
  | [] => []
  | (_, right) :: rest => names right ++ tailNames rest

/-- The identifiers of computed keys. -/
def keyNames : List Key → List String
  | [] => []
  | .name _ :: rest => keyNames rest
  | .computed key :: rest => names key ++ keyNames rest

end

/-! ### Scripts -/

open Script

theorem looksUp_access {names : List String} {target key : Value} {f : Value → Script Value}
    (h : ∀ v, (f v).LooksUp names) : (Script.access target key >>= f).LooksUp names := by
  unfold Script.access
  cases target.access? key with
  | some v => exact h v
  | none => exact .nullAccess key.text

mutual

/-- The script of a tree looks names up within the identifiers of the tree. -/
theorem looksUp_script : ∀ e : Expr, e.script.LooksUp e.names
  | literal v => .done v
  | array items => (looksUp_scripts items).map
  | object entries => (looksUp_entryScripts entries).map
  | identifier name => .lookup (List.Sublist.refl _) .done
  | unary ops operand => (looksUp_script operand).map
  | binary head tail => (looksUp_script head).bind fun left => looksUp_tailScript left tail
  | conditional test (some whenTrue) whenFalse => by
      rw [script, names]
      apply (looksUp_script test).bind
      intro v
      split
      · exact (looksUp_script whenTrue).mono (List.sublist_append_left _ _)
      · exact (looksUp_script whenFalse).mono (List.sublist_append_right _ _)
  | conditional test none whenFalse => by
      rw [script, names]
      apply (looksUp_script test).bind
      intro v
      split
      · exact .done v
      · exact looksUp_script whenFalse
  | accessor base keys => (looksUp_script base).bind fun target => looksUp_keysScript target keys
  | call name args => by
      rw [script, names]
      apply LooksUp.known
      intro known
      cases known with
      | true =>
          rw [← List.append_nil (itemNames args)]
          exact (looksUp_scripts args).bind fun values => .call .done
      | false => exact .done Value.null

theorem looksUp_scripts : ∀ items : List Expr, (scripts items).LooksUp (itemNames items)
  | [] => .done []
  | item :: rest => (looksUp_script item).bind fun _ => (looksUp_scripts rest).map

theorem looksUp_entryScripts :
    ∀ entries : List (String × Expr), (entryScripts entries).LooksUp (entryNames entries)
  | [] => .done []
  | (_, value) :: rest => (looksUp_script value).bind fun _ => (looksUp_entryScripts rest).map

/-- An operand that is not evaluated looks nothing up. -/
theorem looksUp_tailScript :
    ∀ (left : Value) (tail : List (BinaryOp × Expr)),
      (tailScript left tail).LooksUp (tailNames tail)
  | left, [] => .done left
  | left, (op, right) :: rest => by
      rw [tailScript, tailNames]
      split
      · exact (looksUp_tailScript left rest).mono (List.sublist_append_right _ _)
      · exact (looksUp_script right).bind fun v => looksUp_tailScript _ rest

theorem looksUp_keysScript :
    ∀ (target : Value) (keys : List Key), (keysScript target keys).LooksUp (keyNames keys)
  | target, [] => .done target
  | target, .name name :: rest => by
      rw [keysScript, keyNames]
      exact looksUp_access fun v => looksUp_keysScript v rest
  | target, .computed key :: rest => by
      rw [keysScript, keyNames]
      apply (looksUp_script key).bind
      intro k
      exact looksUp_access fun v => looksUp_keysScript v rest

end

end Expr

/-! ## Identifiers of what the grammar derives -/

namespace Grammar

open Token Guest.Expr

variable {brackets : List Sign} {place : Place} {ts us rest : List Token} {names : List String}

/-- Tokens that are read from the place of an operand and end there have some identifiers, unless
an opening parenthesis follows. -/
def Identifies (ts : List Token) (names : List String) : Prop :=
  ∀ brackets rest, rest.head? ≠ some (.sign .leftParen) →
    identifiersFrom brackets .operand (ts ++ rest) =
      names ++ identifiersFrom brackets .operand rest

/-! ### Single tokens -/

theorem identifiersFrom_sign {sign : Sign} :
    identifiersFrom brackets place (.sign sign :: rest) =
      identifiersFrom (openBehind brackets (.sign sign)) (placeBehind brackets (.sign sign))
        rest := by
  rw [identifiersFrom]
  cases place <;> rfl

theorem identifiersFrom_binaryOp {token : Token} {op : BinaryOp}
    (h : token.binaryOp? = some op) :
    identifiersFrom brackets .operand (token :: rest) =
      identifiersFrom brackets .operand rest := by
  cases token with
  | sign sign => cases sign <;> first | rfl | cases h
  | word word => rfl
  | _ => cases h

theorem identifiersFrom_unaryOp {token : Token} {op : UnaryOp} (h : token.unaryOp? = some op) :
    identifiersFrom brackets .operand (token :: rest) =
      identifiersFrom brackets .operand rest := by
  cases token with
  | sign sign => cases sign <;> first | rfl | cases h
  | word word => rfl
  | _ => cases h

/-- The signs that are neither brackets nor commas nor points. -/
inductive IsMark : Sign → Prop where
  | question : IsMark .question
  | elvis : IsMark .elvis
  | colon : IsMark .colon
  | power : IsMark .starStar

theorem identifiersFrom_mark {sign : Sign} (h : IsMark sign) :
    identifiersFrom brackets place (.sign sign :: rest) =
      identifiersFrom brackets .operand rest := by
  rw [identifiersFrom_sign]
  cases h <;> rfl

/-- A key is no identifier, whatever it is written as. -/
theorem identifiersFrom_key {token : Token} {key : String} (h : EntryKey token key) :
    identifiersFrom brackets .key (token :: .sign .colon :: rest) =
      identifiersFrom brackets .operand rest := by
  cases h <;> rfl

theorem identifiersFrom_prefixes {ops : List UnaryOp} (h : Prefixes us ops) :
    identifiersFrom brackets .operand (us ++ rest) = identifiersFrom brackets .operand rest := by
  induction h with
  | nil => rfl
  | cons hop _ ih =>
      rw [List.cons_append, identifiersFrom_unaryOp hop, ih]

/-! ### What follows an operand -/

theorem tail_ne_leftParen {level : Nat} {tail : List (BinaryOp × Expr)} (h : Tail level us tail)
    (hrest : rest.head? ≠ some (.sign .leftParen)) :
    (us ++ rest).head? ≠ some (.sign .leftParen) := by
  cases h with
  | nil => exact hrest
  | cons hop _ _ _ =>
      rintro hparen
      rw [Option.some.inj hparen] at hop
      cases hop

theorem keys_ne_leftParen {keys : List Key} (h : Keys us keys)
    (hrest : rest.head? ≠ some (.sign .leftParen)) :
    (us ++ rest).head? ≠ some (.sign .leftParen) := by
  cases h with
  | nil => exact hrest
  | dot _ => simp
  | text _ _ => simp
  | computed _ _ _ => simp

theorem sign_ne_leftParen {sign : Sign} (h : sign ≠ .leftParen) :
    (Token.sign sign :: rest).head? ≠ some (.sign .leftParen) := by
  simpa using h

/-! ### Identifiers of composed trees -/

theorem names_chainOf (head : Expr) (tail : List (BinaryOp × Expr)) :
    (chainOf head tail).names = head.names ++ tailNames tail := by
  cases tail with
  | nil => rw [chainOf, tailNames, List.append_nil]
  | cons operation more =>
      change (binary head (operation :: more)).names = _
      rw [Expr.names]

theorem names_prefixed (operand : Expr) (ops : List UnaryOp) :
    (prefixed operand ops).names = operand.names := by
  cases ops with
  | nil => rfl
  | cons op more =>
      change (unary (op :: more) operand).names = _
      rw [Expr.names]

theorem names_accessed (base : Expr) (keys : List Key) :
    (accessed base keys).names = base.names ++ keyNames keys := by
  cases keys with
  | nil => rw [accessed, keyNames, List.append_nil]
  | cons key more =>
      change (accessor base (key :: more)).names = _
      rw [Expr.names]

/-! ### The rules -/

mutual

/-- The identifiers of a derived tree are those of its tokens, in their order. -/
theorem identifies_expression {ts : List Token} {e : Expr} :
    Expression ts e → Identifies ts e.names
  | .chain h => identifies_chain h
  | .conditional htest hwhenTrue hwhenFalse => by
      intro brackets rest hrest
      simp only [List.append_assoc, List.cons_append]
      rw [identifies_chain htest _ _ (sign_ne_leftParen (by decide)),
        identifiersFrom_mark .question,
        identifies_expression hwhenTrue _ _ (sign_ne_leftParen (by decide)),
        identifiersFrom_mark .colon, identifies_expression hwhenFalse _ _ hrest]
      simp only [Expr.names, List.append_assoc]
  | .elvis htest hwhenFalse => by
      intro brackets rest hrest
      simp only [List.append_assoc, List.cons_append]
      rw [identifies_chain htest _ _ (sign_ne_leftParen (by decide)), identifiersFrom_mark .elvis,
        identifies_expression hwhenFalse _ _ hrest]
      simp only [Expr.names, List.append_assoc, List.nil_append]

theorem identifies_chain {level : Nat} {ts : List Token} {e : Expr} :
    Chain level ts e → Identifies ts e.names
  | .operands _ hhead htail => by
      intro brackets rest hrest
      rw [List.append_assoc, identifies_chain hhead _ _ (tail_ne_leftParen htail hrest),
        identifies_tail htail _ _ hrest, names_chainOf, List.append_assoc]
  | .unary h => identifies_unary h

theorem identifies_tail {level : Nat} {ts : List Token} {tail : List (BinaryOp × Expr)} :
    Tail level ts tail → Identifies ts (tailNames tail)
  | .nil => fun _ _ _ => rfl
  | .cons hop _ hright hmore => by
      intro brackets rest hrest
      rw [List.cons_append, List.append_assoc, identifiersFrom_binaryOp hop,
        identifies_chain hright _ _ (tail_ne_leftParen hmore hrest),
        identifies_tail hmore _ _ hrest, tailNames, List.append_assoc]

theorem identifies_unary {ts : List Token} {e : Expr} : Unary ts e → Identifies ts e.names
  | .prefixes hops hpower => by
      intro brackets rest hrest
      rw [List.append_assoc, identifiersFrom_prefixes hops,
        identifies_power hpower _ _ hrest, names_prefixed]

theorem identifies_power {ts : List Token} {e : Expr} : Power ts e → Identifies ts e.names
  | .base h => identifies_access h
  | .power hbase hexponent => by
      intro brackets rest hrest
      rw [List.append_assoc, List.cons_append,
        identifies_access hbase _ _ (sign_ne_leftParen (by decide)), identifiersFrom_mark .power]
      simp only [Expr.names, tailNames, List.append_nil, List.append_assoc]
      exact congrArg _ (identifies_unary hexponent _ _ hrest)

theorem identifies_access {ts : List Token} {e : Expr} : Access ts e → Identifies ts e.names
  | .keys hbase hkeys => by
      intro brackets rest hrest
      rw [List.append_assoc, identifies_primary hbase _ _ (keys_ne_leftParen hkeys hrest),
        identifies_keys hkeys _ _ hrest, names_accessed, List.append_assoc]

theorem identifies_keys {ts : List Token} {keys : List Key} :
    Keys ts keys → Identifies ts (keyNames keys)
  | .nil => fun _ _ _ => rfl
  | .dot hmore => by
      intro brackets rest hrest
      exact identifies_keys hmore _ _ hrest
  | .text hkey hmore => by
      intro brackets rest hrest
      simp only [List.append_assoc, List.cons_append]
      rw [identifiersFrom_sign]
      refine (identifies_expression hkey _ _ (sign_ne_leftParen (by decide))).trans ?_
      rw [identifiersFrom_sign]
      exact identifies_keys hmore _ _ hrest
  | .computed hkey _ hmore => by
      intro brackets rest hrest
      simp only [List.append_assoc, List.cons_append]
      rw [identifiersFrom_sign]
      refine (identifies_expression hkey _ _ (sign_ne_leftParen (by decide))).trans ?_
      rw [identifiersFrom_sign, keyNames, List.append_assoc]
      exact congrArg _ (identifies_keys hmore _ _ hrest)

theorem identifies_primary {ts : List Token} {e : Expr} : Primary ts e → Identifies ts e.names
  | .number _ => fun _ _ _ => rfl
  | .string _ => fun _ _ _ => rfl
  | .boolean _ => fun _ _ _ => rfl
  | .null => fun _ _ _ => rfl
  | .identifier name => by
      intro brackets rest hrest
      rw [List.singleton_append, identifiersFrom, identifierAt?, if_neg hrest, Expr.names]
      rfl
  | .call hargs => by
      intro brackets rest hrest
      simp only [List.append_assoc, List.cons_append]
      rw [identifiersFrom, identifierAt?, List.head?_cons, if_pos rfl, identifiersFrom_sign,
        Expr.names]
      exact identifies_sequence hargs _ _ (by simp [openBehind]) (sign_ne_leftParen (by decide))
  | .group h => by
      intro brackets rest hrest
      simp only [List.append_assoc, List.cons_append]
      rw [identifiersFrom_sign]
      exact identifies_expression h _ _ (sign_ne_leftParen (by decide))
  | .array hitems => by
      intro brackets rest hrest
      simp only [List.append_assoc, List.cons_append]
      rw [identifiersFrom_sign, Expr.names]
      exact identifies_sequence hitems _ _ (by simp [openBehind]) (sign_ne_leftParen (by decide))
  | .object hentries => by
      intro brackets rest hrest
      simp only [List.append_assoc, List.cons_append]
      rw [identifiersFrom_sign, Expr.names]
      exact identifies_entrySequence hentries brackets rest

/-- Commas outside of braces are followed by operands. -/
theorem identifies_sequence {ts : List Token} {items : List Expr} :
    Sequence ts items → ∀ brackets rest, brackets.head? ≠ some .leftBrace →
      rest.head? ≠ some (.sign .leftParen) →
      identifiersFrom brackets .operand (ts ++ rest) =
        itemNames items ++ identifiersFrom brackets .operand rest
  | .nil, _, _, _, _ => rfl
  | .items h, brackets, rest, hbrackets, hrest => identifies_items h brackets rest hbrackets hrest

theorem identifies_items {ts : List Token} {items : List Expr} :
    Items ts items → ∀ brackets rest, brackets.head? ≠ some .leftBrace →
      rest.head? ≠ some (.sign .leftParen) →
      identifiersFrom brackets .operand (ts ++ rest) =
        itemNames items ++ identifiersFrom brackets .operand rest
  | .last h, brackets, rest, _, hrest => by
      rw [identifies_expression h _ _ hrest, itemNames, itemNames, List.append_nil]
  | .more h hmore, brackets, rest, hbrackets, hrest => by
      have hcomma : placeBehind brackets (.sign .comma) = .operand := if_neg hbrackets
      rw [List.append_assoc, List.cons_append,
        identifies_expression h _ _ (sign_ne_leftParen (by decide)), identifiersFrom_sign, hcomma,
        itemNames, List.append_assoc]
      exact congrArg _ (identifies_items hmore brackets rest hbrackets hrest)

/-- Entries start at the place of a key, and end with their brace. -/
theorem identifies_entrySequence {ts : List Token} {entries : Entries} :
    EntrySequence ts entries → ∀ brackets rest,
      identifiersFrom (.leftBrace :: brackets) .key (ts ++ .sign .rightBrace :: rest) =
        entryNames entries ++ identifiersFrom brackets .operand rest
  | .nil, _, _ => rfl
  | .pairs h, brackets, rest => identifies_pairs h brackets rest

theorem identifies_pairs {ts : List Token} {entries : Entries} :
    Pairs ts entries → ∀ brackets rest,
      identifiersFrom (.leftBrace :: brackets) .key (ts ++ .sign .rightBrace :: rest) =
        entryNames entries ++ identifiersFrom brackets .operand rest
  | .last hkey hvalue, brackets, rest => by
      rw [List.cons_append, List.cons_append, identifiersFrom_key hkey,
        identifies_expression hvalue _ _ (sign_ne_leftParen (by decide)), identifiersFrom_sign,
        entryNames, entryNames, List.append_nil]
      rfl
  | .more hkey hvalue hmore, brackets, rest => by
      simp only [List.cons_append, List.append_assoc]
      rw [identifiersFrom_key hkey,
        identifies_expression hvalue _ _ (sign_ne_leftParen (by decide)), identifiersFrom_sign,
        entryNames, List.append_assoc]
      exact congrArg _ (identifies_pairs hmore brackets rest)

end

/-- The tokens of a text that derive a tree have the identifiers of the tree. -/
theorem identifiers_of_expression {e : Expr} (h : Expression ts e) :
    identifiers (ts ++ [.endOfText]) = e.names := by
  rw [identifiers, identifies_expression h _ _ (by simp)]
  exact List.append_nil _

end Grammar

/-! ## Identifiers of a source -/

namespace Lexer

variable {lexer : Lexer} {ts : List Token}

/-- The tokens of a text, up to its end or the first error. -/
def tokens (lexer : Lexer) : List Token :=
  (lexer.items.map (Except.map Spanned.token)).filterMap Except.toOption

theorem tokens_of_yields (h : lexer.Yields ts) : lexer.tokens = ts ++ [.endOfText] := by
  have hok (tokens : List Token) :
      (tokens.map (Except.ok (ε := LexError))).filterMap Except.toOption = tokens := by
    rw [List.filterMap_map]
    exact List.filterMap_some
  rw [tokens, show lexer.items.map _ = _ from h, List.filterMap_append, hok]
  rfl

end Lexer

namespace Expr

open Parse

variable {dialect : Dialect} {source : String} {e : Expr}

/-- The identifiers of a source text from left to right. -/
def identifiersOf (dialect : Dialect) (source : String) : List String :=
  Token.identifiers (Lexer.ofString dialect source).tokens

theorem identifiersOf_parse (h : parse dialect source = .ok e) :
    identifiersOf dialect source = e.names := by
  obtain ⟨ts, hyields, hderives⟩ := exists_derivation_of_parse h
  rw [identifiersOf, Lexer.tokens_of_yields hyields, Grammar.identifiers_of_expression hderives]

/-- Every evaluation of what a source text denotes reaches the identifiers of the text from left to
right and each occurrence at most once, without waiting and by polls, whether it ends, fails or is
given up. -/
theorem reaches_in_order (h : parse dialect source = .ok e) (evaluator : Evaluator) :
    InOrder (identifiersOf dialect source) evaluator.context (e.evaluate evaluator).2.context
      (e.script.marks evaluator.context) ∧
    ∀ patience, InOrder (identifiersOf dialect source) evaluator.context
      ((Task.running e.script).block patience evaluator).2.context
      ((Task.running e.script).marksWithin patience evaluator) := by
  rw [identifiersOf_parse h]
  exact ⟨(looksUp_script e).inOrder_runNow evaluator,
    fun patience => (looksUp_script e).inOrder_block patience evaluator⟩

/-- An argument of a function that does not exist, the right operand behind it and a choice: two of
four identifiers are reached. -/
theorem reaches_in_order_choice :
    let source := "f(a) || b ? c.d : d"
    let context := (Context.bare.withIdentifiers (.resolver fun _ _ => .ok (.boolean true))).track
    ∃ e, parse .extended source = .ok e ∧
      identifiersOf .extended source = ["a", "b", "c", "d"] ∧
      (e.evaluate (.new context)).2.context.usage = some ["b", "c"] ∧
      InOrder (identifiersOf .extended source) context (e.evaluate (.new context)).2.context
        (e.script.marks context) := by
  intro source context
  have hparses : (parse .extended source).toBool = true := by decide +kernel
  have husage : (parse .extended source).map (fun e =>
      (e.evaluate (.new context)).2.context.usage) = .ok (some ["b", "c"]) := by decide +kernel
  cases h : parse .extended source with
  | error error =>
      rw [h] at hparses
      cases hparses
  | ok e =>
      rw [h] at husage
      refine ⟨e, rfl, by decide +kernel, Except.ok.inj husage, ?_⟩
      exact (reaches_in_order h (.new context)).1

end Expr

end Guest
