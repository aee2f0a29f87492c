import Guest.Proofs.Expr.Occurrences
import Guest.Proofs.TypeExpr.Fullnames
import Guest.Proofs.TypeExpr.Results

/-!
# Occurrences of identifiers in type expressions

The identifiers of a type expression stand in its configurations.  In the source text the template
arguments of a type come before its configuration, but the configuration is evaluated first.  So an
evaluation reaches the identifiers in another order than that of the text where a type has some in
its template arguments and some in its configuration, and in the order of the text everywhere else.
-/

namespace Guest

/-! ## Identifiers among tokens -/

namespace Token

open TypeGrammar (bracesBehind)

/-- The tokens of configurations: those between braces, with their braces, where a number of braces
are open at the start. -/
def configTokens : Nat → List Token → List Token
  | _, [] => []
  | depth, token :: rest =>
    if depth = 0 ∧ token ≠ .sign .leftBrace then configTokens (bracesBehind depth token) rest
    else token :: configTokens (bracesBehind depth token) rest

/-- The identifiers in the configurations of a text, from left to right. -/
def configIdentifiers (tokens : List Token) : List String := identifiers (configTokens 0 tokens)

example :
    configIdentifiers [.identifier "T", .sign .less, .identifier "U", .sign .leftBrace,
      .identifier "k", .sign .colon, .identifier "a", .sign .rightBrace, .sign .greater] =
        ["a"] := by decide

end Token

/-! ## Identifiers of a union -/

namespace TypeTerm

/-- The identifiers of a configuration. -/
def configNames (config : Option Entries) : List String :=
  match config with
  | some entries => Expr.entryNames entries
  | none => []

/-- What a type has in its configuration and in its template arguments, in one of two orders. -/
def arrange (configFirst : Bool) (config template : List String) : List String :=
  if configFirst then config ++ template else template ++ config

mutual

/-- The identifiers of a type: in the order of an evaluation, with those of the configuration first,
or in the order of the text. -/
def names (configFirst : Bool) : TypeTerm → List String
  | ⟨_, config, _, template⟩ =>
    arrange configFirst (configNames config) (argumentNames configFirst template)

/-- The identifiers of single types in order. -/
def memberNames (configFirst : Bool) : List TypeTerm → List String
  | [] => []
  | member :: rest => names configFirst member ++ memberNames configFirst rest

/-- The identifiers of template arguments in order. -/
def argumentNames (configFirst : Bool) : List (List TypeTerm) → List String
  | [] => []
  | argument :: rest => memberNames configFirst argument ++ argumentNames configFirst rest

end

mutual

/-- Tells the types that, at every depth, have no identifiers in the configuration or none in the
template arguments. -/
def isUntangled : TypeTerm → Bool
  | ⟨_, config, _, template⟩ =>
    ((configNames config).isEmpty || (argumentNames false template).isEmpty) &&
      areArgumentsUntangled template

/-- Tells whether all single types are such. -/
def areMembersUntangled : List TypeTerm → Bool
  | [] => true
  | member :: rest => isUntangled member && areMembersUntangled rest

/-- Tells whether all types in template arguments are such. -/
def areArgumentsUntangled : List (List TypeTerm) → Bool
  | [] => true
  | argument :: rest => areMembersUntangled argument && areArgumentsUntangled rest

end

/-! ### Two orders -/

theorem arrange_perm {config template config' template' : List String}
    (hconfig : config.Perm config') (htemplate : template.Perm template') :
    (arrange true config template).Perm (arrange false config' template') :=
  (hconfig.append htemplate).trans List.perm_append_comm

theorem arrange_eq {config template : List String} (h : config = [] ∨ template = []) :
    arrange true config template = arrange false config template := by
  rcases h with rfl | rfl
  · exact (List.append_nil template).symm
  · exact List.append_nil config

mutual

/-- Both orders have the same identifiers. -/
theorem names_perm : ∀ t : TypeTerm, (names true t).Perm (names false t)
  | ⟨_, _, _, template⟩ => arrange_perm (.refl _) (argumentNames_perm template)

theorem memberNames_perm :
    ∀ members : List TypeTerm, (memberNames true members).Perm (memberNames false members)
  | [] => .refl _
  | member :: rest => (names_perm member).append (memberNames_perm rest)

theorem argumentNames_perm : ∀ template : List (List TypeTerm),
    (argumentNames true template).Perm (argumentNames false template)
  | [] => .refl _
  | argument :: rest => (memberNames_perm argument).append (argumentNames_perm rest)

end

mutual

/-- Without a type that has identifiers at both places there is one order. -/
theorem names_eq : ∀ t : TypeTerm, t.isUntangled = true → names true t = names false t
  | ⟨_, config, _, template⟩, h => by
      rw [isUntangled, Bool.and_eq_true, Bool.or_eq_true, List.isEmpty_iff, List.isEmpty_iff] at h
      rw [names, names, argumentNames_eq template h.2]
      exact arrange_eq h.1

theorem memberNames_eq : ∀ members : List TypeTerm, areMembersUntangled members = true →
    memberNames true members = memberNames false members
  | [], _ => rfl
  | member :: rest, h => by
      rw [areMembersUntangled, Bool.and_eq_true] at h
      rw [memberNames, memberNames, names_eq member h.1, memberNames_eq rest h.2]

theorem argumentNames_eq : ∀ template : List (List TypeTerm),
    areArgumentsUntangled template = true →
    argumentNames true template = argumentNames false template
  | [], _ => rfl
  | argument :: rest, h => by
      rw [areArgumentsUntangled, Bool.and_eq_true] at h
      rw [argumentNames, argumentNames, memberNames_eq argument h.1, argumentNames_eq rest h.2]

end

/-! ### Scripts -/

open Script

theorem looksUp_configScript (config : Option Entries) :
    (configScript config).LooksUp (configNames config) := by
  cases config with
  | none => exact .done _
  | some entries =>
      have h := Expr.looksUp_script (.object entries)
      rwa [Expr.names] at h

mutual

/-- The script of a type looks up the identifiers of the configuration before those of the template
arguments. -/
theorem looksUp_script : ∀ t : TypeTerm, t.script.LooksUp (names true t)
  | ⟨_, config, _, template⟩ =>
      (looksUp_configScript config).bind fun _ => (looksUp_argumentScripts template).map

theorem looksUp_memberScripts :
    ∀ members : List TypeTerm, (memberScripts members).LooksUp (memberNames true members)
  | [] => .done []
  | member :: rest => (looksUp_script member).bind fun _ => (looksUp_memberScripts rest).map

theorem looksUp_argumentScripts : ∀ template : List (List TypeTerm),
    (argumentScripts template).LooksUp (argumentNames true template)
  | [] => .done []
  | argument :: rest =>
      (looksUp_memberScripts argument).bind fun _ => (looksUp_argumentScripts rest).map

end

end TypeTerm

/-! ## Identifiers of what the grammar derives -/

namespace TypeGrammar

open Grammar Token TypeTerm

variable {source : List Char} {depth : Nat} {t : Token} {ts rest : List Token}
  {pieces : List Spanned}

theorem configTokens_cons_of_braceless (h : Braceless t) :
    configTokens 0 (t :: rest) = configTokens 0 rest := by
  rw [configTokens, if_pos ⟨rfl, h.1⟩, bracesBehind_of_braceless h]

theorem configTokens_append_of_braceless (h : ∀ t ∈ ts, Braceless t) :
    configTokens 0 (ts ++ rest) = configTokens 0 rest := by
  induction ts with
  | nil => rfl
  | cons t ts ih =>
      obtain ⟨ht, hmore⟩ := List.forall_mem_cons.mp h
      rw [List.cons_append, configTokens_cons_of_braceless ht, ih hmore]

theorem configTokens_succ_cons :
    configTokens (depth + 1) (t :: rest) =
      t :: configTokens (bracesBehind (depth + 1) t) rest := by
  rw [configTokens, if_neg fun h => Nat.succ_ne_zero depth h.1]

/-- Between braces everything belongs to a configuration. -/
theorem configTokens_append_of_braced (h : Braced ts) :
    configTokens (depth + 1) (ts ++ rest) = ts ++ configTokens (depth + 1) rest := by
  induction h generalizing depth rest with
  | nil => rfl
  | cons ht _ ih =>
      rw [List.cons_append, configTokens_succ_cons, bracesBehind_of_braceless ht, ih,
        List.cons_append]
  | braces _ _ ihinner ih =>
      rw [List.cons_append, configTokens_succ_cons, List.append_assoc, List.cons_append,
        bracesBehind_leftBrace, ihinner, configTokens_succ_cons, bracesBehind_rightBrace, ih]
      simp

/-- Taking shift signs apart outside of braces changes nothing between braces. -/
theorem configTokens_splitAngles (depth : Nat) (spans : List Spanned) (rest : List Token) :
    configTokens depth ((splitAngles depth spans).map Spanned.token ++ rest) =
      configTokens depth (spans.map Spanned.token ++ rest) := by
  induction spans generalizing depth with
  | nil => rfl
  | cons spanned spans ih =>
      rw [splitAngles_cons, List.map_append, List.append_assoc, List.map_cons, List.cons_append]
      rcases piecesOf_eq_or_splits depth spanned with hone | ⟨rfl, sign, left, hsplits, ht⟩
      · rw [hone, List.map_singleton, List.singleton_append, configTokens, configTokens, ih]
      · have hsign : Braceless (.sign sign) := (Parser.braceless_of_splits hsplits).1
        have hpieces : ∀ t ∈ (piecesOf 0 spanned).map Spanned.token, Braceless t := by
          intro t hmem
          obtain ⟨piece, hpiece, rfl⟩ := List.mem_map.mp hmem
          rw [greater_of_mem_brackets hsplits ht hpiece]
          simp [Braceless]
        rw [configTokens_append_of_braceless hpieces, ht, configTokens_cons_of_braceless hsign,
          bracesBehind_of_braceless hsign, ih]

/-- Tokens that stand outside of braces as a whole have some identifiers in configurations. -/
def Identifies (pieces : List Spanned) (names : List String) : Prop :=
  ∀ rest, configIdentifiers (pieces.map Spanned.token ++ rest) = names ++ configIdentifiers rest

theorem identifies_nil : Identifies [] [] := fun _ => rfl

theorem Identifies.append {more : List Spanned} {names names' : List String}
    (h : Identifies pieces names) (h' : Identifies more names') :
    Identifies (pieces ++ more) (names ++ names') := by
  intro rest
  rw [List.map_append, List.append_assoc, h, h', List.append_assoc]

theorem Identifies.cons {piece : Spanned} {names : List String} (ht : Braceless piece.token)
    (h : Identifies pieces names) : Identifies (piece :: pieces) names := by
  intro rest
  rw [← h, configIdentifiers, configIdentifiers, List.map_cons, List.cons_append,
    configTokens_cons_of_braceless ht]

theorem identifies_config {config : Option Entries} (h : Config pieces config) :
    Identifies pieces (configNames config) := by
  cases h with
  | none => exact identifies_nil
  | @braces opening closing ts entries hopening dentries hclosing =>
      intro rest
      have htokens : configTokens 0 ((opening :: (ts ++ [closing])).map Spanned.token ++ rest) =
          .sign .leftBrace ::
            (ts.map Spanned.token ++ .sign .rightBrace :: configTokens 0 rest) := by
        rw [List.map_cons, hopening, List.map_append, List.map_singleton, hclosing,
          List.cons_append, List.append_assoc, configTokens, if_neg (by simp)]
        rw [bracesBehind_leftBrace,
          configTokens_append_of_braced (braced_entrySequence dentries), List.singleton_append,
          configTokens_succ_cons, bracesBehind_rightBrace]
      rw [configIdentifiers, htokens, identifiers, identifiersFrom_sign]
      exact identifies_entrySequence dentries [] (configTokens 0 rest)

mutual

/-- The identifiers of a derived union are those of the configurations of its tokens, in their
order. -/
theorem identifies_union {pieces : List Spanned} {union : TypeUnion} :
    Union source pieces union → Identifies pieces (memberNames false union)
  | .last hterm => by
      rw [memberNames, memberNames, List.append_nil]
      exact identifies_term hterm
  | .more hterm ht hrest =>
      (identifies_term hterm).append ((identifies_union hrest).cons (by simp [ht, Braceless]))

theorem identifies_term {pieces : List Spanned} {t : TypeTerm} :
    Term source pieces t → Identifies pieces (names false t)
  | .named ht htemplate hconfig =>
      ((identifies_angled htemplate).append (identifies_config hconfig)).cons
        (by simp [ht, Braceless])

theorem identifies_angled {pieces : List Spanned} {template : List TypeUnion} :
    Angled source pieces template → Identifies pieces (argumentNames false template)
  | .none => identifies_nil
  | @Angled.angles _ opening ts closing _ hopening hunions hclosing => by
      have hlast : Identifies [closing] [] := identifies_nil.cons (by simp [hclosing, Braceless])
      have hinner := (identifies_unions hunions).append hlast
      rw [List.append_nil] at hinner
      exact hinner.cons (by simp [hopening, Braceless])

theorem identifies_unions {pieces : List Spanned} {template : List TypeUnion} :
    Unions source pieces template → Identifies pieces (argumentNames false template)
  | .last hunion => by
      rw [argumentNames, argumentNames, List.append_nil]
      exact identifies_union hunion
  | .more hunion ht hrest =>
      (identifies_union hunion).append ((identifies_unions hrest).cons (by simp [ht, Braceless]))

end

end TypeGrammar

/-! ## Identifiers of a source -/

namespace TypeUnion

open TypeGrammar TypeTerm

variable {source : String} {union : TypeUnion} {context : Context}

/-- The identifiers in the configurations of a source text, from left to right. -/
def identifiersOf (source : String) : List String :=
  Token.configIdentifiers (Lexer.ofString .extended source).tokens

/-- The identifiers of a union in the order of its evaluation. -/
def visited (union : TypeUnion) : List String := memberNames true union

theorem identifiersOf_parse (h : parse source = .ok union) :
    identifiersOf source = memberNames false union := by
  obtain ⟨spans, last, hitems, hlast, hunion⟩ := derives_of_parse h
  have hyields : (Lexer.ofString .extended source).Yields (spans.map Spanned.token) := by
    rw [Lexer.Yields, hitems]
    simp [hlast, Except.map]
  rw [identifiersOf, Lexer.tokens_of_yields hyields, Token.configIdentifiers,
    ← configTokens_splitAngles, ← Token.configIdentifiers, identifies_union hunion]
  exact List.append_nil _

theorem looksUp_recordsScript (union : TypeUnion) : union.recordsScript.LooksUp union.visited :=
  (looksUp_memberScripts union).map.map

theorem evaluateSource_snd_of_parse (h : parse source = .ok union) :
    (evaluateSource source context).2 =
      (union.recordsScript.runNow (.new context)).2.context := by
  rw [evaluateSource, h]
  simp only [Except.map, runSource, records_eq_runNow, Session.isolated]
  rcases union.recordsScript.runNow (.new context) with ⟨error | rs, after⟩
  · rfl
  · rfl

/-- An evaluation of a type expression reaches the identifiers of its configurations in an order of
its own, each occurrence at most once, without waiting and by polls.  That is the order of the text
if no type has identifiers both in its template arguments and in its configuration. -/
theorem types_reach_in_order (h : parse source = .ok union) :
    (∀ context, InOrder union.visited context (evaluateSource source context).2
      (union.recordsScript.marks context)) ∧
    (∀ patience evaluator, InOrder union.visited evaluator.context
      ((Task.running union.recordsScript).block patience evaluator).2.context
      ((Task.running union.recordsScript).marksWithin patience evaluator)) ∧
    union.visited.Perm (identifiersOf source) ∧
    (areMembersUntangled union = true → union.visited = identifiersOf source) := by
  rw [identifiersOf_parse h]
  refine ⟨fun context => ?_, fun patience evaluator => ?_, memberNames_perm union,
    memberNames_eq union⟩
  · rw [evaluateSource_snd_of_parse h]
    exact (looksUp_recordsScript union).inOrder_runNow (.new context)
  · exact (looksUp_recordsScript union).inOrder_block patience evaluator

/-- A template argument and a configuration of different types. -/
theorem types_reach_in_order_members :
    let source := "A<B\x7bx: a\x7d> | C\x7by: b\x7d"
    let context := (Context.bare.withIdentifiers (.resolver fun _ _ => .ok .null)).track
    ∃ union, parse source = .ok union ∧ areMembersUntangled union = true ∧
      (evaluateSource source context).2.usage = some ["a", "b"] ∧
      InOrder (identifiersOf source) context (evaluateSource source context).2
        (union.recordsScript.marks context) := by
  intro source context
  obtain ⟨union, hparse, huntangled⟩ := exists_ok_of_map (show
    (parse source).map areMembersUntangled = .ok true by decide +kernel)
  obtain ⟨hreaches, -, -, horder⟩ := types_reach_in_order hparse
  refine ⟨union, hparse, huntangled, by decide +kernel, ?_⟩
  rw [← horder huntangled]
  exact hreaches context

/-- The identifier of the configuration is looked up before that of the template argument, which
comes before it in the text. -/
theorem types_reach_out_of_order :
    let source := "A<B\x7bx: a\x7d>\x7by: b\x7d"
    let context := (Context.bare.withIdentifiers (.resolver fun _ _ => .ok .null)).track
    (parse source).toBool = true ∧ identifiersOf source = ["a", "b"] ∧
      (evaluateSource source context).2.history.filterMap Event.lookedUp? = ["b", "a"] ∧
      (evaluateSource source context).2.usage = some ["b", "a"] ∧
      ¬(["b", "a"].Sublist ["a", "b"]) := by
  decide +kernel

end TypeUnion

end Guest
