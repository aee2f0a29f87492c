import Guest.Filter.Parser
import Guest.Proofs.Token.Writing
import Mathlib.Data.List.Forall2

/-!
# Writing filters

A filter is written as a word for a group or a negation with its items in parentheses, as a field
with an operator and a literal, or as a full-text search.  The words of operators and searches have
their letters in either case, texts stand between any quotes, and blanks may stand between any two
words.  The relation goes by way of the tokens: a filter has lists of tokens, and a list of tokens
has texts.
-/

namespace Guest

namespace Filter

open Lexeme

/-! ## The tokens of filters -/

/-- A word is a name with its letters in either case. -/
def AnyCase (name word : String) : Prop :=
  List.Forall₂ (fun a c => c = a ∨ c = a.toLower) name.toList word.toList

/-- The token of an operator: a sign, or its name in any case. -/
inductive OperatorToken : Comparison → Token → Prop where
  | equal :
      OperatorToken .equal (.sign .assign)
  | notEqual :
      OperatorToken .notEqual (.sign .notEqual)
  | less :
      OperatorToken .less (.sign .less)
  | lessEqual :
      OperatorToken .lessEqual (.sign .lessEqual)
  | greater :
      OperatorToken .greater (.sign .greater)
  | greaterEqual :
      OperatorToken .greaterEqual (.sign .greaterEqual)
  | word {name word : String} {op : Comparison} :
      (name, op) ∈ Comparison.words → AnyCase name word → OperatorToken op (.identifier word)

/-- The token of a full-text search: its name in any case. -/
inductive SearchToken : SearchKind → Token → Prop where
  | word {name word : String} {kind : SearchKind} :
      (name, kind) ∈ SearchKind.words → AnyCase name word → SearchToken kind (.identifier word)

/-- The tokens of a scalar; a number with a sign is a minus before its magnitude. -/
inductive LiteralTokens : Value → List Token → Prop where
  | null :
      LiteralTokens .null [.null]
  | boolean (b : Bool) :
      LiteralTokens (.boolean b) [.boolean b]
  | string (s : String) :
      LiteralTokens (.string s) [.string s]
  | number {units : Nat} (h : Representable units) :
      LiteralTokens (.number (.finite false units h)) [.number (.finite false units h)]
  | negative {units : Nat} (h : Representable units) :
      LiteralTokens (.number (.finite true units h))
        [.sign .minus, .number (.finite false units h)]

/-- One or more parts with commas between them. -/
inductive Separated {α : Type} (R : α → List Token → Prop) : List α → List Token → Prop where
  | last {a : α} {ts : List Token} :
      R a ts → Separated R [a] ts
  | more {a : α} {rest : List α} {ts us : List Token} :
      R a ts → Separated R rest us → Separated R (a :: rest) (ts ++ .sign .comma :: us)

/-- The language of a search behind a comma, or nothing. -/
inductive LanguageTokens : Option String → List Token → Prop where
  | none :
      LanguageTokens none []
  | some (language : String) :
      LanguageTokens (some language) [.sign .comma, .string language]

/-- Tokens in parentheses. -/
def enclosed (ts : List Token) : List Token := .sign .leftParen :: (ts ++ [.sign .rightParen])

/-- The tokens of a filter. -/
inductive Tokens : Filter → List Token → Prop where
  | compare {field : String} {op : Comparison} {t : Token} {v : Value} {ts : List Token} :
      op ≠ .oneOf → OperatorToken op t → LiteralTokens v ts →
      Tokens (.compare field op v) (.identifier field :: t :: ts)
  | oneOf {field : String} {t : Token} {vs : List Value} {ts : List Token} :
      OperatorToken .oneOf t → Separated LiteralTokens vs ts →
      Tokens (.compare field .oneOf (.array vs)) (.identifier field :: t :: enclosed ts)
  | search {field : String} {kind : SearchKind} {t : Token} {term : String}
      {language : Option String} {ts : List Token} :
      SearchToken kind t → LanguageTokens language ts →
      Tokens (.search field kind term language)
        (t :: enclosed (.identifier field :: .sign .comma :: .string term :: ts))
  | not {inner : Filter} {ts : List Token} :
      Tokens inner ts → Tokens (.not inner) (.word .not :: enclosed ts)
  | all {items : List Filter} {ts : List Token} :
      Separated Tokens items ts → Tokens (.all items) (.word .and :: enclosed ts)
  | any {items : List Filter} {ts : List Token} :
      Separated Tokens items ts → Tokens (.any items) (.word .or :: enclosed ts)

/-- A text writes a filter. -/
def Writes (f : Filter) (source : String) : Prop :=
  ∃ ts, Tokens f ts ∧ Renders .filter source.toList ts

/-! ## The filters that can be written -/

/-- The names that the dialect of filters reads as one name. -/
def IsFieldName (name : String) : Prop := (Lexer.ofString .filter name).Yields [.identifier name]

instance : DecidablePred IsFieldName := fun name =>
  inferInstanceAs (Decidable ((Lexer.ofString .filter name).items.map _ = _))

/-- Tells the values that have a literal: the scalars except numbers that are not finite. -/
def isLiteral : Value → Bool
  | .number x => x.isFinite
  | v => !v.isComposite

/-- A filter whose fields are names, whose groups are not empty and whose operands have literals;
the operator for lists alone has a list. -/
inductive Writable : Filter → Prop where
  | compare {field : String} {op : Comparison} {v : Value} :
      IsFieldName field → op ≠ .oneOf → isLiteral v = true → Writable (.compare field op v)
  | oneOf {field : String} {vs : List Value} :
      IsFieldName field → vs ≠ [] → (∀ v ∈ vs, isLiteral v = true) →
      Writable (.compare field .oneOf (.array vs))
  | search {field : String} {kind : SearchKind} {term : String} {language : Option String} :
      IsFieldName field → Writable (.search field kind term language)
  | not {inner : Filter} :
      Writable inner → Writable (.not inner)
  | all {items : List Filter} :
      items ≠ [] → (∀ item ∈ items, Writable item) → Writable (.all items)
  | any {items : List Filter} :
      items ≠ [] → (∀ item ∈ items, Writable item) → Writable (.any items)

/-! ## The tokens of writable filters -/

variable {op : Comparison} {kind : SearchKind} {v : Value} {name word : String} {t : Token}
  {ts us : List Token} {f : Filter} {language : Option String}

theorem anyCase_self : AnyCase name name := by
  unfold AnyCase
  induction name.toList with
  | nil => exact .nil
  | cons c rest ih => exact .cons (.inl rfl) ih

theorem exists_operatorToken (op : Comparison) : ∃ t, OperatorToken op t := by
  have hword {name : String} (hmem : (name, op) ∈ Comparison.words) : ∃ t, OperatorToken op t :=
    ⟨_, .word hmem anyCase_self⟩
  cases op with
  | equal => exact ⟨_, .equal⟩
  | notEqual => exact ⟨_, .notEqual⟩
  | less => exact ⟨_, .less⟩
  | lessEqual => exact ⟨_, .lessEqual⟩
  | greater => exact ⟨_, .greater⟩
  | greaterEqual => exact ⟨_, .greaterEqual⟩
  | like => exact @hword "LIKE" (by decide)
  | likeAnyCase => exact @hword "ILIKE" (by decide)
  | is => exact @hword "IS" (by decide)
  | oneOf => exact @hword "IN" (by decide)

theorem exists_searchToken (kind : SearchKind) : ∃ t, SearchToken kind t := by
  have hword {name : String} (hmem : (name, kind) ∈ SearchKind.words) : ∃ t, SearchToken kind t :=
    ⟨_, .word hmem anyCase_self⟩
  cases kind with
  | query => exact @hword "FTS" (by decide)
  | plain => exact @hword "PLFTS" (by decide)
  | phrase => exact @hword "PHFTS" (by decide)
  | web => exact @hword "WFTS" (by decide)

theorem exists_literalTokens (h : isLiteral v = true) : ∃ ts, LiteralTokens v ts := by
  cases v with
  | null => exact ⟨_, .null⟩
  | boolean b => exact ⟨_, .boolean b⟩
  | number x =>
      cases x with
      | nan => cases h
      | infinite negative => cases h
      | finite negative units hunits =>
          cases negative with
          | false => exact ⟨_, .number hunits⟩
          | true => exact ⟨_, .negative hunits⟩
  | string s => exact ⟨_, .string s⟩
  | array => cases h
  | object => cases h

theorem exists_languageTokens (language : Option String) : ∃ ts, LanguageTokens language ts := by
  cases language with
  | none => exact ⟨_, .none⟩
  | some language => exact ⟨_, .some language⟩

theorem exists_separated {α : Type} {R : α → List Token → Prop} {parts : List α}
    (hparts : parts ≠ []) (h : ∀ a ∈ parts, ∃ ts, R a ts) : ∃ ts, Separated R parts ts := by
  induction parts with
  | nil => exact absurd rfl hparts
  | cons a rest ih =>
      obtain ⟨⟨ts, hts⟩, hmore⟩ := List.forall_mem_cons.mp h
      cases rest with
      | nil => exact ⟨ts, .last hts⟩
      | cons b rest =>
          obtain ⟨us, hus⟩ := ih (List.cons_ne_nil _ _) hmore
          exact ⟨_, .more hts hus⟩

theorem exists_tokens (h : Writable f) : ∃ ts, Tokens f ts := by
  induction h with
  | @compare field op v hfield hop hv =>
      obtain ⟨t, ht⟩ := exists_operatorToken op
      obtain ⟨ts, hts⟩ := exists_literalTokens hv
      exact ⟨_, .compare hop ht hts⟩
  | oneOf hfield hvs hliterals =>
      obtain ⟨t, ht⟩ := exists_operatorToken .oneOf
      obtain ⟨ts, hts⟩ := exists_separated hvs fun v hv => exists_literalTokens (hliterals v hv)
      exact ⟨_, .oneOf ht hts⟩
  | @search field kind term language hfield =>
      obtain ⟨t, ht⟩ := exists_searchToken kind
      obtain ⟨ts, hts⟩ := exists_languageTokens language
      exact ⟨_, .search ht hts⟩
  | not _ ih =>
      obtain ⟨ts, hts⟩ := ih
      exact ⟨_, .not hts⟩
  | all hitems _ ih =>
      obtain ⟨ts, hts⟩ := exists_separated hitems ih
      exact ⟨_, .all hts⟩
  | any hitems _ ih =>
      obtain ⟨ts, hts⟩ := exists_separated hitems ih
      exact ⟨_, .any hts⟩

/-! ## The spellings of the tokens -/

open Token (spells_boolean spells_identifier spells_number spells_string spells_word isWord_and
  isWord_or)

/-- The words that have the letters of a name in either case. -/
def variants : List Char → List (List Char)
  | [] => [[]]
  | c :: rest => (variants rest).flatMap fun word => [c :: word, c.toLower :: word]

theorem mem_variants_of_anyCase (h : AnyCase name word) : word.toList ∈ variants name.toList := by
  unfold AnyCase at h
  generalize name.toList = letters, word.toList = chars at h ⊢
  induction h with
  | nil => exact List.mem_singleton.mpr rfl
  | @cons a c name word hc _ ih =>
      refine List.mem_flatMap.mpr ⟨word, ih, ?_⟩
      rcases hc with rfl | rfl
      · exact List.mem_cons_self
      · exact List.mem_cons_of_mem _ List.mem_cons_self

variable {α : Type} [DecidableEq α] {words : List (String × α)} {meaning : α}

/-- Tells the tables whose words are names and have their meaning in every case. -/
def isCaseless (words : List (String × α)) : Bool :=
  words.all fun (name, meaning) => (variants name.toList).all fun word =>
    Source.isPlainKey word && decide (Parse.wordMeaning? words (String.ofList word) = some meaning)

theorem isCaseless_comparisons : isCaseless Comparison.words = true := by
  decide +kernel

theorem isCaseless_searches : isCaseless SearchKind.words = true := by
  decide +kernel

/-- A word of such a table is a name with its meaning in whatever case its letters are. -/
theorem anyCase_of_isCaseless (hwords : isCaseless words = true) (hmem : (name, meaning) ∈ words)
    (h : AnyCase name word) :
    Source.isPlainKey word.toList = true ∧ Parse.wordMeaning? words word = some meaning := by
  have hvariants := List.all_eq_true.mp hwords _ hmem
  have hword := List.all_eq_true.mp hvariants _ (mem_variants_of_anyCase h)
  rw [Bool.and_eq_true, String.ofList_toList, decide_eq_true_eq] at hword
  exact hword

theorem allSpelled_cons (ht : ∃ p, Spells .filter t.spell t p) (hts : AllSpelled .filter ts) :
    AllSpelled .filter (t :: ts) :=
  List.forall_mem_cons.mpr ⟨ht, hts⟩

theorem allSpelled_singleton (ht : ∃ p, Spells .filter t.spell t p) : AllSpelled .filter [t] :=
  List.forall_mem_singleton.mpr ht

theorem allSpelled_append (hts : AllSpelled .filter ts) (hus : AllSpelled .filter us) :
    AllSpelled .filter (ts ++ us) :=
  List.forall_mem_append.mpr ⟨hts, hus⟩

/-- The dialect of filters has all signs. -/
theorem spelled_sign (sign : Sign) : ∃ p, Spells .filter (Token.sign sign).spell (.sign sign) p :=
  ⟨_, .sign (by cases sign <;> rfl)⟩

theorem spelled_string (s : String) : ∃ p, Spells .filter (Token.string s).spell (.string s) p :=
  ⟨_, spells_string rfl s⟩

theorem spelled_word (w : OperatorWord) :
    ∃ p, Spells .filter (Token.word w).spell (.word w) p := by
  cases w with
  | and => exact ⟨_, spells_word isWord_and⟩
  | or => exact ⟨_, spells_word isWord_or⟩
  | not => exact ⟨_, @Spells.word .filter 'N' ['O', 'T'] rfl (List.all_eq_true.mp rfl) nofun⟩

/-- A field is a word that is read as a name. -/
theorem spelled_field (h : IsFieldName name) :
    ∃ p, Spells .filter (Token.identifier name).spell (.identifier name) p := by
  cases Lexer.yields_iff_words.mp h with
  | cons hfront ht _ =>
      obtain ⟨p, hspells, -⟩ := hfront.exists_spells ht
      have hname := hspells.eq_of_identifier
      rw [hname] at hspells
      exact ⟨p, hspells⟩

theorem spelled_operatorToken (h : OperatorToken op t) : ∃ p, Spells .filter t.spell t p := by
  cases h with
  | word hmem hword =>
      exact ⟨_, spells_identifier (anyCase_of_isCaseless isCaseless_comparisons hmem hword).1⟩
  | _ => exact spelled_sign _

theorem spelled_searchToken (h : SearchToken kind t) : ∃ p, Spells .filter t.spell t p := by
  cases h with
  | word hmem hword =>
      exact ⟨_, spells_identifier (anyCase_of_isCaseless isCaseless_searches hmem hword).1⟩

theorem allSpelled_literalTokens (h : LiteralTokens v ts) : AllSpelled .filter ts := by
  cases h with
  | null => exact allSpelled_singleton ⟨_, spells_word isWord_null⟩
  | boolean b => exact allSpelled_singleton (spells_boolean b)
  | string s => exact allSpelled_singleton (spelled_string s)
  | number h => exact allSpelled_singleton (spells_number h)
  | negative h => exact allSpelled_cons (spelled_sign _) (allSpelled_singleton (spells_number h))

theorem allSpelled_languageTokens (h : LanguageTokens language ts) : AllSpelled .filter ts := by
  cases h with
  | none => exact List.forall_mem_nil _
  | some language =>
      exact allSpelled_cons (spelled_sign _) (allSpelled_singleton (spelled_string _))

theorem allSpelled_separated {α : Type} {R : α → List Token → Prop} {parts : List α}
    (h : Separated R parts ts) (hparts : ∀ a ∈ parts, ∀ ts, R a ts → AllSpelled .filter ts) :
    AllSpelled .filter ts := by
  induction h with
  | last hts => exact hparts _ List.mem_cons_self _ hts
  | more hts _ ih =>
      obtain ⟨hfirst, hmore⟩ := List.forall_mem_cons.mp hparts
      exact allSpelled_append (hfirst _ hts) (allSpelled_cons (spelled_sign _) (ih hmore))

theorem allSpelled_enclosed (h : AllSpelled .filter ts) : AllSpelled .filter (enclosed ts) :=
  allSpelled_cons (spelled_sign _) (allSpelled_append h (allSpelled_singleton (spelled_sign _)))

/-- The tokens of a filter that can be written have spellings. -/
theorem allSpelled_tokens (hf : Writable f) (h : Tokens f ts) : AllSpelled .filter ts := by
  induction hf generalizing ts with
  | compare hfield hop _ =>
      have hspelled := spelled_field hfield
      cases h with
      | compare _ ht hv =>
          exact allSpelled_cons hspelled
            (allSpelled_cons (spelled_operatorToken ht) (allSpelled_literalTokens hv))
      | oneOf => exact absurd rfl hop
  | oneOf hfield _ _ =>
      cases h with
      | compare hop => exact absurd rfl hop
      | oneOf ht hvs =>
          have hinner := allSpelled_separated hvs fun _ _ _ => allSpelled_literalTokens
          exact allSpelled_cons (spelled_field hfield)
            (allSpelled_cons (spelled_operatorToken ht) (allSpelled_enclosed hinner))
  | @search _ _ term _ hfield =>
      cases h with
      | search ht hlanguage =>
          have hterm := allSpelled_cons (spelled_string term) (allSpelled_languageTokens hlanguage)
          have hinner := allSpelled_cons (spelled_field hfield)
            (allSpelled_cons (spelled_sign .comma) hterm)
          exact allSpelled_cons (spelled_searchToken ht) (allSpelled_enclosed hinner)
  | not _ ih =>
      cases h with
      | not hts => exact allSpelled_cons (spelled_word .not) (allSpelled_enclosed (ih hts))
  | all _ _ ih =>
      cases h with
      | all hts =>
          have hinner := allSpelled_separated hts fun item hitem _ => ih item hitem
          exact allSpelled_cons (spelled_word .and) (allSpelled_enclosed hinner)
  | any _ _ ih =>
      cases h with
      | any hts =>
          have hinner := allSpelled_separated hts fun item hitem _ => ih item hitem
          exact allSpelled_cons (spelled_word .or) (allSpelled_enclosed hinner)

theorem writes_spellAll (hf : Writable f) (h : Tokens f ts) :
    Writes f (String.ofList (Token.spellAll ts)) := by
  refine ⟨ts, h, ?_⟩
  rw [String.toList_ofList]
  exact renders_spellAll (allSpelled_tokens hf h)

end Filter
end Guest
