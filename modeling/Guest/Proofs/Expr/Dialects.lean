import Guest.Proofs.Expr.Exactness
import Guest.Proofs.Expr.Stars
import Guest.Proofs.Token.Writing

/-!
# Dialects extend one another

The dialects differ in their words alone.  A source of the basic dialect is read by the full
language as the same words, unless a name in it is an operator word there or starts with one; the
power sign is no obstacle, since an expression has no two stars in a row.  The full language cuts a
negation off a longer name, and the dialect of filters does not; so a source in which nothing of a
name follows a negation is read alike by both.
-/

namespace Guest

/-- The full language takes a name, or the front of it, for an operator. -/
def Dialect.Captures (name : String) : Prop :=
  name = "AND" ∨ name = "OR" ∨ Text.startsWith ['N', 'O', 'T'] name.toList = true

instance : DecidablePred Dialect.Captures := fun _ => inferInstanceAs (Decidable (_ ∨ _ ∨ _))

/-- The name that a token is. -/
def Token.name? : Token → Option String
  | .identifier name => some name
  | _ => none

namespace Number

variable {d d' : Dialect} {w : List Char} {x : Number}

theorem RadixMark.mono (hrich : d.isRich = true → d'.isRich = true) {mark : Char} {radix : Nat}
    (h : RadixMark d mark radix) : RadixMark d' mark radix := by
  cases h with
  | hexadecimal hmark => exact .hexadecimal hmark
  | binary hmark h => exact .binary hmark (hrich h)

end Number

namespace Lexeme

open Dialect (Captures)
open Grammar (NotBothStars)

variable {d d' : Dialect} {s gap w rest tail : List Char} {t : Token} {ts : List Token}
  {p : Char → Prop} {x : Number}

/-! ## Words that two dialects share -/

/-- A richer dialect knows all number literals. -/
theorem NumberText.mono (hrich : d.isRich = true → d'.isRich = true) (h : NumberText d w x) :
    NumberText d' w x := by
  cases h with
  | decimal htext => exact .decimal htext
  | radix hmark hdigits hnonempty => exact .radix (hmark.mono hrich) hdigits hnonempty

theorem wordToken_basic (name : String) :
    wordToken .basic name = .identifier name ∨ name ∈ ["true", "false", "null"] := by
  by_cases hname : name ∈ ["true", "false", "null"]
  · exact .inr hname
  · simp only [List.mem_cons, List.not_mem_nil, or_false, not_or] at hname
    exact .inl (by simp [wordToken, hname, Dialect.isRich])

theorem wordToken_extended {name : String} (h : ¬Captures name) :
    wordToken .extended name = wordToken .basic name := by
  have hnot : name ≠ "NOT" := by
    rintro rfl
    exact h (.inr (.inr rfl))
  have hand : name ≠ "AND" := fun heq => h (.inl heq)
  have hor : name ≠ "OR" := fun heq => h (.inr (.inl heq))
  simp [wordToken, hnot, hand, hor, Dialect.isRich]

/-- A word of the basic dialect is one of the full language, if no name is captured there and no
second star follows a star. -/
theorem Spells.extended (h : Spells .basic w t p) (htail : Starts p tail)
    (hnames : ∀ name, t = .identifier name → ¬Captures name)
    (hstar : t = .sign .star → Starts (· ≠ '*') tail) :
    ∃ q, Spells .extended w t q ∧ Starts q tail := by
  cases h with
  | number htext => exact ⟨_, .number (htext.mono (by decide)), htail⟩
  | string hquote htext => exact ⟨_, .string hquote htext, htail⟩
  | negation hd => cases hd
  | @sign sign hknown =>
      refine ⟨_, .sign ?_, ?_⟩
      · cases sign <;> first | rfl | cases hknown
      · intro c hc
        have hplain := htail c hc
        cases sign
        case star => simp [Sign.grows, hstar rfl c hc]
        all_goals exact hplain
  | @word c more hstart hpart =>
      have hfree : ¬Captures (String.ofList (c :: more)) := by
        rcases wordToken_basic (String.ofList (c :: more)) with hname | hname
        · exact hnames _ hname
        · have hall : ∀ name ∈ ["true", "false", "null"], ¬Captures name := by decide
          exact hall _ hname
      have hnot : Text.startsWith ['N', 'O', 'T'] (c :: more) = false := by
        have hfront := (not_or.mp (not_or.mp hfree).2).2
        rw [String.toList_ofList] at hfront
        exact Bool.eq_false_of_not_eq_true hfront
      rw [← wordToken_extended hfree]
      exact ⟨_, .word hstart hpart fun _ => hnot, htail⟩

/-- A word of the full language is one of the dialect of filters, if no character of a name follows
a negation. -/
theorem Spells.filter (h : Spells .extended w t p) (htail : Starts p tail)
    (hnot : t = .word .not → Starts (fun c => isNamePart c = false) tail) :
    ∃ q, Spells .filter w t q ∧ Starts q tail := by
  cases h with
  | number htext => exact ⟨_, .number (htext.mono (by decide)), htail⟩
  | string hquote htext => exact ⟨_, .string hquote htext, htail⟩
  | negation =>
      have hall : ∀ a ∈ ['N', 'O', 'T'], isNamePart a = true := List.all_eq_true.mp rfl
      exact ⟨_, .word rfl hall nofun, hnot rfl⟩
  | @sign sign hknown =>
      refine ⟨_, .sign ?_, ?_⟩
      · cases sign <;> rfl
      · intro c hc
        have hplain := htail c hc
        cases sign <;> exact hplain
  | word hstart hpart => exact ⟨_, .word hstart hpart nofun, htail⟩

/-- What is spelled in front of a text by another dialect is read there. -/
theorem Front.of_spells (h : Front d s gap w rest t)
    (hspells : ∃ q, Spells d' w t q ∧ Starts q rest) : Front d' s gap w rest t := by
  obtain ⟨q, hword, hrest⟩ := hspells
  exact ⟨h.split, h.blank, h.visible, scan_spells hword hrest⟩

/-! ## Texts that two dialects share -/

/-- A star in front of words is read as the first of them. -/
theorem head_of_star (h : Words .basic ('*' :: s) ts) : ts.head? = some (.sign .star) := by
  have hspells : Spells .basic ['*'] (.sign .star) fun c => Sign.star.grows .basic c = false :=
    @Spells.sign .basic .star rfl
  have hstar : Front .basic ('*' :: s) [] ['*'] s (.sign .star) :=
    front_of_spells (List.forall_mem_nil _) hspells hspells.visible fun c _ => by
      simp [Sign.grows, Dialect.isRich]
  cases h with
  | nil hblank => exact absurd (hblank '*' List.mem_cons_self) (by decide)
  | cons hfront =>
      obtain ⟨-, -, rfl⟩ := hfront.unique hstar
      rfl

theorem Words.extended (h : Words .basic s ts) (hchain : ts.IsChain NotBothStars)
    (hnames : ∀ name, .identifier name ∈ ts → ¬Captures name) : Words .extended s ts := by
  induction h with
  | nil hblank => exact .nil hblank
  | @cons s gap w rest t ts hfront ht hmore ih =>
      obtain ⟨hfirst, hchain'⟩ := List.isChain_cons.mp hchain
      obtain ⟨p, hspells, hrest⟩ := hfront.exists_spells ht
      refine .cons (hfront.of_spells (hspells.extended hrest ?_ ?_)) ht (ih hchain' ?_)
      · rintro name rfl
        exact hnames name List.mem_cons_self
      · rintro rfl c hc rfl
        obtain ⟨after, rfl⟩ := List.head?_eq_some_iff.mp hc
        exact hfirst _ (head_of_star hmore) rfl rfl
      · intro name hname
        exact hnames name (List.mem_cons_of_mem _ hname)

end Lexeme

namespace Lexer

open Lexeme

variable {before s : List Char} {ts : List Token} {items : List (Except LexError Spanned)}

/-- The words of a source of the full language are words of the dialect of filters, if behind no
negation a character of a name follows. -/
theorem Scans.wordsFilter (h : Scans .extended before s items)
    (hts : items.map (Except.map Spanned.token) = ts.map .ok ++ [.ok .endOfText])
    (hnot : ∀ spanned, .ok spanned ∈ items → spanned.token = .word .not →
      Starts (fun c => isNamePart c = false) ((before ++ s).drop spanned.stop.offset)) :
    Words .filter s ts := by
  induction h generalizing ts with
  | @token before s gap w rest t items hfront ht _ ih =>
      have hsource : before ++ s = before ++ gap ++ w ++ rest := by
        rw [hfront.split, List.append_assoc, List.append_assoc]
      cases ts with
      | nil => exact absurd (Except.ok.inj (List.cons.inj hts).1) ht
      | cons t ts =>
          obtain ⟨htoken, hmore⟩ := List.cons.inj hts
          obtain rfl := Except.ok.inj htoken
          obtain ⟨p, hspells, hrest⟩ := hfront.exists_spells ht
          refine .cons (hfront.of_spells (hspells.filter hrest ?_)) ht (ih hmore ?_)
          · intro htoken
            have hbehind := hnot _ List.mem_cons_self htoken
            rwa [hsource, Position.offset_start_advance, List.drop_left] at hbehind
          · intro spanned hmem
            rw [← hsource]
            exact hnot spanned (List.mem_cons_of_mem _ hmem)
  | endOfText hgap =>
      cases ts with
      | nil => exact .nil hgap
      | cons t ts => simp at hts
  | fault =>
      cases ts with
      | nil => cases (List.cons.inj hts).1
      | cons t ts => cases (List.cons.inj hts).1

/-- No name of a source in the basic dialect is captured by the full language. -/
def NamesStay (source : String) : Prop :=
  ∀ item ∈ (ofString .basic source).items, ∀ spanned ∈ item.toOption,
    ∀ name ∈ spanned.token.name?, ¬Dialect.Captures name

instance : DecidablePred NamesStay := fun source =>
  inferInstanceAs (Decidable (∀ item ∈ (ofString .basic source).items, _))

/-- In a source of the full language no character of a name follows a negation. -/
def NegationsEnd (source : String) : Prop :=
  ∀ item ∈ (ofString .extended source).items, ∀ spanned ∈ item.toOption,
    spanned.token = .word .not → ∀ c ∈ source.toList[spanned.stop.offset]?, isNamePart c = false

instance : DecidablePred NegationsEnd := fun source =>
  -- The instance for options is given: one over all characters would do, and never end.
  have (offset : Nat) : Decidable (∀ c ∈ source.toList[offset]?, isNamePart c = false) :=
    Option.decidableForallMem _
  inferInstanceAs (Decidable (∀ item ∈ (ofString .extended source).items, _))

theorem mem_of_yields {lexer : Lexer} {t : Token} (h : lexer.Yields ts) (ht : t ∈ ts) :
    ∃ spanned, .ok spanned ∈ lexer.items ∧ spanned.token = t := by
  have hmem : .ok t ∈ lexer.items.map (Except.map Spanned.token) := by
    rw [h]
    exact List.mem_append_left _ (List.mem_map_of_mem ht)
  obtain ⟨item, hitem, hmap⟩ := List.mem_map.mp hmem
  cases item with
  | error error => cases hmap
  | ok spanned => exact ⟨spanned, hitem, Except.ok.inj hmap⟩

theorem yields_extended {source : String} (h : (ofString .basic source).Yields ts)
    (hchain : ts.IsChain Grammar.NotBothStars) (hnames : NamesStay source) :
    (ofString .extended source).Yields ts := by
  refine yields_iff_words.mpr ((yields_iff_words.mp h).extended hchain fun name hname => ?_)
  obtain ⟨spanned, hmem, htoken⟩ := mem_of_yields h hname
  exact hnames _ hmem spanned rfl name (by rw [htoken]; rfl)

theorem yields_filter {source : String} (h : (ofString .extended source).Yields ts)
    (hnegations : NegationsEnd source) : (ofString .filter source).Yields ts := by
  refine yields_iff_words.mpr ((scans_items .extended source.toList).wordsFilter h ?_)
  intro spanned hmem htoken c hc
  rw [List.nil_append, List.head?_drop] at hc
  exact hnegations _ hmem spanned rfl htoken c hc

end Lexer

namespace Expr

open Dialect

/-- Each dialect extends the one before it.  What the basic dialect reads is read as the same tree
by the full language, unless a name is captured there; and what the full language reads is read as
the same tree by the dialect of filters, if behind no negation a character of a name follows. -/
theorem dialects_extend (source : String) (e : Expr) :
    (parse .basic source = .ok e → Lexer.NamesStay source → parse .extended source = .ok e) ∧
      (parse .extended source = .ok e → Lexer.NegationsEnd source →
        parse .filter source = .ok e) := by
  constructor
  · intro h hnames
    obtain ⟨ts, hyields, hderives⟩ := exists_derivation_of_parse h
    have hchain := (Grammar.spaced_expression hderives).chain
    exact parse_of_derivation (Lexer.yields_extended hyields hchain hnames) hderives
  · intro h hnegations
    obtain ⟨ts, hyields, hderives⟩ := exists_derivation_of_parse h
    exact parse_of_derivation (Lexer.yields_filter hyields hnegations) hderives

/-- Two stars in a text and a name that starts with an operator word; a power and a negation with a
blank behind it. -/
theorem dialects_extend_stars :
    let basic := "a * 'x**y' + ORDER.b"
    let extended := "NOT !a AND 2 ** b"
    (∃ e, parse .basic basic = .ok e ∧ Lexer.NamesStay basic ∧ parse .extended basic = .ok e) ∧
      ∃ e, parse .extended extended = .ok e ∧ Lexer.NegationsEnd extended ∧
        parse .filter extended = .ok e := by
  intro basic extended
  have hparses {dialect : Dialect} {source : String} (h : (parse dialect source).toBool = true) :
      ∃ e, parse dialect source = .ok e := by
    cases hparse : parse dialect source with
    | error error =>
        rw [hparse] at h
        cases h
    | ok e => exact ⟨e, rfl⟩
  obtain ⟨e, he⟩ := @hparses .basic basic (by decide +kernel)
  obtain ⟨e', he'⟩ := @hparses .extended extended (by decide +kernel)
  have hnames : Lexer.NamesStay basic := by decide +kernel
  have hnegations : Lexer.NegationsEnd extended := by decide +kernel
  exact ⟨⟨e, he, hnames, (dialects_extend basic e).1 he hnames⟩, e', he', hnegations,
    (dialects_extend extended e').2 he' hnegations⟩

end Expr
end Guest
