import Guest.Proofs.Expr.Exactness
import Guest.Proofs.Filter.Results
import Guest.Proofs.Filter.Surface

/-!
# Filters are read back

The parser reads the tokens of a filter as the filter: what a word means depends on where it stands
and on the token behind it.  A text that writes a filter has its tokens, so every text that writes a
filter is read back as exactly this filter.
-/

namespace Guest

namespace Parse

open Guest.Parser Guest.Filter Grammar

variable {p q : Parser} {depth : Nat} {t : Token} {ts us : List Token} {v : Value}
  {vs : List Value} {name field : String} {op : Comparison} {kind : SearchKind}
  {f : Filter} {items : List Filter}

/-! ## Literals -/

theorem gives_operand_of_operandOf? (ht : operandOf? false t = some v) (hr : Reads p [t] q) :
    Gives operand p v q := by
  obtain ⟨htoken, ha⟩ := reads_singleton.mp hr
  have hminus : p.current.token ≠ .sign .minus := by
    intro hsign
    rw [← htoken, hsign] at ht
    cases ht
  refine (gives_accept_false hminus).bind ?_
  rw [gives_peek_bind, htoken, ht]
  exact ha.bind (gives_pure.mpr ⟨rfl, rfl⟩)

theorem gives_operand (h : LiteralTokens v ts) (hr : Reads p ts q) : Gives operand p v q := by
  cases h with
  | null => exact gives_operand_of_operandOf? rfl hr
  | boolean b => exact gives_operand_of_operandOf? rfl hr
  | string s => exact gives_operand_of_operandOf? rfl hr
  | number h => exact gives_operand_of_operandOf? rfl hr
  | negative h =>
      obtain ⟨hminus, r, ha, hr⟩ := reads_cons.mp hr
      obtain ⟨ht, ha'⟩ := reads_singleton.mp hr
      refine (gives_accept_true (reads_singleton.mpr ⟨hminus, ha⟩)).bind ?_
      rw [gives_peek_bind, ht]
      exact ha'.bind (gives_pure.mpr ⟨rfl, rfl⟩)

theorem length_pos_of_literalTokens (h : LiteralTokens v ts) : 0 < ts.length := by
  cases h <;> exact Nat.zero_lt_succ _

theorem gives_operandsIn (h : Separated LiteralTokens vs ts) (hr : Reads p ts q)
    (hq : q.current.token ≠ .sign .comma) (hdepth : ts.length ≤ depth) :
    Gives (operandsIn depth) p vs q := by
  induction h generalizing p depth with
  | last hv =>
      have hpos := length_pos_of_literalTokens hv
      obtain ⟨depth, rfl⟩ := Nat.exists_eq_succ_of_ne_zero (show depth ≠ 0 by omega)
      rw [operandsIn]
      refine (gives_operand hv hr).bind ?_
      exact (gives_accept_false hq).bind (gives_pure.mpr ⟨rfl, rfl⟩)
  | more hv hvs ih =>
      simp only [List.length_append, List.length_cons] at hdepth
      obtain ⟨depth, rfl⟩ := Nat.exists_eq_succ_of_ne_zero (show depth ≠ 0 by omega)
      obtain ⟨p₁, h₁, hr⟩ := reads_append.mp hr
      obtain ⟨hcomma, p₂, ha, h₂⟩ := reads_cons.mp hr
      rw [operandsIn]
      refine (gives_operand hv h₁).bind ?_
      refine (gives_accept_true (reads_singleton.mpr ⟨hcomma, ha⟩)).bind ?_
      exact (ih h₂ (by omega)).bind (gives_pure.mpr ⟨rfl, rfl⟩)

/-- What stands in parentheses is read between them. -/
theorem reads_enclosed (hr : Reads p (enclosed ts) q) :
    ∃ p₁ p₂, Reads p [.sign .leftParen] p₁ ∧ Reads p₁ ts p₂ ∧ Reads p₂ [.sign .rightParen] q := by
  obtain ⟨hopen, p₁, ha, hr⟩ := reads_cons.mp hr
  obtain ⟨p₂, h₂, hclose⟩ := reads_append.mp hr
  exact ⟨p₁, p₂, reads_singleton.mpr ⟨hopen, ha⟩, h₂, hclose⟩

theorem ne_comma_of_reads (h : Reads p [.sign .rightParen] q) : p.current.token ≠ .sign .comma := by
  rw [(reads_singleton.mp h).1]
  decide

/-! ## Conditions -/

theorem comparisonOf?_of_operatorToken (h : OperatorToken op t) : comparisonOf? t = some op := by
  cases h with
  | word hmem hword => exact (anyCase_of_isCaseless isCaseless_comparisons hmem hword).2
  | _ => rfl

theorem ne_leftParen_of_operatorToken (h : OperatorToken op t) : t ≠ .sign .leftParen := by
  rintro rfl
  cases h

theorem gives_nameFor {expected : Expected} (hr : Reads p [.identifier name] q) :
    Gives (nameFor expected) p name q := by
  obtain ⟨ht, ha⟩ := reads_singleton.mp hr
  unfold nameFor
  rw [gives_peek_bind, ht]
  exact ha.bind (gives_pure.mpr ⟨rfl, rfl⟩)

theorem gives_comparison (h : OperatorToken op t) (hr : Reads p [t] q) :
    Gives comparison p op q := by
  obtain ⟨ht, ha⟩ := reads_singleton.mp hr
  unfold comparison
  rw [gives_peek_bind, ht, comparisonOf?_of_operatorToken h]
  exact ha.bind (gives_pure.mpr ⟨rfl, rfl⟩)

theorem gives_comparisonOf (hop : op ≠ .oneOf) (ht : OperatorToken op t) (hv : LiteralTokens v ts)
    (hr : Reads p (t :: ts) q) : Gives (comparisonOf field) p (.compare field op v) q := by
  obtain ⟨htoken, r, ha, hr⟩ := reads_cons.mp hr
  unfold comparisonOf
  refine (gives_comparison ht (reads_singleton.mpr ⟨htoken, ha⟩)).bind ?_
  rw [if_neg hop]
  exact (gives_operand hv hr).bind (gives_pure.mpr ⟨rfl, rfl⟩)

theorem gives_comparisonOf_oneOf (ht : OperatorToken .oneOf t) (hvs : Separated LiteralTokens vs ts)
    (hts : Endless ts) (hr : Reads p (t :: enclosed ts) q) :
    Gives (comparisonOf field) p (.compare field .oneOf (.array vs)) q := by
  obtain ⟨htoken, r, ha, hr⟩ := reads_cons.mp hr
  obtain ⟨p₁, p₂, hopen, h₁, hclose⟩ := reads_enclosed hr
  have hdepth : ts.length ≤ p₁.depth := by
    have hlength := left_add_length_le h₁ hts
    have hleft := left_le_depth p₁
    omega
  unfold comparisonOf
  refine (gives_comparison ht (reads_singleton.mpr ⟨htoken, ha⟩)).bind ?_
  rw [if_pos rfl]
  refine (gives_expect_sign.mpr hopen).bind ?_
  refine (gives_operands.mpr
    (gives_operandsIn hvs h₁ (ne_comma_of_reads hclose) hdepth)).bind ?_
  exact (gives_expect_sign.mpr hclose).bind (gives_pure.mpr ⟨rfl, rfl⟩)

theorem text_string (s : String) : (Value.string s).text = s := String.ofList_toList

/-- The language of a search before the closing parenthesis. -/
theorem gives_language {language : Option String} {r : Parser} (h : LanguageTokens language ts)
    (hr : Reads p ts q) (hclose : Reads q [.sign .rightParen] r) :
    Gives (do if ← accept .comma then return some (← operand).text else return none) p language
      q := by
  cases h with
  | none =>
      obtain rfl := reads_nil.mp hr
      exact (gives_accept_false (ne_comma_of_reads hclose)).bind (gives_pure.mpr ⟨rfl, rfl⟩)
  | some language =>
      obtain ⟨hcomma, p₁, ha, hr⟩ := reads_cons.mp hr
      refine (gives_accept_true (reads_singleton.mpr ⟨hcomma, ha⟩)).bind ?_
      refine (gives_operand (.string language) hr).bind ?_
      rw [text_string]
      exact gives_pure.mpr ⟨rfl, rfl⟩

theorem gives_searchOf {term : String} {language : Option String}
    (hlanguage : LanguageTokens language ts)
    (hr : Reads p (enclosed (.identifier field :: .sign .comma :: .string term :: ts)) q) :
    Gives (searchOf kind) p (.search field kind term language) q := by
  obtain ⟨p₁, p₂, hopen, hr, hclose⟩ := reads_enclosed hr
  obtain ⟨hfield, p₃, ha, hr⟩ := reads_cons.mp hr
  obtain ⟨hcomma, p₄, ha', hr⟩ := reads_cons.mp hr
  obtain ⟨hterm, p₅, ha'', hr⟩ := reads_cons.mp hr
  unfold searchOf
  refine (gives_expect_sign.mpr hopen).bind ?_
  refine (gives_nameFor (reads_singleton.mpr ⟨hfield, ha⟩)).bind ?_
  refine (gives_expect_sign.mpr (reads_singleton.mpr ⟨hcomma, ha'⟩)).bind ?_
  refine (gives_operand (.string term) (reads_singleton.mpr ⟨hterm, ha''⟩)).bind ?_
  refine (gives_language hlanguage hr hclose).bind ?_
  refine (gives_expect_sign.mpr hclose).bind ?_
  rw [text_string]
  exact gives_pure.mpr ⟨rfl, rfl⟩

/-- A name before an operator is a field, whatever else it may mean. -/
theorem gives_condition_field (ht : OperatorToken op t)
    (hr : Reads p (.identifier field :: t :: ts) q)
    (h : ∀ r, Reads r (t :: ts) q → Gives (comparisonOf field) r f q) : Gives condition p f q := by
  obtain ⟨hfield, r, ha, hr⟩ := reads_cons.mp hr
  have hsame : r.current.token.sameKind (.sign .leftParen) = false := by
    rw [(reads_cons.mp hr).1]
    exact Bool.eq_false_of_not_eq_true fun hsame =>
      ne_leftParen_of_operatorToken ht (Token.sameKind_sign.mp hsame)
  unfold condition
  refine (gives_nameFor (reads_singleton.mpr ⟨hfield, ha⟩)).bind ?_
  rw [gives_peek_bind, hsame]
  cases wordMeaning? SearchKind.words field with
  | none => exact h r hr
  | some kind => exact h r hr

/-- The name of a search before a parenthesis is no field. -/
theorem gives_condition_search (ht : SearchToken kind t) (hr : Reads p (t :: enclosed ts) q)
    (h : ∀ r, Reads r (enclosed ts) q → Gives (searchOf kind) r f q) : Gives condition p f q := by
  cases ht with
  | word hmem hname =>
      obtain ⟨hword, r, ha, hr⟩ := reads_cons.mp hr
      have hparen : r.current.token = .sign .leftParen := (reads_cons.mp hr).1
      unfold condition
      refine (gives_nameFor (reads_singleton.mpr ⟨hword, ha⟩)).bind ?_
      rw [gives_peek_bind, hparen, (anyCase_of_isCaseless isCaseless_searches hmem hname).2]
      exact h r hr

/-! ## Filters -/

theorem endless_enclosed : Endless (enclosed ts) ↔ Endless ts := by
  simp [enclosed, endless_append, endless_sign_cons, endless_nil]

/-- The filters and groups of a depth are read from their tokens.  A group costs three calls: its
parentheses, its items and the first of them; so three for each token are enough. -/
structure ReadsFilters (depth : Nat) : Prop where
  filter : ∀ {p q : Parser} {f : Filter} {ts : List Token}, Tokens f ts → Endless ts →
    Reads p ts q → 3 * ts.length ≤ depth → Gives (filterIn depth) p f q
  group : ∀ {p q : Parser} {items : List Filter} {ts : List Token}, Separated Tokens items ts →
    Endless ts → Reads p (enclosed ts) q → 3 * ts.length + 2 ≤ depth →
    Gives (groupIn depth) p items q
  filters : ∀ {p q : Parser} {items : List Filter} {ts : List Token}, Separated Tokens items ts →
    Endless ts → Reads p ts q → q.current.token ≠ .sign .comma → 3 * ts.length + 1 ≤ depth →
    Gives (filtersIn depth) p items q

theorem length_pos_of_tokens (h : Tokens f ts) : 0 < ts.length := by
  cases h <;> exact Nat.zero_lt_succ _

/-- A group behind its word. -/
theorem gives_group {make : List Filter → Filter} (ih : ReadsFilters depth)
    (h : Separated Tokens items ts) (hts : Endless (t :: enclosed ts))
    (hr : Reads p (t :: enclosed ts) q) (hdepth : 3 * (t :: enclosed ts).length ≤ depth + 1) :
    Gives (do advance; return make (← groupIn depth)) p (make items) q := by
  obtain ⟨-, r, ha, hr⟩ := reads_cons.mp hr
  have hends := endless_enclosed.mp (endless_cons.mp hts).2
  simp only [enclosed, List.length_cons, List.length_append] at hdepth
  exact ha.bind ((ih.group h hends hr (by omega)).bind (gives_pure.mpr ⟨rfl, rfl⟩))

theorem gives_filterIn (ih : ReadsFilters depth) (h : Tokens f ts) (hts : Endless ts)
    (hr : Reads p ts q) (hdepth : 3 * ts.length ≤ depth + 1) :
    Gives (filterIn (depth + 1)) p f q := by
  rw [filterIn, gives_peek_bind]
  cases h with
  | compare hop ht hv =>
      rw [(reads_cons.mp hr).1]
      exact gives_condition_field ht hr fun r hr => gives_comparisonOf hop ht hv hr
  | oneOf ht hvs =>
      have hends := endless_enclosed.mp (endless_cons.mp (endless_cons.mp hts).2).2
      rw [(reads_cons.mp hr).1]
      exact gives_condition_field ht hr fun r hr => gives_comparisonOf_oneOf ht hvs hends hr
  | search ht hlanguage =>
      have hcondition := gives_condition_search ht hr fun r hr => gives_searchOf hlanguage hr
      cases ht with
      | word =>
          rw [(reads_cons.mp hr).1]
          exact hcondition
  | not hinner =>
      obtain ⟨hnot, r, ha, hr⟩ := reads_cons.mp hr
      obtain ⟨p₁, p₂, hopen, h₁, hclose⟩ := reads_enclosed hr
      have hends := endless_enclosed.mp (endless_cons.mp hts).2
      simp only [enclosed, List.length_cons, List.length_append] at hdepth
      rw [hnot]
      refine ha.bind ((gives_expect_sign.mpr hopen).bind ?_)
      refine (ih.filter hinner hends h₁ (by omega)).bind ?_
      exact (gives_expect_sign.mpr hclose).bind (gives_pure.mpr ⟨rfl, rfl⟩)
  | all hitems =>
      rw [(reads_cons.mp hr).1]
      exact gives_group ih hitems hts hr hdepth
  | any hitems =>
      rw [(reads_cons.mp hr).1]
      exact gives_group ih hitems hts hr hdepth

theorem gives_groupIn (ih : ReadsFilters depth) (h : Separated Tokens items ts) (hts : Endless ts)
    (hr : Reads p (enclosed ts) q) (hdepth : 3 * ts.length + 2 ≤ depth + 1) :
    Gives (groupIn (depth + 1)) p items q := by
  obtain ⟨p₁, p₂, hopen, h₁, hclose⟩ := reads_enclosed hr
  rw [groupIn]
  refine (gives_expect_sign.mpr hopen).bind ?_
  refine (ih.filters h hts h₁ (ne_comma_of_reads hclose) (by omega)).bind ?_
  exact (gives_expect_sign.mpr hclose).bind (gives_pure.mpr ⟨rfl, rfl⟩)

theorem gives_filtersIn (ih : ReadsFilters depth) (h : Separated Tokens items ts)
    (hts : Endless ts) (hr : Reads p ts q) (hq : q.current.token ≠ .sign .comma)
    (hdepth : 3 * ts.length + 1 ≤ depth + 1) : Gives (filtersIn (depth + 1)) p items q := by
  rw [filtersIn]
  cases h with
  | last hitem =>
      refine (ih.filter hitem hts hr (by omega)).bind ?_
      exact (gives_accept_false hq).bind (gives_pure.mpr ⟨rfl, rfl⟩)
  | more hitem hrest =>
      obtain ⟨p₁, h₁, hr⟩ := reads_append.mp hr
      obtain ⟨hcomma, p₂, ha, h₂⟩ := reads_cons.mp hr
      obtain ⟨hfirst, hmore⟩ := endless_append.mp hts
      have hends := endless_sign_cons.mp hmore
      simp only [List.length_append, List.length_cons] at hdepth
      refine (ih.filter hitem hfirst h₁ (by omega)).bind ?_
      refine (gives_accept_true (reads_singleton.mpr ⟨hcomma, ha⟩)).bind ?_
      exact (ih.filters hrest hends h₂ hq (by omega)).bind (gives_pure.mpr ⟨rfl, rfl⟩)

theorem readsFilters (depth : Nat) : ReadsFilters depth := by
  induction depth with
  | zero =>
      exact {
        filter := fun h _ _ hdepth => by
          have hpos := length_pos_of_tokens h
          omega
        group := fun _ _ _ hdepth => absurd hdepth (by omega)
        filters := fun _ _ _ _ hdepth => absurd hdepth (by omega) }
  | succ depth ih =>
      exact {
        filter := gives_filterIn ih
        group := gives_groupIn ih
        filters := gives_filtersIn ih }

theorem gives_wholeFilter_of_tokens {r : Parser} (h : Tokens f ts) (hts : Endless ts)
    (hr : Reads p ts q) (hend : Reads q [.endOfText] r) : Gives wholeFilter p f r := by
  have hdepth : 3 * ts.length ≤ p.depth := by
    have hlength := left_add_length_le hr hts
    have hleft := left_le_depth p
    omega
  unfold wholeFilter
  refine (gives_filterIn_depth.mpr ((readsFilters p.depth).filter h hts hr hdepth)).bind ?_
  exact (gives_expect_endOfText.mpr hend).bind (gives_pure.mpr ⟨rfl, rfl⟩)

end Parse

namespace Filter

open Parse Guest.Parser

theorem parse_of_writes {f : Filter} {source : String} (h : Writes f source) :
    parse source = .ok f := by
  obtain ⟨ts, htokens, hrenders⟩ := h
  have hts : Endless ts := hrenders.endOfText_not_mem
  obtain ⟨p, q, hp, hr, hq⟩ := (yields_iff hts).mp (Lexer.yields_renders hrenders)
  obtain ⟨r, hend⟩ := reads_endOfText (aligned_of_reads hr (aligned_of_ofLexer hp)) hq
  exact run_eq_ok.mpr ⟨p, r, hp, gives_wholeFilter_of_tokens htokens hts hr hend⟩

/-- Parsing inverts writing.  Every text that writes a filter is read as this filter.  A filter of
names, literals and groups that are not empty has tokens; and the spellings of its tokens, in
whatever case the words of operators and searches are, write it. -/
theorem parse_writes :
    (∀ f source, Writes f source → parse source = .ok f) ∧
      ∀ f, Writable f → (∃ ts, Tokens f ts) ∧
        ∀ ts, Tokens f ts → Writes f (String.ofList (Token.spellAll ts)) := by
  refine ⟨fun f source h => parse_of_writes h, fun f hf => ⟨exists_tokens hf, fun ts hts => ?_⟩⟩
  exact writes_spellAll hf hts

/-- Fields with the name of a search and with the start of a negation, a search on a field with the
name of an operator, and a zero with a sign. -/
theorem parse_writes_searches :
    let f : Filter := .all [
      .compare "FTS" .oneOf (.array [.number Number.negZero, .string "it's"]),
      .not (.search "like" .phrase "a" (some "b")),
      .compare "NOTE" .likeAnyCase .null]
    let source :=
      "AND ( FTS iN ( - 0 , 'it\\'s' ) , NOT ( phFTs ( like , 'a' , 'b' ) ) , NOTE ilike null )"
    Writable f ∧ Writes f source ∧ parse source = .ok f := by
  intro f source
  have hfts : IsFieldName "FTS" := by decide +kernel
  have hlike : IsFieldName "like" := by decide +kernel
  have hnote : IsFieldName "NOTE" := by decide +kernel
  have hliterals : ∀ v ∈ [.number Number.negZero, .string "it's"], isLiteral v = true :=
    List.all_eq_true.mp rfl
  have hf : Writable f := by
    refine .all (List.cons_ne_nil _ _) ?_
    intro item hitem
    simp only [List.mem_cons, List.not_mem_nil, or_false] at hitem
    rcases hitem with rfl | rfl | rfl
    · exact .oneOf hfts (List.cons_ne_nil _ _) hliterals
    · exact .not (.search hlike)
    · exact .compare hnote nofun rfl
  have hin : AnyCase "IN" "iN" := .cons (.inr rfl) (.cons (.inl rfl) .nil)
  have hphfts : AnyCase "PHFTS" "phFTs" := .cons (.inr rfl) (.cons (.inr rfl)
    (.cons (.inl rfl) (.cons (.inl rfl) (.cons (.inr rfl) .nil))))
  have hilike : AnyCase "ILIKE" "ilike" := .cons (.inr rfl) (.cons (.inr rfl)
    (.cons (.inr rfl) (.cons (.inr rfl) (.cons (.inr rfl) .nil))))
  have htokens : Tokens f _ :=
    .all (.more (.oneOf (.word (by decide) hin) (.more (.negative _) (.last (.string _))))
      (.more (.not (.search (.word (by decide) hphfts) (.some "b")))
        (.last (.compare nofun (.word (by decide) hilike) .null))))
  have hsource : Writes f source := by
    refine (congrArg (Writes f) ?_).mp ((parse_writes.2 f hf).2 _ htokens)
    decide +kernel
  exact ⟨hf, hsource, parse_writes.1 f source hsource⟩

end Filter
end Guest
