import Guest.Filter.Parser
import Guest.Proofs.Parser.Names

/-!
# The filters that are parsed

The names of fields come from the lexer, operands are scalars, and only the operator for lists has a
list, which is not empty.  No group is empty.
-/

namespace Guest

/-- The filters that the parser gives. -/
inductive Filter.Proper : Filter → Prop where
  | compare {field : String} {op : Comparison} {v : Value} :
      Dialect.filter.Reads field → op ≠ .oneOf → v.isComposite = false →
      Proper (.compare field op v)
  | oneOf {field : String} {items : List Value} :
      Dialect.filter.Reads field → items ≠ [] → (∀ v ∈ items, v.isComposite = false) →
      Proper (.compare field .oneOf (.array items))
  | search {field : String} {kind : SearchKind} {term : String} {language : Option String} :
      Dialect.filter.Reads field → Proper (.search field kind term language)
  | not {inner : Filter} :
      Proper inner → Proper (.not inner)
  | all {items : List Filter} :
      items ≠ [] → (∀ item ∈ items, Proper item) → Proper (.all items)
  | any {items : List Filter} :
      items ≠ [] → (∀ item ∈ items, Proper item) → Proper (.any items)

namespace Parse

open Guest.Parser

variable {d : Dialect}

theorem meets_nameFor {expected : Expected} : Meets d (nameFor expected) d.Reads := by
  unfold nameFor
  apply meets_peek.bind
  intro t ht
  split
  · next name =>
      apply meets_advance.bind
      intro _ _
      exact meets_pure (ht name rfl)
  · exact meets_unexpected

/-! ## Operands -/

theorem isComposite_of_operandOf? {negative : Bool} {t : Token} {v : Value}
    (h : operandOf? negative t = some v) : v.isComposite = false := by
  unfold operandOf? at h
  repeat' split at h
  all_goals
    cases h
    try rfl

theorem meets_operand : Meets d operand fun v => v.isComposite = false := by
  unfold operand
  apply meets_accept.bind
  intro negative _
  apply meets_peek.bind
  intro t _
  split
  · next v hv =>
      apply meets_advance.bind
      intro _ _
      exact meets_pure (isComposite_of_operandOf? hv)
  · exact meets_unexpected

theorem meets_operandsIn (depth : Nat) :
    Meets d (operandsIn depth) fun vs => vs ≠ [] ∧ ∀ v ∈ vs, v.isComposite = false := by
  induction depth with
  | zero => exact meets_unexpected
  | succ depth ih =>
      unfold operandsIn
      apply meets_operand.bind
      intro first hfirst
      apply meets_accept.bind
      intro found _
      split
      · apply ih.bind
        intro rest hrest
        exact meets_pure ⟨List.cons_ne_nil _ _, List.forall_mem_cons.mpr ⟨hfirst, hrest.2⟩⟩
      · exact meets_pure ⟨List.cons_ne_nil _ _, List.forall_mem_singleton.mpr hfirst⟩

theorem gives_operands {p q : Parser} {vs : List Value} :
    Gives operands p vs q ↔ Gives (operandsIn p.depth) p vs q := by
  unfold Gives operands
  exact Iff.rfl

theorem meets_operands : Meets d operands fun vs => vs ≠ [] ∧ ∀ v ∈ vs, v.isComposite = false :=
  fun p _ _ hp h => meets_operandsIn p.depth hp (gives_operands.mp h)

/-! ## Conditions -/

theorem meets_comparison : Meets d comparison fun _ => True := by
  unfold comparison
  apply meets_peek.bind
  intro t _
  split
  · apply meets_advance.bind
    intro _ _
    exact meets_pure trivial
  · exact meets_unexpected

theorem meets_comparisonOf {field : String} (hfield : Dialect.filter.Reads field) :
    Meets .filter (comparisonOf field) Filter.Proper := by
  unfold comparisonOf
  apply meets_comparison.bind
  intro op _
  split
  · next hop =>
      apply meets_expect_sign.bind
      intro _ _
      apply meets_operands.bind
      intro items hitems
      apply meets_expect_sign.bind
      intro _ _
      rw [hop]
      exact meets_pure (.oneOf hfield hitems.1 hitems.2)
  · next hop =>
      apply meets_operand.bind
      intro v hv
      exact meets_pure (.compare hfield hop hv)

theorem meets_searchOf {kind : SearchKind} : Meets .filter (searchOf kind) Filter.Proper := by
  unfold searchOf
  apply meets_expect_sign.bind
  intro _ _
  apply meets_nameFor.bind
  intro field hfield
  apply meets_expect_sign.bind
  intro _ _
  apply meets_operand.bind
  intro term _
  have hlanguage : Meets .filter
      (do if ← accept .comma then return some (← operand).text else return none)
      fun _ => True := by
    apply meets_accept.bind
    intro found _
    split
    · apply meets_operand.bind
      intro v _
      exact meets_pure trivial
    · exact meets_pure trivial
  apply hlanguage.bind
  intro language _
  apply meets_expect_sign.bind
  intro _ _
  exact meets_pure (.search hfield)

theorem meets_condition : Meets .filter condition Filter.Proper := by
  unfold condition
  apply meets_nameFor.bind
  intro field hfield
  apply meets_peek.bind
  intro t _
  split
  · exact meets_searchOf
  · exact meets_comparisonOf hfield

/-! ## Filters -/

variable {depth : Nat}

/-- The functions of the parser give proper filters as long as their recursion is no deeper than a
bound. -/
structure MeetsFiltersAt (depth : Nat) : Prop where
  filter : Meets .filter (filterIn depth) Filter.Proper
  group : Meets .filter (groupIn depth)
    fun items => items ≠ [] ∧ ∀ item ∈ items, Filter.Proper item
  filters : Meets .filter (filtersIn depth)
    fun items => items ≠ [] ∧ ∀ item ∈ items, Filter.Proper item

theorem meets_filterIn (ih : MeetsFiltersAt depth) :
    Meets .filter (filterIn (depth + 1)) Filter.Proper := by
  rw [filterIn]
  apply meets_peek.bind
  intro t _
  split
  · apply meets_advance.bind
    intro _ _
    apply ih.group.bind
    intro items hitems
    exact meets_pure (.all hitems.1 hitems.2)
  · apply meets_advance.bind
    intro _ _
    apply ih.group.bind
    intro items hitems
    exact meets_pure (.any hitems.1 hitems.2)
  · apply meets_advance.bind
    intro _ _
    apply meets_expect_sign.bind
    intro _ _
    apply ih.filter.bind
    intro inner hinner
    apply meets_expect_sign.bind
    intro _ _
    exact meets_pure (.not hinner)
  · exact meets_condition
  · exact meets_unexpected

theorem meets_groupIn (ih : MeetsFiltersAt depth) : Meets .filter (groupIn (depth + 1))
    fun items => items ≠ [] ∧ ∀ item ∈ items, Filter.Proper item := by
  rw [groupIn]
  apply meets_expect_sign.bind
  intro _ _
  apply ih.filters.bind
  intro items hitems
  apply meets_expect_sign.bind
  intro _ _
  exact meets_pure hitems

theorem meets_filtersIn (ih : MeetsFiltersAt depth) : Meets .filter (filtersIn (depth + 1))
    fun items => items ≠ [] ∧ ∀ item ∈ items, Filter.Proper item := by
  rw [filtersIn]
  apply ih.filter.bind
  intro first hfirst
  apply meets_accept.bind
  intro found _
  split
  · apply ih.filters.bind
    intro rest hrest
    exact meets_pure ⟨List.cons_ne_nil _ _, List.forall_mem_cons.mpr ⟨hfirst, hrest.2⟩⟩
  · exact meets_pure ⟨List.cons_ne_nil _ _, List.forall_mem_singleton.mpr hfirst⟩

theorem meetsFiltersAt (depth : Nat) : MeetsFiltersAt depth := by
  induction depth with
  | zero =>
      exact {
        filter := meets_unexpected
        group := meets_unexpected
        filters := meets_unexpected }
  | succ depth ih =>
      exact {
        filter := meets_filterIn ih
        group := meets_groupIn ih
        filters := meets_filtersIn ih }

theorem gives_filterIn_depth {p q : Parser} {f : Filter} :
    Gives (fun parser => filterIn parser.depth parser) p f q ↔ Gives (filterIn p.depth) p f q := by
  unfold Gives
  exact Iff.rfl

theorem gives_wholeFilter {p r : Parser} {f : Filter} (h : Gives wholeFilter p f r) :
    ∃ q, Gives (filterIn p.depth) p f q := by
  unfold wholeFilter at h
  obtain ⟨f, q, hgives, h⟩ := gives_bind.mp h
  obtain ⟨_, _, -, h⟩ := gives_bind.mp h
  obtain ⟨rfl, -⟩ := gives_pure.mp h
  exact ⟨q, gives_filterIn_depth.mp hgives⟩

end Parse

namespace Filter

open Parse Guest.Parser

theorem proper_of_parse {source : String} {f : Filter} (h : parse source = .ok f) : f.Proper := by
  obtain ⟨p, r, hofLexer, hwhole⟩ := run_eq_ok.mp h
  obtain ⟨q, hgives⟩ := gives_wholeFilter hwhole
  exact ((meetsFiltersAt p.depth).filter (names_of_ofLexer hofLexer) hgives).1

end Filter
end Guest
