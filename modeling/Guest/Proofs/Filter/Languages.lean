import Guest.Proofs.Filter.Meaning

/-!
# Languages in query strings

The language of a search stands in parentheses behind the name of the search, as it is.  A query
string tells where a language ends as long as the parenthesis and the point that end it do not occur
in it.  The language of a search that is not in a group needs no such care: what follows it is the
term alone, and no quoted term can be taken for a part of a language.
-/

namespace Guest

namespace Query

/-! ## The end of a language -/

/-- The language does not hold the characters that a language ends with. -/
def Enclosed (language : String) : Prop := ¬[')', '.'] <:+: language.toList

instance (language : String) : Decidable (Enclosed language) :=
  inferInstanceAs (Decidable (¬_))

variable {l l' s s' u x x' : List Char} {t t' : String}

/-- The first place with the characters that end a language is where it ends. -/
theorem enclosed_unique (hl : ¬[')', '.'] <:+: l) (hl' : ¬[')', '.'] <:+: l')
    (h : l ++ ')' :: '.' :: x = l' ++ ')' :: '.' :: x') : l = l' ∧ x = x' := by
  -- A text that starts with a parenthesis and goes on with a point where the other one ends.
  have hends {l x x' : List Char} {c : Char} (hl : ¬[')', '.'] <:+: c :: l) :
      ')' :: '.' :: x ≠ (c :: l) ++ ')' :: '.' :: x' := by
    intro h
    obtain ⟨rfl, hrest⟩ := List.cons.inj h
    cases l with
    | nil => exact absurd (List.cons.inj hrest).1 (by decide)
    | cons d more =>
        obtain ⟨rfl, -⟩ := List.cons.inj hrest
        exact hl (List.prefix_append [')', '.'] more).isInfix
  induction l generalizing l' with
  | nil =>
      cases l' with
      | nil => simpa using h
      | cons c rest' => exact absurd h (hends hl')
  | cons c rest ih =>
      cases l' with
      | nil => exact absurd h.symm (hends hl)
      | cons c' rest' =>
          obtain ⟨rfl, hrest⟩ := List.cons.inj h
          have hinner {rest : List Char} (hl : ¬[')', '.'] <:+: c :: rest) :
              ¬[')', '.'] <:+: rest := fun hrest => hl (List.infix_cons hrest)
          obtain ⟨rfl, rfl⟩ := ih (hinner hl) (hinner hl') hrest
          exact ⟨rfl, rfl⟩

/-- A quote inside of quotes stands behind a backslash. -/
theorem Quoted.ne_point_quote {body : List Char} (h : Quoted s body) :
    s ≠ u ++ '.' :: '"' :: x := by
  have hquote {s body : List Char} (h : Quoted s body) : s ≠ '"' :: x := by
    rintro rfl
    cases h with
    | plain hplain => exact hplain rfl
  induction h generalizing u with
  | nil => exact fun h => absurd h.symm (by simp)
  | plain _ _ hrest ih =>
      intro h
      cases u with
      | nil => exact hquote hrest (List.cons.inj h).2
      | cons c u => exact ih (List.cons.inj h).2
  | escaped hrest ih =>
      intro h
      cases u with
      | nil => exact absurd (List.cons.inj h).1 (by decide)
      | cons c u =>
          have hmore := (List.cons.inj h).2
          cases u with
          | nil => exact hquote hrest (List.cons.inj hmore).2
          | cons d u => exact ih (List.cons.inj hmore).2

/-- A scalar is not the end of another one behind a parenthesis and a point. -/
theorem Scalar.ne_behind (h : Scalar s t) (h' : Scalar s' t') : s ≠ u ++ ')' :: '.' :: s' := by
  intro heq
  cases h with
  | plain _ hplain => exact hplain ')' (by simp [heq]) (by decide)
  | @quoted s _ hbody =>
      cases u with
      | nil => exact absurd (List.cons.inj heq).1 (by decide)
      | cons c u =>
          have hinner := (List.cons.inj heq).2
          cases h' with
          | @quoted s' _ _ =>
              have hsplit : s ++ ['"'] = ((u ++ [')']) ++ '.' :: '"' :: s') ++ ['"'] := by
                simpa using hinner
              exact hbody.ne_point_quote (List.append_cancel_right hsplit)
          | plain hne hplain =>
              have hlast := congrArg List.getLast? hinner
              have hmem : '"' ∈ s' := by
                apply List.mem_of_getLast?
                cases s' with
                | nil => exact absurd rfl hne
                | cons d more => simpa using hlast.symm
              exact hplain '"' hmem (by decide)

/-- In front of a scalar alone, a language ends where it does: the last place that fits. -/
theorem language_unique (h : Scalar s t) (h' : Scalar s' t')
    (heq : l ++ ')' :: '.' :: s = l' ++ ')' :: '.' :: s') : l = l' ∧ s = s' := by
  have hrest {u s s' : List Char} {t t' : String} (h : Scalar s t) (h' : Scalar s' t')
      (heq : ')' :: '.' :: s = u ++ ')' :: '.' :: s') : u = [] ∧ s = s' := by
    match u with
    | [] => simpa using heq
    | [c] => exact absurd (List.cons.inj (List.cons.inj heq).2).1 (by decide)
    | c :: d :: u => exact absurd (List.cons.inj (List.cons.inj heq).2).2 (h.ne_behind h')
  rcases List.append_eq_append_iff.mp heq with ⟨u, rfl, hu⟩ | ⟨u, rfl, hu⟩
  · obtain ⟨rfl, rfl⟩ := hrest h h' hu
    exact ⟨(List.append_nil l).symm, rfl⟩
  · obtain ⟨rfl, rfl⟩ := hrest h' h hu
    exact ⟨List.append_nil l', rfl⟩

/-! ## The grammar of conditions with languages -/

/-- The value that an operand is read as. -/
def Argument.value : Argument → Value
  | text s => .string s
  | list texts => .array (texts.map .string)

/-- What follows the name of an operator in a condition on a field, with the condition it is read
as.  Below the root languages have to be enclosed. -/
inductive Tested (root : Bool) (field : String) : Operator → List Char → Filter → Prop where
  | compare {op : Comparison} {s : List Char} {a : Argument} :
      Operand (.compare op) s a →
      Tested root field (.compare op) ('.' :: s) (.compare field op a.value)
  | search {kind : SearchKind} {s : List Char} {text : String} :
      Scalar s text → Tested root field (.search kind) ('.' :: s) (.search field kind text none)
  | language {kind : SearchKind} {language text : String} {s : List Char} :
      (root = false → Enclosed language) → Scalar s text →
      Tested root field (.search kind) ('(' :: (language.toList ++ ')' :: '.' :: s))
        (.search field kind text (some language))

/-- The character behind a field. -/
def separator (root : Bool) : Char := if root then '=' else '.'

/-- The items of a group behind its connective. -/
def opened (root : Bool) (parts : List (List Char)) : List Char :=
  if root then '=' :: listed parts else listed parts

/-- The group of a connective. -/
def Connective.filter : Connective → List Filter → Filter
  | and => .all
  | or => .any

end Query

/-- A filter below a negation, if there is one. -/
def Filter.negateIf (negated : Bool) (f : Filter) : Filter := if negated then .not f else f

namespace Query

/-- Conditions and groups, with the filters they are read as. -/
inductive Reads : Bool → List Char → Filter → Prop where
  | condition {root negated : Bool} {field s : List Char} {op : Operator} {f : Filter} :
      IsField field → Tested root (String.ofList field) op s f →
      Reads root (field ++ separator root :: (mark negated ++ (op.name ++ s)))
        (.negateIf negated f)
  | group {root negated : Bool} {connective : Connective} {parts : List (List Char × Filter)} :
      parts ≠ [] → (∀ part ∈ parts, Reads false part.1 part.2) →
      Reads root (mark negated ++ (connective.name ++ opened root (parts.map Prod.fst)))
        (.negateIf negated (connective.filter (parts.map Prod.snd)))

/-! ## Query strings with languages have one reading -/

variable {root negated negated' : Bool} {field : String} {op op' : Operator} {f f' : Filter}

theorem Tested.starts (h : Tested root field op s f) :
    ∃ b rest, s = b :: rest ∧ (b = '.' ∨ b = '(') := by
  cases h with
  | compare => exact ⟨'.', _, rfl, .inl rfl⟩
  | search => exact ⟨'.', _, rfl, .inl rfl⟩
  | language => exact ⟨'(', _, rfl, .inr rfl⟩

/-- Conditions with the same operator are told apart by what follows it. -/
theorem Tested.unique_of_op (h : Tested root field op s f) (h' : Tested root field op s' f')
    (hx : Ends x) (hx' : Ends x') (hroot : root = true → x = [] ∧ x' = [])
    (heq : s ++ x = s' ++ x') : s = s' ∧ f = f' ∧ x = x' := by
  cases h with
  | compare hoperand =>
      cases h' with
      | compare hoperand' =>
          obtain ⟨hsame, rfl⟩ := hoperand.unambiguous hoperand' hx hx' (List.cons.inj heq).2
          cases hsame
          exact ⟨rfl, rfl, rfl⟩
  | search hscalar =>
      cases h' with
      | search hscalar' =>
          obtain ⟨hsame, rfl⟩ := hscalar.unambiguous hscalar' hx hx' (List.cons.inj heq).2
          cases hsame
          exact ⟨rfl, rfl, rfl⟩
      | language => exact absurd (List.cons.inj heq).1 (by decide)
  | language henclosed hscalar =>
      cases h' with
      | search => exact absurd (List.cons.inj heq).1 (by decide)
      | language henclosed' hscalar' =>
          simp only [List.cons_append, List.append_assoc, List.cons.injEq, true_and] at heq
          cases root with
          | true =>
              obtain ⟨rfl, rfl⟩ := hroot rfl
              rw [List.append_nil, List.append_nil] at heq
              obtain ⟨hsame, rfl⟩ := language_unique hscalar hscalar' heq
              obtain rfl := String.toList_inj.mp hsame
              obtain ⟨htext, -⟩ := hscalar.unambiguous hscalar' hx hx' rfl
              cases htext
              exact ⟨rfl, rfl, rfl⟩
          | false =>
              obtain ⟨hsame, hterms⟩ := enclosed_unique (henclosed rfl) (henclosed' rfl) heq
              obtain rfl := String.toList_inj.mp hsame
              obtain ⟨htext, rfl⟩ := hscalar.unambiguous hscalar' hx hx' hterms
              cases htext
              exact ⟨rfl, rfl, rfl⟩

theorem mem_separators_of_tested {c : Char} (h : c = '.' ∨ c = '(') : c ∈ separators := by
  rcases h with rfl | rfl <;> decide

theorem Tested.unique (h : Tested root field op s f) (h' : Tested root field op' s' f')
    (hx : Ends x) (hx' : Ends x') (hroot : root = true → x = [] ∧ x' = [])
    (heq : mark negated ++ (op.name ++ s) ++ x = mark negated' ++ (op'.name ++ s') ++ x') :
    negated = negated' ∧ op = op' ∧ s = s' ∧ f = f' ∧ x = x' := by
  obtain ⟨b, rest, hs, hb⟩ := h.starts
  obtain ⟨b', rest', hs', hb'⟩ := h'.starts
  have hsplit : mark negated ++ (op.name ++ b :: (rest ++ x)) =
      mark negated' ++ (op'.name ++ b' :: (rest' ++ x')) := by
    simpa [hs, hs'] using heq
  obtain ⟨rfl, hname, rfl, htails⟩ := mark_unique op.isWord_name op'.isWord_name
    op.name_ne_negation op'.name_ne_negation (mem_separators_of_tested hb)
    (mem_separators_of_tested hb') hsplit
  obtain rfl := Operator.name_injective hname
  have hbehind : s ++ x = s' ++ x' := by rw [hs, hs', List.cons_append, List.cons_append, htails]
  obtain ⟨rfl, rfl, rfl⟩ := h.unique_of_op h' hx hx' hroot hbehind
  exact ⟨rfl, rfl, rfl, rfl, rfl⟩

/-- The first word behind a field is a negation or an operator. -/
theorem Tested.append_ne {w : List Char} {b : Char} (h : Tested root field op s f) (hw : IsWord w)
    (hnegation : w ≠ negation) (hname : op.name ≠ w) (hb : b ∈ separators) :
    mark negated ++ (op.name ++ (s ++ x)) ≠ w ++ b :: x' := by
  obtain ⟨c, rest, rfl, hc⟩ := h.starts
  intro heq
  rw [List.cons_append] at heq
  exact hname (@mark_unique _ _ _ _ _ _ negated false op.isWord_name hw op.name_ne_negation
    hnegation (mem_separators_of_tested hc) hb heq).2.1

theorem Operator.name_ne_nil (op : Operator) : op.name ≠ [] := by
  rcases op with op | kind
  · cases op <;> decide
  · cases kind <;> decide

theorem Operator.name_ne_connective (op : Operator) (connective : Connective) :
    op.name ≠ connective.name := by
  rcases op with op | kind
  · cases op <;> cases connective <;> decide
  · cases kind <;> cases connective <;> decide

section Groups

variable {name : List Char} {connective connective' : Connective}
  {parts parts' : List (List Char × Filter)}

theorem opened_append (root : Bool) (parts : List (List Char)) (x : List Char) :
    ∃ b rest, opened root parts ++ x = b :: rest ∧ b ∈ separators := by
  cases root with
  | true => exact ⟨'=', _, rfl, by decide⟩
  | false => exact ⟨'(', _, rfl, by decide⟩

theorem condition_ne_group (hfield : IsField name) (h : Tested root field op s f) :
    name ++ separator root :: (mark negated ++ (op.name ++ s)) ++ x ≠
      mark negated' ++ (connective.name ++ opened root (parts.map Prod.fst)) ++ x' := by
  intro heq
  simp only [List.append_assoc, List.cons_append] at heq
  have hsplit {b c : Char} {w rest rest' : List Char} (hw : IsWord w) (hb : b ∈ separators)
      (hc : c ∈ separators) (h : name ++ b :: rest = w ++ c :: rest') : b = c ∧ rest = rest' :=
    (isWord_unique hfield.2 hw hb hc h).2
  cases root with
  | true =>
      cases negated' with
      | false =>
          obtain ⟨-, htest⟩ := hsplit connective.isWord_name (by decide) (by decide) heq
          have hempty : IsWord [] := List.forall_mem_nil _
          exact h.append_ne hempty (by decide) op.name_ne_nil (by decide)
            (htest.trans (listed_eq_cons _))
      | true =>
          rw [mark_true, List.append_assoc] at heq
          exact absurd (hsplit isWord_negation (by decide) (by decide) heq).1 (by decide)
  | false =>
      cases negated' with
      | false =>
          have hsame := hsplit connective.isWord_name (by decide) (by decide) heq
          exact absurd hsame.1 (by decide)
      | true =>
          rw [mark_true, List.append_assoc] at heq
          obtain ⟨-, htest⟩ := hsplit isWord_negation (by decide) (by decide) heq
          exact h.append_ne connective.isWord_name connective.name_ne_negation
            (op.name_ne_connective connective) (by decide)
            (htest.trans (congrArg (connective.name ++ ·) (listed_eq_cons _)))

theorem condition_unique_of_tested {name' : List Char} (hfield : IsField name)
    (hfield' : IsField name') (h : Tested root (String.ofList name) op s f)
    (h' : Tested root (String.ofList name') op' s' f') (hx : Ends x) (hx' : Ends x')
    (hroot : root = true → x = [] ∧ x' = [])
    (heq : name ++ separator root :: (mark negated ++ (op.name ++ s)) ++ x =
      name' ++ separator root :: (mark negated' ++ (op'.name ++ s')) ++ x') :
    (name ++ separator root :: (mark negated ++ (op.name ++ s)), Filter.negateIf negated f) =
      (name' ++ separator root :: (mark negated' ++ (op'.name ++ s')), .negateIf negated' f') ∧
    x = x' := by
  have hseparator : separator root ∈ separators := by
    cases root <;> decide
  rw [List.append_assoc, List.append_assoc] at heq
  obtain ⟨rfl, -, htests⟩ := isWord_unique hfield.2 hfield'.2 hseparator hseparator heq
  obtain ⟨rfl, rfl, rfl, rfl, rfl⟩ := h.unique h' hx hx' hroot htests
  exact ⟨rfl, rfl⟩

theorem group_unique (hne : parts ≠ []) (hne' : parts' ≠ [])
    (hparts : ∀ p ∈ parts, ∀ p' ∈ parts', Unambiguous p p')
    (heq : mark negated ++ (connective.name ++ opened root (parts.map Prod.fst)) ++ x =
      mark negated' ++ (connective'.name ++ opened root (parts'.map Prod.fst)) ++ x') :
    negated = negated' ∧ connective = connective' ∧ parts = parts' ∧ x = x' := by
  obtain ⟨b, rest, hopened, hb⟩ := opened_append root (parts.map Prod.fst) x
  obtain ⟨b', rest', hopened', hb'⟩ := opened_append root (parts'.map Prod.fst) x'
  rw [List.append_assoc, List.append_assoc, List.append_assoc, List.append_assoc, hopened,
    hopened'] at heq
  obtain ⟨rfl, hname, rfl, rfl⟩ := mark_unique connective.isWord_name connective'.isWord_name
    connective.name_ne_negation connective'.name_ne_negation hb hb' heq
  obtain rfl := Connective.name_injective hname
  have hlists : listed (parts.map Prod.fst) ++ x = listed (parts'.map Prod.fst) ++ x' := by
    have hsame := hopened.trans hopened'.symm
    cases root with
    | true => exact (List.cons.inj hsame).2
    | false => exact hsame
  obtain ⟨rfl, rfl⟩ := listed_unique hne hne' hparts hlists
  exact ⟨rfl, rfl, rfl, rfl⟩

end Groups

/-- In front of an end, or at the root of everything, a query string has at most one reading. -/
theorem Reads.unique (h : Reads root s f) (h' : Reads root s' f') (hx : Ends x) (hx' : Ends x')
    (hroot : root = true → x = [] ∧ x' = []) (heq : s ++ x = s' ++ x') :
    (s, f) = (s', f') ∧ x = x' := by
  induction h generalizing s' f' x x' with
  | condition hfield htested =>
      cases h' with
      | condition hfield' htested' =>
          exact condition_unique_of_tested hfield hfield' htested htested' hx hx' hroot heq
      | group => exact absurd heq (condition_ne_group hfield htested)
  | group hne _ ih =>
      cases h' with
      | condition hfield' htested' =>
          exact absurd heq.symm (condition_ne_group hfield' htested')
      | group hne' hparts' =>
          obtain ⟨rfl, rfl, rfl, rfl⟩ := group_unique hne hne'
            (fun p hp p' hp' _ _ hx hx' heq =>
              ih p hp (hparts' p' hp') hx hx' (fun h => nomatch h) heq) heq
          exact ⟨rfl, rfl⟩

end Query

/-! ## Filters -/

namespace Filter

open Query

mutual

/-- A filter below an even or an odd number of negations, with no more than one negation above each
condition and group and with the texts of scalars as operands. -/
def reduced (negated : Bool) : Filter → Filter
  | compare field op operand => negateIf negated (compare field op (argument operand).value)
  | search field kind term language => negateIf negated (search field kind term language)
  | not inner => reduced (!negated) inner
  | all items => negateIf negated (all (reducedItems items))
  | any items => negateIf negated (any (reducedItems items))

/-- The items of a group, each reduced. -/
def reducedItems : List Filter → List Filter
  | [] => []
  | item :: rest => reduced false item :: reducedItems rest

end

mutual

/-- The languages of the searches in the groups of a filter, and at its root as well unless that is
left out. -/
def languages (root : Bool) : Filter → List String
  | compare .. => []
  | search _ _ _ language => if root then [] else language.toList
  | not inner => languages root inner
  | all items => itemLanguages items
  | any items => itemLanguages items

/-- The languages of the searches in the items of a group. -/
def itemLanguages : List Filter → List String
  | [] => []
  | item :: rest => languages false item ++ itemLanguages rest

end

variable {f : Filter} {items : List Filter} {root negated : Bool} {field : String}
  {op : Query.Operator} {s : List Char} {connective : Connective}

theorem reducedItems_eq (items : List Filter) : reducedItems items = items.map (reduced false) := by
  induction items with
  | nil => rw [reducedItems, List.map_nil]
  | cons item rest ih => rw [reducedItems, List.map_cons, ih]

theorem itemLanguages_eq (items : List Filter) :
    itemLanguages items = items.flatMap (languages false) := by
  induction items with
  | nil => rw [itemLanguages, List.flatMap_nil]
  | cons item rest ih => rw [itemLanguages, List.flatMap_cons, ih]

/-- The languages in a group are enclosed if and only if those of each item are. -/
theorem forall_itemLanguages {p : String → Prop} :
    (∀ language ∈ itemLanguages items, p language) ↔
      ∀ item ∈ items, ∀ language ∈ item.languages false, p language := by
  simp only [itemLanguages_eq, List.forall_mem_flatMap]

theorem reads_condition (hfield : Dialect.filter.Reads field) (h : Tested root field op s f) :
    Reads root (field.toList ++ separator root :: (mark negated ++ (op.name ++ s)))
      (negateIf negated f) := by
  rw [← String.ofList_toList (s := field)] at h
  exact .condition (isField_of_reads hfield) h

theorem reads_group (hne : items ≠ [])
    (h : ∀ item ∈ items, Reads false (render false false item) (reduced false item)) :
    Reads root (group root negated connective.name (renderItems items))
      (negateIf negated (connective.filter (reducedItems items))) := by
  let parts : List (List Char × Filter) :=
    items.map fun item => (render false false item, reduced false item)
  have hparts : parts ≠ [] := fun hnil => hne (List.map_eq_nil_iff.mp hnil)
  have hread : ∀ part ∈ parts, Reads false part.1 part.2 := by
    intro part hpart
    obtain ⟨item, hitem, rfl⟩ := List.mem_map.mp hpart
    exact h item hitem
  have htexts : listed (parts.map Prod.fst) = '(' :: (renderItems items ++ [')']) := by
    rw [listed, renderItems_eq, List.map_map]
    rfl
  have hfilters : parts.map Prod.snd = reducedItems items := by
    rw [reducedItems_eq, List.map_map]
    rfl
  have hgroup := @Reads.group root negated connective parts hparts hread
  rw [hfilters, opened, htexts] at hgroup
  cases root <;> simpa [group] using hgroup

/-- The query string of a filter is read as the reduced filter if the languages in its groups are
enclosed. -/
theorem reads_render (h : f.Proper) (root negated : Bool)
    (hlanguages : ∀ language ∈ f.languages root, Enclosed language) :
    Reads root (render root negated f) (reduced negated f) := by
  induction h generalizing root negated with
  | @compare field op v hfield _ hv =>
      have htested : Tested root field (.compare op) _ _ := .compare (operand_text hv)
      rw [render, reduced, argument_of_not_isComposite hv]
      simpa [condition, separator, Operator.name] using reads_condition hfield htested
  | @oneOf field items hfield hne hitems =>
      have htested : Tested root field (.compare .oneOf) _ _ := .compare (operand_list hne hitems)
      rw [render, reduced]
      simpa [condition, separator, Operator.name, argument] using reads_condition hfield htested
  | @search field kind term language hfield =>
      have hterm := scalar_term term.toList
      rw [String.ofList_toList] at hterm
      rw [languages] at hlanguages
      rw [render, reduced]
      cases language with
      | none =>
          have htested : Tested root field (.search kind) _ _ := .search hterm
          simpa [condition, separator, Operator.name, searchOp] using reads_condition hfield htested
      | some language =>
          have henclosed : root = false → Enclosed language := by
            rintro rfl
            exact hlanguages language (by simp)
          have htested : Tested root field (.search kind) _ _ := .language henclosed hterm
          simpa [condition, separator, Operator.name, searchOp] using reads_condition hfield htested
  | not _ ih =>
      rw [languages] at hlanguages
      rw [render, reduced]
      exact ih root _ hlanguages
  | all hne _ ih =>
      rw [languages, forall_itemLanguages] at hlanguages
      rw [render, reduced]
      exact @reads_group _ _ _ .and hne fun item h =>
        ih item h false false (hlanguages item h)
  | any hne _ ih =>
      rw [languages, forall_itemLanguages] at hlanguages
      rw [render, reduced]
      exact @reads_group _ _ _ .or hne fun item h =>
        ih item h false false (hlanguages item h)

/-! ## The query string of a reduced filter -/

theorem render_negateIf : render root false (negateIf negated f) = render root negated f := by
  cases negated with
  | false => rfl
  | true => simp [negateIf, render]

theorem operand_value {v : Value} (hv : v.isComposite = false) :
    operand (argument v).value = operand v := by
  rw [argument_of_not_isComposite hv, Argument.value, chars_text hv, Argument.chars]
  rfl

theorem operand_values {items : List Value} (hitems : ∀ v ∈ items, v.isComposite = false) :
    operand (argument (.array items)).value = operand (.array items) := by
  have hterms : (items.map Value.text).map (fun s => scalar (.string s)) = items.map scalar := by
    rw [List.map_map]
    apply List.map_congr_left
    intro v hv
    rw [Function.comp_apply, scalar_eq_term (hitems v hv), scalar, Value.text, String.toList_ofList]
  rw [argument, Argument.value, operand, operand, scalars_eq, scalars_eq, List.map_map, ← hterms]
  rfl

theorem renderItems_reducedItems
    (h : ∀ item ∈ items, render false false (reduced false item) = render false false item) :
    renderItems (reducedItems items) = renderItems items := by
  rw [renderItems_eq, renderItems_eq, reducedItems_eq, List.map_map]
  exact congrArg _ (List.map_congr_left h)

/-- Reducing a filter does not change its query string. -/
theorem render_reduced (h : f.Proper) (root negated : Bool) :
    render root false (reduced negated f) = render root negated f := by
  induction h generalizing root negated with
  | compare _ _ hv => rw [reduced, render_negateIf, render, render, operand_value hv]
  | oneOf _ _ hitems => rw [reduced, render_negateIf, render, render, operand_values hitems]
  | search => rw [reduced, render_negateIf]
  | not _ ih => rw [reduced, render, ih]
  | all _ _ ih =>
      have hitems := renderItems_reducedItems fun item h => ih item h false false
      rw [reduced, render_negateIf, render, render, hitems]
  | any _ _ ih =>
      have hitems := renderItems_reducedItems fun item h => ih item h false false
      rw [reduced, render_negateIf, render, render, hitems]

/-- Filters that are parsed have the same query string if and only if they are the same up to double
negations and the texts of operands, as long as the languages of the searches in their groups do not
hold the characters that a language ends with. -/
theorem query_eq_iff {source source' : String} {f g : Filter} (h : parse source = .ok f)
    (h' : parse source' = .ok g) (hf : ∀ language ∈ f.languages true, Enclosed language)
    (hg : ∀ language ∈ g.languages true, Enclosed language) :
    f.query = g.query ↔ f.reduced false = g.reduced false := by
  have hproper := proper_of_parse h
  have hproper' := proper_of_parse h'
  have hnil : Ends [] := Lexeme.starts_nil
  rw [query, query, String.ofList_inj]
  constructor
  · intro heq
    have hunique := (reads_render hproper true false hf).unique
      (reads_render hproper' true false hg) hnil hnil (fun _ => ⟨rfl, rfl⟩) (congrArg (· ++ []) heq)
    exact congrArg Prod.snd hunique.1
  · intro heq
    rw [← render_reduced hproper, ← render_reduced hproper', heq]

/-- A language that holds a parenthesis, and a language with quotes and commas. -/
theorem query_eq_iff_group :
    ∃ f g, parse "AND(FTS(a, 'x', 'l)'), NOT(NOT(PLFTS(b, 1, '\",'))))" = .ok f ∧
      parse "AND(fts(a, \"x\", 'l)'), plfts(b, '1', '\",'))" = .ok g ∧
      f.query = "and=(a.fts(l)).x,b.plfts(\",).1)" ∧
      (∀ language ∈ f.languages true, Enclosed language) ∧
      (∀ language ∈ g.languages true, Enclosed language) ∧
      f.reduced false = g.reduced false := by
  have hlanguages : ∀ language ∈ ["l)", "\","], Enclosed language := by decide
  obtain ⟨f, hf, hparts⟩ := exists_ok_of_map (show
    (parse "AND(FTS(a, 'x', 'l)'), NOT(NOT(PLFTS(b, 1, '\",'))))").map
      (fun f => (f.query, f.languages true)) =
        .ok ("and=(a.fts(l)).x,b.plfts(\",).1)", ["l)", "\","]) by decide +kernel)
  obtain ⟨g, hg, hparts'⟩ := exists_ok_of_map (show
    (parse "AND(fts(a, \"x\", 'l)'), plfts(b, '1', '\",'))").map
      (fun f => (f.query, f.languages true)) =
        .ok ("and=(a.fts(l)).x,b.plfts(\",).1)", ["l)", "\","]) by decide +kernel)
  obtain ⟨hquery, hf'⟩ := Prod.mk.inj hparts
  obtain ⟨hquery', hg'⟩ := Prod.mk.inj hparts'
  rw [← hf'] at hlanguages
  have hlanguages' := hlanguages
  rw [hf', ← hg'] at hlanguages'
  refine ⟨f, g, hf, hg, hquery, hlanguages, hlanguages', ?_⟩
  exact (query_eq_iff hf hg hlanguages hlanguages').mp (hquery.trans hquery'.symm)

/-- A language that ends itself forges a condition. -/
theorem query_forged :
    ∃ f g, parse "AND(FTS(a, 'x', 'l).t,b.fts(m'))" = .ok f ∧
      parse "AND(FTS(a, 't', 'l'), FTS(b, 'x', 'm'))" = .ok g ∧
      f.languages false = ["l).t,b.fts(m"] ∧ g.languages false = ["l", "m"] ∧
      f.query = g.query ∧ f.reduced false ≠ g.reduced false := by
  obtain ⟨f, hf, hparts⟩ := exists_ok_of_map (show
    (parse "AND(FTS(a, 'x', 'l).t,b.fts(m'))").map
      (fun f => (f.query, f.languages false, (f.reduced false).languages false)) =
        .ok ("and=(a.fts(l).t,b.fts(m).x)", ["l).t,b.fts(m"], ["l).t,b.fts(m"]) by
    decide +kernel)
  obtain ⟨g, hg, hparts'⟩ := exists_ok_of_map (show
    (parse "AND(FTS(a, 't', 'l'), FTS(b, 'x', 'm'))").map
      (fun f => (f.query, f.languages false, (f.reduced false).languages false)) =
        .ok ("and=(a.fts(l).t,b.fts(m).x)", ["l", "m"], ["l", "m"]) by decide +kernel)
  obtain ⟨hquery, hf', hreduced⟩ := by simpa only [Prod.mk.injEq] using hparts
  obtain ⟨hquery', hg', hreduced'⟩ := by simpa only [Prod.mk.injEq] using hparts'
  refine ⟨f, g, hf, hg, hf', hg', hquery.trans hquery'.symm, ?_⟩
  intro heq
  rw [heq, hreduced'] at hreduced
  exact absurd hreduced (by decide)

end Filter
end Guest
