import Mathlib.Data.List.Basic
import Guest.Filter.Query
import Guest.Proofs.Token.Numbers

/-!
# The grammar of query strings

A query string is a condition or a group.  Groups hold conditions and groups between commas, and a
condition or group inside of a group is written a little differently from one at the root.  The
grammar says nothing about how query strings are made; no string has two readings in it.
-/

namespace Guest

open Lexeme (Starts starts_cons)

namespace Query

/-! ## Readings -/

/-- The operators of conditions. -/
inductive Operator where
  | compare (op : Comparison)
  | search (kind : SearchKind)
  deriving DecidableEq

/-- The name of an operator: `eq`, `neq`, `lt`, `lte`, `gt`, `gte`, `like`, `ilike`, `is`, `in`,
`fts`, `plfts`, `phfts` or `wfts`. -/
def Operator.name : Operator → List Char
  | compare op => op.name.toList
  | search kind => kind.name.toList

/-- The words that groups start with. -/
inductive Connective where
  | and
  | or
  deriving DecidableEq

/-- The name of a connective. -/
def Connective.name : Connective → List Char
  | and => ['a', 'n', 'd']
  | or => ['o', 'r']

/-- What the operand of a condition is read as. -/
inductive Argument where
  | text (s : String)
  | list (texts : List String)
  deriving DecidableEq

/-- What a query string is read as. -/
inductive Reading where
  | condition (negated : Bool) (field : String) (op : Operator) (argument : Argument)
  | group (negated : Bool) (connective : Connective) (items : List Reading)

/-! ## The grammar -/

/-- Quoted characters and what they stand for; a backslash takes the meaning from the next one. -/
inductive Quoted : List Char → List Char → Prop where
  | nil : Quoted [] []
  | plain {c : Char} {s body : List Char} :
      c ≠ '"' → c ≠ '\\' → Quoted s body → Quoted (c :: s) (c :: body)
  | escaped {c : Char} {s body : List Char} :
      Quoted s body → Quoted ('\\' :: c :: s) (c :: body)

/-- Scalars: quoted texts, and other texts without a reserved character. -/
inductive Scalar : List Char → String → Prop where
  | quoted {s body : List Char} :
      Quoted s body → Scalar ('"' :: (s ++ ['"'])) (String.ofList body)
  | plain {s : List Char} :
      s ≠ [] → (∀ c ∈ s, c ∉ reserved) → Scalar s (String.ofList s)

/-- Texts between commas, in parentheses. -/
def listed (parts : List (List Char)) : List Char := '(' :: ([','].intercalate parts ++ [')'])

/-- Operands: scalars, and lists of them behind the operator for lists. -/
inductive Operand : Operator → List Char → Argument → Prop where
  | text {op : Operator} {s : List Char} {text : String} :
      Scalar s text → Operand op s (.text text)
  | list {parts : List (List Char × String)} :
      parts ≠ [] → (∀ part ∈ parts, Scalar part.1 part.2) →
      Operand (.compare .oneOf) (listed (parts.map Prod.fst)) (.list (parts.map Prod.snd))

/-- What follows the field of a condition. -/
inductive Test : List Char → Bool → Operator → Argument → Prop where
  | mk {negated : Bool} {op : Operator} {s : List Char} {argument : Argument} :
      Operand op s argument → Test (mark negated ++ (op.name ++ '.' :: s)) negated op argument

/-- The characters that end the words of a query string. -/
def separators : List Char := '.' :: '=' :: reserved

/-- A text without a separator. -/
def IsWord (w : List Char) : Prop := ∀ c ∈ w, c ∉ separators

instance (w : List Char) : Decidable (IsWord w) := List.decidableBAll _ w

/-- Names of fields. -/
def IsField (s : List Char) : Prop := s ≠ [] ∧ IsWord s

/-- The conditions and groups inside of a group. -/
inductive Item : List Char → Reading → Prop where
  | condition {field s : List Char} {negated : Bool} {op : Operator} {argument : Argument} :
      IsField field → Test s negated op argument →
      Item (field ++ '.' :: s) (.condition negated (String.ofList field) op argument)
  | group {negated : Bool} {connective : Connective} {parts : List (List Char × Reading)} :
      parts ≠ [] → (∀ part ∈ parts, Item part.1 part.2) →
      Item (mark negated ++ (connective.name ++ listed (parts.map Prod.fst)))
        (.group negated connective (parts.map Prod.snd))

/-- The conditions and groups at the root. -/
inductive Root : List Char → Reading → Prop where
  | condition {field s : List Char} {negated : Bool} {op : Operator} {argument : Argument} :
      IsField field → Test s negated op argument →
      Root (field ++ '=' :: s) (.condition negated (String.ofList field) op argument)
  | group {negated : Bool} {connective : Connective} {parts : List (List Char × Reading)} :
      parts ≠ [] → (∀ part ∈ parts, Item part.1 part.2) →
      Root (mark negated ++ (connective.name ++ '=' :: listed (parts.map Prod.fst)))
        (.group negated connective (parts.map Prod.snd))

/-! ## Words -/

variable {s s' x x' w w' : List Char} {a b : Char}

/-- A text of characters of a kind ends where one of another kind follows. -/
theorem append_inj_of_starts {p : Char → Prop} (hs : ∀ c ∈ s, p c) (hs' : ∀ c ∈ s', p c)
    (hx : Starts (fun c => ¬p c) x) (hx' : Starts (fun c => ¬p c) x')
    (h : s ++ x = s' ++ x') : s = s' ∧ x = x' := by
  induction s generalizing s' with
  | nil =>
      cases s' with
      | nil => exact ⟨rfl, h⟩
      | cons c rest =>
          rw [List.nil_append, List.cons_append] at h
          rw [h] at hx
          exact absurd (hs' c List.mem_cons_self) (starts_cons.mp hx)
  | cons c rest ih =>
      cases s' with
      | nil =>
          rw [List.nil_append, List.cons_append] at h
          rw [← h] at hx'
          exact absurd (hs c List.mem_cons_self) (starts_cons.mp hx')
      | cons c' rest' =>
          obtain ⟨rfl, htails⟩ := List.cons.inj h
          obtain ⟨rfl, hrest⟩ := ih (List.forall_mem_cons.mp hs).2 (List.forall_mem_cons.mp hs').2
            htails
          exact ⟨rfl, hrest⟩

theorem isWord_unique (hw : IsWord w) (hw' : IsWord w') (ha : a ∈ separators) (hb : b ∈ separators)
    (h : w ++ a :: x = w' ++ b :: x') : w = w' ∧ a = b ∧ x = x' := by
  have hstarts {c : Char} {tail : List Char} (hc : c ∈ separators) :
      Starts (fun c => ¬c ∉ separators) (c :: tail) :=
    starts_cons.mpr (not_not_intro hc)
  obtain ⟨rfl, htails⟩ := append_inj_of_starts hw hw' (hstarts ha) (hstarts hb) h
  obtain ⟨rfl, rfl⟩ := List.cons.inj htails
  exact ⟨rfl, rfl, rfl⟩

/-- The word of a negation. -/
def negation : List Char := "not".toList

theorem mark_true : mark true = negation ++ ['.'] := rfl

theorem isWord_negation : IsWord negation := by decide

/-- A negation is told from any other word. -/
theorem mark_unique {negated negated' : Bool} (hw : IsWord w) (hw' : IsWord w')
    (hne : w ≠ negation) (hne' : w' ≠ negation) (ha : a ∈ separators) (hb : b ∈ separators)
    (h : mark negated ++ (w ++ a :: x) = mark negated' ++ (w' ++ b :: x')) :
    negated = negated' ∧ w = w' ∧ a = b ∧ x = x' := by
  have hpoint : '.' ∈ separators := List.mem_cons_self
  cases negated with
  | false =>
      cases negated' with
      | false => exact ⟨rfl, isWord_unique hw hw' ha hb h⟩
      | true =>
          rw [mark_true, List.append_assoc] at h
          exact absurd (isWord_unique hw isWord_negation ha hpoint h).1 hne
  | true =>
      cases negated' with
      | false =>
          rw [mark_true, List.append_assoc] at h
          exact absurd (isWord_unique isWord_negation hw' hpoint hb h).1.symm hne'
      | true =>
          have hrest := List.append_cancel_left h
          exact ⟨rfl, isWord_unique hw hw' ha hb hrest⟩

namespace Operator

theorem isWord_name (op : Operator) : IsWord op.name := by
  rcases op with op | kind
  · cases op <;> decide
  · cases kind <;> decide

theorem name_ne_negation (op : Operator) : op.name ≠ negation := by
  rcases op with op | kind
  · cases op <;> decide
  · cases kind <;> decide

theorem name_injective {op op' : Operator} (h : op.name = op'.name) : op = op' := by
  rcases op with op | kind <;> rcases op' with op' | kind'
  · cases op <;> cases op' <;> first | rfl | exact absurd h (by decide)
  · cases op <;> cases kind' <;> exact absurd h (by decide)
  · cases kind <;> cases op' <;> exact absurd h (by decide)
  · cases kind <;> cases kind' <;> first | rfl | exact absurd h (by decide)

end Operator

namespace Connective

theorem isWord_name (connective : Connective) : IsWord connective.name := by
  cases connective <;> decide

theorem name_ne_negation (connective : Connective) : connective.name ≠ negation := by
  cases connective <;> decide

theorem name_injective {connective connective' : Connective}
    (h : connective.name = connective'.name) : connective = connective' := by
  cases connective <;> cases connective' <;> first | rfl | exact absurd h (by decide)

end Connective

/-! ## Operands have one reading -/

/-- What may follow a part of a query string: nothing, or the end of an item or a list. -/
def Ends (tail : List Char) : Prop := Starts (fun c => c = ',' ∨ c = ')') tail

/-- Two texts with what they are read as: in front of an end only the same text fits, and it is
read as the same. -/
def Unambiguous {α : Type} (p p' : List Char × α) : Prop :=
  ∀ ⦃x x'⦄, Ends x → Ends x' → p.1 ++ x = p'.1 ++ x' → p = p' ∧ x = x'

theorem Quoted.unique {body body' : List Char} (h : Quoted s body) (h' : Quoted s' body')
    (heq : s ++ '"' :: x = s' ++ '"' :: x') : s = s' ∧ body = body' ∧ x = x' := by
  induction h generalizing s' body' with
  | nil =>
      cases h' with
      | nil => exact ⟨rfl, rfl, (List.cons.inj heq).2⟩
      | plain hquote => exact absurd (List.cons.inj heq).1.symm hquote
      | escaped => exact absurd (List.cons.inj heq).1 (by decide)
  | plain hquote hescape _ ih =>
      cases h' with
      | nil => exact absurd (List.cons.inj heq).1 hquote
      | plain _ _ hrest =>
          obtain ⟨rfl, htails⟩ := List.cons.inj heq
          obtain ⟨rfl, rfl, rfl⟩ := ih hrest htails
          exact ⟨rfl, rfl, rfl⟩
      | escaped => exact absurd (List.cons.inj heq).1 hescape
  | escaped _ ih =>
      cases h' with
      | nil => exact absurd (List.cons.inj heq).1 (by decide)
      | plain _ hescape => exact absurd (List.cons.inj heq).1.symm hescape
      | escaped hrest =>
          simp only [List.cons_append, List.cons.injEq, true_and] at heq
          obtain ⟨rfl, htails⟩ := heq
          obtain ⟨rfl, rfl, rfl⟩ := ih hrest htails
          exact ⟨rfl, rfl, rfl⟩

theorem Ends.starts_reserved (h : Ends x) : Starts (fun c => ¬c ∉ reserved) x := by
  intro c hc
  apply not_not_intro
  rcases h c hc with rfl | rfl
  · decide
  · decide

/-- A plain text starts with no reserved character. -/
theorem plain_append_ne (hne : s ≠ []) (hs : ∀ c ∈ s, c ∉ reserved) (ha : a ∈ reserved) :
    s ++ x ≠ a :: x' := by
  intro h
  cases s with
  | nil => exact hne rfl
  | cons c rest =>
      obtain ⟨rfl, -⟩ := List.cons.inj h
      exact hs c List.mem_cons_self ha

theorem Scalar.unambiguous {t t' : String} (h : Scalar s t) (h' : Scalar s' t') :
    Unambiguous (s, t) (s', t') := by
  intro x x' hx hx' heq
  cases h with
  | quoted hbody =>
      cases h' with
      | quoted hbody' =>
          rw [List.cons_append, List.cons_append, List.append_assoc, List.append_assoc] at heq
          obtain ⟨rfl, rfl, rfl⟩ := hbody.unique hbody' (List.cons.inj heq).2
          exact ⟨rfl, rfl⟩
      | plain hne hplain => exact absurd heq.symm (plain_append_ne hne hplain (by decide))
  | plain hne hplain =>
      cases h' with
      | quoted => exact absurd heq (plain_append_ne hne hplain (by decide))
      | plain _ hplain' =>
          obtain ⟨rfl, rfl⟩ := append_inj_of_starts hplain hplain' hx.starts_reserved
            hx'.starts_reserved heq
          exact ⟨rfl, rfl⟩

theorem Scalar.append_ne_listed {t : String} {parts : List (List Char)} (h : Scalar s t) :
    s ++ x ≠ listed parts ++ x' := by
  cases h with
  | quoted => exact fun heq => absurd (List.cons.inj heq).1 (by decide)
  | plain hne hplain => exact plain_append_ne hne hplain (by decide)

section Lists

variable {α : Type} {parts parts' : List (List Char × α)}

/-- Parts between commas are told apart if each of them is. -/
theorem intercalate_unique (hne : parts ≠ []) (hne' : parts' ≠ [])
    (hparts : ∀ p ∈ parts, ∀ p' ∈ parts', Unambiguous p p')
    (h : [','].intercalate (parts.map Prod.fst) ++ ')' :: x =
      [','].intercalate (parts'.map Prod.fst) ++ ')' :: x') : parts = parts' ∧ x = x' := by
  have hcomma (tail : List Char) : Ends (',' :: tail) := starts_cons.mpr (.inl rfl)
  have hparen (tail : List Char) : Ends (')' :: tail) := starts_cons.mpr (.inr rfl)
  induction parts generalizing parts' with
  | nil => exact absurd rfl hne
  | cons p rest ih =>
      cases parts' with
      | nil => exact absurd rfl hne'
      | cons p' rest' =>
          have hhead := hparts p List.mem_cons_self p' List.mem_cons_self
          cases rest with
          | nil =>
              cases rest' with
              | nil =>
                  simp only [List.map_cons, List.map_nil, List.intercalate_singleton] at h
                  obtain ⟨rfl, htails⟩ := hhead (hparen x) (hparen x') h
                  exact ⟨rfl, (List.cons.inj htails).2⟩
              | cons next' more' =>
                  simp only [List.map_cons, List.map_nil, List.intercalate_singleton,
                    List.intercalate_cons_cons, List.append_assoc] at h
                  obtain ⟨-, htails⟩ := hhead (hparen x) (hcomma _) h
                  exact absurd (List.cons.inj htails).1 (by decide)
          | cons next more =>
              cases rest' with
              | nil =>
                  simp only [List.map_cons, List.map_nil, List.intercalate_singleton,
                    List.intercalate_cons_cons, List.append_assoc] at h
                  obtain ⟨-, htails⟩ := hhead (hcomma _) (hparen x') h
                  exact absurd (List.cons.inj htails).1 (by decide)
              | cons next' more' =>
                  simp only [List.map_cons, List.intercalate_cons_cons, List.append_assoc] at h
                  obtain ⟨rfl, htails⟩ := hhead (hcomma _) (hcomma _) h
                  obtain ⟨hrest, htail⟩ := ih (List.cons_ne_nil _ _) (List.cons_ne_nil _ _)
                    (fun q hq q' hq' => hparts q (List.mem_cons_of_mem _ hq) q'
                      (List.mem_cons_of_mem _ hq')) (List.cons.inj htails).2
                  exact ⟨congrArg _ hrest, htail⟩

theorem listed_unique (hne : parts ≠ []) (hne' : parts' ≠ [])
    (hparts : ∀ p ∈ parts, ∀ p' ∈ parts', Unambiguous p p')
    (h : listed (parts.map Prod.fst) ++ x = listed (parts'.map Prod.fst) ++ x') :
    parts = parts' ∧ x = x' := by
  rw [listed, listed, List.cons_append, List.cons_append, List.append_assoc,
    List.append_assoc] at h
  exact intercalate_unique hne hne' hparts (List.cons.inj h).2

end Lists

theorem Operand.unambiguous {op : Operator} {argument argument' : Argument}
    (h : Operand op s argument) (h' : Operand op s' argument') :
    Unambiguous (s, argument) (s', argument') := by
  intro x x' hx hx' heq
  cases h with
  | text hscalar =>
      cases h' with
      | text hscalar' =>
          obtain ⟨hsame, rfl⟩ := hscalar.unambiguous hscalar' hx hx' heq
          cases hsame
          exact ⟨rfl, rfl⟩
      | list => exact absurd heq hscalar.append_ne_listed
  | list hne hscalars =>
      cases h' with
      | text hscalar' => exact absurd heq.symm hscalar'.append_ne_listed
      | list hne' hscalars' =>
          obtain ⟨rfl, rfl⟩ := listed_unique hne hne'
            (fun p hp p' hp' => (hscalars p hp).unambiguous (hscalars' p' hp')) heq
          exact ⟨rfl, rfl⟩

/-! ## Query strings have one reading -/

theorem point_mem_separators : '.' ∈ separators := List.mem_cons_self

theorem Test.unique {negated negated' : Bool} {op op' : Operator} {argument argument' : Argument}
    (h : Test s negated op argument) (h' : Test s' negated' op' argument') (hx : Ends x)
    (hx' : Ends x') (heq : s ++ x = s' ++ x') :
    s = s' ∧ negated = negated' ∧ op = op' ∧ argument = argument' ∧ x = x' := by
  obtain ⟨hoperand⟩ := h
  obtain ⟨hoperand'⟩ := h'
  simp only [List.append_assoc, List.cons_append] at heq
  obtain ⟨rfl, hname, -, htails⟩ := mark_unique op.isWord_name op'.isWord_name
    op.name_ne_negation op'.name_ne_negation point_mem_separators point_mem_separators heq
  obtain rfl := Operator.name_injective hname
  obtain ⟨hsame, rfl⟩ := hoperand.unambiguous hoperand' hx hx' htails
  cases hsame
  exact ⟨rfl, rfl, rfl, rfl, rfl⟩

/-- A point ends the first word of a test that is no negation. -/
theorem Test.append_ne {negated : Bool} {op : Operator} {argument : Argument}
    (h : Test s negated op argument) (hw : IsWord w) (hne : w ≠ negation) (hb : b ∈ separators)
    (hpoint : '.' ≠ b) : s ++ x ≠ w ++ b :: x' := by
  obtain ⟨-⟩ := h
  intro heq
  simp only [List.append_assoc, List.cons_append] at heq
  obtain ⟨-, -, hsame, -⟩ := @mark_unique _ _ _ _ _ _ _ false op.isWord_name hw
    op.name_ne_negation hne point_mem_separators hb heq
  exact hpoint hsame

theorem listed_eq_cons (parts : List (List Char)) :
    listed parts ++ x = '(' :: ([','].intercalate parts ++ ')' :: x) := by
  simp [listed]

section Items

variable {field field' : List Char} {negated negated' : Bool} {op op' : Operator}
  {argument argument' : Argument} {connective connective' : Connective}
  {parts parts' : List (List Char × Reading)}

/-- A field ends with the separator that the grammar puts behind it. -/
theorem condition_unique (hfield : IsField field) (hfield' : IsField field')
    (h : Test s negated op argument) (h' : Test s' negated' op' argument') (ha : a ∈ separators)
    (hx : Ends x) (hx' : Ends x') (heq : field ++ a :: s ++ x = field' ++ a :: s' ++ x') :
    (field ++ a :: s, Reading.condition negated (String.ofList field) op argument) =
      (field' ++ a :: s', .condition negated' (String.ofList field') op' argument') ∧ x = x' := by
  simp only [List.append_assoc, List.cons_append] at heq
  obtain ⟨rfl, -, htests⟩ := isWord_unique hfield.2 hfield'.2 ha ha heq
  obtain ⟨rfl, rfl, rfl, rfl, rfl⟩ := h.unique h' hx hx' htests
  exact ⟨rfl, rfl⟩

theorem condition_ne_item_group (hfield : IsField field) (h : Test s negated op argument) :
    field ++ '.' :: s ++ x ≠
      mark negated' ++ (connective.name ++ listed (parts.map Prod.fst)) ++ x' := by
  intro heq
  simp only [List.append_assoc, List.cons_append, listed_eq_cons] at heq
  have hparen : '(' ∈ separators := by decide
  cases negated' with
  | false =>
      have hsame := isWord_unique hfield.2 connective.isWord_name point_mem_separators hparen heq
      exact absurd hsame.2.1 (by decide)
  | true =>
      rw [mark_true, List.append_assoc] at heq
      obtain ⟨-, -, htest⟩ :=
        isWord_unique hfield.2 isWord_negation point_mem_separators point_mem_separators heq
      exact h.append_ne connective.isWord_name connective.name_ne_negation hparen (by decide) htest

theorem condition_ne_root_group (hfield : IsField field) (h : Test s negated op argument) :
    field ++ '=' :: s ++ x ≠
      mark negated' ++ (connective.name ++ '=' :: listed (parts.map Prod.fst)) ++ x' := by
  intro heq
  simp only [List.append_assoc, List.cons_append, listed_eq_cons] at heq
  have hequal : '=' ∈ separators := by decide
  cases negated' with
  | false =>
      obtain ⟨-, -, htest⟩ := isWord_unique hfield.2 connective.isWord_name hequal hequal heq
      have hempty : IsWord [] := List.forall_mem_nil _
      exact h.append_ne hempty (by decide) (by decide) (by decide) htest
  | true =>
      rw [mark_true, List.append_assoc] at heq
      have hsame := isWord_unique hfield.2 isWord_negation hequal point_mem_separators heq
      exact absurd hsame.2.1 (by decide)

theorem Item.unambiguous {r r' : Reading} (h : Item s r) (h' : Item s' r') :
    Unambiguous (s, r) (s', r') := by
  induction h generalizing s' r' with
  | condition hfield htest =>
      intro x x' hx hx' heq
      cases h' with
      | condition hfield' htest' =>
          exact condition_unique hfield hfield' htest htest' point_mem_separators hx hx' heq
      | group => exact absurd heq (condition_ne_item_group hfield htest)
  | @group negated connective parts hne _ ih =>
      intro x x' hx hx' heq
      cases h' with
      | condition hfield' htest' =>
          exact absurd heq.symm (condition_ne_item_group hfield' htest')
      | @group negated' connective' parts' hne' hparts' =>
          have hparen : '(' ∈ separators := by decide
          simp only [List.append_assoc, listed_eq_cons] at heq
          obtain ⟨rfl, hname, -, hlists⟩ := mark_unique connective.isWord_name
            connective'.isWord_name connective.name_ne_negation connective'.name_ne_negation
            hparen hparen heq
          obtain rfl := Connective.name_injective hname
          obtain ⟨rfl, rfl⟩ := intercalate_unique hne hne'
            (fun p hp p' hp' => ih p hp (hparts' p' hp')) hlists
          exact ⟨rfl, rfl⟩

/-- A query string has at most one reading. -/
theorem Root.unique {r r' : Reading} (h : Root s r) (h' : Root s r') : r = r' := by
  have hequal : '=' ∈ separators := by decide
  have hnil : Ends [] := Lexeme.starts_nil
  generalize hs : s = s' at h'
  have heq : s ++ [] = s' ++ [] := congrArg (· ++ []) hs
  clear hs
  cases h with
  | condition hfield htest =>
      cases h' with
      | condition hfield' htest' =>
          have hsame := condition_unique hfield hfield' htest htest' hequal hnil hnil heq
          exact congrArg Prod.snd hsame.1
      | group => exact absurd heq (condition_ne_root_group hfield htest)
  | @group negated connective parts hne hparts =>
      cases h' with
      | condition hfield' htest' =>
          exact absurd heq.symm (condition_ne_root_group hfield' htest')
      | @group negated' connective' parts' hne' hparts' =>
          simp only [List.append_assoc, List.cons_append] at heq
          obtain ⟨rfl, hname, -, hlists⟩ := mark_unique connective.isWord_name
            connective'.isWord_name connective.name_ne_negation connective'.name_ne_negation
            hequal hequal heq
          obtain rfl := Connective.name_injective hname
          obtain ⟨rfl, -⟩ := listed_unique hne hne'
            (fun p hp p' hp' => (hparts p hp).unambiguous (hparts' p' hp')) hlists
          rfl

end Items

end Query
end Guest
