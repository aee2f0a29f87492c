import Guest.Proofs.Parser.Refusals
import Guest.Proofs.TypeExpr.Exactness
import Guest.Proofs.TypeExpr.Invariants

/-!
# The depth of the parser of types

The depth that the length of the text determines is never used up by the parser of types either, and
a greater one changes nothing, neither a tree nor an error.  This holds wherever a parser may stand,
also inside of a sign from which closing angle brackets have been taken: splitting a sign leaves as
much text as before, and every type consumes its name.
-/

namespace Guest

namespace Parser

open Parse

/-- A parser that can go on for a limited number of tokens, and not behind the end of the text. -/
structure Bounded (count : Nat) (p : Parser) : Prop where
  aligned : p.Aligned
  left : p.left ≤ count

theorem invariant_bounded (count : Nat) : SplitInvariant (Bounded count) fun _ _ => True := by
  refine ⟨⟨?_, fun _ _ _ _ _ _ => trivial, fun _ _ _ => trivial⟩, ?_⟩
  · intro p q hp ha
    have hle := left_le_of_reads_of_aligned (.of_advance ha) hp.aligned
    exact ⟨aligned_of_advance ha, hle.trans hp.left⟩
  · intro p q sign rest hp _ ht hsplit
    cases hsplit
    exact ⟨nofun, by simpa [left, ht] using hp.left⟩

end Parser

namespace Parse

open Guest.Parser

variable {α : Type} {p q : Parser} {depth : Nat}

/-! ## Progress of the rules -/

theorem left_lt_of_typeName {found : Nat × String} (h : Gives typeName p found q) :
    q.left < p.left := by
  obtain ⟨ht, -, ha⟩ := gives_typeName.mp h
  exact left_lt_of_advance ht (by simp) ha

theorem aligned_of_typeName {found : Nat × String} (h : Gives typeName p found q) : q.Aligned := by
  obtain ⟨-, -, ha⟩ := gives_typeName.mp h
  exact aligned_of_advance ha

/-- A step that leaves fewer tokens, from where a parser may stand. -/
def Shortens (step : Parse α) : Prop :=
  ∀ ⦃p a q⦄, p.Aligned → Gives step p a q → q.Aligned ∧ q.left < p.left

theorem shortens_termIn (depth : Nat) : Shortens (termIn depth) := by
  intro p term q _ h
  cases depth with
  | zero => exact absurd h not_gives_unexpected
  | succ depth =>
      rw [termIn] at h
      obtain ⟨⟨start, name⟩, p₁, hname, h⟩ := gives_bind.mp h
      have hless := left_lt_of_typeName hname
      have h₁ : Bounded p₁.left p₁ := ⟨aligned_of_typeName hname, Nat.le_refl _⟩
      have hinv := invariant_bounded p₁.left
      obtain ⟨template, p₂, htemplate, h⟩ := gives_bind.mp h
      have h₂ := (keepsTypeAt hinv depth).template.gives h₁ htemplate
      obtain ⟨config, p₃, hconfig, h⟩ := gives_bind.mp h
      have h₃ := (keeps_typeConfig hinv.toInvariant).gives h₂ hconfig
      obtain ⟨text, p₄, htext, h⟩ := gives_bind.mp h
      obtain ⟨-, rfl⟩ := gives_textFrom_iff.mp htext
      obtain ⟨-, rfl⟩ := gives_pure.mp h
      exact ⟨h₃.aligned, h₃.left.trans_lt hless⟩

theorem shortens_unionIn (depth : Nat) : Shortens (unionIn depth) := by
  intro p union q hp h
  cases depth with
  | zero => exact absurd h not_gives_unexpected
  | succ depth =>
      rw [unionIn] at h
      obtain ⟨first, p₁, hfirst, h⟩ := gives_bind.mp h
      obtain ⟨hp₁, hless⟩ := shortens_termIn depth hp hfirst
      have h₁ : Bounded p₁.left p₁ := ⟨hp₁, Nat.le_refl _⟩
      have hinv := invariant_bounded p₁.left
      obtain ⟨more, p₂, hmore, h⟩ := gives_bind.mp h
      have h₂ := (keeps_accept hinv.toInvariant).gives h₁ hmore
      split at h
      · obtain ⟨rest, p₃, hrest, h⟩ := gives_bind.mp h
        obtain ⟨-, rfl⟩ := gives_pure.mp h
        have h₃ := (keepsTypeAt hinv depth).union.gives h₂ hrest
        exact ⟨h₃.aligned, h₃.left.trans_lt hless⟩
      · obtain ⟨-, rfl⟩ := gives_pure.mp h
        exact ⟨h₂.aligned, h₂.left.trans_lt hless⟩

/-! ## Depths that make no difference -/

/-- At a depth that covers the tokens ahead and a constant cost, one more changes nothing where a
parser may stand. -/
def SteadyType (step : Nat → Parse α) (cost depth : Nat) : Prop :=
  ∀ ⦃p : Parser⦄, p.Aligned → 24 * p.left + cost ≤ depth →
    SameAt p (step depth) (step (depth + 1))

/-- The functions of the parser of types do not depend on a depth that is great enough.  The costs
are in the order in which the functions call each other before they consume a token. -/
structure SteadyTypeAt (depth : Nat) : Prop where
  union : SteadyType unionIn 2 depth
  term : SteadyType termIn 1 depth
  template : SteadyType templateIn 1 depth
  arguments : SteadyType argumentsIn 3 depth

/-- A list does not depend on the depth if its items and their rest do not. -/
theorem steady_separated {item : Nat → Parse α} {items : Nat → Parse (List α)} {sign : Sign}
    {cost : Nat} (hitem : SteadyType item cost depth) (hshort : Shortens (item depth))
    (hitems : SteadyType items (cost + 1) depth) (hp : p.Aligned)
    (hd : 24 * p.left + (cost + 1) ≤ depth + 1) :
    SameAt p (separated (item depth) sign (items depth))
      (separated (item (depth + 1)) sign (items (depth + 1))) := by
  refine (hitem hp (by omega)).bind fun first p₁ hfirst => ?_
  obtain ⟨hp₁, h₁⟩ := hshort hp hfirst
  refine .bind_right fun more p₂ hmore => ?_
  rcases gives_accept.mp hmore with ⟨rfl, hsign⟩ | ⟨rfl, -, rfl⟩
  · have h₂ := left_lt_of_sign hsign
    exact (hitems (aligned_of_reads hsign hp₁) (by omega)).bind_left
  · exact .refl _

theorem steady_unionIn (ih : SteadyTypeAt depth) : SteadyType unionIn 2 (depth + 1) := by
  intro p hp hd
  rw [unionIn_succ, unionIn_succ]
  exact steady_separated ih.term (shortens_termIn depth) ih.union hp hd

theorem steady_termIn (ih : SteadyTypeAt depth) : SteadyType termIn 1 (depth + 1) := by
  intro p hp hd
  rw [termIn.eq_2 depth, termIn.eq_2 (depth + 1)]
  refine .bind_right fun found p₁ hname => ?_
  have h₁ := left_lt_of_typeName hname
  exact (ih.template (aligned_of_typeName hname) (by omega)).bind_left

theorem steady_templateIn (ih : SteadyTypeAt depth) : SteadyType templateIn 1 (depth + 1) := by
  intro p hp hd
  rw [templateIn.eq_2 depth, templateIn.eq_2 (depth + 1)]
  refine .bind_right fun opened p₁ hopened => ?_
  rcases gives_accept.mp hopened with ⟨rfl, hsign⟩ | ⟨rfl, -, rfl⟩
  · have h₁ := left_lt_of_sign hsign
    exact (ih.arguments (aligned_of_reads hsign hp) (by omega)).bind_left
  · exact .refl _

theorem steady_argumentsIn (ih : SteadyTypeAt depth) : SteadyType argumentsIn 3 (depth + 1) := by
  intro p hp hd
  rw [argumentsIn_succ, argumentsIn_succ]
  exact steady_separated ih.union (shortens_unionIn depth) ih.arguments hp hd

/-- No function of the parser of types depends on a depth that is great enough. -/
theorem steadyTypeAt (depth : Nat) : SteadyTypeAt depth := by
  induction depth with
  | zero =>
      exact {
        union := fun _ _ hd => by omega
        term := fun _ _ hd => by omega
        template := fun _ _ hd => by omega
        arguments := fun _ _ hd => by omega }
  | succ depth ih =>
      exact {
        union := steady_unionIn ih
        term := steady_termIn ih
        template := steady_templateIn ih
        arguments := steady_argumentsIn ih }

/-- A depth beyond the one that the text determines changes nothing. -/
theorem unionIn_sameAt (hp : p.Aligned) (h : p.depth ≤ depth) :
    SameAt p (unionIn depth) (unionIn p.depth) := by
  obtain ⟨more, rfl⟩ := Nat.exists_eq_add_of_le h
  induction more with
  | zero => rfl
  | succ more ih =>
      have hleft := left_le_depth p
      have hsteady := (steadyTypeAt (p.depth + more)).union hp (by omega)
      have hbefore := ih (by omega)
      unfold SameAt at hsteady hbefore ⊢
      rw [← hbefore, hsteady]
      rfl

end Parse
end Guest
