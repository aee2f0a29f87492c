import Guest.Proofs.Expr.Invariants
import Guest.Proofs.TypeExpr.Pieces

/-!
# What the parser of types keeps

The parser of types is made of the same steps as the parser of expressions and of one more, which
takes a closing angle bracket from a longer sign and leaves the rest of the sign in place.  So it
keeps what is kept where a token is consumed and where a bracket is taken.
-/

namespace Guest
namespace Parse

open Guest.Parser TypeGrammar

variable {inv : Parser → Prop} {blame : ParseError → Parser → Prop} {depth start : Nat}

/-- A property that is also kept where a closing angle bracket is taken from a longer sign. -/
structure SplitInvariant (inv : Parser → Prop) (blame : ParseError → Parser → Prop) : Prop
    extends Invariant inv blame where
  split : ∀ ⦃p q sign left⦄, inv p → Splits sign left → p.current.token = .sign sign →
    Gives (splitAngle left) p () q → inv q

/-- The functions of the parser of types keep a property of parsers, and their errors have one. -/
structure KeepsTypeAt (inv : Parser → Prop) (blame : ParseError → Parser → Prop) (depth : Nat) :
    Prop where
  union : Keeps inv blame (unionIn depth)
  term : Keeps inv blame (termIn depth)
  template : Keeps inv blame (templateIn depth)
  arguments : Keeps inv blame (argumentsIn depth)

theorem peek_bind_apply {α : Type} {f : Token → Parse α} {p : Parser} :
    (peek >>= f) p = f p.current.token p := rfl

theorem keeps_textFrom : Keeps inv blame (textFrom start) := by
  constructor
  · intro p text q hp hgives
    cases hgives
    exact hp
  · intro p e q _ hfails
    cases hfails

section Tokens

variable (h : Invariant inv blame)
include h

theorem keeps_typeName : Keeps inv blame typeName := by
  constructor
  · intro p found q hp hgives
    unfold Gives typeName at hgives
    split at hgives
    · split at hgives
      · next moved hadvance =>
          cases hgives
          exact h.advance hp hadvance
      · cases hgives
    · cases hgives
  · intro p e q hp hfails
    unfold typeName at hfails
    split at hfails
    · split at hfails
      · cases hfails
      · next error moved hadvance =>
          cases hfails
          exact (keeps_advance h).fails hp hadvance
    · exact (keeps_unexpected h).fails hp hfails

theorem keeps_objectEntries : Keeps inv blame objectEntries := by
  constructor
  · intro p entries q hp hgives
    exact (keepsAt h p.depth).entries.gives hp (gives_objectEntries.mp hgives)
  · intro p e q hp hfails
    exact (keepsAt h p.depth).entries.fails hp hfails

theorem keeps_typeConfig : Keeps inv blame typeConfig := by
  unfold typeConfig
  refine (keeps_accept h).bind fun configured => ?_
  split
  · exact (keeps_objectEntries h).bind fun _ => keeps_pure
  · exact keeps_pure

theorem keeps_unionIn (ih : KeepsTypeAt inv blame depth) :
    Keeps inv blame (unionIn (depth + 1)) := by
  rw [unionIn]
  refine ih.term.bind fun first => (keeps_accept h).bind fun more => ?_
  split
  · exact ih.union.bind fun _ => keeps_pure
  · exact keeps_pure

theorem keeps_termIn (ih : KeepsTypeAt inv blame depth) : Keeps inv blame (termIn (depth + 1)) := by
  rw [termIn]
  refine (keeps_typeName h).bind fun found => ih.template.bind fun template => ?_
  exact (keeps_typeConfig h).bind fun config => keeps_textFrom.bind fun _ => keeps_pure

theorem keeps_argumentsIn (ih : KeepsTypeAt inv blame depth) :
    Keeps inv blame (argumentsIn (depth + 1)) := by
  rw [argumentsIn]
  refine ih.union.bind fun first => (keeps_accept h).bind fun more => ?_
  split
  · exact ih.arguments.bind fun _ => keeps_pure
  · exact keeps_pure

end Tokens

variable (h : SplitInvariant inv blame)
include h

theorem keeps_closingAngle : Keeps inv blame closingAngle := by
  constructor
  · intro p _ q hp hgives
    rcases splits_of_gives_closingAngle hgives with ⟨-, ha⟩ | ⟨sign, left, hsplits, ht, hsplit⟩
    · exact h.advance hp ha
    · exact h.split hp hsplits ht hsplit
  · intro p e q hp hfails
    rw [closingAngle, peek_bind_apply] at hfails
    generalize p.current.token = t at hfails
    split at hfails
    · exact (keeps_advance h.toInvariant).fails hp hfails
    · cases hfails
    · cases hfails
    · exact (keeps_unexpected h.toInvariant).fails hp hfails

theorem keeps_templateIn (ih : KeepsTypeAt inv blame depth) :
    Keeps inv blame (templateIn (depth + 1)) := by
  rw [templateIn]
  refine (keeps_accept h.toInvariant).bind fun opened => ?_
  split
  · exact ih.arguments.bind fun _ => (keeps_closingAngle h).bind fun _ => keeps_pure
  · exact keeps_pure

theorem keepsTypeAt (depth : Nat) : KeepsTypeAt inv blame depth := by
  induction depth with
  | zero =>
      exact {
        union := keeps_unexpected h.toInvariant
        term := keeps_unexpected h.toInvariant
        template := keeps_unexpected h.toInvariant
        arguments := keeps_unexpected h.toInvariant }
  | succ depth ih =>
      exact {
        union := keeps_unionIn h.toInvariant ih
        term := keeps_termIn h.toInvariant ih
        template := keeps_templateIn h ih
        arguments := keeps_argumentsIn h.toInvariant ih }

/-- A type expression keeps what consuming its tokens and splitting its brackets keeps. -/
theorem keeps_wholeType : Keeps inv blame wholeType := by
  have hunion : Keeps inv blame fun parser => unionIn parser.depth parser := by
    constructor
    · intro p union q hp hgives
      exact (keepsTypeAt h p.depth).union.gives hp (gives_union.mp hgives)
    · intro p e q hp hfails
      exact (keepsTypeAt h p.depth).union.fails hp hfails
  unfold wholeType
  exact hunion.bind fun union => (keeps_expect h.toInvariant).bind fun _ => keeps_pure

end Parse
end Guest
