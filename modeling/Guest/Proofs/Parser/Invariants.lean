import Guest.Proofs.Parser.Tokens

/-!
# What the steps of a parser keep

A step consumes tokens one after the other, and it fails at the next token or in the lexer.  So a
property of parsers is kept by every step if it is kept where a token is consumed, and a property of
errors holds of every error if it holds of these two kinds.
-/

namespace Guest
namespace Parse

open Guest.Parser

variable {α β : Type} {inv : Parser → Prop} {blame : ParseError → Parser → Prop} {p q : Parser}
  {x : Parse α} {f : α → Parse β} {t : Token} {s : Sign}

/-- A step keeps a property of parsers, and its errors have a property at the place where they leave
the parser. -/
structure Keeps (inv : Parser → Prop) (blame : ParseError → Parser → Prop) (step : Parse α) :
    Prop where
  gives : ∀ ⦃p a q⦄, inv p → Gives step p a q → inv q
  fails : ∀ ⦃p e q⦄, inv p → step p = .error e q → blame e q

/-- A property that is kept where a token is consumed, with a property of the errors at the next
token and in the lexer. -/
structure Invariant (inv : Parser → Prop) (blame : ParseError → Parser → Prop) : Prop where
  advance : ∀ ⦃p q⦄, inv p → Gives advance p () q → inv q
  lex : ∀ ⦃p e moved⦄, inv p → p.lexer.next = (.error e, moved) → ∀ q, blame (.lex e) q
  unexpected : ∀ ⦃p⦄ expected, inv p →
    blame (.unexpected p.current.start expected p.current.token) p

/-- Consuming a token fails in the lexer. -/
theorem exists_of_fails_advance {e : ParseError} (h : advance p = .error e q) :
    ∃ error moved, p.lexer.next = (.error error, moved) ∧ e = .lex error := by
  unfold advance at h
  split at h
  · cases h
  · next error moved hnext =>
      cases h
      exact ⟨error, moved, hnext, rfl⟩

theorem keeps_pure {a : α} : Keeps inv blame (pure a) := by
  constructor
  · intro p b q hp h
    obtain ⟨-, rfl⟩ := gives_pure.mp h
    exact hp
  · intro p e q _ h
    cases h

theorem Keeps.bind (hx : Keeps inv blame x) (hf : ∀ a, Keeps inv blame (f a)) :
    Keeps inv blame (x >>= f) := by
  constructor
  · intro p b r hp h
    obtain ⟨a, q, ha, hb⟩ := gives_bind.mp h
    exact (hf a).gives (hx.gives hp ha) hb
  · intro p e r hp h
    change EStateM.bind x f p = _ at h
    unfold EStateM.bind at h
    cases hx' : x p with
    | ok a q =>
        rw [hx'] at h
        exact (hf a).fails (hx.gives hp hx') h
    | error e' q =>
        rw [hx'] at h
        cases h
        exact hx.fails hp hx'

theorem keeps_peek : Keeps inv blame peek := by
  constructor
  · intro p t q hp h
    cases h
    exact hp
  · intro p e q _ h
    cases h

variable (h : Invariant inv blame)
include h

theorem keeps_unexpected {expected : Expected} :
    Keeps inv blame (unexpected expected : Parse α) := by
  constructor
  · intro p a q _ hgives
    exact absurd hgives not_gives_unexpected
  · intro p e q hp hfails
    cases hfails
    exact h.unexpected expected hp

theorem keeps_advance : Keeps inv blame advance := by
  constructor
  · intro p _ q hp hgives
    exact h.advance hp hgives
  · intro p e q hp hfails
    obtain ⟨error, moved, hnext, rfl⟩ := exists_of_fails_advance hfails
    exact h.lex hp hnext q

theorem keeps_expect : Keeps inv blame (expect t) := by
  have heq : ∀ p, expect t p = if p.sees t then advance p else unexpected (.token t) p :=
    fun _ => rfl
  constructor
  · intro p _ q hp hgives
    exact h.advance hp (gives_expect.mp hgives).2
  · intro p e q hp hfails
    rw [heq] at hfails
    split at hfails
    · exact (keeps_advance h).fails hp hfails
    · exact (keeps_unexpected h).fails hp hfails

theorem keeps_accept : Keeps inv blame (accept s) := by
  constructor
  · intro p b q hp hgives
    rcases gives_accept.mp hgives with ⟨-, hreads⟩ | ⟨-, -, rfl⟩
    · exact h.advance hp (reads_singleton.mp hreads).2
    · exact hp
  · intro p e q hp hfails
    unfold accept at hfails
    split at hfails
    · cases hadvance : advance p with
      | ok u r =>
          rw [hadvance] at hfails
          cases hfails
      | error e' r =>
          rw [hadvance] at hfails
          cases hfails
          exact (keeps_advance h).fails hp hadvance
    · cases hfails

end Parse
end Guest
