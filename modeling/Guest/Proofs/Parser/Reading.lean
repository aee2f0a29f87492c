import Guest.Parser.Basic

/-!
# What the steps of a parser read

A parser moves on by consuming its next token, and nothing else.  `Reads p ts q` says that it moves
from `p` to `q` by consuming the tokens `ts`.  The results of the basic steps are described by it,
so that what a whole rule reads can be put together from what its parts read.
-/

namespace Guest

section Results

variable {ε α β : Type} {result : Except ε α} {part : α → β}

/-- A known part of a result tells that there is a result. -/
theorem exists_ok_of_map {b : β} (h : result.map part = .ok b) :
    ∃ a, result = .ok a ∧ part a = b := by
  cases result with
  | error error => cases h
  | ok a => exact ⟨a, rfl, Except.ok.inj h⟩

theorem eq_error_of_map {e : ε} (h : result.map part = .error e) : result = .error e := by
  cases result with
  | error error => exact congrArg Except.error (Except.error.inj h)
  | ok a => cases h

end Results

namespace Parse

variable {α β : Type} {p q r : Parser}

/-- A step from one place gives a result and stops at another place. -/
def Gives (step : Parse α) (p : Parser) (a : α) (q : Parser) : Prop := step p = .ok a q

/-- Two steps do the same from a place, whether they succeed or fail. -/
def SameAt (p : Parser) (step other : Parse α) : Prop := step p = other p

/-! ## Sequences of steps -/

theorem gives_pure {a b : α} : Gives (pure a) p b q ↔ a = b ∧ p = q := by
  constructor
  · intro h
    cases h
    exact ⟨rfl, rfl⟩
  · rintro ⟨rfl, rfl⟩
    rfl

theorem gives_bind {x : Parse α} {f : α → Parse β} {b : β} :
    Gives (x >>= f) p b r ↔ ∃ a q, Gives x p a q ∧ Gives (f a) q b r := by
  change EStateM.bind x f p = _ ↔ _
  unfold EStateM.bind Gives
  cases hx : x p with
  | ok a q =>
      constructor
      · intro h
        exact ⟨a, q, rfl, h⟩
      · rintro ⟨a', q', heq, h⟩
        cases heq
        exact h
  | error e q => simp

theorem Gives.bind {x : Parse α} {f : α → Parse β} {a : α} {b : β}
    (hx : Gives x p a q) (hf : Gives (f a) q b r) : Gives (x >>= f) p b r :=
  gives_bind.mpr ⟨a, q, hx, hf⟩

theorem Gives.eq_of_gives {x : Parse α} {a b : α} (h : Gives x p a q) (h' : Gives x p b r) :
    a = b ∧ q = r := by
  unfold Gives at h h'
  rw [h] at h'
  cases h'
  exact ⟨rfl, rfl⟩

theorem SameAt.refl (x : Parse α) : SameAt p x x := rfl

theorem SameAt.bind {x y : Parse α} {f g : α → Parse β} (hxy : SameAt p x y)
    (hfg : ∀ a q, Gives x p a q → SameAt q (f a) (g a)) : SameAt p (x >>= f) (y >>= g) := by
  change EStateM.bind x f p = EStateM.bind y g p
  unfold EStateM.bind
  rw [← show x p = y p from hxy]
  cases hx : x p with
  | ok a q => exact hfg a q hx
  | error e q => rfl

theorem SameAt.bind_left {x y : Parse α} {f : α → Parse β} (hxy : SameAt p x y) :
    SameAt p (x >>= f) (y >>= f) :=
  hxy.bind fun _ _ _ => .refl _

theorem SameAt.bind_right {x : Parse α} {f g : α → Parse β}
    (hfg : ∀ a q, Gives x p a q → SameAt q (f a) (g a)) : SameAt p (x >>= f) (x >>= g) :=
  (SameAt.refl x).bind hfg

/-! ## Looking at the next token -/

theorem gives_peek_bind {f : Token → Parse β} {b : β} :
    Gives (peek >>= f) p b r ↔ Gives (f p.current.token) p b r := Iff.rfl

theorem sameAt_peek_bind {f g : Token → Parse β} :
    SameAt p (peek >>= f) (peek >>= g) ↔ SameAt p (f p.current.token) (g p.current.token) :=
  Iff.rfl

theorem not_gives_unexpected {expected : Expected} {a : α} :
    ¬Gives (unexpected expected) p a q := by
  intro h
  cases h

end Parse

namespace Token

theorem sameKind_sign {t : Token} {s : Sign} :
    t.sameKind (.sign s) = true ↔ t = .sign s := by
  cases t <;> simp [sameKind]

theorem sameKind_endOfText {t : Token} :
    t.sameKind .endOfText = true ↔ t = .endOfText := by
  cases t <;> simp [sameKind]

end Token

namespace Parser

open Parse

variable {p q r : Parser} {t : Token} {ts us : List Token} {s : Sign}

/-! ## Sequences of tokens -/

/-- The parser moves to another place by consuming tokens. -/
inductive Reads : Parser → List Token → Parser → Prop where
  | nil (p : Parser) :
      Reads p [] p
  | cons {p q r : Parser} {ts : List Token} :
      Gives advance p () q → Reads q ts r → Reads p (p.current.token :: ts) r

theorem Reads.trans (h : Reads p ts q) (h' : Reads q us r) : Reads p (ts ++ us) r := by
  induction h with
  | nil p => exact h'
  | cons ha _ ih => exact .cons ha (ih h')

theorem Reads.of_advance (h : Gives advance p () q) : Reads p [p.current.token] q :=
  .cons h (.nil q)

theorem reads_nil : Reads p [] q ↔ p = q := by
  constructor
  · intro h
    cases h
    rfl
  · rintro rfl
    exact .nil p

theorem reads_cons :
    Reads p (t :: ts) r ↔ p.current.token = t ∧ ∃ q, Gives advance p () q ∧ Reads q ts r := by
  constructor
  · intro h
    cases h with
    | cons ha hr => exact ⟨rfl, _, ha, hr⟩
  · rintro ⟨rfl, q, ha, hr⟩
    exact .cons ha hr

theorem reads_append : Reads p (ts ++ us) r ↔ ∃ q, Reads p ts q ∧ Reads q us r := by
  constructor
  · intro h
    induction ts generalizing p with
    | nil => exact ⟨p, .nil p, h⟩
    | cons t ts ih =>
        obtain ⟨ht, q, ha, hr⟩ := reads_cons.mp h
        obtain ⟨q', h₁, h₂⟩ := ih hr
        exact ⟨q', reads_cons.mpr ⟨ht, q, ha, h₁⟩, h₂⟩
  · rintro ⟨q, h₁, h₂⟩
    exact h₁.trans h₂

theorem reads_singleton :
    Reads p [t] q ↔ p.current.token = t ∧ Gives advance p () q := by
  simp [reads_cons, reads_nil]

theorem seesSign_iff : p.seesSign s = true ↔ p.current.token = .sign s :=
  Token.sameKind_sign

end Parser

namespace Parse

open Guest.Parser

variable {p q : Parser} {s : Sign}

/-! ## Consuming an expected token -/

theorem gives_expect {t : Token} :
    Gives (expect t) p () q ↔ p.sees t = true ∧ Gives advance p () q := by
  unfold expect Gives
  by_cases h : p.sees t = true
  · simp [h]
  · simp [h, unexpected]

theorem gives_expect_sign : Gives (expect (.sign s)) p () q ↔ Reads p [.sign s] q := by
  rw [gives_expect, reads_singleton]
  exact and_congr_left fun _ => seesSign_iff

theorem gives_expect_endOfText : Gives (expect .endOfText) p () q ↔ Reads p [.endOfText] q := by
  rw [gives_expect, reads_singleton]
  exact and_congr_left fun _ => Token.sameKind_endOfText

/-- A sign that is not there is not consumed. -/
theorem gives_accept_false (h : p.current.token ≠ .sign s) : Gives (accept s) p false p := by
  have hs : p.seesSign s ≠ true := fun hs => h (seesSign_iff.mp hs)
  simp [Gives, accept, hs]

theorem gives_accept_true (h : Reads p [.sign s] q) : Gives (accept s) p true q := by
  obtain ⟨ht, ha⟩ := reads_singleton.mp h
  unfold Gives at ha
  simp [Gives, accept, seesSign_iff.mpr ht, ha]

theorem gives_accept {b : Bool} :
    Gives (accept s) p b q ↔
      (b = true ∧ Reads p [.sign s] q) ∨ (b = false ∧ p.current.token ≠ .sign s ∧ p = q) := by
  by_cases hs : p.current.token = .sign s
  · have hsees : p.seesSign s = true := seesSign_iff.mpr hs
    unfold Gives accept
    simp only [hsees, if_true, reads_singleton, hs, Gives]
    cases ha : advance p with
    | ok u r => simp [eq_comm]
    | error e r => simp
  · constructor
    · intro h
      obtain ⟨rfl, rfl⟩ := h.eq_of_gives (gives_accept_false hs)
      exact .inr ⟨rfl, hs, rfl⟩
    · rintro (⟨rfl, h⟩ | ⟨rfl, -, rfl⟩)
      · exact absurd (reads_singleton.mp h).1 hs
      · exact gives_accept_false hs

end Parse

end Guest
