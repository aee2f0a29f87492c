import Guest.Proofs.Parser.Invariants

/-!
# Where a step refuses a token

A step that fails because of a token leaves the parser in front of that token.  What a step does is
decided token by token: as long as the tokens in front of a parser begin a derivation, the step goes
past them, whatever it meets behind them.
-/

namespace Guest

namespace Parse

variable {α β : Type} {p q r : Parser} {s : Sign} {t : Token} {x : Parse α} {f : α → Parse β}

/-- A step fails because of a token and leaves the parser at a place. -/
def Refuses (step : Parse α) (p q : Parser) : Prop :=
  ∃ position expected found, step p = .error (.unexpected position expected found) q

/-- A step stops at a place, with a result or because of a token. -/
def Halts (step : Parse α) (p q : Parser) : Prop :=
  (∃ a, Gives step p a q) ∨ Refuses step p q

/-! ## Refusals of the basic steps -/

theorem not_refuses_pure {a : α} : ¬Refuses (pure a) p q := by
  rintro ⟨position, expected, found, h⟩
  cases h

theorem refuses_bind :
    Refuses (x >>= f) p r ↔ Refuses x p r ∨ ∃ a q, Gives x p a q ∧ Refuses (f a) q r := by
  change (∃ position expected found, EStateM.bind x f p = _) ↔ _
  unfold EStateM.bind Gives Refuses
  cases hx : x p with
  | ok a q =>
      constructor
      · intro h
        exact .inr ⟨a, q, rfl, h⟩
      · rintro (⟨position, expected, found, h⟩ | ⟨a', q', heq, h⟩)
        · cases h
        · cases heq
          exact h
  | error e q => simp

theorem refuses_peek_bind {f : Token → Parse β} :
    Refuses (peek >>= f) p r ↔ Refuses (f p.current.token) p r := Iff.rfl

theorem refuses_unexpected {expected : Expected} :
    Refuses (unexpected expected : Parse α) p q ↔ p = q := by
  constructor
  · rintro ⟨position, expected', found, h⟩
    cases h
    rfl
  · rintro rfl
    exact ⟨_, _, _, rfl⟩

theorem not_refuses_advance : ¬Refuses advance p q := by
  rintro ⟨position, expected, found, h⟩
  unfold advance at h
  split at h <;> cases h

theorem refuses_expect : Refuses (expect t) p q ↔ p.sees t = false ∧ p = q := by
  have heq : expect t p = if p.sees t then advance p else unexpected (.token t) p := rfl
  unfold Refuses
  rw [heq]
  by_cases h : p.sees t = true
  · simp only [h, if_true, Bool.true_eq_false, false_and, iff_false]
    exact not_refuses_advance
  · simp only [h, if_false, true_and, Bool.false_eq_true]
    exact refuses_unexpected

theorem not_refuses_accept : ¬Refuses (accept s) p q := by
  rintro ⟨position, expected, found, h⟩
  unfold accept at h
  split at h
  · cases ha : advance p with
    | ok u r =>
        rw [ha] at h
        cases h
    | error e r =>
        rw [ha] at h
        cases h
        exact not_refuses_advance ⟨_, _, _, ha⟩
  · cases h

/-! ## Steps that blame the next token -/

/-- A step consumes tokens only, and it fails because of the next token only. -/
structure Orderly (step : Parse α) : Prop where
  reads : ∀ ⦃p a q⦄, Gives step p a q → ∃ ts, p.Reads ts q
  refuses : ∀ ⦃p position expected found q⦄,
    step p = .error (.unexpected position expected found) q →
      position = q.current.start ∧ found = q.current.token ∧ ∃ ts, p.Reads ts q

theorem Orderly.halts (hx : Orderly x) (h : Halts x p q) : ∃ ts, p.Reads ts q := by
  rcases h with ⟨a, ha⟩ | ⟨position, expected, found, h⟩
  · exact hx.reads ha
  · exact (hx.refuses h).2.2

/-- A parser has come from another one by consuming tokens. -/
def Came (p q : Parser) : Prop := ∃ ts, p.Reads ts q

/-- An error because of a token blames the next one, where a parser has come. -/
def Blames (p : Parser) (e : ParseError) (q : Parser) : Prop :=
  ∀ ⦃position expected found⦄, e = .unexpected position expected found →
    position = q.current.start ∧ found = q.current.token ∧ Came p q

theorem invariant_came (p : Parser) : Invariant (Came p) (Blames p) := by
  refine ⟨?_, ?_, ?_⟩
  · rintro q r ⟨ts, hts⟩ ha
    exact ⟨_, hts.trans (.of_advance ha)⟩
  · intro q e moved _ _ r position expected found h
    cases h
  · intro q expected hq position expected' found h
    cases h
    exact ⟨rfl, rfl, hq⟩

theorem orderly_of_keeps (h : ∀ p, Keeps (Came p) (Blames p) x) : Orderly x := by
  constructor
  · intro p a q hgives
    exact (h p).gives ⟨[], .nil p⟩ hgives
  · intro p position expected found q hfails
    exact (h p).fails ⟨[], .nil p⟩ hfails rfl

theorem orderly_pure {a : α} : Orderly (pure a) := orderly_of_keeps fun _ => keeps_pure

theorem orderly_peek : Orderly peek := orderly_of_keeps fun _ => keeps_peek

theorem orderly_advance : Orderly advance :=
  orderly_of_keeps fun p => keeps_advance (invariant_came p)

theorem orderly_expect : Orderly (expect t) :=
  orderly_of_keeps fun p => keeps_expect (invariant_came p)

theorem orderly_accept : Orderly (accept s) :=
  orderly_of_keeps fun p => keeps_accept (invariant_came p)

theorem Orderly.bind (hx : Orderly x) (hf : ∀ a, Orderly (f a)) : Orderly (x >>= f) := by
  constructor
  · intro p b r h
    obtain ⟨a, q, ha, hb⟩ := gives_bind.mp h
    obtain ⟨ts, hts⟩ := hx.reads ha
    obtain ⟨us, hus⟩ := (hf a).reads hb
    exact ⟨ts ++ us, hts.trans hus⟩
  · intro p position expected found r h
    change EStateM.bind x f p = _ at h
    unfold EStateM.bind at h
    cases hx' : x p with
    | ok a q =>
        rw [hx'] at h
        obtain ⟨ts, hts⟩ := hx.reads hx'
        obtain ⟨hposition, hfound, us, hus⟩ := (hf a).refuses h
        exact ⟨hposition, hfound, ts ++ us, hts.trans hus⟩
    | error e q =>
        rw [hx'] at h
        cases h
        exact hx.refuses hx'

/-! ## Steps that go past a place -/

/-- A step never stops before it has consumed the next token of a place. -/
def Passes (step : Parse α) (p q : Parser) : Prop :=
  ∀ ⦃r⦄, Halts step p r → ∃ t ts, q.Reads (t :: ts) r

theorem passes_of_gives {a : α} (hx : Gives x p a q) (hf : Passes (f a) q r) :
    Passes (x >>= f) p r := by
  have hnext : ∀ ⦃s⦄, Halts (x >>= f) p s → Halts (f a) q s := by
    rintro s (⟨b, hb⟩ | hrefuses)
    · obtain ⟨a', q', ha, hb⟩ := gives_bind.mp hb
      obtain ⟨rfl, rfl⟩ := hx.eq_of_gives ha
      exact .inl ⟨b, hb⟩
    · rcases refuses_bind.mp hrefuses with ⟨position, expected, found, h⟩ | ⟨a', q', ha, h⟩
      · rw [Gives, h] at hx
        cases hx
      · obtain ⟨rfl, rfl⟩ := hx.eq_of_gives ha
        exact .inr h
  intro s hs
  exact hf (hnext hs)

theorem Passes.bind (hx : Passes x p q) (hf : ∀ a, Orderly (f a)) : Passes (x >>= f) p q := by
  have hnext : ∀ {a r s}, Gives x p a r → Halts (f a) r s → ∃ t ts, q.Reads (t :: ts) s := by
    intro a r s ha hs
    obtain ⟨t, ts, hts⟩ := hx (.inl ⟨a, ha⟩)
    obtain ⟨us, hus⟩ := (hf a).halts hs
    exact ⟨t, ts ++ us, hts.trans hus⟩
  rintro s (⟨b, hb⟩ | hrefuses)
  · obtain ⟨a, r, ha, hb⟩ := gives_bind.mp hb
    exact hnext ha (.inl ⟨b, hb⟩)
  · rcases refuses_bind.mp hrefuses with h | ⟨a, r, ha, h⟩
    · exact hx (.inr h)
    · exact hnext ha (.inr h)

theorem passes_peek_bind {f : Token → Parse β} :
    Passes (peek >>= f) p q ↔ Passes (f p.current.token) p q := Iff.rfl

theorem passes_advance : Passes advance p p := by
  rintro r (⟨_, h⟩ | h)
  · exact ⟨_, [], .of_advance h⟩
  · exact absurd h not_refuses_advance

theorem passes_expect_sign (ht : p.current.token = .sign s) : Passes (expect (.sign s)) p p := by
  rintro r (⟨_, h⟩ | h)
  · exact ⟨_, [], gives_expect_sign.mp h⟩
  · have hsees := (refuses_expect.mp h).1
    rw [show p.sees (.sign s) = true from Token.sameKind_sign.mpr ht] at hsees
    cases hsees

theorem passes_accept (ht : p.current.token = .sign s) : Passes (accept s) p p := by
  rintro r (⟨b, h⟩ | h)
  · rcases gives_accept.mp h with ⟨-, h⟩ | ⟨-, hne, -⟩
    · exact ⟨_, [], h⟩
    · exact absurd ht hne
  · exact absurd h not_refuses_accept

end Parse

namespace Parser

open Parse

variable {p q r : Parser} {t : Token} {ts us more : List Token}

/-! ## Tokens up to a place -/

/-- The tokens in front of a parser begin a list, up to the next token of another place. -/
inductive Shares : Parser → List Token → Parser → Prop where
  | here (p : Parser) (us : List Token) :
      Shares p (p.current.token :: us) p
  | step {p q r : Parser} {us : List Token} :
      Gives advance p () r → Shares r us q → Shares p (p.current.token :: us) q

theorem not_shares_nil : ¬Shares p [] q := by
  intro h
  cases h

theorem shares_cons :
    Shares p (t :: us) q ↔
      p.current.token = t ∧ (p = q ∨ ∃ r, Gives advance p () r ∧ Shares r us q) := by
  constructor
  · intro h
    cases h with
    | here => exact ⟨rfl, .inl rfl⟩
    | step ha hmore => exact ⟨rfl, .inr ⟨_, ha, hmore⟩⟩
  · rintro ⟨rfl, rfl | ⟨r, ha, hmore⟩⟩
    · exact .here p us
    · exact .step ha hmore

theorem shares_append :
    Shares p (ts ++ us) q ↔ Shares p ts q ∨ ∃ r, Reads p ts r ∧ Shares r us q := by
  induction ts generalizing p with
  | nil => simp [not_shares_nil, reads_nil]
  | cons t ts ih =>
      simp only [List.cons_append, shares_cons, ih, reads_cons]
      grind

theorem shares_singleton : Shares p [t] q ↔ p.current.token = t ∧ p = q := by
  simp [shares_cons, not_shares_nil]

/-- What a parser reads and the token behind it are the tokens up to that place. -/
theorem shares_of_reads (h : Reads p ts q) : Shares p (ts ++ q.current.token :: more) q :=
  shares_append.mpr (.inr ⟨q, h, .here q more⟩)

theorem left_le_of_reads_of_aligned (h : Reads p ts q) (hp : p.Aligned) : q.left ≤ p.left := by
  induction h with
  | nil p => exact Nat.le_refl _
  | @cons p q r ts ha _ ih =>
      have hle := ih (aligned_of_advance ha)
      by_cases hend : p.current.token = .endOfText
      · obtain ⟨spanned, moved, hnext, rfl⟩ := gives_advance.mp ha
        rw [Lexer.next_of_rest_nil (hp hend)] at hnext
        cases hnext
        have hzero : r.left ≤ 0 := hle
        omega
      · have hless := left_lt_of_advance ha hend
        omega

/-- Only at the end of a text does a parser stay where it is. -/
theorem not_reads_self (hp : p.current.token ≠ .endOfText) : ¬Reads p (t :: ts) p := by
  intro h
  obtain ⟨-, q, ha, hmore⟩ := reads_cons.mp h
  have hless := left_lt_of_advance ha hp
  have hle := left_le_of_reads_of_aligned hmore (aligned_of_advance ha)
  omega

end Parser
end Guest
