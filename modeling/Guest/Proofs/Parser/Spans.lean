import Guest.Proofs.Expr.Exactness

/-!
# Tokens with their places

A parser that consumes tokens passes over the items of its lexer in order.  `Walks` tells which
items these are, with the places at which the tokens stand in the source.
-/

namespace Guest
namespace Parser

open Parse

variable {p q r : Parser} {spans more : List Spanned} {last : Spanned} {ts : List Token}
  {lexer : Lexer} {count : Nat}

/-- The parser moves to another place over tokens at their places. -/
inductive Walks : Parser → List Spanned → Parser → Prop where
  | nil (p : Parser) :
      Walks p [] p
  | cons {p q r : Parser} {spans : List Spanned} :
      Gives advance p () q → Walks q spans r → Walks p (p.current :: spans) r

theorem Walks.reads (h : Walks p spans q) : Reads p (spans.map Spanned.token) q := by
  induction h with
  | nil p => exact .nil p
  | cons ha _ ih => exact .cons ha ih

theorem exists_walks_of_reads (h : Reads p ts q) :
    ∃ spans, spans.map Spanned.token = ts ∧ Walks p spans q := by
  induction h with
  | nil p => exact ⟨[], rfl, .nil p⟩
  | @cons p q r ts ha _ ih =>
      obtain ⟨spans, hspans, hwalks⟩ := ih
      exact ⟨p.current :: spans, by rw [List.map_cons, hspans], .cons ha hwalks⟩

theorem walks_nil : Walks p [] q ↔ p = q := by
  constructor
  · intro h
    cases h
    rfl
  · rintro rfl
    exact .nil p

theorem walks_cons {spanned : Spanned} :
    Walks p (spanned :: spans) r ↔
      p.current = spanned ∧ ∃ q, Gives advance p () q ∧ Walks q spans r := by
  constructor
  · intro h
    cases h with
    | cons ha hmore => exact ⟨rfl, _, ha, hmore⟩
  · rintro ⟨rfl, q, ha, hmore⟩
    exact .cons ha hmore

theorem walks_append : Walks p (spans ++ more) r ↔ ∃ q, Walks p spans q ∧ Walks q more r := by
  induction spans generalizing p with
  | nil => simp [walks_nil]
  | cons spanned spans ih =>
      simp only [List.cons_append, walks_cons, ih]
      grind

/-- The next token with its place and at most `count` items behind it. -/
def itemsAhead (count : Nat) (p : Parser) : List (Except LexError Spanned) :=
  if p.current.token = .endOfText then [.ok p.current]
  else .ok p.current :: Lexer.takeItems count p.lexer

theorem exists_itemsAhead_eq (count : Nat) (p : Parser) :
    ∃ rest, itemsAhead count p = .ok p.current :: rest := by
  unfold itemsAhead
  split <;> exact ⟨_, rfl⟩

theorem takeItems_of_next {spanned : Spanned} {moved : Lexer} {consumed : Nat}
    (h : lexer.next = (.ok spanned, moved)) :
    Lexer.takeItems (count + 1) lexer = itemsAhead count ⟨moved, spanned, consumed⟩ := by
  by_cases hend : spanned.token = .endOfText
  · simp [Lexer.takeItems, h, itemsAhead, Lexer.isLast, hend]
  · simp [Lexer.takeItems, h, itemsAhead, Lexer.isLast, hend]

theorem itemsAhead_of_walks (h : Walks p spans q) (hends : Endless (spans.map Spanned.token)) :
    itemsAhead (spans.length + count) p = spans.map .ok ++ itemsAhead count q := by
  induction h with
  | nil p => simp
  | @cons p q r spans ha _ ih =>
      rw [List.map_cons, Endless, List.mem_cons, not_or] at hends
      obtain ⟨spanned, moved, hnext, rfl⟩ := gives_advance.mp ha
      rw [show (p.current :: spans).length + count = spans.length + count + 1 by
        simp only [List.length_cons]; omega]
      rw [itemsAhead, if_neg (Ne.symm hends.1), takeItems_of_next hnext, ih hends.2]
      rfl

/-- The items of a lexer from which a parser starts. -/
theorem items_eq_itemsAhead (h : ofLexer lexer = .ok p) :
    lexer.items = itemsAhead lexer.rest.length p := by
  obtain ⟨spanned, moved, hnext, rfl⟩ := ofLexer_eq_ok.mp h
  exact takeItems_of_next hnext

/-- What a parser walks over are items of its lexer, and so is what is in front of it then. -/
theorem exists_items_eq_append (hp : ofLexer lexer = .ok p) (h : Walks p spans q)
    (hends : Endless (spans.map Spanned.token)) :
    ∃ count, lexer.items = spans.map .ok ++ itemsAhead count q := by
  have hlength := left_add_length_le h.reads hends
  rw [List.length_map] at hlength
  have hleft := left_le_of_ofLexer hp
  obtain ⟨count, hcount⟩ :=
    Nat.exists_eq_add_of_le (show spans.length ≤ lexer.rest.length by omega)
  exact ⟨count, by rw [items_eq_itemsAhead hp, hcount, itemsAhead_of_walks h hends]⟩

/-- The token behind those that a parser walks over is an item too. -/
theorem exists_items_eq (hp : ofLexer lexer = .ok p) (h : Walks p spans q)
    (hends : Endless (spans.map Spanned.token)) :
    ∃ rest, lexer.items = spans.map .ok ++ .ok q.current :: rest := by
  obtain ⟨count, hitems⟩ := exists_items_eq_append hp h hends
  obtain ⟨rest, hrest⟩ := exists_itemsAhead_eq count q
  exact ⟨rest, by rw [hitems, hrest]⟩

theorem itemsAhead_of_endOfText (hp : p.current.token = .endOfText) :
    itemsAhead count p = [.ok p.current] := by
  rw [itemsAhead, if_pos hp]

/-- A parser walks over all items up to the end of the text. -/
theorem exists_walks_of_itemsAhead (h : itemsAhead count p = spans.map .ok ++ [.ok last]) :
    ∃ q, Walks p spans q ∧ q.current = last ∧ Endless (spans.map Spanned.token) := by
  induction spans generalizing p count with
  | nil =>
      obtain ⟨rest, hrest⟩ := exists_itemsAhead_eq count p
      rw [hrest, List.map_nil, List.nil_append] at h
      exact ⟨p, .nil p, Except.ok.inj (List.cons.inj h).1, List.not_mem_nil⟩
  | cons spanned spans ih =>
      by_cases hp : p.current.token = .endOfText
      · rw [itemsAhead_of_endOfText hp] at h
        simp at h
      rw [itemsAhead, if_neg hp, List.map_cons, List.cons_append, List.cons.injEq] at h
      obtain ⟨hcurrent, hrest⟩ := h
      obtain rfl := Except.ok.inj hcurrent
      cases count with
      | zero => simp [Lexer.takeItems] at hrest
      | succ count =>
          cases hnext : p.lexer.next with
          | mk item moved =>
              cases item with
              | ok spanned =>
                  have hadvance := gives_advance.mpr ⟨spanned, moved, hnext, rfl⟩
                  obtain ⟨q, hwalks, hq, hends⟩ := ih ((takeItems_of_next hnext).symm.trans hrest)
                  exact ⟨q, .cons hadvance hwalks, hq, List.not_mem_cons_of_ne_of_not_mem
                    (Ne.symm hp) hends⟩
              | error error =>
                  simp only [Lexer.takeItems, hnext, Lexer.isLast, if_true] at hrest
                  cases spans <;> simp at hrest

/-- The items of a lexer are tokens up to the end of the text exactly if a parser that starts from
it walks over them to the end. -/
theorem items_eq_iff :
    lexer.items = spans.map .ok ++ [.ok last] ∧ last.token = .endOfText ↔
      ∃ p q, ofLexer lexer = .ok p ∧ Walks p spans q ∧ Endless (spans.map Spanned.token) ∧
        q.current = last ∧ last.token = .endOfText := by
  constructor
  · rintro ⟨h, hlast⟩
    cases hnext : lexer.next with
    | mk item moved =>
        cases item with
        | ok spanned =>
            have hp : ofLexer lexer = .ok ⟨moved, spanned, 0⟩ :=
              ofLexer_eq_ok.mpr ⟨spanned, moved, hnext, rfl⟩
            rw [items_eq_itemsAhead hp] at h
            obtain ⟨q, hwalks, hq, hends⟩ := exists_walks_of_itemsAhead h
            exact ⟨_, q, hp, hwalks, hends, hq, hlast⟩
        | error error =>
            simp only [Lexer.items, Lexer.takeItems, hnext, Lexer.isLast, if_true] at h
            cases spans <;> simp at h
  · rintro ⟨p, q, hp, hwalks, hends, rfl, hlast⟩
    obtain ⟨count, hitems⟩ := exists_items_eq_append hp hwalks hends
    exact ⟨by rw [hitems, itemsAhead_of_endOfText hlast], hlast⟩

end Parser
end Guest
