import Guest.Proofs.Expr.Completeness
import Guest.Proofs.Parser.Tokens

/-!
# The depth of the parser of expressions

The recursion of the parser ends by itself on every text: the depth that the length of the text
determines is never used up, and a greater one changes nothing, neither a tree nor an error.  Every
function that consumes a token leaves fewer tokens, and the functions that consume nothing before
they call each other do so in a fixed order.
-/

namespace Guest

namespace Grammar

open Guest.Parser

variable {t : Token} {ts us : List Token}

/-! ## No rule contains the end of the text -/

theorem endless_nil : Endless [] := by
  simp [Endless]

theorem endless_cons : Endless (t :: ts) ↔ t ≠ .endOfText ∧ Endless ts := by
  simp [Endless, eq_comm]

theorem endless_append : Endless (ts ++ us) ↔ Endless ts ∧ Endless us := by
  simp [Endless]

theorem endless_sign_cons {s : Sign} : Endless (.sign s :: ts) ↔ Endless ts := by
  simp [endless_cons]

theorem ne_endOfText_of_unaryOp? {op : UnaryOp} (h : t.unaryOp? = some op) :
    t ≠ .endOfText := by
  rintro rfl
  cases h

theorem ne_endOfText_of_binaryOp? {op : BinaryOp} (h : t.binaryOp? = some op) :
    t ≠ .endOfText := by
  rintro rfl
  cases h

theorem endless_prefixes {ops : List UnaryOp} (h : Prefixes ts ops) : Endless ts := by
  induction h with
  | nil => exact endless_nil
  | cons hop _ ih => exact endless_cons.mpr ⟨ne_endOfText_of_unaryOp? hop, ih⟩

theorem ne_endOfText_of_entryKey {key : String} (h : EntryKey t key) : t ≠ .endOfText := by
  cases h <;> simp

mutual

theorem endless_expression {ts : List Token} {e : Expr} : Expression ts e → Endless ts
  | .chain h => endless_chain h
  | .conditional htest htrue hfalse => by
      simp only [endless_append, endless_sign_cons]
      exact ⟨endless_chain htest, endless_expression htrue, endless_expression hfalse⟩
  | .elvis htest hfalse => by
      simp only [endless_append, endless_sign_cons]
      exact ⟨endless_chain htest, endless_expression hfalse⟩

theorem endless_chain {level : Nat} {ts : List Token} {e : Expr} : Chain level ts e → Endless ts
  | .operands _ hhead htail => endless_append.mpr ⟨endless_chain hhead, endless_tail htail⟩
  | .unary h => endless_unary h

theorem endless_tail {level : Nat} {ts : List Token} {tail : List (BinaryOp × Expr)} :
    Tail level ts tail → Endless ts
  | .nil => endless_nil
  | .cons hop _ hright htail =>
      endless_cons.mpr ⟨ne_endOfText_of_binaryOp? hop,
        endless_append.mpr ⟨endless_chain hright, endless_tail htail⟩⟩

theorem endless_unary {ts : List Token} {e : Expr} : Unary ts e → Endless ts
  | .prefixes hops hpower => endless_append.mpr ⟨endless_prefixes hops, endless_power hpower⟩

theorem endless_power {ts : List Token} {e : Expr} : Power ts e → Endless ts
  | .base h => endless_access h
  | .power hbase hexponent => by
      simp only [endless_append, endless_sign_cons]
      exact ⟨endless_access hbase, endless_unary hexponent⟩

theorem endless_access {ts : List Token} {e : Expr} : Access ts e → Endless ts
  | .keys hbase hkeys => endless_append.mpr ⟨endless_primary hbase, endless_keys hkeys⟩

theorem endless_keys {ts : List Token} {keys : List Key} : Keys ts keys → Endless ts
  | .nil => endless_nil
  | .dot hkeys => by
      simp only [endless_cons]
      exact ⟨by simp, by simp, endless_keys hkeys⟩
  | .text hkey hkeys => by
      simp only [endless_append, endless_sign_cons]
      exact ⟨endless_expression hkey, endless_keys hkeys⟩
  | .computed hkey _ hkeys => by
      simp only [endless_append, endless_sign_cons]
      exact ⟨endless_expression hkey, endless_keys hkeys⟩

theorem endless_primary {ts : List Token} {e : Expr} : Primary ts e → Endless ts
  | .number _ => by simp [Endless]
  | .string _ => by simp [Endless]
  | .boolean _ => by simp [Endless]
  | .null => by simp [Endless]
  | .identifier _ => by simp [Endless]
  | .call hargs => by
      simp only [endless_cons, endless_append]
      exact ⟨by simp, by simp, endless_sequence hargs, by simp, endless_nil⟩
  | .group h => by
      simp only [endless_append, endless_sign_cons]
      exact ⟨endless_expression h, endless_nil⟩
  | .array hitems => by
      simp only [endless_append, endless_sign_cons]
      exact ⟨endless_sequence hitems, endless_nil⟩
  | .object hentries => by
      simp only [endless_append, endless_sign_cons]
      exact ⟨endless_entrySequence hentries, endless_nil⟩

theorem endless_sequence {ts : List Token} {items : List Expr} : Sequence ts items → Endless ts
  | .nil => endless_nil
  | .items h => endless_items h

theorem endless_items {ts : List Token} {items : List Expr} : Items ts items → Endless ts
  | .last h => endless_expression h
  | .more h hitems => by
      simp only [endless_append, endless_sign_cons]
      exact ⟨endless_expression h, endless_items hitems⟩

theorem endless_entrySequence {ts : List Token} {entries : Entries} :
    EntrySequence ts entries → Endless ts
  | .nil => endless_nil
  | .pairs h => endless_pairs h

theorem endless_pairs {ts : List Token} {entries : Entries} : Pairs ts entries → Endless ts
  | .last hkey hvalue => by
      rw [endless_cons, endless_sign_cons]
      exact ⟨ne_endOfText_of_entryKey hkey, endless_expression hvalue⟩
  | .more hkey hvalue hpairs => by
      rw [endless_cons, endless_sign_cons, endless_append, endless_sign_cons]
      exact ⟨ne_endOfText_of_entryKey hkey, endless_expression hvalue, endless_pairs hpairs⟩

end

end Grammar

namespace Parse

open Guest.Parser Grammar

variable {α : Type} {p q : Parser} {depth level : Nat} {close : Sign} {ts : List Token}

/-! ## Progress of the rules -/

theorem left_le_of_reads (h : Reads p ts q) (hts : Endless ts) : q.left ≤ p.left := by
  have hle := left_add_length_le h hts
  omega

theorem left_lt_of_reads (h : Reads p ts q) (hts : Endless ts) (hpos : 0 < ts.length) :
    q.left < p.left := by
  have hle := left_add_length_le h hts
  omega

theorem left_lt_of_sign {s : Sign} (h : Reads p [.sign s] q) : q.left < p.left :=
  left_lt_of_reads h (endless_sign_cons.mpr endless_nil) (by simp)

theorem left_lt_of_advance {t : Token} (ht : p.current.token = t) (hend : t ≠ .endOfText)
    (h : Gives advance p () q) : q.left < p.left :=
  Parser.left_lt_of_advance h (ht ▸ hend)

theorem left_lt_of_expression {e : Expr} (h : Gives (expressionIn depth) p e q) :
    q.left < p.left := by
  obtain ⟨ts, hr, hrule⟩ := (soundAt depth).expression h
  obtain ⟨t, us, rfl, -⟩ := expression_head hrule
  exact left_lt_of_reads hr (endless_expression hrule) (by simp)

theorem left_lt_of_chain {e : Expr} (hlevel : level ≤ BinaryOp.tightestChain + 1)
    (h : Gives (chainIn depth level) p e q) : q.left < p.left := by
  obtain ⟨ts, hr, hrule⟩ := (soundAt depth).chain level hlevel h
  exact left_lt_of_reads hr (endless_chain hrule) (chain_length_pos hrule)

theorem left_lt_of_access {e : Expr} (h : Gives (accessIn depth) p e q) : q.left < p.left := by
  obtain ⟨ts, hr, hrule⟩ := (soundAt depth).access h
  obtain ⟨t, us, rfl, -⟩ := access_head hrule
  exact left_lt_of_reads hr (endless_access hrule) (by simp)

theorem left_lt_of_primary {e : Expr} (h : Gives (primaryIn depth) p e q) :
    q.left < p.left := by
  obtain ⟨ts, hr, hrule⟩ := (soundAt depth).primary h
  exact left_lt_of_reads hr (endless_primary hrule) (primary_length_pos hrule)

theorem left_le_of_ops {ops : List UnaryOp} (h : Gives (opsIn depth) p ops q) :
    q.left ≤ p.left := by
  obtain ⟨us, hr, hrule⟩ := (soundAt depth).ops h
  exact left_le_of_reads hr (endless_prefixes hrule)

theorem left_lt_of_objectKey {key : String} (h : Gives objectKey p key q) :
    q.left < p.left := by
  obtain ⟨_, hr, t, rfl, hkey⟩ := sound_objectKey h
  have hends := endless_cons.mpr ⟨ne_endOfText_of_entryKey hkey, endless_nil⟩
  exact left_lt_of_reads hr hends (by simp)

theorem left_lt_of_propertyName {name : String} (h : Gives propertyName p name q) :
    q.left < p.left := by
  obtain ⟨_, hr, rfl⟩ := sound_propertyName h
  exact left_lt_of_reads hr (endless_cons.mpr ⟨by simp, endless_nil⟩) (by simp)

/-! ## Depths that make no difference -/

/-- At a depth that covers the tokens ahead and a constant cost, one more changes nothing. -/
def Steady (step : Nat → Parse α) (cost depth : Nat) : Prop :=
  ∀ ⦃p : Parser⦄, 24 * p.left + cost ≤ depth → SameAt p (step depth) (step (depth + 1))

/-- The functions of the parser do not depend on a depth that is great enough. -/
structure SteadyAt (depth : Nat) : Prop where
  expression : Steady expressionIn 16 depth
  chain : ∀ level, level ≤ BinaryOp.tightestChain + 1 → Steady (chainIn · level) (16 - level) depth
  tail : ∀ level, level ≤ BinaryOp.tightestChain → Steady (tailIn · level) 1 depth
  unary : Steady unaryIn 4 depth
  ops : Steady opsIn 1 depth
  power : Steady powerIn 3 depth
  access : Steady accessIn 2 depth
  keys : Steady keysIn 1 depth
  primary : Steady primaryIn 1 depth
  sequence : ∀ close, Steady (sequenceIn · close) 18 depth
  items : Steady itemsIn 17 depth
  entries : Steady entriesIn 2 depth
  pairs : Steady pairsIn 1 depth

theorem steady_expressionIn (ih : SteadyAt depth) : Steady expressionIn 16 (depth + 1) := by
  intro p hd
  rw [expressionIn.eq_2 depth, expressionIn.eq_2 (depth + 1)]
  refine (ih.chain 1 (by decide) (by omega)).bind fun test p₁ htest => ?_
  have h₁ := left_lt_of_chain (by decide) htest
  rw [sameAt_peek_bind]
  split
  · next ht =>
      refine .bind_right fun _ p₂ ha => ?_
      have h₂ := left_lt_of_advance ht (by simp) ha
      refine (ih.expression (by omega)).bind fun whenTrue p₃ htrue => ?_
      have h₃ := left_lt_of_expression htrue
      refine .bind_right fun _ p₄ hcolon => ?_
      have h₄ := left_lt_of_sign (gives_expect_sign.mp hcolon)
      exact (ih.expression (by omega)).bind_left
  · next ht =>
      refine .bind_right fun _ p₂ ha => ?_
      have h₂ := left_lt_of_advance ht (by simp) ha
      exact (ih.expression (by omega)).bind_left
  · exact .refl _

theorem steady_chainIn (ih : SteadyAt depth) (hlevel : level ≤ BinaryOp.tightestChain + 1) :
    Steady (chainIn · level) (16 - level) (depth + 1) := by
  intro p hd
  simp only [BinaryOp.tightestChain] at hlevel
  dsimp only
  rw [chainIn.eq_2 _ depth, chainIn.eq_2 _ (depth + 1)]
  split
  · exact ih.unary (by omega)
  · next htight =>
      simp only [BinaryOp.tightestChain] at htight
      refine (ih.chain (level + 1) (by simp [BinaryOp.tightestChain]; omega)
        (by omega)).bind fun head p₁ hhead => ?_
      have h₁ := left_lt_of_chain (by simp [BinaryOp.tightestChain]; omega) hhead
      exact (ih.tail level (by simp [BinaryOp.tightestChain]; omega) (by omega)).bind_left

theorem steady_tailIn (ih : SteadyAt depth) (hlevel : level ≤ BinaryOp.tightestChain) :
    Steady (tailIn · level) 1 (depth + 1) := by
  intro p hd
  dsimp only
  rw [tailIn.eq_2 _ depth, tailIn.eq_2 _ (depth + 1), sameAt_peek_bind]
  split
  · exact .refl _
  · next op hop =>
      obtain ⟨htoken, -⟩ := chainOp?_eq_some.mp hop
      refine .bind_right fun _ p₁ ha => ?_
      have h₁ := left_lt_of_advance rfl (ne_endOfText_of_binaryOp? htoken) ha
      refine (ih.chain (level + 1) (by omega) (by omega)).bind fun right p₂ hright => ?_
      have h₂ := left_lt_of_chain (by omega) hright
      exact (ih.tail level hlevel (by omega)).bind_left

theorem steady_unaryIn (ih : SteadyAt depth) : Steady unaryIn 4 (depth + 1) := by
  intro p hd
  rw [unaryIn.eq_2 depth, unaryIn.eq_2 (depth + 1)]
  refine (ih.ops (by omega)).bind fun ops p₁ hops => ?_
  have h₁ := left_le_of_ops hops
  split
  · exact ih.power (by omega)
  · exact (ih.power (by omega)).bind_left

theorem steady_opsIn (ih : SteadyAt depth) : Steady opsIn 1 (depth + 1) := by
  intro p hd
  rw [opsIn.eq_2 depth, opsIn.eq_2 (depth + 1), sameAt_peek_bind]
  split
  · exact .refl _
  · next op hop =>
      refine .bind_right fun _ p₁ ha => ?_
      have h₁ := left_lt_of_advance rfl (ne_endOfText_of_unaryOp? hop) ha
      exact (ih.ops (by omega)).bind_left

theorem steady_powerIn (ih : SteadyAt depth) : Steady powerIn 3 (depth + 1) := by
  intro p hd
  rw [powerIn.eq_2 depth, powerIn.eq_2 (depth + 1)]
  refine (ih.access (by omega)).bind fun base p₁ hbase => ?_
  have h₁ := left_lt_of_access hbase
  refine .bind_right fun more p₂ hmore => ?_
  rcases gives_accept.mp hmore with ⟨rfl, hstar⟩ | ⟨rfl, -, rfl⟩
  · have h₂ := left_lt_of_sign hstar
    exact (ih.unary (by omega)).bind_left
  · exact .refl _

theorem steady_accessIn (ih : SteadyAt depth) : Steady accessIn 2 (depth + 1) := by
  intro p hd
  rw [accessIn.eq_2 depth, accessIn.eq_2 (depth + 1)]
  refine (ih.primary (by omega)).bind fun base p₁ hbase => ?_
  have h₁ := left_lt_of_primary hbase
  exact (ih.keys (by omega)).bind_left

theorem steady_keysIn (ih : SteadyAt depth) : Steady keysIn 1 (depth + 1) := by
  intro p hd
  rw [keysIn.eq_2 depth, keysIn.eq_2 (depth + 1), sameAt_peek_bind]
  split
  · next ht =>
      refine .bind_right fun _ p₁ ha => ?_
      have h₁ := left_lt_of_advance ht (by simp) ha
      refine .bind_right fun name p₂ hname => ?_
      have h₂ := left_lt_of_propertyName hname
      exact (ih.keys (by omega)).bind_left
  · next ht =>
      refine .bind_right fun _ p₁ ha => ?_
      have h₁ := left_lt_of_advance ht (by simp) ha
      refine (ih.expression (by omega)).bind fun key p₂ hkey => ?_
      have h₂ := left_lt_of_expression hkey
      refine .bind_right fun _ p₃ hclose => ?_
      have h₃ := left_lt_of_sign (gives_expect_sign.mp hclose)
      exact (ih.keys (by omega)).bind_left
  · exact .refl _

theorem steady_primaryIn (ih : SteadyAt depth) : Steady primaryIn 1 (depth + 1) := by
  intro p hd
  rw [primaryIn.eq_2 depth, primaryIn.eq_2 (depth + 1), sameAt_peek_bind]
  split
  · exact .refl _
  · exact .refl _
  · exact .refl _
  · exact .refl _
  · next ht =>
      refine .bind_right fun _ p₁ ha => ?_
      have h₁ := left_lt_of_advance ht (by simp) ha
      refine .bind_right fun called p₂ hcalled => ?_
      rcases gives_accept.mp hcalled with ⟨rfl, hopen⟩ | ⟨rfl, -, rfl⟩
      · have h₂ := left_lt_of_sign hopen
        exact (ih.sequence _ (by omega)).bind_left
      · exact .refl _
  · next ht =>
      refine .bind_right fun _ p₁ ha => ?_
      have h₁ := left_lt_of_advance ht (by simp) ha
      exact (ih.expression (by omega)).bind_left
  · next ht =>
      refine .bind_right fun _ p₁ ha => ?_
      have h₁ := left_lt_of_advance ht (by simp) ha
      exact (ih.sequence _ (by omega)).bind_left
  · next ht =>
      refine .bind_right fun _ p₁ ha => ?_
      have h₁ := left_lt_of_advance ht (by simp) ha
      exact (ih.entries (by omega)).bind_left
  · exact .refl _

theorem steady_sequenceIn (ih : SteadyAt depth) :
    Steady (sequenceIn · close) 18 (depth + 1) := by
  intro p hd
  dsimp only
  rw [sequenceIn.eq_2 _ depth, sequenceIn.eq_2 _ (depth + 1)]
  refine .bind_right fun empty p₁ hempty => ?_
  rcases gives_accept.mp hempty with ⟨rfl, -⟩ | ⟨rfl, -, rfl⟩
  · exact .refl _
  · exact (ih.items (by omega)).bind_left

theorem steady_itemsIn (ih : SteadyAt depth) : Steady itemsIn 17 (depth + 1) := by
  intro p hd
  rw [itemsIn.eq_2 depth, itemsIn.eq_2 (depth + 1)]
  refine (ih.expression (by omega)).bind fun item p₁ hitem => ?_
  have h₁ := left_lt_of_expression hitem
  refine .bind_right fun more p₂ hmore => ?_
  rcases gives_accept.mp hmore with ⟨rfl, hcomma⟩ | ⟨rfl, -, rfl⟩
  · have h₂ := left_lt_of_sign hcomma
    exact (ih.items (by omega)).bind_left
  · exact .refl _

theorem steady_entriesIn (ih : SteadyAt depth) : Steady entriesIn 2 (depth + 1) := by
  intro p hd
  rw [entriesIn.eq_2 depth, entriesIn.eq_2 (depth + 1)]
  refine .bind_right fun empty p₁ hempty => ?_
  rcases gives_accept.mp hempty with ⟨rfl, -⟩ | ⟨rfl, -, rfl⟩
  · exact .refl _
  · exact (ih.pairs (by omega)).bind_left

theorem steady_pairsIn (ih : SteadyAt depth) : Steady pairsIn 1 (depth + 1) := by
  intro p hd
  rw [pairsIn.eq_2 depth, pairsIn.eq_2 (depth + 1)]
  refine .bind_right fun key p₁ hkey => ?_
  have h₁ := left_lt_of_objectKey hkey
  refine .bind_right fun _ p₂ hcolon => ?_
  have h₂ := left_lt_of_sign (gives_expect_sign.mp hcolon)
  refine (ih.expression (by omega)).bind fun value p₃ hvalue => ?_
  have h₃ := left_lt_of_expression hvalue
  refine .bind_right fun more p₄ hmore => ?_
  rcases gives_accept.mp hmore with ⟨rfl, hcomma⟩ | ⟨rfl, -, rfl⟩
  · have h₄ := left_lt_of_sign hcomma
    exact (ih.pairs (by omega)).bind_left
  · exact .refl _

/-- No cost fits into no depth. -/
theorem steady_zero {step : Nat → Parse α} {cost : Nat} (hcost : 0 < cost) :
    Steady step cost 0 := by
  intro p hd
  omega

/-- No function of the parser depends on a depth that is great enough. -/
theorem steadyAt (depth : Nat) : SteadyAt depth := by
  induction depth with
  | zero =>
      exact {
        expression := steady_zero (by decide)
        chain := fun level hlevel =>
          steady_zero (by simp only [BinaryOp.tightestChain] at hlevel; omega)
        tail := fun _ _ => steady_zero (by decide)
        unary := steady_zero (by decide)
        ops := steady_zero (by decide)
        power := steady_zero (by decide)
        access := steady_zero (by decide)
        keys := steady_zero (by decide)
        primary := steady_zero (by decide)
        sequence := fun _ => steady_zero (by decide)
        items := steady_zero (by decide)
        entries := steady_zero (by decide)
        pairs := steady_zero (by decide) }
  | succ depth ih =>
      exact {
        expression := steady_expressionIn ih
        chain := fun _ => steady_chainIn ih
        tail := fun _ => steady_tailIn ih
        unary := steady_unaryIn ih
        ops := steady_opsIn ih
        power := steady_powerIn ih
        access := steady_accessIn ih
        keys := steady_keysIn ih
        primary := steady_primaryIn ih
        sequence := fun _ => steady_sequenceIn ih
        items := steady_itemsIn ih
        entries := steady_entriesIn ih
        pairs := steady_pairsIn ih }

/-- A depth beyond the one that the text determines changes nothing. -/
theorem expressionIn_sameAt_expression (h : p.depth ≤ depth) :
    SameAt p (expressionIn depth) expression := by
  obtain ⟨more, rfl⟩ := Nat.exists_eq_add_of_le h
  induction more with
  | zero => rfl
  | succ more ih =>
      have hleft := left_le_depth p
      have hsteady := (steadyAt (p.depth + more)).expression (p := p) (by omega)
      have hbefore := ih (by omega)
      unfold SameAt at hsteady hbefore ⊢
      rw [← hbefore, hsteady]
      rfl

end Parse
end Guest
