import Guest.Expr.Parser
import Guest.Proofs.Expr.Grammar
import Guest.Proofs.Parser.Reading

/-!
# Soundness of the parser of expressions

What a rule of the parser consumes derives the tree that it returns.  Every function calls others
with a smaller depth only, so all of them are treated at once, by induction on the depth: a step
lemma for each function assumes the statement for the depth below.
-/

namespace Guest
namespace Parse

open Guest.Parser Grammar

variable {α : Type} {p q : Parser} {depth level : Nat} {close : Sign}

/-- Whatever a step consumes is related to its result. -/
def Sound (step : Parse α) (rule : List Token → α → Prop) : Prop :=
  ∀ ⦃p a q⦄, Gives step p a q → ∃ ts, Reads p ts q ∧ rule ts a

/-- The functions of the parser follow the grammar as long as their recursion is no deeper than a
bound. -/
structure SoundAt (depth : Nat) : Prop where
  expression : Sound (expressionIn depth) Expression
  chain : ∀ level, level ≤ BinaryOp.tightestChain + 1 → Sound (chainIn depth level) (Chain level)
  tail : ∀ level, level ≤ BinaryOp.tightestChain → Sound (tailIn depth level) (Tail level)
  unary : Sound (unaryIn depth) Unary
  ops : Sound (opsIn depth) Prefixes
  power : Sound (powerIn depth) Power
  access : Sound (accessIn depth) Access
  keys : Sound (keysIn depth) Keys
  primary : Sound (primaryIn depth) Primary
  sequence : ∀ close, Sound (sequenceIn depth close)
    fun ts items => ∃ us, ts = us ++ [.sign close] ∧ Sequence us items
  items : Sound (itemsIn depth) Items
  entries : Sound (entriesIn depth)
    fun ts entries => ∃ us, ts = us ++ [.sign .rightBrace] ∧ EntrySequence us entries
  pairs : Sound (pairsIn depth) Pairs

theorem sound_unexpected {expected : Expected} {rule : List Token → α → Prop} :
    Sound (unexpected expected) rule :=
  fun _ _ _ h => absurd h not_gives_unexpected

/-! ## Parts of rules -/

/-- The token of a sign is consumed by moving on. -/
theorem reads_sign {s : Sign} (ht : p.current.token = .sign s) (ha : Gives advance p () q) :
    Reads p [.sign s] q :=
  reads_singleton.mpr ⟨ht, ha⟩

theorem chainOp?_eq_some {t : Token} {op : BinaryOp} :
    chainOp? level t = some op ↔ t.binaryOp? = some op ∧ op.level = level := by
  unfold chainOp?
  cases t.binaryOp? with
  | none => simp
  | some other =>
      simp only [Option.ite_none_right_eq_some, Option.some.injEq]
      constructor
      · rintro ⟨hlevel, rfl⟩
        exact ⟨rfl, hlevel⟩
      · rintro ⟨rfl, hlevel⟩
        exact ⟨hlevel, rfl⟩

/-- A literal that is taken out of its token is consumed like any other token. -/
theorem gives_takeLiteral {v : Value} {e : Expr} :
    Gives (takeLiteral v) p e q ↔ e = .literal v ∧ Gives advance p () q := by
  have hout : Gives takeOut p ()
      { p with current := { p.current with token := .endOfText } } := rfl
  have hadvance : ∀ r,
      Gives advance { p with current := { p.current with token := .endOfText } } () r ↔
        Gives advance p () r := by
    intro r
    unfold Gives advance
    cases p.lexer.next with
    | mk item moved => cases item <;> simp
  constructor
  · intro h
    obtain ⟨_, r, hr, hrest⟩ := gives_bind.mp h
    obtain ⟨-, rfl⟩ := hout.eq_of_gives hr
    obtain ⟨_, r, ha, hpure⟩ := gives_bind.mp hrest
    obtain ⟨rfl, rfl⟩ := gives_pure.mp hpure
    exact ⟨rfl, (hadvance _).mp ha⟩
  · rintro ⟨rfl, ha⟩
    exact hout.bind (((hadvance q).mpr ha).bind (gives_pure.mpr ⟨rfl, rfl⟩))

theorem sound_takeLiteral {v : Value} {t : Token} (ht : p.current.token = t)
    (hrule : Primary [t] (.literal v)) {e : Expr} (h : Gives (takeLiteral v) p e q) :
    ∃ ts, Reads p ts q ∧ Primary ts e := by
  obtain ⟨rfl, ha⟩ := gives_takeLiteral.mp h
  exact ⟨[t], reads_singleton.mpr ⟨ht, ha⟩, hrule⟩

theorem sound_objectKey : Sound objectKey fun ts key => ∃ t, ts = [t] ∧ EntryKey t key := by
  intro p key q h
  rw [objectKey, gives_peek_bind] at h
  split at h
  · next name ht =>
      obtain ⟨_, r, ha, h⟩ := gives_bind.mp h
      obtain ⟨rfl, rfl⟩ := gives_pure.mp h
      exact ⟨_, .of_advance ha, _, rfl, ht ▸ .identifier name⟩
  · next s ht =>
      obtain ⟨_, r, ha, h⟩ := gives_bind.mp h
      obtain ⟨rfl, rfl⟩ := gives_pure.mp h
      exact ⟨_, .of_advance ha, _, rfl, ht ▸ .string s⟩
  · next x ht =>
      obtain ⟨_, r, ha, h⟩ := gives_bind.mp h
      obtain ⟨rfl, rfl⟩ := gives_pure.mp h
      exact ⟨_, .of_advance ha, _, rfl, ht ▸ .number x⟩
  · exact absurd h not_gives_unexpected

theorem sound_propertyName : Sound propertyName fun ts name => ts = [.identifier name] := by
  intro p key q h
  rw [propertyName, gives_peek_bind] at h
  split at h
  · next name ht =>
      obtain ⟨_, r, ha, h⟩ := gives_bind.mp h
      obtain ⟨rfl, rfl⟩ := gives_pure.mp h
      exact ⟨_, .of_advance ha, by rw [ht]⟩
  · exact absurd h not_gives_unexpected

/-- An expression in brackets is a key, known or computed. -/
theorem keys_bracket {ts us : List Token} {key : Expr} {keys : List Key}
    (hkey : Expression ts key) (hkeys : Keys us keys) :
    Keys (.sign .leftBracket :: (ts ++ .sign .rightBracket :: us)) (keyOf key :: keys) := by
  unfold keyOf
  split
  · exact .text hkey hkeys
  · next hne => exact .computed hkey (fun s => hne s) hkeys

/-! ## The rules -/

theorem sound_expressionIn (ih : SoundAt depth) : Sound (expressionIn (depth + 1)) Expression := by
  intro p e q h
  rw [expressionIn] at h
  obtain ⟨test, p₁, htest, h⟩ := gives_bind.mp h
  obtain ⟨ts, hts, dtest⟩ := ih.chain 1 (by decide) htest
  rw [gives_peek_bind] at h
  split at h
  · next hquestion =>
      obtain ⟨_, p₂, ha, h⟩ := gives_bind.mp h
      obtain ⟨whenTrue, p₃, htrue, h⟩ := gives_bind.mp h
      obtain ⟨_, p₄, hcolon, h⟩ := gives_bind.mp h
      obtain ⟨whenFalse, p₅, hfalse, h⟩ := gives_bind.mp h
      obtain ⟨rfl, rfl⟩ := gives_pure.mp h
      obtain ⟨us, hus, dtrue⟩ := ih.expression htrue
      obtain ⟨vs, hvs, dfalse⟩ := ih.expression hfalse
      have hrest := hus.trans ((gives_expect_sign.mp hcolon).trans hvs)
      exact ⟨_, hts.trans ((reads_sign hquestion ha).trans hrest),
        .conditional dtest dtrue dfalse⟩
  · next helvis =>
      obtain ⟨_, p₂, ha, h⟩ := gives_bind.mp h
      obtain ⟨whenFalse, p₃, hfalse, h⟩ := gives_bind.mp h
      obtain ⟨rfl, rfl⟩ := gives_pure.mp h
      obtain ⟨us, hus, dfalse⟩ := ih.expression hfalse
      exact ⟨_, hts.trans ((reads_sign helvis ha).trans hus), .elvis dtest dfalse⟩
  · obtain ⟨rfl, rfl⟩ := gives_pure.mp h
    exact ⟨ts, hts, .chain dtest⟩

theorem sound_chainIn (ih : SoundAt depth) (hlevel : level ≤ BinaryOp.tightestChain + 1) :
    Sound (chainIn (depth + 1) level) (Chain level) := by
  intro p e q h
  rw [chainIn] at h
  split at h
  · next htight =>
      obtain ⟨ts, hts, dunary⟩ := ih.unary h
      have hlevel : level = BinaryOp.tightestChain + 1 := by omega
      exact ⟨ts, hts, hlevel ▸ .unary dunary⟩
  · next htight =>
      obtain ⟨head, p₁, hhead, h⟩ := gives_bind.mp h
      obtain ⟨tail, p₂, htail, h⟩ := gives_bind.mp h
      obtain ⟨ts, hts, dhead⟩ := ih.chain (level + 1) (by omega) hhead
      obtain ⟨us, hus, dtail⟩ := ih.tail level (by omega) htail
      have dchain := Chain.operands (by omega) dhead dtail
      split at h
      · obtain ⟨rfl, rfl⟩ := gives_pure.mp h
        exact ⟨_, hts.trans hus, dchain⟩
      · next hne =>
          obtain ⟨rfl, rfl⟩ := gives_pure.mp h
          refine ⟨_, hts.trans hus, ?_⟩
          cases tail with
          | nil => exact absurd rfl hne
          | cons first rest => exact dchain

theorem sound_tailIn (ih : SoundAt depth) (hlevel : level ≤ BinaryOp.tightestChain) :
    Sound (tailIn (depth + 1) level) (Tail level) := by
  intro p tail q h
  rw [tailIn, gives_peek_bind] at h
  split at h
  · obtain ⟨rfl, rfl⟩ := gives_pure.mp h
    exact ⟨[], .nil p, .nil⟩
  · next op hop =>
      obtain ⟨htoken, hop⟩ := chainOp?_eq_some.mp hop
      obtain ⟨_, p₁, ha, h⟩ := gives_bind.mp h
      obtain ⟨right, p₂, hright, h⟩ := gives_bind.mp h
      obtain ⟨rest, p₃, hrest, h⟩ := gives_bind.mp h
      obtain ⟨rfl, rfl⟩ := gives_pure.mp h
      obtain ⟨ts, hts, dright⟩ := ih.chain (level + 1) (by omega) hright
      obtain ⟨us, hus, drest⟩ := ih.tail level hlevel hrest
      exact ⟨_, .cons ha (hts.trans hus), .cons htoken hop dright drest⟩

theorem sound_unaryIn (ih : SoundAt depth) : Sound (unaryIn (depth + 1)) Unary := by
  intro p e q h
  rw [unaryIn] at h
  obtain ⟨ops, p₁, hops, h⟩ := gives_bind.mp h
  obtain ⟨us, hus, dops⟩ := ih.ops hops
  split at h
  · obtain ⟨ts, hts, dpower⟩ := ih.power h
    exact ⟨_, hus.trans hts, .prefixes dops dpower⟩
  · next hne =>
      obtain ⟨operand, p₂, hoperand, h⟩ := gives_bind.mp h
      obtain ⟨rfl, rfl⟩ := gives_pure.mp h
      obtain ⟨ts, hts, dpower⟩ := ih.power hoperand
      have dunary := Unary.prefixes dops dpower
      refine ⟨_, hus.trans hts, ?_⟩
      cases ops with
      | nil => exact absurd rfl hne
      | cons first rest => exact dunary

theorem sound_opsIn (ih : SoundAt depth) : Sound (opsIn (depth + 1)) Prefixes := by
  intro p ops q h
  rw [opsIn, gives_peek_bind] at h
  split at h
  · obtain ⟨rfl, rfl⟩ := gives_pure.mp h
    exact ⟨[], .nil p, .nil⟩
  · next op hop =>
      obtain ⟨_, p₁, ha, h⟩ := gives_bind.mp h
      obtain ⟨rest, p₂, hrest, h⟩ := gives_bind.mp h
      obtain ⟨rfl, rfl⟩ := gives_pure.mp h
      obtain ⟨us, hus, drest⟩ := ih.ops hrest
      exact ⟨_, .cons ha hus, .cons hop drest⟩

theorem sound_powerIn (ih : SoundAt depth) : Sound (powerIn (depth + 1)) Power := by
  intro p e q h
  rw [powerIn] at h
  obtain ⟨base, p₁, hbase, h⟩ := gives_bind.mp h
  obtain ⟨ts, hts, dbase⟩ := ih.access hbase
  obtain ⟨more, p₂, hmore, h⟩ := gives_bind.mp h
  rcases gives_accept.mp hmore with ⟨rfl, hstar⟩ | ⟨rfl, -, rfl⟩
  · obtain ⟨exponent, p₃, hexponent, h⟩ := gives_bind.mp h
    obtain ⟨rfl, rfl⟩ := gives_pure.mp h
    obtain ⟨us, hus, dexponent⟩ := ih.unary hexponent
    exact ⟨_, hts.trans (hstar.trans hus), .power dbase dexponent⟩
  · obtain ⟨rfl, rfl⟩ := gives_pure.mp h
    exact ⟨ts, hts, .base dbase⟩

theorem sound_accessIn (ih : SoundAt depth) : Sound (accessIn (depth + 1)) Access := by
  intro p e q h
  rw [accessIn] at h
  obtain ⟨base, p₁, hbase, h⟩ := gives_bind.mp h
  obtain ⟨ts, hts, dbase⟩ := ih.primary hbase
  obtain ⟨keys, p₂, hkeys, h⟩ := gives_bind.mp h
  obtain ⟨us, hus, dkeys⟩ := ih.keys hkeys
  have daccess := Access.keys dbase dkeys
  split at h
  · obtain ⟨rfl, rfl⟩ := gives_pure.mp h
    exact ⟨_, hts.trans hus, daccess⟩
  · next hne =>
      obtain ⟨rfl, rfl⟩ := gives_pure.mp h
      refine ⟨_, hts.trans hus, ?_⟩
      cases keys with
      | nil => exact absurd rfl hne
      | cons first rest => exact daccess

theorem sound_keysIn (ih : SoundAt depth) : Sound (keysIn (depth + 1)) Keys := by
  intro p keys q h
  rw [keysIn, gives_peek_bind] at h
  split at h
  · next hdot =>
      obtain ⟨_, p₁, ha, h⟩ := gives_bind.mp h
      obtain ⟨name, p₂, hname, h⟩ := gives_bind.mp h
      obtain ⟨rest, p₃, hrest, h⟩ := gives_bind.mp h
      obtain ⟨rfl, rfl⟩ := gives_pure.mp h
      obtain ⟨_, hts, rfl⟩ := sound_propertyName hname
      obtain ⟨us, hus, drest⟩ := ih.keys hrest
      exact ⟨_, (reads_sign hdot ha).trans (hts.trans hus), .dot drest⟩
  · next hbracket =>
      obtain ⟨_, p₁, ha, h⟩ := gives_bind.mp h
      obtain ⟨key, p₂, hkey, h⟩ := gives_bind.mp h
      obtain ⟨_, p₃, hclose, h⟩ := gives_bind.mp h
      obtain ⟨rest, p₄, hrest, h⟩ := gives_bind.mp h
      obtain ⟨rfl, rfl⟩ := gives_pure.mp h
      obtain ⟨ts, hts, dkey⟩ := ih.expression hkey
      obtain ⟨us, hus, drest⟩ := ih.keys hrest
      have htail := hts.trans ((gives_expect_sign.mp hclose).trans hus)
      exact ⟨_, (reads_sign hbracket ha).trans htail, keys_bracket dkey drest⟩
  · obtain ⟨rfl, rfl⟩ := gives_pure.mp h
    exact ⟨[], .nil p, .nil⟩

theorem sound_primaryIn (ih : SoundAt depth) : Sound (primaryIn (depth + 1)) Primary := by
  intro p e q h
  rw [primaryIn, gives_peek_bind] at h
  split at h
  · next x ht => exact sound_takeLiteral ht (.number x) h
  · next s ht => exact sound_takeLiteral ht (.string s) h
  · next b ht => exact sound_takeLiteral ht (.boolean b) h
  · next ht => exact sound_takeLiteral ht .null h
  · next name ht =>
      obtain ⟨_, p₁, ha, h⟩ := gives_bind.mp h
      have hname : Reads p [.identifier name] p₁ := reads_singleton.mpr ⟨ht, ha⟩
      obtain ⟨called, p₂, hcalled, h⟩ := gives_bind.mp h
      rcases gives_accept.mp hcalled with ⟨rfl, hopen⟩ | ⟨rfl, -, rfl⟩
      · obtain ⟨args, p₃, hargs, h⟩ := gives_bind.mp h
        obtain ⟨rfl, rfl⟩ := gives_pure.mp h
        obtain ⟨_, hts, us, rfl, dargs⟩ := ih.sequence _ hargs
        exact ⟨_, hname.trans (hopen.trans hts), .call dargs⟩
      · obtain ⟨rfl, rfl⟩ := gives_pure.mp h
        exact ⟨_, hname, .identifier name⟩
  · next ht =>
      obtain ⟨_, p₁, ha, h⟩ := gives_bind.mp h
      obtain ⟨inner, p₂, hinner, h⟩ := gives_bind.mp h
      obtain ⟨_, p₃, hclose, h⟩ := gives_bind.mp h
      obtain ⟨rfl, rfl⟩ := gives_pure.mp h
      obtain ⟨ts, hts, dinner⟩ := ih.expression hinner
      exact ⟨_, (reads_sign ht ha).trans (hts.trans (gives_expect_sign.mp hclose)),
        .group dinner⟩
  · next ht =>
      obtain ⟨_, p₁, ha, h⟩ := gives_bind.mp h
      obtain ⟨items, p₂, hitems, h⟩ := gives_bind.mp h
      obtain ⟨rfl, rfl⟩ := gives_pure.mp h
      obtain ⟨_, hts, us, rfl, ditems⟩ := ih.sequence _ hitems
      exact ⟨_, (reads_sign ht ha).trans hts, .array ditems⟩
  · next ht =>
      obtain ⟨_, p₁, ha, h⟩ := gives_bind.mp h
      obtain ⟨entries, p₂, hentries, h⟩ := gives_bind.mp h
      obtain ⟨rfl, rfl⟩ := gives_pure.mp h
      obtain ⟨_, hts, us, rfl, dentries⟩ := ih.entries hentries
      exact ⟨_, (reads_sign ht ha).trans hts, .object dentries⟩
  · exact absurd h not_gives_unexpected

theorem sound_sequenceIn (ih : SoundAt depth) : Sound (sequenceIn (depth + 1) close)
    fun ts items => ∃ us, ts = us ++ [.sign close] ∧ Sequence us items := by
  intro p items q h
  rw [sequenceIn] at h
  obtain ⟨empty, p₁, hempty, h⟩ := gives_bind.mp h
  rcases gives_accept.mp hempty with ⟨rfl, hclose⟩ | ⟨rfl, -, rfl⟩
  · obtain ⟨rfl, rfl⟩ := gives_pure.mp h
    exact ⟨_, hclose, [], rfl, .nil⟩
  · obtain ⟨items', p₂, hitems, h⟩ := gives_bind.mp h
    obtain ⟨_, p₃, hclose, h⟩ := gives_bind.mp h
    obtain ⟨rfl, rfl⟩ := gives_pure.mp h
    obtain ⟨ts, hts, ditems⟩ := ih.items hitems
    exact ⟨_, hts.trans (gives_expect_sign.mp hclose), ts, rfl, .items ditems⟩

theorem sound_itemsIn (ih : SoundAt depth) : Sound (itemsIn (depth + 1)) Items := by
  intro p items q h
  rw [itemsIn] at h
  obtain ⟨item, p₁, hitem, h⟩ := gives_bind.mp h
  obtain ⟨ts, hts, ditem⟩ := ih.expression hitem
  obtain ⟨more, p₂, hmore, h⟩ := gives_bind.mp h
  rcases gives_accept.mp hmore with ⟨rfl, hcomma⟩ | ⟨rfl, -, rfl⟩
  · obtain ⟨rest, p₃, hrest, h⟩ := gives_bind.mp h
    obtain ⟨rfl, rfl⟩ := gives_pure.mp h
    obtain ⟨us, hus, drest⟩ := ih.items hrest
    exact ⟨_, hts.trans (hcomma.trans hus), .more ditem drest⟩
  · obtain ⟨rfl, rfl⟩ := gives_pure.mp h
    exact ⟨ts, hts, .last ditem⟩

theorem sound_entriesIn (ih : SoundAt depth) : Sound (entriesIn (depth + 1))
    fun ts entries => ∃ us, ts = us ++ [.sign .rightBrace] ∧ EntrySequence us entries := by
  intro p entries q h
  rw [entriesIn] at h
  obtain ⟨empty, p₁, hempty, h⟩ := gives_bind.mp h
  rcases gives_accept.mp hempty with ⟨rfl, hclose⟩ | ⟨rfl, -, rfl⟩
  · obtain ⟨rfl, rfl⟩ := gives_pure.mp h
    exact ⟨_, hclose, [], rfl, .nil⟩
  · obtain ⟨entries', p₂, hentries, h⟩ := gives_bind.mp h
    obtain ⟨_, p₃, hclose, h⟩ := gives_bind.mp h
    obtain ⟨rfl, rfl⟩ := gives_pure.mp h
    obtain ⟨ts, hts, dentries⟩ := ih.pairs hentries
    exact ⟨_, hts.trans (gives_expect_sign.mp hclose), ts, rfl, .pairs dentries⟩

theorem sound_pairsIn (ih : SoundAt depth) : Sound (pairsIn (depth + 1)) Pairs := by
  intro p entries q h
  rw [pairsIn] at h
  obtain ⟨key, p₁, hkey, h⟩ := gives_bind.mp h
  obtain ⟨_, p₂, hcolon, h⟩ := gives_bind.mp h
  obtain ⟨value, p₃, hvalue, h⟩ := gives_bind.mp h
  obtain ⟨more, p₄, hmore, h⟩ := gives_bind.mp h
  obtain ⟨_, hks, t, rfl, dkey⟩ := sound_objectKey hkey
  obtain ⟨ts, hts, dvalue⟩ := ih.expression hvalue
  have hfirst := hks.trans (gives_expect_sign.mp hcolon)
  rcases gives_accept.mp hmore with ⟨rfl, hcomma⟩ | ⟨rfl, -, rfl⟩
  · obtain ⟨rest, p₅, hrest, h⟩ := gives_bind.mp h
    obtain ⟨rfl, rfl⟩ := gives_pure.mp h
    obtain ⟨us, hus, drest⟩ := ih.pairs hrest
    exact ⟨_, hfirst.trans (hts.trans (hcomma.trans hus)), .more dkey dvalue drest⟩
  · obtain ⟨rfl, rfl⟩ := gives_pure.mp h
    exact ⟨_, hfirst.trans hts, .last dkey dvalue⟩

/-- The parser follows the grammar at every depth. -/
theorem soundAt (depth : Nat) : SoundAt depth := by
  induction depth with
  | zero =>
      constructor <;> intros <;> exact sound_unexpected
  | succ depth ih =>
      exact {
        expression := sound_expressionIn ih
        chain := fun _ => sound_chainIn ih
        tail := fun _ => sound_tailIn ih
        unary := sound_unaryIn ih
        ops := sound_opsIn ih
        power := sound_powerIn ih
        access := sound_accessIn ih
        keys := sound_keysIn ih
        primary := sound_primaryIn ih
        sequence := fun _ => sound_sequenceIn ih
        items := sound_itemsIn ih
        entries := sound_entriesIn ih
        pairs := sound_pairsIn ih }

end Parse
end Guest
