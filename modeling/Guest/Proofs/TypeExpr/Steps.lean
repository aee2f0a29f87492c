import Guest.Proofs.Value.RoundTrip
import Guest.TypeExpr.Record

/-!
# Steps of the parser of types

The steps of the parser in front of canonical text.  Closing angle brackets are taken one by one,
also out of a longer sign, and the place in the source tells how much has been consumed.
-/

namespace Guest

open Lexeme

namespace TypeRecord

/-- The text of a configuration. -/
def configChars (config : Fields) : List Char :=
  if config.isEmpty then [] else (Value.object config).source

/-- The entries of a configuration. -/
def configEntries (config : Fields) : Option Entries :=
  if config.isEmpty then none else some (Value.fieldExprs config)

theorem closes_configChars {tail : List Char} (config : Fields) (htail : Closes tail) :
    Closes (configChars config ++ tail) := by
  cases config with
  | nil => exact htail
  | cons field more =>
      rw [configChars, List.isEmpty_cons, if_neg Bool.false_ne_true, Value.source]
      exact closes_delimiter .leftBrace

end TypeRecord

/-! ## What may follow -/

/-- A text in front of which the text of a type ends: its first character past blanks, if there is
one, is one of some marks. -/
structure Stops (marks : List Char) (tail : List Char) : Prop where
  closes : Closes tail
  ready : Ready .extended tail
  head : ∀ c ∈ (tail.dropWhile Text.isBlank).head?, c ∈ marks

namespace Stops

variable {marks marks' tail rest : List Char}

theorem mono (h : Stops marks tail) (hmarks : marks ⊆ marks') : Stops marks' tail :=
  ⟨h.closes, h.ready, fun c hc => hmarks (h.head c hc)⟩

theorem nil : Stops marks [] :=
  ⟨closes_nil, ready_nil, fun _ hc => nomatch hc⟩

theorem of_lexes {c : Char} {sign : Sign} (hc : isNamePart c = false ∧ c ≠ '.')
    (hblank : Text.isBlank c = false) (hmark : c ∈ marks)
    (h : Lexes .extended (c :: rest) [.sign sign] rest) : Stops marks (c :: rest) := by
  refine ⟨closes_cons.mpr hc, ready_of_lexes h, ?_⟩
  rw [List.dropWhile_cons_of_neg (by simp [hblank])]
  rintro c ⟨rfl⟩
  exact hmark

theorem of_delimiter {c : Char} {sign : Sign} (h : Delimiter c sign) (hmark : c ∈ marks) :
    Stops marks (c :: rest) := by
  have hhead : isNamePart c = false ∧ c ≠ '.' := closes_cons.mp (@closes_delimiter rest _ _ h)
  have hblank : Text.isBlank c = false := by cases h <;> rfl
  exact of_lexes hhead hblank hmark (lexes_delimiter h)

/-- A bar with blanks around it. -/
theorem bar (hmark : '|' ∈ marks) : Stops marks (' ' :: '|' :: ' ' :: rest) := by
  have hbar : Lexes .extended ('|' :: ' ' :: rest) [.sign .bar] (' ' :: rest) :=
    lexes_sign (by decide) rfl rfl
  refine ⟨closes_cons.mpr (by decide), ?_, ?_⟩
  · exact ready_of_lexes (hbar.blank rfl (List.cons_ne_nil _ _))
  · rintro c ⟨rfl⟩
    exact hmark

/-- A closing angle bracket that is no part of a comparison. -/
theorem angle (hmark : '>' ∈ marks) (hrest : Starts (· ≠ '=') rest) :
    Stops marks ('>' :: rest) := by
  refine ⟨closes_cons.mpr (by decide), ready_angle hrest, ?_⟩
  rintro c ⟨rfl⟩
  exact hmark

/-- No mark is an equals sign, so none follows at once. -/
theorem starts_ne (h : Stops marks tail) (hmarks : '=' ∉ marks) : Starts (· ≠ '=') tail := by
  rintro c hc rfl
  cases tail with
  | nil => cases hc
  | cons c rest =>
      cases hc
      exact hmarks (h.head '=' rfl)

end Stops

/-! ## Names -/

namespace Lexeme

variable {name : String} {gap rest tail : List Char}

theorem front_name (hname : Token.IsName name) (hgap : ∀ c ∈ gap, Text.isBlank c = true)
    (hrest : Closes rest) :
    Front .extended (gap ++ (name.toList ++ rest)) gap name.toList rest (.identifier name) := by
  obtain ⟨hword, htoken⟩ := isWord_of_isName hname
  have hscan := @scan_word rest _ .extended hword hrest
  rw [String.ofList_toList, htoken] at hscan
  obtain ⟨c, more, hchars, -, hblank⟩ := hword.start
  refine ⟨rfl, hgap, ?_, hscan⟩
  rw [hchars]
  exact starts_cons.mpr hblank

/-- A text that starts with a name. -/
def StartsName (s : List Char) : Prop :=
  ∃ name rest, s = String.toList name ++ rest ∧ Token.IsName name ∧ Closes rest

theorem StartsName.ready {s : List Char} (h : StartsName s)
    (hgap : ∀ c ∈ gap, Text.isBlank c = true) : Ready .extended (gap ++ s) := by
  obtain ⟨name, rest, rfl, hname, hrest⟩ := h
  exact ⟨gap, name.toList, rest, .identifier name, front_name hname hgap hrest⟩

theorem StartsName.starts {s : List Char} (h : StartsName s) :
    Starts (fun c => isNameStart c = true) s := by
  obtain ⟨name, rest, rfl, hname, -⟩ := h
  obtain ⟨c, more, hchars, hc, -⟩ := (isWord_of_isName hname).1.start
  rw [hchars]
  exact starts_cons.mpr hc

theorem lexes_less {rest : List Char} (hrest : Starts (fun c => isNameStart c = true) rest) :
    Lexes .extended ('<' :: rest) [.sign .less] rest := by
  apply lexes_sign (by decide) rfl
  cases rest with
  | nil => rfl
  | cons c more =>
      have hc : isNameStart c = true := starts_cons.mp hrest
      have hless : c ≠ '<' := by
        rintro rfl
        exact absurd hc (by decide)
      have hequal : c ≠ '=' := by
        rintro rfl
        exact absurd hc (by decide)
      have hnumber : startsNumber ('<' :: c :: more) = false := rfl
      have hsign : sign? .extended ('<' :: c :: more) = some (.less, 1) := by
        simp [sign?, hless, hequal]
      rw [scan, hnumber, hsign]
      rfl

end Lexeme

theorem TypeRecord.stops_configChars {tail : List Char} (config : Fields)
    (htail : Stops ['|', ',', '>'] tail) :
    Stops ['\x7b', '|', ',', '>'] (configChars config ++ tail) := by
  cases config with
  | nil => exact htail.mono (List.subset_cons_self _ _)
  | cons field more =>
      rw [configChars, List.isEmpty_cons, if_neg Bool.false_ne_true, Value.source]
      exact .of_delimiter .leftBrace (by decide)

namespace Parse

open Guest.Parser

variable {α : Type} {p : Parser} {before after rest tail gap : List Char} {marks : List Char}

/-! ## Single steps -/

/-- Splitting a sign moves the place in the source by one character. -/
theorem exists_splitAngle {sign : Sign} {w : List Char}
    (hp : Faces .extended before ('>' :: rest) p)
    (hshows : Shows .extended rest [] w p.lexer.rest (.sign sign))
    (hstart : p.current.start.offset = before.length)
    (hstop : p.current.stop.offset = before.length + 1 + w.length) :
    ∃ q, Gives (splitAngle sign) p () q ∧ Faces .extended (before ++ ['>']) rest q := by
  have hlength : (before ++ ['>']).length = before.length + 1 := by simp
  refine ⟨_, rfl, hp.dialect, ?_, ?_, hp.position, [], w, hshows, ?_, ?_⟩
  · rw [List.append_assoc]
    exact hp.source
  · rw [hlength, hstart]
  · rw [hlength, hstart, List.length_nil]
  · rw [hstop, hstart]

theorem exists_closingAngle (hp : Faces .extended before ('>' :: rest) p)
    (hready : Ready .extended rest) (hrest : Starts (· ≠ '=') rest) :
    ∃ q, Gives closingAngle p () q ∧ Faces .extended (before ++ ['>']) rest q := by
  obtain ⟨gap, w, hshows, hstart, hstop⟩ := hp.current
  obtain ⟨rfl, hcases⟩ := hshows.angle hrest
  rw [hstart, List.length_nil, Nat.add_zero] at hstop
  unfold closingAngle
  simp only [gives_peek_bind]
  rcases hcases with ⟨rfl, ht, hsplit⟩ | ⟨rfl, ht, hsplit⟩ | ⟨rfl, ht, hsplit⟩
  · rw [hsplit] at hready hp ⊢
    obtain ⟨taken, q, htaken, hadvance, hq, -⟩ := hp.exists_advance hready
    have hone : ['>'] = taken := List.append_cancel_right htaken
    rw [← hone] at hq
    rw [ht]
    exact ⟨q, hadvance, hq⟩
  · have hrest : Shows .extended rest [] ['>'] p.lexer.rest (.sign .greater) := by
      rw [hsplit]
      exact .greater _
    rw [ht]
    exact exists_splitAngle hp hrest hstart hstop
  · have hrest : Shows .extended rest [] ['>', '>'] p.lexer.rest (.sign .shiftRight) := by
      rw [hsplit]
      exact .shiftRight _
    rw [ht]
    exact exists_splitAngle hp hrest hstart hstop

/-- A step reads a text in front of whatever may follow it, and gives a result. -/
def ReadsText (step : Parse α) (s : List Char) (a : α) (follow : List Char → Prop) : Prop :=
  ∀ ⦃before tail p⦄, follow tail → Faces .extended before (s ++ tail) p →
    ∃ q, Gives step p a q ∧ Faces .extended (before ++ s) tail q

theorem ReadsText.mono {step : Parse α} {s : List Char} {a : α} {follow follow' : List Char → Prop}
    (h : ReadsText step s a follow) (hfollow : ∀ tail, follow' tail → follow tail) :
    ReadsText step s a follow' :=
  fun _ _ _ htail hp => h (hfollow _ htail) hp

/-- One step after another; what follows the first one is what the second one reads. -/
theorem ReadsText.bind {β : Type} {x : Parse α} {f : α → Parse β} {s s' : List Char} {a : α} {b : β}
    {follow follow' : List Char → Prop} (hx : ReadsText x s a follow')
    (hf : ReadsText (f a) s' b follow) (hfollow : ∀ tail, follow tail → follow' (s' ++ tail)) :
    ReadsText (x >>= f) (s ++ s') b follow := by
  intro before tail p htail hp
  rw [List.append_assoc] at hp
  obtain ⟨q, hgives, hq⟩ := hx (hfollow tail htail) hp
  obtain ⟨r, hgives', hr⟩ := hf htail hq
  rw [List.append_assoc] at hr
  exact ⟨r, hgives.bind hgives', hr⟩

theorem ReadsText.map {β : Type} {x : Parse α} {s : List Char} {a : α}
    {follow : List Char → Prop} (f : α → β) (hx : ReadsText x s a follow) :
    ReadsText (x >>= fun a => pure (f a)) s (f a) follow := by
  intro before tail p htail hp
  obtain ⟨q, hgives, hq⟩ := hx htail hp
  exact ⟨q, hgives.bind (gives_pure.mpr ⟨rfl, rfl⟩), hq⟩

theorem readsText_accept {sign : Sign} {s : List Char} {follow : List Char → Prop}
    (hfollow : ∀ tail, follow tail → Ready .extended tail)
    (h : ∀ tail, follow tail → Lexes .extended (s ++ tail) [.sign sign] tail) :
    ReadsText (accept sign) s true follow := by
  intro before tail p htail hp
  exact hp.exists_accept (h tail htail) (hfollow tail htail)

/-- A sign whose first character is no mark is not accepted before a text that stops at marks. -/
theorem gives_accept_false_of_stops {sign : Sign} {c : Char}
    (hsign : sign.text.toList.head? = some c) (hc : c ∉ marks) (htail : Stops marks tail)
    (hp : Faces .extended before tail p) : Gives (accept sign) p false p := by
  apply hp.gives_accept_false
  rw [hsign]
  exact fun heq => hc (htail.head c heq)

/-! ## Parts of a type -/

theorem exists_typeName {name : String} (hname : Token.IsName name)
    (hgap : ∀ c ∈ gap, Text.isBlank c = true) (hrest : Closes rest) (hready : Ready .extended rest)
    (hp : Faces .extended before (gap ++ (name.toList ++ rest)) p) :
    ∃ q, Gives typeName p (before.length + gap.length, name) q ∧
      Faces .extended (before ++ (gap ++ name.toList)) rest q := by
  have hfront := front_name hname hgap hrest
  obtain ⟨hstart, taken, q, htaken, hreads, hq⟩ := hp.exists_read hfront (by simp [IsPlain]) hready
  obtain ⟨htoken, hadvance⟩ := reads_singleton.mp hreads
  have htext : gap ++ name.toList = taken := by
    rw [← List.append_assoc] at htaken
    exact List.append_cancel_right htaken
  rw [← htext] at hq
  refine ⟨q, ?_, hq⟩
  unfold Gives at hadvance
  unfold Gives typeName
  rw [htoken]
  dsimp only
  rw [hadvance, hstart]

/-- The text from the start of what has been consumed last. -/
theorem gives_textFrom {s : List Char} (hp : Faces .extended (before ++ s) tail p) :
    Gives (textFrom before.length) p (String.ofList s) p := by
  have hslice : p.lexer.slice before.length p.consumed = s := by
    rw [Lexer.slice, hp.source, hp.consumed, List.take_left, List.drop_left]
  unfold Gives textFrom
  rw [hslice]

theorem gives_objectEntries {entries : Entries} {q : Parser} :
    Gives objectEntries p entries q ↔ Gives (entriesIn p.depth) p entries q := by
  unfold Gives objectEntries
  exact Iff.rfl

theorem readsText_objectEntries (config : Fields) :
    ReadsText objectEntries (Value.fieldsSource config ++ ['\x7d']) (Value.fieldExprs config)
      (Ready .extended) := by
  intro before tail p htail hp
  have hlexes : Lexes .extended (Value.fieldsSource config ++ ['\x7d'] ++ tail)
      (Value.fieldTokens config ++ [.sign .rightBrace]) tail := by
    rw [List.append_assoc]
    apply (Value.lexes_fieldsSource (closes_delimiter .rightBrace) config).append
    exact lexes_delimiter .rightBrace
  obtain ⟨q, hreads, hq⟩ := hp.exists_reads_append hlexes htail
  have hlength := left_add_length_le hreads (endless_of_lexes hlexes)
  have hdepth := left_le_depth p
  rw [List.length_append, List.length_singleton] at hlength
  have hgives : Gives (entriesIn p.depth) p (Value.fieldExprs config) q :=
    (completeAt p.depth).entries (Value.entrySequence_fieldTokens config) hreads (by omega)
  exact ⟨q, gives_objectEntries.mpr hgives, hq⟩

theorem readsText_typeConfig (config : Fields) :
    ReadsText typeConfig (TypeRecord.configChars config) (TypeRecord.configEntries config)
      (Stops ['|', ',', '>']) := by
  unfold typeConfig
  cases config with
  | nil =>
      intro before tail p htail hp
      have hfalse : Gives (accept .leftBrace) p false p :=
        gives_accept_false_of_stops rfl (by decide) htail hp
      rw [TypeRecord.configChars, List.isEmpty_nil, if_pos rfl, List.append_nil]
      exact ⟨p, hfalse.bind (gives_pure.mpr ⟨rfl, rfl⟩), hp⟩
  | cons field more =>
      have hopen : ReadsText (accept .leftBrace) ['\x7b'] true (Ready .extended) :=
        readsText_accept (fun _ h => h) fun _ _ => lexes_delimiter .leftBrace
      have hentries := (readsText_objectEntries (field :: more)).map some
      have hconfig : TypeRecord.configChars (field :: more) =
          ['\x7b'] ++ (Value.fieldsSource (field :: more) ++ ['\x7d']) := by
        simp [TypeRecord.configChars, Value.source]
      rw [hconfig]
      refine hopen.bind (hentries.mono fun _ h => h.ready) ?_
      intro tail htail
      have hlexes := @Value.lexes_fieldsSource .extended ('\x7d' :: tail)
        (closes_delimiter .rightBrace) (field :: more)
      rw [List.append_assoc]
      exact hlexes.ready (ready_of_lexes (lexes_delimiter .rightBrace))

/-! ## Signs -/

theorem isBlank_gap : ∀ c ∈ [' '], Text.isBlank c = true := List.all_eq_true.mp rfl

/-- A bar between blanks. -/
theorem readsText_bar : ReadsText (accept .bar) [' ', '|'] true
    (fun tail => Ready .extended tail ∧ ∃ rest, tail = ' ' :: rest) := by
  apply readsText_accept (fun _ h => h.1)
  rintro tail ⟨-, rest, rfl⟩
  have hbar : Lexes .extended ('|' :: ' ' :: rest) [.sign .bar] (' ' :: rest) :=
    lexes_sign (by decide) rfl rfl
  exact hbar.blank rfl (List.cons_ne_nil _ _)

theorem readsText_comma : ReadsText (accept .comma) [','] true (Ready .extended) :=
  readsText_accept (fun _ h => h) fun _ _ => lexes_delimiter .comma

theorem gives_union {q : Parser} {union : TypeUnion} :
    Gives (fun parser => unionIn parser.depth parser) p union q ↔
      Gives (unionIn p.depth) p union q := by
  unfold Gives
  exact Iff.rfl

theorem gives_wholeType {p r : Parser} {union : TypeUnion} :
    Gives wholeType p union r ↔
      ∃ q, Gives (unionIn p.depth) p union q ∧ Reads q [.endOfText] r := by
  unfold wholeType
  constructor
  · intro h
    obtain ⟨us, q, hgives, h⟩ := gives_bind.mp h
    obtain ⟨_, q', hend, h⟩ := gives_bind.mp h
    obtain ⟨rfl, rfl⟩ := gives_pure.mp h
    exact ⟨q, gives_union.mp hgives, gives_expect_endOfText.mp hend⟩
  · rintro ⟨q, hgives, hend⟩
    apply (gives_union.mpr hgives).bind
    exact (gives_expect_endOfText.mpr hend).bind (gives_pure.mpr ⟨rfl, rfl⟩)

end Parse

end Guest
