import Guest.Message
import Guest.Proofs.Expr.Invariants
import Guest.Proofs.Parser.Positions
import Guest.Proofs.Template.Interpolation

/-!
# Where messages are wrong

A text of messages is wrong at its first line that is no message on its own.  A fault of the line as
a whole carries the number of the line.  A fault in an interpolation carries the position that it
has behind the braces that open the interpolation, which is always on a first line.
-/

namespace Guest

open Guest.Parser (FoundIn Stands)

/-! ## Interpolations -/

namespace Parse

variable {s : List Char}

theorem keeps_secondBrace : Keeps (Stands s) (fun e _ => FoundIn s e) secondBrace := by
  constructor
  · intro p n q hp h
    exact (gives_secondBrace.mp h).1 ▸ hp
  · intro p e q hp h
    unfold secondBrace at h
    split at h
    · cases h
    · cases h
      exact ⟨hp.start, rfl⟩

theorem keeps_interpolation : Keeps (Stands s) (fun e _ => FoundIn s e) interpolation := by
  have h := Parser.invariant_stands s
  refine (keeps_expression h).bind fun expr => (keeps_expect h).bind fun _ => ?_
  exact keeps_secondBrace.bind fun _ => keeps_pure

/-- A speaker is an expression with a colon behind it. -/
theorem expression_of_gives_speaker {p q : Parser} {e : Expr} {after : Nat}
    (h : Gives speaker p (some (e, after)) q) :
    Gives expression p e q ∧ q.current.stop.offset = after := by
  obtain ⟨e', r, hexpr, hcolon⟩ := gives_bind.mp h
  unfold Gives at hcolon
  obtain ⟨hfound, rfl⟩ := EStateM.Result.ok.inj hcolon
  split at hfound
  · cases hfound
    exact ⟨hexpr, rfl⟩
  · cases hfound

end Parse

/-- An error is found in a part of a text. -/
def FoundInside (s : List Char) (e : ParseError) : Prop := ∃ v, v <:+: s ∧ FoundIn v e

theorem FoundInside.mono {s s' : List Char} {e : ParseError} (h : FoundInside s e)
    (hs : s <:+: s') : FoundInside s' e := by
  obtain ⟨v, hv, he⟩ := h
  exact ⟨v, hv.trans hs, he⟩

/-- A failing sequence fails in its first or in its second part. -/
theorem except_bind_eq_error {ε α β : Type} {x : Except ε α} {f : α → Except ε β} {e : ε}
    (h : (x >>= f) = .error e) : x = .error e ∨ ∃ a, x = .ok a ∧ f a = .error e := by
  cases x with
  | error e' =>
      cases h
      exact .inl rfl
  | ok a => exact .inr ⟨a, rfl, h⟩

namespace ParseError

/-- The error with the number of the line that it is on, if it is one of the line as a whole. -/
def onLine (number : Nat) : ParseError → ParseError
  | messageForm position fault =>
    if (messageForm position fault).isStructural then
      .messageForm { position with line := number } fault
    else messageForm position fault
  | e => e

variable {e : ParseError} {number : Nat}

theorem onLine_of_not_isStructural (h : e.isStructural = false) : e.onLine number = e := by
  cases e with
  | messageForm position fault => simp [onLine, h]
  | _ => rfl

theorem position_onLine (e : ParseError) (number : Nat) :
    (e.onLine number).position =
      { e.position with line := if e.isStructural then number else e.position.line } := by
  cases h : e.isStructural with
  | false =>
      rw [onLine_of_not_isStructural h]
      rfl
  | true =>
      cases e with
      | messageForm position fault =>
          rw [onLine, if_pos h]
          rfl
      | _ => cases h

theorem isStructural_onLine (e : ParseError) (number : Nat) :
    (e.onLine number).isStructural = e.isStructural := by
  cases h : e.isStructural with
  | false => rw [onLine_of_not_isStructural h, h]
  | true =>
      cases e with
      | messageForm position fault =>
          rw [onLine, if_pos h]
          exact h
      | _ => cases h

end ParseError

theorem FoundInside.onLine {s : List Char} {e : ParseError} {number : Nat} (h : FoundInside s e) :
    e.onLine number = e := by
  obtain ⟨v, -, hfound⟩ := h
  exact ParseError.onLine_of_not_isStructural hfound.2

/-- An error at a column of the first line of a text, or behind its last character. -/
def AtColumn (s : List Char) (e : ParseError) : Prop :=
  e.position.line = 1 ∧ 1 ≤ e.position.column ∧ e.position.column ≤ s.length + 1

theorem FoundInside.atColumn {s : List Char} {e : ParseError} (h : FoundInside s e)
    (hs : '\n' ∉ s) : AtColumn s e := by
  obtain ⟨v, hv, ⟨u, hu, hposition⟩, -⟩ := h
  have hinside : u <:+: s := hu.isInfix.trans hv
  have hle := hinside.length_le
  have hplace := Position.start_advance_of_not_mem fun hmem => hs (hinside.subset hmem)
  rw [AtColumn, hposition, hplace]
  dsimp only
  omega

namespace Template

variable {s rest : List Char} {c : Char} {e : ParseError} {skip : Nat}

theorem foundIn_of_interpolation (h : interpolation s = .error e) : FoundIn s e :=
  Parser.foundIn_of_run Parse.keeps_interpolation h

theorem tail_infix_cons : rest.tail <:+: c :: rest :=
  ((List.tail_suffix rest).trans (List.suffix_cons c rest)).isInfix

theorem infix_cons_self : rest <:+: c :: rest := (List.suffix_cons c rest).isInfix

theorem foundInside_of_segmentsFrom (h : segmentsFrom skip s = .error e) : FoundInside s e := by
  induction s generalizing skip with
  | nil =>
      unfold segmentsFrom at h
      cases h
  | cons c rest ih =>
      cases skip with
      | succ skip => exact (ih h).mono infix_cons_self
      | zero =>
          rw [segmentsFrom] at h
          split at h
          · rcases except_bind_eq_error h with h | ⟨found, -, h⟩
            · exact ⟨_, tail_infix_cons, foundIn_of_interpolation h⟩
            · rcases except_bind_eq_error h with h | ⟨_, -, h⟩
              · exact (ih h).mono infix_cons_self
              · cases h
          · rcases except_bind_eq_error h with h | ⟨_, -, h⟩
            · exact (ih h).mono infix_cons_self
            · cases h

theorem foundInside_of_ofChars (h : ofChars s = .error e) : FoundInside s e := by
  rcases except_bind_eq_error h with h | ⟨_, -, h⟩
  · exact foundInside_of_segmentsFrom h
  · cases h

end Template

namespace Line

open Template (tail_infix_cons infix_cons_self)

variable {s : List Char} {e : ParseError} {skip i : Nat}

theorem foundInside_of_separatorFrom (h : separatorFrom skip s = .error e) : FoundInside s e := by
  induction s generalizing skip with
  | nil =>
      unfold separatorFrom at h
      cases h
  | cons c rest ih =>
      cases skip with
      | succ skip =>
          rcases except_bind_eq_error h with h | ⟨_, -, h⟩
          · exact (ih h).mono infix_cons_self
          · cases h
      | zero =>
          rw [separatorFrom] at h
          split at h
          · rcases except_bind_eq_error h with h | ⟨found, -, h⟩
            · exact ⟨_, tail_infix_cons, Template.foundIn_of_interpolation h⟩
            · rcases except_bind_eq_error h with h | ⟨_, -, h⟩
              · exact (ih h).mono infix_cons_self
              · cases h
          · split at h
            · cases h
            · rcases except_bind_eq_error h with h | ⟨_, -, h⟩
              · exact (ih h).mono infix_cons_self
              · cases h

theorem lt_length_of_separatorFrom (h : separatorFrom skip s = .ok (some i)) : i < s.length := by
  have hnext {rest : List Char} {skip i : Nat} {c : Char}
      (ih : ∀ {skip i}, separatorFrom skip rest = .ok (some i) → i < rest.length)
      (h : (do return (← separatorFrom skip rest).map (· + 1)) = Except.ok (some i)) :
      i < (c :: rest).length := by
    cases hrest : separatorFrom skip rest with
    | error e =>
        rw [hrest] at h
        cases h
    | ok found =>
        rw [hrest] at h
        cases found with
        | none => cases h
        | some j =>
            cases h
            exact Nat.succ_lt_succ (ih hrest)
  induction s generalizing skip i with
  | nil =>
      unfold separatorFrom at h
      cases h
  | cons c rest ih =>
      cases skip with
      | succ skip => exact hnext ih h
      | zero =>
          rw [separatorFrom] at h
          split at h
          · cases hinterpolation : Template.interpolation rest.tail with
            | error e =>
                rw [hinterpolation] at h
                cases h
            | ok found =>
                rw [hinterpolation] at h
                exact hnext ih h
          · split at h
            · cases h
              exact Nat.succ_pos _
            · exact hnext ih h

/-! ## Speakers and contents -/

theorem infix_trim (s : List Char) : Text.trim s <:+: s := by
  have hend (s : List Char) : Text.trimEndBy Text.isBlank s <:+: s := by
    have hsuffix := List.dropWhile_suffix (l := s.reverse) Text.isBlank
    exact (List.reverse_suffix.mp (by simpa [Text.trimEndBy] using hsuffix)).isInfix
  exact (hend _).trans (List.dropWhile_suffix Text.isBlank).isInfix

theorem le_length_of_expressionSpeaker? {found : Template × Nat}
    (h : expressionSpeaker? s = some found) : found.2 ≤ s.length := by
  unfold expressionSpeaker? at h
  split at h
  · next expr after hrun =>
      cases h
      obtain ⟨p, q, hofLexer, hgives⟩ := Parser.run_eq_ok.mp hrun
      obtain ⟨hexpr, rfl⟩ := Parse.expression_of_gives_speaker hgives
      have hq := (Parse.keeps_expression (Parser.invariant_stands s)).gives
        (Parser.stands_of_ofLexer hofLexer) hexpr
      exact hq.stop.offset_le
  · cases h

variable {number offset : Nat}

theorem atColumn_fault {α : Type} {column : Nat} {form : MessageFault} (hpos : 1 ≤ column)
    (hle : column ≤ s.length + 1) (h : (fault 1 column form : Except ParseError α) = .error e) :
    AtColumn s e := by
  cases h
  exact ⟨rfl, hpos, hle⟩

theorem foundInside_of_textSpeaker? (h : textSpeaker? s = .error e) : FoundInside s e := by
  rcases except_bind_eq_error h with h | ⟨_, -, h⟩
  · exact foundInside_of_separatorFrom h
  · cases h

theorem le_length_of_textSpeaker? {text : List Char}
    (h : textSpeaker? s = .ok (some (text, offset))) : text <+: s ∧ offset ≤ s.length := by
  unfold textSpeaker? at h
  cases hseparator : separatorFrom 0 s with
  | error e =>
      rw [hseparator] at h
      cases h
  | ok found =>
      rw [hseparator] at h
      cases found with
      | none => cases h
      | some i =>
          cases h
          exact ⟨List.take_prefix i s, lt_length_of_separatorFrom hseparator⟩

/-- What is wrong with the speaker of a line is at a column of the line. -/
theorem atColumn_of_speakerIn (hs : '\n' ∉ s) (h : speakerIn 1 s = .error e) : AtColumn s e := by
  unfold speakerIn at h
  split at h
  · cases h
  · rcases except_bind_eq_error h with h | ⟨found, hfound, h⟩
    · exact (foundInside_of_textSpeaker? h).atColumn hs
    · cases found with
      | none => exact atColumn_fault (Nat.succ_pos _) (Nat.le_refl _) h
      | some found =>
          obtain ⟨text, after⟩ := found
          dsimp only at h
          split at h
          · exact atColumn_fault (Nat.le_refl _) (Nat.succ_pos _) h
          · have hprefix := (le_length_of_textSpeaker? hfound).1
            rcases except_bind_eq_error h with h | ⟨_, -, h⟩
            · have hinside := (Template.foundInside_of_ofChars h).mono
                ((infix_trim text).trans hprefix.isInfix)
              exact hinside.atColumn hs
            · cases h

theorem le_length_of_speakerIn {speaker : Template}
    (h : speakerIn number s = .ok (speaker, offset)) : offset ≤ s.length := by
  unfold speakerIn at h
  split at h
  · next found hfound =>
      cases h
      exact le_length_of_expressionSpeaker? hfound
  · cases hfound : textSpeaker? s with
    | error e =>
        rw [hfound] at h
        cases h
    | ok found =>
        rw [hfound] at h
        cases found with
        | none => cases h
        | some found =>
            obtain ⟨text, after⟩ := found
            change (if _ then _ else _) = _ at h
            split at h
            · cases h
            · cases htemplate : Template.ofChars (Text.trim text) with
              | error e =>
                  rw [htemplate] at h
                  cases h
              | ok template =>
                  rw [htemplate] at h
                  cases h
                  exact (le_length_of_textSpeaker? hfound).2

/-- What is wrong with the content of a line is at a column of the line. -/
theorem atColumn_of_contentIn (hs : '\n' ∉ s) (hoffset : offset ≤ s.length)
    (h : contentIn 1 offset s = .error e) : AtColumn s e := by
  unfold contentIn at h
  have hcolumn : offset + 1 ≤ s.length + 1 := Nat.succ_le_succ hoffset
  split at h
  · exact atColumn_fault (Nat.succ_pos _) hcolumn h
  · exact atColumn_fault (Nat.succ_pos _) hcolumn h
  · split at h
    · cases h
    · have hinside := (Template.foundInside_of_ofChars h).mono
        ((infix_trim _).trans (List.drop_suffix offset s).isInfix)
      exact hinside.atColumn hs

theorem atColumn_of_ofChars (hs : '\n' ∉ s) (h : ofChars 1 s = .error e) : AtColumn s e := by
  rcases except_bind_eq_error h with h | ⟨⟨speaker, offset⟩, hspeaker, h⟩
  · exact atColumn_of_speakerIn hs h
  · rcases except_bind_eq_error h with h | ⟨_, -, h⟩
    · exact atColumn_of_contentIn hs (le_length_of_speakerIn hspeaker) h
    · cases h

/-! ## The number of a line -/

theorem mapError_bind {ε ε' α β : Type} (x : Except ε α) (f : α → Except ε β) (g : ε → ε') :
    (x >>= f).mapError g = x.mapError g >>= fun a => (f a).mapError g := by
  cases x <;> rfl

theorem mapError_onLine {α : Type} {x : Except ParseError α}
    (h : ∀ e, x = .error e → FoundInside s e) : x.mapError (ParseError.onLine number) = x := by
  cases x with
  | error e => exact congrArg Except.error (h e rfl).onLine
  | ok a => rfl

theorem mapError_fault {α : Type} {column : Nat} {form : MessageFault}
    (h : form ≠ .unclosedInterpolation) :
    (fault 1 column form : Except ParseError α).mapError (ParseError.onLine number) =
      fault number column form := by
  have hstructural (p : Position) : (ParseError.messageForm p form).isStructural = true :=
    bne_iff_ne.mpr h
  exact congrArg Except.error (if_pos (hstructural _))

/-- The number of a line only says where the faults of the line as a whole are. -/
theorem speakerIn_eq_mapError (number : Nat) (s : List Char) :
    speakerIn number s = (speakerIn 1 s).mapError (ParseError.onLine number) := by
  unfold speakerIn
  split
  · rfl
  · rw [mapError_bind, mapError_onLine fun e h => foundInside_of_textSpeaker? h]
    congr 1
    funext found
    cases found with
    | none => exact (mapError_fault (by decide)).symm
    | some found =>
        obtain ⟨text, after⟩ := found
        dsimp only
        split
        · exact (mapError_fault (by decide)).symm
        · rw [mapError_bind, mapError_onLine fun e h => Template.foundInside_of_ofChars h]
          rfl

theorem contentIn_eq_mapError (number offset : Nat) (s : List Char) :
    contentIn number offset s = (contentIn 1 offset s).mapError (ParseError.onLine number) := by
  unfold contentIn
  split
  · exact (mapError_fault (by decide)).symm
  · exact (mapError_fault (by decide)).symm
  · split
    · rfl
    · exact (mapError_onLine fun e h => Template.foundInside_of_ofChars h).symm

theorem ofChars_eq_mapError (number : Nat) (s : List Char) :
    ofChars number s = (ofChars 1 s).mapError (ParseError.onLine number) := by
  unfold ofChars
  rw [mapError_bind, ← speakerIn_eq_mapError]
  congr 1
  funext found
  obtain ⟨speaker, offset⟩ := found
  dsimp only
  rw [mapError_bind, ← contentIn_eq_mapError]
  rfl

/-! ## Texts of messages -/

/-- Lines fail at the first one that is not blank and no message on its own. -/
theorem exists_of_ofLines {lines : List (List Char)} (h : ofLines number lines = .error e) :
    ∃ before s after e', lines = before ++ s :: after ∧ s.all Text.isBlank = false ∧
      ofChars 1 s = .error e' ∧ e = e'.onLine (number + before.length) ∧
      ∀ t ∈ before, t.all Text.isBlank = false → ∃ line, ofChars 1 t = .ok line := by
  induction lines generalizing number with
  | nil => cases h
  | cons s rest ih =>
      -- A line that is passed over stands in front of the one that fails.
      have hpass (hs : s.all Text.isBlank = false → ∃ line, ofChars 1 s = .ok line)
          (h : ofLines (number + 1) rest = .error e) :
          ∃ before t after e', s :: rest = before ++ t :: after ∧ t.all Text.isBlank = false ∧
            ofChars 1 t = .error e' ∧ e = e'.onLine (number + before.length) ∧
            ∀ u ∈ before, u.all Text.isBlank = false → ∃ line, ofChars 1 u = .ok line := by
        obtain ⟨before, t, after, e', rfl, ht, he', he, hbefore⟩ := ih h
        refine ⟨s :: before, t, after, e', rfl, ht, he', ?_, List.forall_mem_cons.mpr ⟨hs, hbefore⟩⟩
        rw [he, List.length_cons, Nat.add_assoc, Nat.add_comm 1]
      rw [ofLines] at h
      split at h
      · next hblank => exact hpass (fun hs => absurd hblank (by simp [hs])) h
      · next hblank =>
          have hs : s.all Text.isBlank = false := Bool.eq_false_iff.mpr hblank
          rw [ofChars_eq_mapError] at h
          cases hline : ofChars 1 s with
          | error e' =>
              rw [hline] at h
              cases h
              exact ⟨[], s, rest, e', rfl, hs, hline, rfl, List.forall_mem_nil _⟩
          | ok line =>
              rw [hline] at h
              rcases except_bind_eq_error h with h | ⟨_, -, h⟩
              · cases h
              · rcases except_bind_eq_error h with h | ⟨_, -, h⟩
                · exact hpass (fun _ => ⟨line, hline⟩) h
                · cases h

end Line

namespace Text

theorem not_mem_of_mem_splitNewlines {s piece : List Char} (h : piece ∈ splitNewlines s) :
    '\n' ∉ piece := by
  unfold splitNewlines splitOn at h
  induction s generalizing piece with
  | nil =>
      rw [piecesFrom, List.mem_singleton] at h
      rw [h]
      exact List.not_mem_nil
  | cons c rest ih =>
      rw [piecesFrom] at h
      split at h
      · rcases List.mem_cons.mp h with rfl | h
        · exact List.not_mem_nil
        · exact ih h
      · next hc =>
          have hne : '\n' ≠ c := by
            rintro rfl
            exact hc (startsWith_iff.mpr ⟨rest, rfl⟩)
          cases hpieces : piecesFrom ['\n'] 0 rest with
          | nil =>
              rw [hpieces, consPiece, List.mem_singleton] at h
              rw [h]
              exact List.not_mem_cons_of_ne_of_not_mem hne List.not_mem_nil
          | cons first more =>
              rw [hpieces] at h ih
              rcases List.mem_cons.mp h with rfl | h
              · exact List.not_mem_cons_of_ne_of_not_mem hne (ih List.mem_cons_self)
              · exact ih (List.mem_cons_of_mem _ h)

theorem dropReturn_subset (s : List Char) : dropReturn s ⊆ s := by
  unfold dropReturn
  split
  · next rest heq =>
      intro c hc
      rw [← List.mem_reverse, heq]
      exact List.mem_cons_of_mem _ (List.mem_reverse.mp hc)
  · exact List.Subset.refl s

/-- No line holds a newline. -/
theorem not_mem_of_mem_lines {s line : List Char} (h : line ∈ lines s) : '\n' ∉ line := by
  unfold lines at h
  rcases List.mem_append.mp h with h | h
  · obtain ⟨piece, hpiece, rfl⟩ := List.mem_map.mp h
    intro hmem
    exact not_mem_of_mem_splitNewlines ((List.dropLast_prefix _).subset hpiece)
      (dropReturn_subset piece hmem)
  · cases hparts : splitNewlines s with
    | nil =>
        rw [hparts] at h
        cases h
    | cons first more =>
        have hlast : (splitNewlines s).getLastD [] ∈ splitNewlines s := by
          rw [hparts, List.getLastD_cons]
          exact List.getLastD_mem_cons
        split at h
        · cases h
        · rw [List.mem_singleton.mp h]
          exact not_mem_of_mem_splitNewlines hlast

end Text

namespace Line

/-- A text of messages fails because of its first line that is not blank and no message on its own,
with the error of that line at a column of it or behind its end.  A fault of the line as a whole is
on the line's number in the text; an error in an interpolation is on line 1, wherever the
interpolation is. -/
theorem parseAll_fails_at {source : String} {e : ParseError} (h : parseAll source = .error e) :
    ∃ before s after e', Text.lines source.toList = before ++ s :: after ∧
      s.all Text.isBlank = false ∧ parse (String.ofList s) = .error e' ∧
      (∀ t ∈ before, t.all Text.isBlank = false → ∃ line, parse (String.ofList t) = .ok line) ∧
      e = e'.onLine (before.length + 1) ∧
      1 ≤ e.position.column ∧ e.position.column ≤ s.length + 1 ∧
      e.position.line = if e.isStructural then before.length + 1 else 1 := by
  have hparse (s : List Char) : parse (String.ofList s) = ofChars 1 s := by
    rw [parse, String.toList_ofList]
  obtain ⟨before, s, after, e', hlines, hs, he', rfl, hbefore⟩ := exists_of_ofLines h
  have hmem : s ∈ Text.lines source.toList := by
    rw [hlines]
    exact List.mem_append_right _ List.mem_cons_self
  obtain ⟨hline, hpos, hle⟩ := atColumn_of_ofChars (Text.not_mem_of_mem_lines hmem) he'
  simp only [hparse]
  refine ⟨before, s, after, e', hlines, hs, he', hbefore, ?_, ?_, ?_, ?_⟩
  · rw [Nat.add_comm]
  · rwa [ParseError.position_onLine]
  · rwa [ParseError.position_onLine]
  · rw [ParseError.position_onLine, ParseError.isStructural_onLine, hline, Nat.add_comm]

/-- A line without a speaker behind a message and a blank line. -/
theorem parseAll_fails_at_speaker :
    parseAll "a : 'ok'\n\n:oops" = .error (.messageForm ⟨0, 3, 1⟩ .emptySpeaker) ∧
      ∃ before s after e', Text.lines "a : 'ok'\n\n:oops".toList = before ++ s :: after ∧
        s.all Text.isBlank = false ∧ parse (String.ofList s) = .error e' ∧
        (∀ t ∈ before, t.all Text.isBlank = false → ∃ line, parse (String.ofList t) = .ok line) ∧
        .messageForm ⟨0, 3, 1⟩ .emptySpeaker = e'.onLine (before.length + 1) ∧
        1 ≤ 1 ∧ 1 ≤ s.length + 1 ∧ 3 = before.length + 1 := by
  have hfails : parseAll "a : 'ok'\n\n:oops" = .error (.messageForm ⟨0, 3, 1⟩ .emptySpeaker) :=
    eq_error_of_map (show Except.map (fun _ => ()) _ = _ by decide +kernel)
  exact ⟨hfails, parseAll_fails_at hfails⟩

/-- An interpolation without an operand on the third line, behind a message and a blank line. -/
theorem parseAll_misplaces :
    ∃ e, parseAll "a : 'ok'\n\nb : \x7b\x7b 1 + \x7d\x7d" = .error e ∧
      Text.lines "a : 'ok'\n\nb : \x7b\x7b 1 + \x7d\x7d".toList =
        ["a : 'ok'".toList, [], "b : \x7b\x7b 1 + \x7d\x7d".toList] ∧
      (∃ line, parse "a : 'ok'" = .ok line) ∧
      parse "b : \x7b\x7b 1 + \x7d\x7d" = .error e ∧ e.position.line ≠ 3 := by
  refine ⟨.unexpected ⟨5, 1, 6⟩ .expression (.sign .rightBrace), ?_, by decide +kernel, ?_, ?_,
    by decide⟩
  · exact eq_error_of_map (show Except.map (fun _ => ()) _ = _ by decide +kernel)
  · obtain ⟨line, hline, -⟩ := exists_ok_of_map
      (show (parse "a : 'ok'").map (fun _ => ()) = .ok () by decide +kernel)
    exact ⟨line, hline⟩
  · exact eq_error_of_map (show Except.map (fun _ => ()) _ = _ by decide +kernel)

end Line
end Guest
