import Guest.Proofs.Evaluation.Sessions
import Guest.Proofs.Expr.Soundness
import Guest.Proofs.Expr.Values
import Guest.Proofs.Parser.Names
import Guest.Proofs.TypeExpr.Keyed
import Guest.Proofs.TypeExpr.Reading

/-!
# The results of type expressions

The parser of types takes its names from the lexer, and neither a union nor the template arguments
of a type are empty.  The evaluation keeps this shape and makes configurations without a repeated
key.  Hence the records that a source text evaluates to are well-formed.
-/

namespace Guest

open Grammar

/-! ## Types that the parser gives -/

/-- The types that the parser gives: names are read as names, configurations are derived, and a
template argument is not empty. -/
inductive TypeTerm.Proper : TypeTerm → Prop where
  | mk {name : String} {config : Option Entries} {fullname : String}
      {template : List (List TypeTerm)} :
      Token.IsName name → (∀ entries ∈ config, ∃ ts, EntrySequence ts entries) →
      (∀ us ∈ template, us ≠ []) → (∀ us ∈ template, ∀ t ∈ us, TypeTerm.Proper t) →
      TypeTerm.Proper ⟨name, config, fullname, template⟩

theorem TypeTerm.keyed_config {config : Option Entries}
    (h : ∀ entries ∈ config, ∃ ts, EntrySequence ts entries) :
    ∀ entries ∈ config, ∀ entry ∈ entries, entry.2.Keyed := fun entries hsome =>
  (h entries hsome).elim fun _ hentries => keyed_entrySequence hentries

theorem TypeTerm.Proper.keyed {t : TypeTerm} (h : t.Proper) : t.Keyed := by
  induction h with
  | mk _ hconfig _ _ ih => exact .mk (keyed_config hconfig) ih

/-- A union of types that the parser gives. -/
def TypeUnion.Proper (us : TypeUnion) : Prop := us ≠ [] ∧ ∀ t ∈ us, t.Proper

namespace Parse

open Guest.Parser

variable {depth : Nat}

theorem meets_closingAngle : Meets .extended closingAngle fun _ => True := by
  have hsplit {sign : Sign} : Meets .extended (splitAngle sign) fun _ => True := by
    intro p _ q hp h
    cases h
    exact ⟨trivial, hp.dialect, fun _ hname => nomatch hname⟩
  intro p _ q hp h
  rw [closingAngle, gives_peek_bind] at h
  split at h
  · exact meets_advance hp h
  · exact hsplit hp h
  · exact hsplit hp h
  · exact absurd h not_gives_unexpected

theorem meets_typeName : Meets .extended typeName fun found => Token.IsName found.2 := by
  intro p found q hp h
  unfold Gives typeName at h
  split at h
  · next name htoken =>
      split at h
      · next moved hadvance =>
          cases h
          exact ⟨isName_of_reads (hp.name name htoken), hp.advance hadvance⟩
      · cases h
  · cases h

theorem meets_textFrom {start : Nat} : Meets .extended (textFrom start) fun _ => True := by
  intro p s q hp h
  cases h
  exact ⟨trivial, hp⟩

theorem meets_typeConfig : Meets .extended typeConfig
    fun config => ∀ entries ∈ config, ∃ ts, EntrySequence ts entries := by
  unfold typeConfig
  apply meets_accept.bind
  intro found _
  split
  · apply Meets.bind (P := fun entries => ∃ ts, EntrySequence ts entries)
    · intro p entries q hp h
      obtain ⟨ts, hreads, us, -, hentries⟩ :=
        (soundAt p.depth).entries (gives_objectEntries.mp h)
      exact ⟨⟨us, hentries⟩, hp.reads hreads⟩
    · intro entries hentries
      apply meets_pure
      rintro _ ⟨rfl⟩
      exact hentries
  · apply meets_pure
    rintro _ ⟨⟩

/-- The functions of the parser give proper types as long as their recursion is no deeper than a
bound. -/
structure MeetsAt (depth : Nat) : Prop where
  union : Meets .extended (unionIn depth) TypeUnion.Proper
  term : Meets .extended (termIn depth) TypeTerm.Proper
  template : Meets .extended (templateIn depth) fun arguments => ∀ us ∈ arguments, TypeUnion.Proper us
  arguments : Meets .extended (argumentsIn depth)
    fun arguments => ∀ us ∈ arguments, TypeUnion.Proper us

theorem meets_unionIn (ih : MeetsAt depth) :
    Meets .extended (unionIn (depth + 1)) TypeUnion.Proper := by
  rw [unionIn]
  apply ih.term.bind
  intro t ht
  apply meets_accept.bind
  intro found _
  split
  · apply ih.union.bind
    intro us hus
    exact meets_pure ⟨List.cons_ne_nil _ _, List.forall_mem_cons.mpr ⟨ht, hus.2⟩⟩
  · exact meets_pure ⟨List.cons_ne_nil _ _, List.forall_mem_singleton.mpr ht⟩

theorem meets_termIn (ih : MeetsAt depth) :
    Meets .extended (termIn (depth + 1)) TypeTerm.Proper := by
  rw [termIn]
  apply meets_typeName.bind
  rintro ⟨start, name⟩ hname
  apply ih.template.bind
  intro template htemplate
  apply meets_typeConfig.bind
  intro config hconfig
  apply meets_textFrom.bind
  intro fullname _
  apply meets_pure
  exact .mk hname hconfig (fun us hus => (htemplate us hus).1) fun us hus => (htemplate us hus).2

theorem meets_templateIn (ih : MeetsAt depth) : Meets .extended (templateIn (depth + 1))
    fun arguments => ∀ us ∈ arguments, TypeUnion.Proper us := by
  rw [templateIn]
  apply meets_accept.bind
  intro found _
  split
  · apply ih.arguments.bind
    intro arguments harguments
    apply meets_closingAngle.bind
    intro _ _
    exact meets_pure harguments
  · exact meets_pure (List.forall_mem_nil _)

theorem meets_argumentsIn (ih : MeetsAt depth) : Meets .extended (argumentsIn (depth + 1))
    fun arguments => ∀ us ∈ arguments, TypeUnion.Proper us := by
  rw [argumentsIn]
  apply ih.union.bind
  intro us hus
  apply meets_accept.bind
  intro found _
  split
  · apply ih.arguments.bind
    intro rest hrest
    exact meets_pure (List.forall_mem_cons.mpr ⟨hus, hrest⟩)
  · exact meets_pure (List.forall_mem_singleton.mpr hus)

theorem meetsAt (depth : Nat) : MeetsAt depth := by
  induction depth with
  | zero =>
      exact {
        union := meets_unexpected
        term := meets_unexpected
        template := meets_unexpected
        arguments := meets_unexpected }
  | succ depth ih =>
      exact {
        union := meets_unionIn ih
        term := meets_termIn ih
        template := meets_templateIn ih
        arguments := meets_argumentsIn ih }

end Parse

namespace TypeUnion

open Parse Guest.Parser

theorem proper_of_parse {source : String} {us : TypeUnion} (h : parse source = .ok us) :
    us.Proper := by
  obtain ⟨p, r, hofLexer, hwhole⟩ := run_eq_ok.mp h
  obtain ⟨q, hgives, -⟩ := gives_wholeType.mp hwhole
  exact ((meetsAt p.depth).union (names_of_ofLexer hofLexer) hgives).1

/-- The configurations of a union that the parser gives have atomic literals. -/
theorem keyed_of_parse {source : String} {us : TypeUnion} (h : parse source = .ok us) : us.Keyed :=
  fun t ht => ((proper_of_parse h).2 t ht).keyed

end TypeUnion

/-! ## Records of values -/

namespace TypeRecord

mutual

theorem recordsOf_unionValues : ∀ us : List TypeRecord, recordsOf (unionValues us) = us
  | [] => by rw [unionValues, recordsOf]
  | ⟨name, config, fullname, template⟩ :: rest => by
      have htemplate := unionsOf_templateValues template
      have hrest := recordsOf_unionValues rest
      rw [unionValues, toValue, TypeTerm.record, recordsOf, hrest]
      simp [ofFields?, textField?, configField, Fields.find?, Value.string?, templateField,
        htemplate]

theorem unionsOf_templateValues :
    ∀ arguments : List (List TypeRecord), unionsOf (templateValues arguments) = arguments
  | [] => by rw [templateValues, unionsOf]
  | us :: rest => by
      rw [templateValues, unionsOf, recordsOf_unionValues us, unionsOf_templateValues rest]

end

end TypeRecord

/-! ## Evaluation -/

namespace TypeTerm

open TypeRecord Script

mutual

/-- The value of a proper type is that of a well-formed record. -/
theorem ensures_script : ∀ t : TypeTerm, t.Proper →
    (script t).Ensures fun v => ∃ r : TypeRecord, r.WellFormed ∧ v = r.toValue
  | ⟨name, config, fullname, template⟩, .mk hname hconfig hne hproper => by
      rw [script]
      apply (ensures_configScript (keyed_config hconfig)).bind
      rintro _ ⟨fields, hkeyed, rfl⟩
      apply (ensures_argumentScripts template hne hproper).map
      rintro _ ⟨arguments, hne, hwell, rfl⟩
      exact ⟨⟨name, fields, fullname, arguments⟩, .mk hname hkeyed hne hwell, rfl⟩

theorem ensures_memberScripts : ∀ us : List TypeTerm, (∀ t ∈ us, t.Proper) →
    (memberScripts us).Ensures fun vs => ∃ rs : List TypeRecord,
      (us ≠ [] → rs ≠ []) ∧ (∀ r ∈ rs, r.WellFormed) ∧ vs = unionValues rs
  | [], _ => .done ⟨[], fun h => absurd rfl h, List.forall_mem_nil _, rfl⟩
  | t :: rest, hproper => by
      obtain ⟨ht, hrest⟩ := List.forall_mem_cons.mp hproper
      rw [memberScripts]
      apply (ensures_script t ht).bind
      rintro _ ⟨r, hr, rfl⟩
      apply (ensures_memberScripts rest hrest).map
      rintro _ ⟨rs, -, hrs, rfl⟩
      exact ⟨r :: rs, fun _ => List.cons_ne_nil _ _, List.forall_mem_cons.mpr ⟨hr, hrs⟩, rfl⟩

theorem ensures_argumentScripts : ∀ template : List (List TypeTerm),
    (∀ us ∈ template, us ≠ []) → (∀ us ∈ template, ∀ t ∈ us, t.Proper) →
    (argumentScripts template).Ensures fun vs => ∃ arguments : List (List TypeRecord),
      (∀ us ∈ arguments, us ≠ []) ∧ (∀ us ∈ arguments, ∀ r ∈ us, r.WellFormed) ∧
        vs = templateValues arguments
  | [], _, _ => .done ⟨[], List.forall_mem_nil _, List.forall_mem_nil _, rfl⟩
  | us :: rest, hne, hproper => by
      obtain ⟨hus, hrest⟩ := List.forall_mem_cons.mp hne
      obtain ⟨hmembers, hmore⟩ := List.forall_mem_cons.mp hproper
      rw [argumentScripts]
      apply (ensures_memberScripts us hmembers).bind
      rintro _ ⟨rs, hsome, hrs, rfl⟩
      apply (ensures_argumentScripts rest hrest hmore).map
      rintro _ ⟨arguments, hargs, hwell, rfl⟩
      exact ⟨rs :: arguments, List.forall_mem_cons.mpr ⟨hsome hus, hargs⟩,
        List.forall_mem_cons.mpr ⟨hrs, hwell⟩, rfl⟩

end

end TypeTerm

namespace TypeUnion

variable {source : String} {context after : Context} {us : TypeUnion} {rs : List TypeRecord}

theorem records_eq_runNow (us : TypeUnion) : us.records = us.recordsScript.runNow.isolated := by
  simp only [records, recordsScript, evaluate, Script.isolated_runNow_bind,
    Script.isolated_runNow_pure]

/-- A proper union is evaluated to well-formed records. -/
theorem ensures_recordsScript (h : us.Proper) :
    us.recordsScript.Ensures fun rs => rs ≠ [] ∧ ∀ r ∈ rs, r.WellFormed := by
  have hscript : us.script.Ensures fun v => ∃ rs : List TypeRecord,
      (rs ≠ [] ∧ ∀ r ∈ rs, r.WellFormed) ∧ v = .array (TypeRecord.unionValues rs) := by
    apply (TypeTerm.ensures_memberScripts us h.2).map
    rintro _ ⟨rs, hne, hwell, rfl⟩
    exact ⟨rs, ⟨hne h.1, hwell⟩, rfl⟩
  apply hscript.map
  rintro _ ⟨rs, hrs, rfl⟩
  rw [TypeRecord.ofValue, TypeRecord.recordsOf_unionValues]
  exact hrs

/-- A text evaluates to records if it denotes a type whose run ends in them. -/
theorem evaluateSource_eq_ok : evaluateSource source context = (.ok rs, after) ↔
    ∃ us, parse source = .ok us ∧ (us.recordsScript.runNow (.new context)).1 = .ok rs ∧
      (us.recordsScript.runNow (.new context)).2.context = after := by
  unfold evaluateSource
  cases parse source with
  | error error => simp [Except.map, runSource]
  | ok us =>
      simp only [Except.map, runSource, records_eq_runNow, Session.isolated, Except.ok.injEq,
        exists_eq_left']
      rcases us.recordsScript.runNow (.new context) with ⟨error | found, evaluator⟩
      · simp
      · simp

/-- The records that a text evaluates to are well-formed, if the host answers with values without
a repeated key. -/
theorem wellFormed_of_evaluateSource (hc : context.Keyed)
    (h : evaluateSource source context = (.ok rs, after)) :
    rs ≠ [] ∧ ∀ r ∈ rs, r.WellFormed := by
  obtain ⟨us, hparse, hrun, -⟩ := evaluateSource_eq_ok.mp h
  exact (ensures_recordsScript (proper_of_parse hparse)).runNow hc hrun

end TypeUnion
end Guest
