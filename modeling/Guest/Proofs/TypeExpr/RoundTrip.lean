import Guest.Proofs.TypeExpr.Results
import Guest.Proofs.Value.RoundTrip

/-!
# Evaluating canonical type text

The canonical text of well-formed records evaluates to the records themselves, up to the sign of a
zero in their configurations.  Such a sign is not written, so the records that are read back have
the same canonical text, and this is the source text that they keep.
-/

namespace Guest

/-! ## Texts without signs of zeros -/

theorem Source.number_unsigned (x : Number) :
    number (if x = .negZero then .zero else x) = number x := by
  by_cases hx : x = .negZero
  · rw [if_pos hx, hx]
    simp [number, Number.text, Number.zero, Number.negZero]
  · rw [if_neg hx]

namespace Value

mutual

/-- The sign of a zero is not written. -/
theorem source_unsigned : ∀ v : Value, v.unsigned.source = v.source
  | null => by rw [unsigned]
  | boolean b => by rw [unsigned]
  | string s => by rw [unsigned]
  | number x => by
      rw [unsigned, source, source]
      exact Source.number_unsigned x
  | array items => by rw [unsigned, source, source, itemsSource_unsignedItems items]
  | object fields => by rw [unsigned, source, source, fieldsSource_unsignedFields fields]

theorem itemsSource_unsignedItems :
    ∀ items : List Value, itemsSource (unsignedItems items) = itemsSource items
  | [] => by rw [unsignedItems]
  | [item] => by
      rw [unsignedItems, unsignedItems, itemsSource, itemsSource, source_unsigned item]
  | item :: next :: more => by
      have hmore := itemsSource_unsignedItems (next :: more)
      rw [unsignedItems, itemsSource, itemsSource, source_unsigned item, hmore]
      · simp
      · simp [unsignedItems]

theorem fieldsSource_unsignedFields :
    ∀ fields : List (String × Value), fieldsSource (unsignedFields fields) = fieldsSource fields
  | [] => by rw [unsignedFields]
  | [(name, value)] => by
      rw [unsignedFields, unsignedFields, fieldsSource, fieldsSource, source_unsigned value]
  | (name, value) :: (next, following) :: more => by
      have hmore := fieldsSource_unsignedFields ((next, following) :: more)
      rw [unsignedFields, fieldsSource, fieldsSource, source_unsigned value, hmore]
      · simp
      · simp [unsignedFields]

end

end Value

namespace TypeRecord

open TypeTerm Script

/-! ## Canonical records -/

mutual

/-- The record without signs of zeros, and with its canonical text as its source text. -/
def canonical : TypeRecord → TypeRecord
  | ⟨name, config, fullname, template⟩ =>
    ⟨name, Value.unsignedFields config, String.ofList (chars ⟨name, config, fullname, template⟩),
      canonicalArguments template⟩

/-- The canonical records of a union. -/
def canonicalUnion : List TypeRecord → List TypeRecord
  | [] => []
  | member :: rest => canonical member :: canonicalUnion rest

/-- The canonical records of template arguments. -/
def canonicalArguments : List (List TypeRecord) → List (List TypeRecord)
  | [] => []
  | argument :: rest => canonicalUnion argument :: canonicalArguments rest

end

/-- The source text of a record is its canonical text, and so it is for all records among its
template arguments. -/
inductive Displays : TypeRecord → Prop where
  | mk {name : String} {config : Fields} {fullname : String}
      {template : List (List TypeRecord)} :
      fullname = String.ofList (chars ⟨name, config, fullname, template⟩) →
      (∀ argument ∈ template, ∀ member ∈ argument, Displays member) →
      Displays ⟨name, config, fullname, template⟩

theorem configChars_unsignedFields (config : Fields) :
    configChars (Value.unsignedFields config) = configChars config := by
  cases config with
  | nil => rfl
  | cons field rest =>
      have hsource := Value.source_unsigned (.object (field :: rest))
      rw [Value.unsigned] at hsource
      rw [configChars, configChars, hsource]
      rfl

mutual

theorem chars_canonical : ∀ r : TypeRecord, r.canonical.chars = r.chars
  | ⟨name, config, fullname, template⟩ => by
      rw [canonical, chars_eq, chars_eq, configChars_unsignedFields,
        templateChars_canonicalArguments template]

theorem unionChars_canonicalUnion :
    ∀ us : List TypeRecord, unionChars (canonicalUnion us) = unionChars us
  | [] => by rw [canonicalUnion]
  | [r] => by rw [canonicalUnion, canonicalUnion, unionChars, unionChars, chars_canonical r]
  | r :: next :: more => by
      have hmore := unionChars_canonicalUnion (next :: more)
      rw [canonicalUnion, unionChars, unionChars, chars_canonical r, hmore]
      · simp
      · simp [canonicalUnion]

theorem templateChars_canonicalArguments : ∀ arguments : List (List TypeRecord),
    templateChars (canonicalArguments arguments) = templateChars arguments
  | [] => by rw [canonicalArguments]
  | us :: rest => by
      rw [canonicalArguments, templateChars, templateChars, unionChars_canonicalUnion us,
        argumentChars_canonicalArguments rest]

theorem argumentChars_canonicalArguments : ∀ arguments : List (List TypeRecord),
    argumentChars (canonicalArguments arguments) = argumentChars arguments
  | [] => by rw [canonicalArguments]
  | us :: rest => by
      rw [canonicalArguments, argumentChars, argumentChars, unionChars_canonicalUnion us,
        argumentChars_canonicalArguments rest]

end

mutual

theorem displays_canonical : ∀ r : TypeRecord, r.canonical.Displays
  | ⟨name, config, fullname, template⟩ => by
      have hchars := chars_canonical ⟨name, config, fullname, template⟩
      rw [canonical] at hchars ⊢
      exact .mk (congrArg String.ofList hchars.symm) (displays_canonicalArguments template)

theorem displays_canonicalUnion : ∀ us : List TypeRecord, ∀ r ∈ canonicalUnion us, r.Displays
  | [] => by
      rw [canonicalUnion]
      exact List.forall_mem_nil _
  | r :: rest => by
      rw [canonicalUnion]
      exact List.forall_mem_cons.mpr ⟨displays_canonical r, displays_canonicalUnion rest⟩

theorem displays_canonicalArguments : ∀ arguments : List (List TypeRecord),
    ∀ us ∈ canonicalArguments arguments, ∀ r ∈ us, r.Displays
  | [] => by
      rw [canonicalArguments]
      exact List.forall_mem_nil _
  | us :: rest => by
      rw [canonicalArguments]
      exact List.forall_mem_cons.mpr
        ⟨displays_canonicalUnion us, displays_canonicalArguments rest⟩

end

/-! ## Evaluation -/

variable {context : Context}

theorem settles_configScript (h : context.NamesNumbers) {config : Fields}
    (hconfig : (Value.object config).Keyed) :
    (configScript (configEntries config)).Settles context
      (.object (Value.unsignedFields config)) := by
  cases config with
  | nil => exact .done _
  | cons field rest =>
      have hsettles := Value.settles_expr h _ hconfig
      rw [Value.expr, Value.unsigned] at hsettles
      exact hsettles

mutual

/-- The type that a record's text is read as comes to the canonical record. -/
theorem settles_term (h : context.NamesNumbers) : ∀ r : TypeRecord, r.WellFormed →
    (script r.term).Settles context r.canonical.toValue
  | ⟨name, config, fullname, template⟩, .mk _ hconfig _ hwell => by
      rw [term, canonical, toValue, script]
      apply (settles_configScript h hconfig).bind
      exact (settles_argumentTerms h template hwell).map

theorem settles_unionTerms (h : context.NamesNumbers) :
    ∀ us : List TypeRecord, (∀ r ∈ us, r.WellFormed) →
      (memberScripts (unionTerms us)).Settles context (unionValues (canonicalUnion us))
  | [], _ => by
      rw [unionTerms, canonicalUnion, unionValues, memberScripts]
      exact .done []
  | r :: rest, hwell => by
      obtain ⟨hr, hrest⟩ := List.forall_mem_cons.mp hwell
      rw [unionTerms, canonicalUnion, unionValues, memberScripts]
      apply (settles_term h r hr).bind
      exact (settles_unionTerms h rest hrest).map

theorem settles_argumentTerms (h : context.NamesNumbers) :
    ∀ arguments : List (List TypeRecord), (∀ us ∈ arguments, ∀ r ∈ us, r.WellFormed) →
      (argumentScripts (argumentTerms arguments)).Settles context
        (templateValues (canonicalArguments arguments))
  | [], _ => by
      rw [argumentTerms, canonicalArguments, templateValues, argumentScripts]
      exact .done []
  | us :: rest, hwell => by
      obtain ⟨hus, hrest⟩ := List.forall_mem_cons.mp hwell
      rw [argumentTerms, canonicalArguments, templateValues, argumentScripts]
      apply (settles_unionTerms h us hus).bind
      exact (settles_argumentTerms h rest hrest).map

end

theorem settles_recordsScript (h : context.NamesNumbers) {us : List TypeRecord}
    (hwell : ∀ r ∈ us, r.WellFormed) :
    (TypeUnion.recordsScript (unionTerms us)).Settles context (canonicalUnion us) := by
  have hvalue : (TypeUnion.script (unionTerms us)).Settles context
      (.array (unionValues (canonicalUnion us))) := (settles_unionTerms h us hwell).map
  have hrecords := hvalue.map (f := ofValue)
  rw [ofValue, recordsOf_unionValues] at hrecords
  exact hrecords

end TypeRecord

namespace TypeUnion

open TypeRecord

/-- The canonical text of well-formed records evaluates to the canonical records wherever the
constants are the built-in ones; the context stays as it was, and the source text of each record,
nested ones too, is the canonical text of that record.  All records that a text evaluates to are
well-formed, if the host answers with values without a repeated key. -/
theorem evaluate_unionText :
    (∀ (context : Context) (rs : List TypeRecord), context.NamesNumbers → rs ≠ [] →
      (∀ r ∈ rs, r.WellFormed) →
      evaluateSource (unionText rs) context = (.ok (canonicalUnion rs), context) ∧
        ∀ r ∈ canonicalUnion rs, r.Displays) ∧
    ∀ (context after : Context) (source : String) (rs : List TypeRecord), context.Keyed →
      evaluateSource source context = (.ok rs, after) → rs ≠ [] ∧ ∀ r ∈ rs, r.WellFormed := by
  constructor
  · intro context rs hcontext hne hwell
    have hrun : (recordsScript (unionTerms rs)).runNow (.new context) =
        (.ok (canonicalUnion rs), .new context) :=
      (settles_recordsScript hcontext hwell).runNow
    refine ⟨evaluateSource_eq_ok.mpr ⟨_, parse_unionText hne hwell, ?_, ?_⟩,
      displays_canonicalUnion rs⟩
    · rw [hrun]
    · rw [hrun]
      rfl
  · intro context after source rs hcontext h
    exact wellFormed_of_evaluateSource hcontext h

/-- A run of three closing brackets, and a configuration with a negative zero. -/
theorem evaluate_unionText_map :
    let a : TypeRecord := ⟨"A", [], "", []⟩
    let wrap (r : TypeRecord) : TypeRecord := ⟨"A", [], "", [[r]]⟩
    let r : TypeRecord :=
      ⟨"Map", [], "", [[⟨"A", [("rate", .number .negZero)], "", []⟩, a], [wrap (wrap a)]]⟩
    let context : Context := { Context.initial with functions := [] }
    context.NamesNumbers ∧ context.Keyed ∧ r.WellFormed ∧
      unionText [r] = "Map<A\x7brate: 0\x7d | A, A<A<A>>>" ∧
      evaluateSource (unionText [r]) context = (.ok (canonicalUnion [r]), context) ∧
      (∀ s ∈ canonicalUnion [r], s.Displays) ∧ ∀ s ∈ canonicalUnion [r], s.WellFormed := by
  intro a wrap r context
  have hnumbers : context.NamesNumbers :=
    ⟨Context.namesNumbers_initial.constants, Context.namesNumbers_initial.unbound⟩
  have hkeyed : context.Keyed := by
    constructor
    · intro name v hv
      obtain ⟨constant, -, hconstant⟩ := List.mem_map.mp (Fields.mem_of_find? hv)
      cases hconstant
      exact .number _
    · rintro values ⟨⟩ name v ⟨⟩
    · rintro answer ⟨⟩
    · rintro source ⟨⟩
    · rintro name f ⟨⟩
  have hname : Token.IsName "A" := rfl
  have hempty : (Value.object []).Keyed := .object List.nodup_nil (List.forall_mem_nil _)
  have hconfig : (Value.object [("rate", .number .negZero)]).Keyed :=
    .object (by decide) (List.forall_mem_singleton.mpr (.number _))
  have ha : a.WellFormed := .mk hname hempty (List.forall_mem_nil _) (List.forall_mem_nil _)
  have hrate : WellFormed ⟨"A", [("rate", .number .negZero)], "", []⟩ :=
    .mk hname hconfig (List.forall_mem_nil _) (List.forall_mem_nil _)
  have hwrap (r : TypeRecord) (hr : r.WellFormed) : (wrap r).WellFormed :=
    .mk hname hempty (by simp) (by simpa using hr)
  have hr : r.WellFormed := by
    have hunion : ∀ s ∈ [⟨"A", [("rate", .number .negZero)], "", []⟩, a], WellFormed s :=
      List.forall_mem_cons.mpr ⟨hrate, List.forall_mem_singleton.mpr ha⟩
    refine .mk rfl hempty (by simp) (List.forall_mem_cons.mpr ⟨hunion, ?_⟩)
    exact List.forall_mem_singleton.mpr (List.forall_mem_singleton.mpr (hwrap _ (hwrap a ha)))
  have hrun := evaluate_unionText.1 context [r] hnumbers (List.cons_ne_nil _ _)
    (List.forall_mem_singleton.mpr hr)
  have hagain := evaluate_unionText.2 context context _ _ hkeyed hrun.1
  exact ⟨hnumbers, hkeyed, hr, rfl, hrun.1, hrun.2, hagain.2⟩

end TypeUnion
end Guest
