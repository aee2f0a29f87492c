import Guest.Proofs.Evaluation.Sessions

/-!
# Steady hosts

What a steady host answers depends on the question alone, not on the exchanges before it.  Against
such a host a script has one result and notes one list of names, whatever was recorded and logged
before.  Names that are noted already change nothing, so an evaluation that is repeated comes to the
same value and leaves the log as it is.
-/

namespace Guest

namespace Context

variable {context other host : Context} {name : String} {names : List String}

/-- The answers of the host do not depend on the exchanges before a question, nor does how long they
are waited for. -/
structure Steady (context : Context) : Prop where
  resolver : ∀ answer, context.identifiers = .resolver answer →
    ∀ history history' name, answer history name = answer history' name
  delayed : ∀ source, context.identifiers = .delayed source → ∀ history history' name,
    source.answer history name = source.answer history' name ∧
      source.delay history name = source.delay history' name
  functions : ∀ name f, context.functions.find? name = some f →
    ∀ history history' args, f history args = f history' args

/-- Two contexts differ in the record and the log alone. -/
structure SameHost (context host : Context) : Prop where
  constants : context.constants = host.constants
  functions : context.functions = host.functions
  identifiers : context.identifiers = host.identifiers

theorem SameHost.refl (context : Context) : context.SameHost context := ⟨rfl, rfl, rfl⟩

theorem SameHost.note (h : context.SameHost host) (name : String) :
    (context.note name).SameHost host :=
  ⟨h.constants, h.functions, h.identifiers⟩

theorem SameHost.record (h : context.SameHost host) (event : Event) :
    (context.record event).SameHost host :=
  ⟨h.constants, h.functions, h.identifiers⟩

theorem SameHost.value?_eq (h : context.SameHost host) (name : String) :
    context.value? name = host.value? name := by
  rw [value?, value?, h.identifiers, h.constants]

/-! ## Names that are noted already -/

/-- Noting a name changes nothing any more: no log is kept, or the name has been seen. -/
def Noted (context : Context) (name : String) : Prop :=
  context.usage.isSome = true → name ∈ context.seen

theorem note_of_noted (h : context.Noted name) : context.note name = context := by
  unfold note
  cases husage : context.usage with
  | none =>
      simp only [Option.map_none, Option.isSome_none, Bool.false_eq_true, if_false]
      rw [← husage]
  | some log =>
      have hseen : name ∈ context.seen := h (by rw [husage, Option.isSome_some])
      have hcontains : context.seen.contains name = true := List.contains_iff_mem.mpr hseen
      simp only [Option.map_some, hcontains, if_true, Option.isSome_some,
        List.insert_of_mem hseen]
      rw [← husage]

theorem noted_note (context : Context) (name : String) : (context.note name).Noted name := by
  intro husage
  have hkept : context.usage.isSome = true := by simpa [note] using husage
  simp [note, hkept]

theorem Noted.note (h : context.Noted name) (other : String) :
    (context.note other).Noted name := by
  intro husage
  have hkept : context.usage.isSome = true := by simpa [Context.note] using husage
  simp [Context.note, hkept, h hkept]

theorem Noted.noteAll (h : context.Noted name) (names : List String) :
    (context.noteAll names).Noted name := by
  induction names generalizing context with
  | nil => exact h
  | cons other names ih => exact ih (h.note other)

theorem noted_noteAll (context : Context) (h : name ∈ names) :
    (context.noteAll names).Noted name := by
  induction names generalizing context with
  | nil => cases h
  | cons other names ih =>
      rcases List.mem_cons.mp h with rfl | h
      · exact (noted_note context name).noteAll names
      · exact ih (context.note other) h

theorem noteAll_of_noted (h : ∀ name ∈ names, context.Noted name) :
    context.noteAll names = context := by
  induction names with
  | nil => rfl
  | cons name names ih =>
      obtain ⟨hname, hnames⟩ := List.forall_mem_cons.mp h
      rw [noteAll, List.foldl_cons, note_of_noted hname, ← noteAll]
      exact ih hnames

/-- Noting names again changes nothing. -/
theorem noteAll_noteAll (context : Context) (names : List String) :
    (context.noteAll names).noteAll names = context.noteAll names :=
  noteAll_of_noted fun _ hname => noted_noteAll context hname

theorem SameLog.symm (h : context.SameLog other) : other.SameLog context :=
  ⟨h.1.symm, h.2.symm⟩

end Context

namespace Evaluator

variable {α : Type} {evaluator : Evaluator} {event : Event} {failed : String → EvalError}
  {next : Value → Script α}

theorem giveUp_receive_ok {v : Value} (h : event.answer = .ok v) :
    giveUp (evaluator.receive event failed fun v => (next v).advance) =
      (next v).runNow { evaluator with context := evaluator.context.record event } := by
  rw [receive, h]
  rfl

theorem giveUp_receive_error {message : String} (h : event.answer = .error message)
    {resume : Value → Evaluator → Poll α × Evaluator} :
    giveUp (evaluator.receive event failed resume) =
      (.error (failed message), { evaluator with context := evaluator.context.record event }) := by
  rw [receive, h]
  rfl

end Evaluator

namespace Script

open Context Evaluator

variable {α : Type} {script : Script α} {host : Context} {evaluator : Evaluator}
  {result : Except EvalError α} {names : List String}

/-- An evaluation that started in a context has come to a result against the host and has noted
some names. -/
structure Comes (host : Context) (result : Except EvalError α) (names : List String)
    (start : Context) (outcome : Except EvalError α × Evaluator) : Prop where
  result : outcome.1 = result
  host : outcome.2.context.SameHost host
  log : outcome.2.context.SameLog (start.noteAll names)

theorem Comes.of_note {start : Context} {name : String} {outcome : Except EvalError α × Evaluator}
    (h : Comes host result names (start.note name) outcome) :
    Comes host result (name :: names) start outcome :=
  ⟨h.result, h.host, h.log⟩

/-- The evaluations of a script against a host come to one result and note the same names. -/
def Repeats (script : Script α) (host : Context) (result : Except EvalError α)
    (names : List String) : Prop :=
  ∀ evaluator : Evaluator, evaluator.context.SameHost host →
    Comes host result names evaluator.context (script.runNow evaluator)

/-- An exchange adds nothing to the names. -/
theorem comes_receive (evaluator : Evaluator) {event : Event} {failed : String → EvalError}
    {next : Value → Script α} {answer : Except String Value}
    (hsame : evaluator.context.SameHost host) (hanswer : event.answer = answer)
    (hok : ∀ v, answer = .ok v → (next v).Repeats host result names)
    (herror : ∀ message, answer = .error message → result = .error (failed message) ∧ names = []) :
    Comes host result names evaluator.context
      (giveUp (evaluator.receive event failed fun v => (next v).advance)) := by
  have hrecord : (evaluator.context.record event).SameLog evaluator.context := ⟨rfl, rfl⟩
  cases answer with
  | ok v =>
      rw [giveUp_receive_ok hanswer]
      have hnext := hok v rfl { evaluator with context := evaluator.context.record event }
        (hsame.record event)
      exact ⟨hnext.result, hnext.host, hnext.log.trans (sameLog_noteAll hrecord names)⟩
  | error message =>
      obtain ⟨rfl, rfl⟩ := herror message rfl
      rw [giveUp_receive_error hanswer]
      exact ⟨rfl, hsame.record event, hrecord⟩

/-- What follows an answer of the host that does not depend on the record repeats if it repeats
for each value. -/
theorem exists_repeats_after (answer : Except String Value) (failed : String → EvalError)
    {next : Value → Script α} (ih : ∀ v, ∃ result names, (next v).Repeats host result names) :
    ∃ result names, (∀ v, answer = .ok v → (next v).Repeats host result names) ∧
      ∀ message, answer = .error message → result = .error (failed message) ∧ names = [] := by
  cases answer with
  | ok v =>
      obtain ⟨result, names, h⟩ := ih v
      refine ⟨result, names, ?_, ?_⟩
      · rintro _ ⟨rfl⟩
        exact h
      · intro message hmessage
        cases hmessage
  | error message =>
      refine ⟨.error (failed message), [], ?_, ?_⟩
      · intro v hv
        cases hv
      · rintro _ ⟨rfl⟩
        exact ⟨rfl, rfl⟩

theorem exists_repeats_lookup {name : String} {next : Value → Script α} (hsteady : host.Steady)
    (ih : ∀ v, ∃ result names, (next v).Repeats host result names) :
    ∃ result names, (lookup name next).Repeats host result names := by
  cases hv : host.value? name with
  | some v =>
      obtain ⟨result, names, h⟩ := ih v
      refine ⟨result, names, fun evaluator hsame => ?_⟩
      rw [runNow_apply, advance_lookup_value ((hsame.value?_eq name).trans hv), ← runNow_apply]
      exact h evaluator hsame
  | none =>
      cases hi : host.identifiers with
      | bindings values =>
          obtain ⟨result, names, h⟩ := ih .null
          refine ⟨result, name :: names, fun evaluator hsame => ?_⟩
          rw [runNow_apply, advance_lookup_bindings ((hsame.value?_eq name).trans hv)
            (hsame.identifiers.trans hi), ← runNow_apply]
          exact (h { evaluator with context := evaluator.context.note name }
            (hsame.note name)).of_note
      | resolver answer =>
          obtain ⟨result, names, hok, herror⟩ :=
            exists_repeats_after (answer [] name) (.resolver name) ih
          refine ⟨result, name :: names, fun evaluator hsame => ?_⟩
          have hanswer : (Event.lookup name (answer evaluator.context.history name)).answer =
              answer [] name := hsteady.resolver answer hi _ _ name
          rw [runNow_apply, advance_lookup_resolver ((hsame.value?_eq name).trans hv)
            (hsame.identifiers.trans hi)]
          have hcomes := comes_receive { evaluator with context := evaluator.context.note name }
            (hsame.note name) hanswer hok herror
          exact hcomes.of_note
      | delayed source =>
          by_cases hdelay : source.delay [] name = some 0
          · obtain ⟨result, names, hok, herror⟩ :=
              exists_repeats_after (source.answer [] name) (.resolver name) ih
            refine ⟨result, name :: names, fun evaluator hsame => ?_⟩
            obtain ⟨hsource, hprompt⟩ :=
              hsteady.delayed source hi evaluator.context.history [] name
            have hanswer :
                (Event.lookup name (source.answer evaluator.context.history name)).answer =
                  source.answer [] name := hsource
            rw [runNow_apply, advance_lookup_delayed ((hsame.value?_eq name).trans hv)
              (hsame.identifiers.trans hi), hprompt, hdelay]
            have hcomes := comes_receive ⟨evaluator.context.note name, none⟩ (hsame.note name)
              hanswer hok herror
            exact hcomes.of_note
          · refine ⟨.error (.suspended name), [name], fun evaluator hsame => ?_⟩
            have hlate := (hsteady.delayed source hi evaluator.context.history [] name).2
            rw [runNow_apply, advance_lookup_delayed ((hsame.value?_eq name).trans hv)
              (hsame.identifiers.trans hi), hlate]
            rcases hpolls : source.delay [] name with _ | _ | polls
            · exact ⟨rfl, hsame.note name, rfl, rfl⟩
            · exact absurd hpolls hdelay
            · exact ⟨rfl, hsame.note name, rfl, rfl⟩

/-- Against a steady host a script has one result and notes one list of names. -/
theorem exists_repeats (script : Script α) (hsteady : host.Steady) :
    ∃ result names, script.Repeats host result names := by
  induction script with
  | done a => exact ⟨.ok a, [], fun evaluator hsame => ⟨rfl, hsame, rfl, rfl⟩⟩
  | nullAccess key =>
      exact ⟨.error (.nullAccess key), [], fun evaluator hsame => ⟨rfl, hsame, rfl, rfl⟩⟩
  | lookup name next ih => exact exists_repeats_lookup hsteady ih
  | known name next ih =>
      obtain ⟨result, names, h⟩ := ih (host.functions.find? name).isSome
      refine ⟨result, names, fun evaluator hsame => ?_⟩
      rw [runNow_apply, advance, hsame.functions, ← runNow_apply]
      exact h evaluator hsame
  | call name args next ih =>
      cases hf : host.functions.find? name with
      | none =>
          obtain ⟨result, names, h⟩ := ih .null
          refine ⟨result, names, fun evaluator hsame => ?_⟩
          rw [runNow_apply, advance_call_missing (by rw [hsame.functions, hf]), ← runNow_apply]
          exact h evaluator hsame
      | some f =>
          obtain ⟨result, names, hok, herror⟩ :=
            exists_repeats_after (f [] args) (.function name) ih
          refine ⟨result, names, fun evaluator hsame => ?_⟩
          rw [runNow_apply, advance_call_found (by rw [hsame.functions, hf])]
          exact comes_receive evaluator hsame (hsteady.functions name f hf _ _ args) hok herror

/-- Against a steady host, an evaluation that ended with a value ends with it again, and leaves the
log as it is. -/
theorem exists_runNow_again {a : α} {after : Evaluator} (hsteady : evaluator.context.Steady)
    (h : script.runNow evaluator = (.ok a, after)) :
    ∃ later, script.runNow after = (.ok a, later) ∧ later.context.SameLog after.context := by
  obtain ⟨result, names, hrepeats⟩ := exists_repeats script hsteady
  have hfirst := hrepeats evaluator (.refl _)
  rw [h] at hfirst
  obtain rfl : .ok a = result := hfirst.result
  have hsecond := hrepeats after hfirst.host
  refine ⟨(script.runNow after).2, Prod.ext hsecond.result rfl, hsecond.log.trans ?_⟩
  have hagain := sameLog_noteAll hfirst.log names
  rw [noteAll_noteAll] at hagain
  exact hagain.trans hfirst.log.symm

end Script

end Guest
