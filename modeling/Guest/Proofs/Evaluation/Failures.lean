import Guest.Proofs.Evaluation.Questions
import Guest.Proofs.Evaluation.Sessions

/-!
# Failures of the host

An evaluation goes on as long as its host answers, and ends with the first failure, which it
reports as it is.  The course of an evaluation writes this down: its exchanges in order, each with
what the host does after the exchanges before it, and the result that they come to.
-/

namespace Guest

/-! ## Exchanges that fail -/

namespace Event

variable {event : Event} {error : EvalError} {name message : String}

/-- The host answered with a value. -/
def Succeeds (event : Event) : Prop := ∃ v, event.answer = .ok v

/-- The error as which a failure of the host is reported. -/
def failure? : Event → Option EvalError
  | lookup name (.error message) => some (.resolver name message)
  | call name _ (.error message) => some (.function name message)
  | _ => none

/-- The exchange is one with a host: a look-up with what its resolver answers after some exchanges,
or a call of one of its functions with what that function gives. -/
def IsWith (identifiers : Identifiers) (functions : Functions) (history : List Event) :
    Event → Prop
  | lookup name answer => identifiers.answer? history name = some answer
  | call name args answer => ∃ f, functions.find? name = some f ∧ f history args = answer

theorem succeeds_iff : event.Succeeds ↔ event.failure? = none := by
  rcases event with ⟨name, message | v⟩ | ⟨name, args, message | v⟩ <;>
    simp [Succeeds, answer, failure?]

theorem not_succeeds (h : event.failure? = some error) : ¬event.Succeeds := by
  rw [succeeds_iff, h]
  exact Option.some_ne_none error

theorem failure?_eq_resolver :
    event.failure? = some (.resolver name message) ↔ event = .lookup name (.error message) := by
  rcases event with ⟨other, found | v⟩ | ⟨other, args, found | v⟩ <;> simp [failure?]

theorem failure?_eq_function :
    event.failure? = some (.function name message) ↔
      ∃ args, event = .call name args (.error message) := by
  rcases event with ⟨other, found | v⟩ | ⟨other, args, found | v⟩ <;> simp [failure?]

/-- No failure of a host is a null access. -/
theorem failure?_ne_nullAccess {key : String} : event.failure? ≠ some (.nullAccess key) := by
  rcases event with ⟨other, found | v⟩ | ⟨other, args, found | v⟩ <;> simp [failure?]

end Event

/-! ## The course of an evaluation -/

/-- The exchanges of an evaluation after a history, and the result that they come to. -/
inductive Course {α : Type} (identifiers : Identifiers) (functions : Functions) :
    List Event → List Event → Except EvalError α → Prop where
  | done {history : List Event} (a : α) :
      Course identifiers functions history [] (.ok a)
  | nullAccess {history : List Event} (key : String) :
      Course identifiers functions history [] (.error (.nullAccess key))
  | answered {history : List Event} {event : Event} {events : List Event}
      {result : Except EvalError α} :
      event.IsWith identifiers functions history → event.Succeeds →
      Course identifiers functions (history ++ [event]) events result →
      Course identifiers functions history (event :: events) result
  | failed {history : List Event} {event : Event} {error : EvalError} :
      event.IsWith identifiers functions history → event.failure? = some error →
      Course identifiers functions history [event] (.error error)

namespace Course

variable {α : Type} {identifiers : Identifiers} {functions : Functions}
  {history events : List Event} {result : Except EvalError α}

theorem isWith (h : Course identifiers functions history events result)
    {earlier later : List Event} {event : Event} (hevents : events = earlier ++ event :: later) :
    event.IsWith identifiers functions (history ++ earlier) := by
  induction h generalizing earlier with
  | done a => simp at hevents
  | nullAccess key => simp at hevents
  | answered hwith _ _ ih =>
      cases earlier with
      | nil =>
          obtain ⟨rfl, -⟩ := List.cons.inj hevents
          rw [List.append_nil]
          exact hwith
      | cons first earlier =>
          obtain ⟨rfl, hrest⟩ := List.cons.inj hevents
          have hlater := ih hrest
          rw [List.append_assoc] at hlater
          exact hlater
  | failed hwith _ =>
      cases earlier with
      | nil =>
          obtain ⟨rfl, -⟩ := List.cons.inj hevents
          rw [List.append_nil]
          exact hwith
      | cons first earlier => simp at hevents

/-- Either the host answered all along, or its last exchange failed and is what the result
reports. -/
theorem ends (h : Course identifiers functions history events result) :
    ((∀ event ∈ events, event.Succeeds) ∧
      ((∃ a, result = .ok a) ∨ ∃ key, result = .error (.nullAccess key))) ∨
    ∃ earlier last error, events = earlier ++ [last] ∧ (∀ event ∈ earlier, event.Succeeds) ∧
      last.failure? = some error ∧ result = .error error := by
  induction h with
  | done a => exact .inl ⟨List.forall_mem_nil _, .inl ⟨a, rfl⟩⟩
  | nullAccess key => exact .inl ⟨List.forall_mem_nil _, .inr ⟨key, rfl⟩⟩
  | @answered _ event _ _ _ hsucceeds _ ih =>
      obtain ⟨hrest, hresult⟩ | ⟨earlier, last, error, rfl, hearlier, hlast, hresult⟩ := ih
      · exact .inl ⟨List.forall_mem_cons.mpr ⟨hsucceeds, hrest⟩, hresult⟩
      · right
        exact ⟨event :: earlier, last, error, rfl, List.forall_mem_cons.mpr ⟨hsucceeds, hearlier⟩,
          hlast, hresult⟩
  | @failed _ event error _ hfailure =>
      exact .inr ⟨[], event, error, rfl, List.forall_mem_nil _, hfailure, rfl⟩

end Course

namespace Context

variable {α : Type}

/-- An outcome has a course after the record of a context. -/
def Runs (context : Context) (outcome : Except EvalError α × Context) : Prop :=
  ∃ events, outcome.2.history = context.history ++ events ∧
    Course context.identifiers context.functions context.history events outcome.1

variable {context : Context} {event : Event} {failed : String → EvalError}
  {resume : Value → Context → Except EvalError α × Context}

/-- One more exchange of a course. -/
theorem runs_receive (hwith : event.IsWith context.identifiers context.functions context.history)
    (hfailed : ∀ message, event.answer = .error message →
      event.failure? = some (failed message))
    (h : ∀ v, (context.record event).Runs (resume v (context.record event))) :
    context.Runs (context.receive event failed resume) := by
  unfold receive
  cases hanswer : event.answer with
  | ok v =>
      obtain ⟨events, hhistory, hcourse⟩ := h v
      refine ⟨event :: events, ?_, .answered hwith ⟨v, hanswer⟩ hcourse⟩
      rw [hhistory, record, List.append_assoc, List.singleton_append]
  | error message => exact ⟨[event], rfl, .failed hwith (hfailed message hanswer)⟩

end Context

namespace Script

variable {α : Type}

/-- The run of a script has a course. -/
theorem runs_run (script : Script α) {context : Context}
    (hc : ∀ source, context.identifiers ≠ .delayed source) : context.Runs (script.run context) := by
  induction script generalizing context with
  | done a => exact ⟨[], (List.append_nil _).symm, .done a⟩
  | nullAccess key => exact ⟨[], (List.append_nil _).symm, .nullAccess key⟩
  | lookup name next ih =>
      cases hv : context.value? name with
      | some v =>
          rw [run_lookup_value hv]
          exact ih v hc
      | none =>
          cases hi : context.identifiers with
          | bindings values =>
              rw [run_lookup_bindings hv hi]
              have hnote : ∀ source, (context.note name).identifiers ≠ .delayed source := hc
              exact ih .null hnote
          | resolver answer =>
              rw [run_lookup_resolver hv hi]
              have hnote : (context.note name).Runs
                  ((context.note name).resolve name answer fun v => (next v).run) := by
                apply Context.runs_receive
                · exact congrArg (·.answer? context.history name) hi
                · intro message hanswer
                  rw [show answer (context.note name).history name = .error message from hanswer]
                  rfl
                · exact fun v => ih v hc
              exact hnote
          | delayed source => exact absurd hi (hc source)
  | known name next ih => exact ih _ hc
  | call name args next ih =>
      cases hf : context.functions.find? name with
      | none =>
          rw [run_call_missing hf]
          exact ih .null hc
      | some f =>
          rw [run_call_found hf]
          apply Context.runs_receive
          · exact ⟨f, hf, rfl⟩
          · intro message hanswer
            rw [show f context.history args = .error message from hanswer]
            rfl
          · exact fun v => ih v hc

end Script

/-! ## What an evaluation reports -/

/-- An evaluation adds exchanges with the host to the record, of which none but the last fails.  It
ends with the error of a resolver or of a function exactly if the last exchange is the look-up or
the call that failed so, and if all exchanges succeed, with a value or at a null access. -/
structure ReportsAfter {α : Type} (before : Context) (result : Except EvalError α)
    (after : Context) (events : List Event) : Prop where
  recorded : after.history = before.history ++ events
  genuine : ∀ earlier event later, events = earlier ++ event :: later →
    event.IsWith before.identifiers before.functions (before.history ++ earlier)
  succeeds : ∀ event ∈ events.dropLast, event.Succeeds
  resolver : ∀ name message, result = .error (.resolver name message) ↔
    events.getLast? = some (.lookup name (.error message))
  function : ∀ name message, result = .error (.function name message) ↔
    ∃ args, events.getLast? = some (.call name args (.error message))
  otherwise : (∀ event ∈ events, event.Succeeds) ↔
    (∃ a, result = .ok a) ∨ ∃ key, result = .error (.nullAccess key)

/-- An evaluation reports the first failure of its host. -/
def Reports {α : Type} (before : Context) (result : Except EvalError α) (after : Context) : Prop :=
  ∃ events, ReportsAfter before result after events

section

variable {α : Type} {before after : Context} {result : Except EvalError α}
  {events earlier : List Event} {last : Event} {error : EvalError}

/-- Nothing is reported where the host answered all along. -/
theorem reportsAfter_of_succeeds (hrecorded : after.history = before.history ++ events)
    (hcourse : Course before.identifiers before.functions before.history events result)
    (hall : ∀ event ∈ events, event.Succeeds)
    (hresult : (∃ a, result = .ok a) ∨ ∃ key, result = .error (.nullAccess key)) :
    ReportsAfter before result after events := by
  have hlast (event : Event) (h : events.getLast? = some event) : event.failure? = none :=
    Event.succeeds_iff.mp (hall event (List.mem_of_getLast? h))
  refine ⟨hrecorded, fun _ _ _ => hcourse.isWith, ?_, ?_, ?_, fun _ => hresult, fun _ => hall⟩
  · intro event h
    exact hall event (List.dropLast_subset events h)
  · intro name message
    constructor
    · rintro rfl
      simp at hresult
    · intro h
      cases hlast _ h
  · intro name message
    constructor
    · rintro rfl
      simp at hresult
    · rintro ⟨args, h⟩
      cases hlast _ h

/-- The failure of the last exchange is reported. -/
theorem reportsAfter_of_failure (hrecorded : after.history = before.history ++ (earlier ++ [last]))
    (hcourse : Course before.identifiers before.functions before.history (earlier ++ [last])
      (.error error : Except EvalError α))
    (hearlier : ∀ event ∈ earlier, event.Succeeds) (hlast : last.failure? = some error) :
    ReportsAfter before (.error error : Except EvalError α) after (earlier ++ [last]) := by
  refine ⟨hrecorded, fun _ _ _ => hcourse.isWith, ?_, ?_, ?_, ?_⟩
  · rw [List.dropLast_concat]
    exact hearlier
  · intro name message
    rw [List.getLast?_concat, Option.some.injEq, ← Event.failure?_eq_resolver, hlast,
      Option.some.injEq, Except.error.injEq]
  · intro name message
    simp only [List.getLast?_concat, Option.some.injEq]
    rw [← Event.failure?_eq_function, hlast, Option.some.injEq, Except.error.injEq]
  · constructor
    · intro hall
      exact absurd (hall last (by simp)) (Event.not_succeeds hlast)
    · rintro (⟨a, hok⟩ | ⟨key, hnull⟩)
      · cases hok
      · rw [Except.error.inj hnull] at hlast
        exact absurd hlast Event.failure?_ne_nullAccess

end

theorem Context.Runs.reports {α : Type} {context : Context}
    {outcome : Except EvalError α × Context} (h : context.Runs outcome) :
    Reports context outcome.1 outcome.2 := by
  obtain ⟨result, after⟩ := outcome
  obtain ⟨events, hrecorded, hcourse⟩ := h
  refine ⟨events, ?_⟩
  dsimp only at hcourse hrecorded ⊢
  obtain ⟨hall, hresult⟩ | ⟨earlier, last, error, rfl, hearlier, hlast, rfl⟩ := hcourse.ends
  · exact reportsAfter_of_succeeds hrecorded hcourse hall hresult
  · exact reportsAfter_of_failure hrecorded hcourse hearlier hlast

/-! ## Evaluations -/

namespace Script

open Evaluator

variable {α : Type} {context : Context} {waiting : Option String}

theorem reports_run (script : Script α) (hc : ∀ source, context.identifiers ≠ .delayed source) :
    Reports context (script.run context).1 (script.run context).2 :=
  (script.runs_run hc).reports

theorem reports_runNow (script : Script α) (hc : ∀ source, context.identifiers ≠ .delayed source) :
    Reports context (script.runNow ⟨context, waiting⟩).1
      (script.runNow ⟨context, waiting⟩).2.context := by
  rw [runNow_of_ends (ends_advance script hc)]
  exact script.reports_run hc

theorem reports_isolated (script : Script α)
    (hc : ∀ source, context.identifiers ≠ .delayed source) :
    Reports context (script.runNow.isolated context).1 (script.runNow.isolated context).2 := by
  rw [isolated_runNow_eq_run script hc]
  exact script.reports_run hc

theorem reports_block (script : Script α) (patience : Nat)
    (hc : ∀ source, context.identifiers ≠ .delayed source) :
    ∃ result after, (Task.running script).block patience ⟨context, waiting⟩ = (some result, after) ∧
      Reports context result after.context := by
  refine ⟨(script.run context).1, ⟨(script.run context).2, waiting⟩, ?_, script.reports_run hc⟩
  rw [block_running, ends_advance script hc]
  rfl

end Script

/-- Against a host without delay an evaluation stops at the first failure of the host and reports it
unchanged.  This holds for expressions and unions of types with every evaluator, for templates and
messages, and for every script that is polled. -/
theorem evaluations_report {context : Context}
    (hc : ∀ source, context.identifiers ≠ .delayed source) :
    (∀ (e : Expr) (waiting : Option String),
      let found := e.evaluate ⟨context, waiting⟩
      Reports context found.1 found.2.context) ∧
    (∀ (union : TypeUnion) (waiting : Option String),
      let found := union.evaluate ⟨context, waiting⟩
      Reports context found.1 found.2.context) ∧
    (∀ template : Template, Reports context (template.render context).1
      (template.render context).2) ∧
    (∀ line : Line, Reports context (line.render context).1 (line.render context).2) ∧
    (∀ lines : List Line, Reports context (Line.renderAll lines context).1
      (Line.renderAll lines context).2) ∧
    (∀ (α : Type) (script : Script α) (patience : Nat) (waiting : Option String),
      ∃ result after,
        (Task.running script).block patience ⟨context, waiting⟩ = (some result, after) ∧
        Reports context result after.context) := by
  refine ⟨fun e _ => e.script.reports_runNow hc, fun union _ => union.script.reports_runNow hc,
    ?_, ?_, ?_, fun _ script patience _ => script.reports_block patience hc⟩
  · intro template
    rw [Template.render_eq_runNow]
    exact template.script.reports_isolated hc
  · intro line
    rw [Line.render_eq_runNow]
    exact line.script.reports_isolated hc
  · intro lines
    rw [Line.renderAll_eq_runNow]
    exact (Line.scripts lines).reports_isolated hc

/-- A function fails in the middle of a sum, and the operand behind it is not looked up. -/
theorem evaluations_report_function :
    let host := Context.bare.withIdentifiers (.resolver fun _ _ => .ok .null)
    let context := host.withFunction "f" fun _ _ => .error "full"
    let e := Expr.binary (.identifier "a")
      [(.add, .call "f" [.identifier "b"]), (.add, .identifier "c")]
    let found := e.evaluate (.new context)
    (∀ source, context.identifiers ≠ .delayed source) ∧
      found.1 = .error (.function "f" "full") ∧
      found.2.context.history = [.lookup "a" (.ok .null), .lookup "b" (.ok .null),
        .call "f" [.null] (.error "full")] ∧
      Reports context found.1 found.2.context := by
  intro host context e found
  have hc : ∀ source, context.identifiers ≠ .delayed source := by
    intro source h
    cases h
  exact ⟨hc, rfl, rfl, (evaluations_report hc).1 e none⟩

end Guest
