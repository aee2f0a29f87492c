import Guest.Evaluation
import Guest.Proofs.Value.Keyed

/-!
# What every host ensures

A host that answers with values without a repeated key gets only such values back: `Ensures` says
that a script passes nothing else to a host, whatever the answers are, and that all of its results
have a property.  It is put together along the script, and an evaluation of the script then ends in
a result with the property, or fails.
-/

namespace Guest

namespace Script

variable {α β : Type} {P : α → Prop} {Q : β → Prop} {script : Script α}

/-- All results of a script have a property, and all arguments that it passes to functions are
keyed, whatever keyed values the host answers with. -/
inductive Ensures (P : α → Prop) : Script α → Prop where
  | done {a : α} :
      P a → Ensures P (.done a)
  | nullAccess (key : String) :
      Ensures P (.nullAccess key)
  | lookup {name : String} {next : Value → Script α} :
      (∀ v, v.Keyed → Ensures P (next v)) → Ensures P (.lookup name next)
  | known {name : String} {next : Bool → Script α} :
      (∀ b, Ensures P (next b)) → Ensures P (.known name next)
  | call {name : String} {args : List Value} {next : Value → Script α} :
      (∀ arg ∈ args, arg.Keyed) → (∀ v, v.Keyed → Ensures P (next v)) →
      Ensures P (.call name args next)

theorem Ensures.bind {f : α → Script β} (h : script.Ensures P)
    (hf : ∀ a, P a → (f a).Ensures Q) : (script >>= f).Ensures Q := by
  induction h with
  | done ha => exact hf _ ha
  | nullAccess key => exact .nullAccess key
  | lookup _ ih => exact .lookup ih
  | known _ ih => exact .known ih
  | call hargs _ ih => exact .call hargs ih

theorem Ensures.map {f : α → β} (h : script.Ensures P) (hf : ∀ a, P a → Q (f a)) :
    (script >>= fun a => pure (f a)).Ensures Q :=
  h.bind fun a ha => .done (hf a ha)

end Script

/-! ## Hosts -/

namespace Context

/-- The host answers keyed arguments with keyed values, and so are its constants and bindings. -/
structure Keyed (context : Context) : Prop where
  constants : ∀ name v, Fields.find? context.constants name = some v → v.Keyed
  bindings : ∀ values, context.identifiers = .bindings values →
    ∀ name v, Fields.find? values name = some v → v.Keyed
  resolver : ∀ answer, context.identifiers = .resolver answer →
    ∀ history name v, answer history name = .ok v → v.Keyed
  delayed : ∀ source, context.identifiers = .delayed source →
    ∀ history name v, source.answer history name = .ok v → v.Keyed
  functions : ∀ name f, context.functions.find? name = some f →
    ∀ history args, (∀ arg ∈ args, arg.Keyed) → ∀ v, f history args = .ok v → v.Keyed

variable {context : Context}

theorem Keyed.note (h : context.Keyed) (name : String) : (context.note name).Keyed :=
  ⟨h.constants, h.bindings, h.resolver, h.delayed, h.functions⟩

theorem Keyed.record (h : context.Keyed) (event : Event) : (context.record event).Keyed :=
  ⟨h.constants, h.bindings, h.resolver, h.delayed, h.functions⟩

theorem Keyed.value (h : context.Keyed) {name : String} {v : Value}
    (hv : context.value? name = some v) : v.Keyed := by
  unfold value? at hv
  dsimp only at hv
  rcases Option.or_eq_some_iff.mp hv with hbound | ⟨-, hconstant⟩
  · cases hi : context.identifiers with
    | bindings values =>
        rw [hi] at hbound
        exact h.bindings values hi name v hbound
    | resolver answer =>
        rw [hi] at hbound
        cases hbound
    | delayed source =>
        rw [hi] at hbound
        cases hbound
  · exact h.constants name v hconstant

end Context

/-! ## Polls -/

/-- What is left of an evaluation ensures a property: its script does, and it only waits for keyed
answers. -/
inductive Task.Ensures {α : Type} (P : α → Prop) : Task α → Prop where
  | running {script : Script α} :
      script.Ensures P → Task.Ensures P (.running script)
  | awaiting {name : String} {answer : Resolver} {polls : Option Nat} {next : Value → Script α} :
      (∀ history name v, answer history name = .ok v → v.Keyed) →
      (∀ v, v.Keyed → (next v).Ensures P) → Task.Ensures P (.awaiting name answer polls next)

namespace Script

variable {α : Type} {P : α → Prop} {evaluator : Evaluator}

/-- A poll ends in a result with a property, fails, or leaves a task that ensures the property. -/
def Keeps (P : α → Prop) : Poll α × Evaluator → Prop
  | (.ready (.ok a), _) => P a
  | (.ready (.error _), _) => True
  | (.pending task, _) => task.Ensures P

theorem keeps_receive {event : Event} {failed : String → EvalError}
    {resume : Value → Evaluator → Poll α × Evaluator} (hc : evaluator.context.Keyed)
    (hanswer : ∀ v, event.answer = .ok v → v.Keyed)
    (h : ∀ v, v.Keyed → ∀ evaluator : Evaluator, evaluator.context.Keyed →
      Keeps P (resume v evaluator)) :
    Keeps P (evaluator.receive event failed resume) := by
  unfold Evaluator.receive
  cases hevent : event.answer with
  | ok v => exact h v (hanswer v hevent) _ (hc.record event)
  | error message => trivial

theorem keeps_await {name : String} {answer : Resolver} {next : Value → Script α}
    (hc : evaluator.context.Keyed)
    (hanswer : ∀ history name v, answer history name = .ok v → v.Keyed)
    (hnext : ∀ v, v.Keyed → (next v).Ensures P)
    (h : ∀ v, v.Keyed → ∀ evaluator : Evaluator, evaluator.context.Keyed →
      Keeps P ((next v).advance evaluator)) (polls : Option Nat) :
    Keeps P (evaluator.await name answer next (fun v => (next v).advance) polls) := by
  rcases polls with _ | _ | polls
  · exact Task.Ensures.awaiting hanswer hnext
  · exact keeps_receive hc (hanswer _ name) h
  · exact Task.Ensures.awaiting hanswer hnext

theorem Ensures.advance {script : Script α} (h : script.Ensures P) (hc : evaluator.context.Keyed) :
    Keeps P (script.advance evaluator) := by
  induction h generalizing evaluator with
  | done ha => exact ha
  | nullAccess key => trivial
  | @lookup name next hensures ih =>
      have hnext (v : Value) (hv : v.Keyed) (evaluator : Evaluator)
          (hc : evaluator.context.Keyed) : Keeps P ((next v).advance evaluator) := ih v hv hc
      unfold Script.advance Context.lookup
      cases hv : evaluator.context.value? name with
      | some v => exact hnext v (hc.value hv) evaluator hc
      | none =>
          cases hi : evaluator.context.identifiers with
          | bindings values => exact hnext .null .null _ (hc.note name)
          | resolver answer =>
              exact keeps_receive (hc.note name) (hc.resolver answer hi _ name) hnext
          | delayed source =>
              exact keeps_await (hc.note name) (hc.delayed source hi) hensures hnext _
  | known _ ih => exact ih _ hc
  | @call name args next hargs _ ih =>
      have hnext (v : Value) (hv : v.Keyed) (evaluator : Evaluator)
          (hc : evaluator.context.Keyed) : Keeps P ((next v).advance evaluator) := ih v hv hc
      unfold Script.advance
      cases hf : evaluator.context.functions.find? name with
      | none => exact hnext .null .null evaluator hc
      | some f => exact keeps_receive hc (hc.functions name f hf _ args hargs) hnext

theorem Ensures.runNow {script : Script α} (h : script.Ensures P) (hc : evaluator.context.Keyed)
    {a : α} (ha : (script.runNow evaluator).1 = .ok a) : P a := by
  have hkeeps := h.advance hc
  change (Evaluator.giveUp (script.advance evaluator)).1 = .ok a at ha
  rcases hpoll : script.advance evaluator with ⟨result | task, after⟩
  · rw [hpoll] at ha hkeeps
    cases ha
    exact hkeeps
  · rw [hpoll] at ha
    cases ha

end Script

theorem Task.Ensures.poll {α : Type} {P : α → Prop} {task : Task α} {evaluator : Evaluator}
    (h : task.Ensures P) (hc : evaluator.context.Keyed) : Script.Keeps P (task.poll evaluator) := by
  cases h with
  | running hscript => exact hscript.advance hc
  | awaiting hanswer hnext =>
      exact Script.keeps_await hc hanswer hnext (fun v hv evaluator hc => (hnext v hv).advance hc) _

end Guest
