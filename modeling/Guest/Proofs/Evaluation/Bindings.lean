import Guest.Proofs.Evaluation.Sessions

/-!
# Bindings and resolvers

An evaluation cannot tell fixed bindings from a resolver that answers from the same bindings, with
null for all other names.  Only the record differs: names that are bound are neither asked for nor
logged.  So the logs of both evaluations are compared through the names that are not bound.  The
invariant is a relation between the two contexts, which every step keeps.
-/

namespace Guest

/-- The resolver that answers from bindings, with null for all other names. -/
def Fields.resolver (values : Fields) : Resolver :=
  fun _ name => .ok ((Fields.find? values name).getD .null)

/-- Tells the names that are not bound. -/
def Fields.lacks (values : Fields) (name : String) : Bool := (Fields.find? values name).isNone

namespace Event

/-- Tells calls. -/
def isCall : Event → Bool
  | lookup .. => false
  | call .. => true

/-- The calls of a record. -/
def calls (history : List Event) : List Event := history.filter isCall

theorem calls_lookup {history : List Event} {name : String} {answer : Except String Value} :
    calls (history ++ [.lookup name answer]) = calls history := by
  simp [calls, isCall]

theorem calls_call {history : List Event} {name : String} {args : List Value}
    {answer : Except String Value} :
    calls (history ++ [.call name args answer]) = calls history ++ [.call name args answer] := by
  simp [calls, isCall]

end Event

/-- The answers of a function depend on the calls before it alone. -/
def HostFunction.FollowsCalls (f : HostFunction) : Prop :=
  ∀ history history' args, Event.calls history = Event.calls history' →
    f history args = f history' args

namespace Context

variable {values : Fields} {start : Option (List String)} {bound asked : Context} {name : String}
  {event : Event}

/-- A context with bindings and one with the resolver of these bindings have come equally far, from
the same log.  They have made the same calls, and the first one has logged what the second one has,
without the names that are bound. -/
structure Mirrors (values : Fields) (start : Option (List String)) (bound asked : Context) :
    Prop where
  constants : bound.constants = asked.constants
  functions : bound.functions = asked.functions
  bindings : bound.identifiers = .bindings values
  resolver : asked.identifiers = .resolver values.resolver
  calls : Event.calls bound.history = Event.calls asked.history
  usage : ∃ added, asked.usage = start.map (· ++ added) ∧
    bound.usage = start.map (· ++ added.filter values.lacks)
  seen : ∀ name, values.lacks name = true → (name ∈ bound.seen ↔ name ∈ asked.seen)

/-- No name is both bound and a constant. -/
def Apart (values : Fields) (context : Context) : Prop :=
  ∀ name v, Fields.find? values name = some v → Fields.find? context.constants name = none

/-- All functions of a context follow the calls. -/
def FollowsCalls (context : Context) : Prop :=
  ∀ name f, context.functions.find? name = some f → f.FollowsCalls

/-! ## What each step keeps -/

theorem mirrors_start (context : Context) (values : Fields) :
    Mirrors values context.usage (context.withIdentifiers (.bindings values))
      (context.withIdentifiers (.resolver values.resolver)) where
  constants := rfl
  functions := rfl
  bindings := rfl
  resolver := rfl
  calls := rfl
  usage := ⟨[], by simp [withIdentifiers], by simp [withIdentifiers]⟩
  seen := fun _ _ => Iff.rfl

theorem Mirrors.value?_bound (h : Mirrors values start bound asked) (name : String) :
    bound.value? name = (Fields.find? values name).or (Fields.find? asked.constants name) := by
  rw [value?, h.bindings, h.constants]

theorem Mirrors.value?_asked (h : Mirrors values start bound asked) (name : String) :
    asked.value? name = Fields.find? asked.constants name := by
  rw [value?, h.resolver]
  rfl

/-- A bound name is logged by the resolver's context alone. -/
theorem Mirrors.note_right (h : Mirrors values start bound asked)
    (hname : values.lacks name = false) : Mirrors values start bound (asked.note name) := {
  h with
  usage := by
    obtain ⟨added, hasked, hbound⟩ := h.usage
    cases start with
    | none => exact ⟨added, by simp [note, hasked], hbound⟩
    | some names =>
        by_cases hseen : name ∈ asked.seen
        · exact ⟨added, by simp [note, hasked, hseen], hbound⟩
        · exact ⟨added ++ [name], by simp [note, hasked, hseen], by simpa [hname] using hbound⟩
  seen := by
    intro other hother
    have hne : other ≠ name := by
      rintro rfl
      rw [hname] at hother
      cases hother
    rw [h.seen other hother]
    unfold note
    dsimp only
    split
    · simp [hne]
    · exact Iff.rfl }

/-- A name that is not bound is logged by both contexts or by neither. -/
theorem Mirrors.note (h : Mirrors values start bound asked) (hname : values.lacks name = true) :
    Mirrors values start (bound.note name) (asked.note name) := {
  h with
  usage := by
    obtain ⟨added, hasked, hbound⟩ := h.usage
    cases start with
    | none => exact ⟨added, by simp [Context.note, hasked], by simp [Context.note, hbound]⟩
    | some names =>
        by_cases hseen : name ∈ asked.seen
        · have hseen' : name ∈ bound.seen := (h.seen name hname).mpr hseen
          exact ⟨added, by simp [Context.note, hasked, hseen],
            by simp [Context.note, hbound, hseen']⟩
        · have hseen' : name ∉ bound.seen := mt (h.seen name hname).mp hseen
          exact ⟨added ++ [name], by simp [Context.note, hasked, hseen],
            by simp [Context.note, hbound, hseen', hname]⟩
  seen := by
    obtain ⟨added, hasked, hbound⟩ := h.usage
    intro other hother
    have hsame : bound.usage.isSome = asked.usage.isSome := by
      rw [hasked, hbound, Option.isSome_map, Option.isSome_map]
    unfold Context.note
    dsimp only
    rw [hsame]
    split
    · rw [List.mem_insert_iff, List.mem_insert_iff, h.seen other hother]
    · exact h.seen other hother }

/-- A look-up is recorded by the resolver's context alone. -/
theorem Mirrors.record_lookup (h : Mirrors values start bound asked)
    {answer : Except String Value} :
    Mirrors values start bound (asked.record (.lookup name answer)) :=
  { h with calls := h.calls.trans Event.calls_lookup.symm }

theorem Mirrors.record_call (h : Mirrors values start bound asked) {args : List Value}
    {answer : Except String Value} :
    Mirrors values start (bound.record (.call name args answer))
      (asked.record (.call name args answer)) := {
  h with
  calls := by
    unfold record
    dsimp only
    rw [Event.calls_call, Event.calls_call, h.calls] }

end Context

/-! ## Runs -/

namespace Script

open Context

variable {α : Type} {values : Fields} {start : Option (List String)} {bound asked : Context}

/-- Two runs have the same result, and the contexts behind them have come equally far. -/
def MirrorsRun (values : Fields) (start : Option (List String))
    (outcome other : Except EvalError α × Context) : Prop :=
  outcome.1 = other.1 ∧ Mirrors values start outcome.2 other.2

theorem mirrorsRun_lookup {name : String} {next : Value → Script α}
    (ih : ∀ v {bound asked : Context}, Mirrors values start bound asked → Apart values asked →
      asked.FollowsCalls →
      MirrorsRun values start ((next v).run bound) ((next v).run asked))
    (h : Mirrors values start bound asked) (hapart : Apart values asked)
    (hcalls : asked.FollowsCalls) :
    MirrorsRun values start ((lookup name next).run bound) ((lookup name next).run asked) := by
  have hbound := h.value?_bound name
  have hasked := h.value?_asked name
  cases hfind : Fields.find? values name with
  | some v =>
      rw [hfind, Option.some_or] at hbound
      rw [hapart name v hfind] at hasked
      have hlacks : values.lacks name = false := by rw [Fields.lacks, hfind]; rfl
      have hanswer : values.resolver (asked.note name).history name = .ok v := by
        rw [Fields.resolver, hfind]
        rfl
      rw [run_lookup_value hbound, run_lookup_resolver hasked h.resolver, resolve, hanswer]
      exact ih v (h.note_right hlacks).record_lookup hapart hcalls
  | none =>
      rw [hfind, Option.none_or] at hbound
      have hlacks : values.lacks name = true := by rw [Fields.lacks, hfind]; rfl
      cases hconstant : Fields.find? asked.constants name with
      | some v =>
          rw [hconstant] at hbound hasked
          rw [run_lookup_value hbound, run_lookup_value hasked]
          exact ih v h hapart hcalls
      | none =>
          rw [hconstant] at hbound hasked
          have hanswer : values.resolver (asked.note name).history name = .ok .null := by
            rw [Fields.resolver, hfind]
            rfl
          rw [run_lookup_bindings hbound h.bindings, run_lookup_resolver hasked h.resolver,
            resolve, hanswer]
          exact ih .null (h.note hlacks).record_lookup hapart hcalls

theorem mirrorsRun_call {name : String} {args : List Value} {next : Value → Script α}
    (ih : ∀ v {bound asked : Context}, Mirrors values start bound asked → Apart values asked →
      asked.FollowsCalls →
      MirrorsRun values start ((next v).run bound) ((next v).run asked))
    (h : Mirrors values start bound asked) (hapart : Apart values asked)
    (hcalls : asked.FollowsCalls) :
    MirrorsRun values start ((call name args next).run bound)
      ((call name args next).run asked) := by
  cases hf : asked.functions.find? name with
  | none =>
      rw [run_call_missing (by rw [h.functions, hf]), run_call_missing hf]
      exact ih .null h hapart hcalls
  | some f =>
      have hsame : f bound.history args = f asked.history args :=
        hcalls name f hf _ _ args h.calls
      rw [run_call_found (by rw [h.functions, hf]), run_call_found hf, hsame]
      unfold receive Event.answer
      cases f asked.history args with
      | ok v => exact ih v h.record_call hapart hcalls
      | error message => exact ⟨rfl, h.record_call⟩

/-- A run with bindings and a run with their resolver come equally far. -/
theorem mirrorsRun (script : Script α) {bound asked : Context}
    (h : Mirrors values start bound asked) (hapart : Apart values asked)
    (hcalls : asked.FollowsCalls) :
    MirrorsRun values start (script.run bound) (script.run asked) := by
  induction script generalizing bound asked with
  | done a => exact ⟨rfl, h⟩
  | nullAccess key => exact ⟨rfl, h⟩
  | lookup name next ih => exact mirrorsRun_lookup ih h hapart hcalls
  | known name next ih =>
      rw [run, run, h.functions]
      exact ih _ h hapart hcalls
  | call name args next ih => exact mirrorsRun_call ih h hapart hcalls

end Script

/-! ## Evaluations -/

/-- An evaluation does the same with bindings and with their resolver.  It has the same result and
makes the same calls; and starting from empty logs, the log with the bindings is that with the
resolver without the names that are bound. -/
structure Indifferent {ρ : Type} (values : Fields) (context : Context)
    (evaluation : Context → ρ × Context) : Prop where
  result : (evaluation (context.withIdentifiers (.bindings values))).1 =
    (evaluation (context.withIdentifiers (.resolver values.resolver))).1
  calls : Event.calls (evaluation (context.withIdentifiers (.bindings values))).2.history =
    Event.calls (evaluation (context.withIdentifiers (.resolver values.resolver))).2.history
  usage : ∃ log,
    (evaluation (context.track.withIdentifiers (.resolver values.resolver))).2.usage = some log ∧
      (evaluation (context.track.withIdentifiers (.bindings values))).2.usage =
        some (log.filter values.lacks)

namespace Script

open Context

variable {α ρ : Type} {values : Fields} {context : Context} {script : Script α}

/-- The outcome of an evaluation that is polled by an evaluator of its own. -/
def polled (patience : Nat) (script : Script α) (context : Context) :
    Option (Except EvalError α) × Context :=
  let (result, evaluator) := (Task.running script).block patience (.new context)
  (result, evaluator.context)

theorem polled_eq_run (patience : Nat) (script : Script α) {context : Context}
    (hc : ∀ resolver, context.identifiers ≠ .delayed resolver) :
    script.polled patience context = (some (script.run context).1, (script.run context).2) := by
  have hends : Evaluator.Ends (script.advance (.new context)) (script.run context) none :=
    Evaluator.ends_advance script hc
  rw [polled, Evaluator.block_running, hends]
  rfl

/-- What does as the run does, wherever no resolver has to be waited for, is indifferent. -/
theorem indifferent_of_run {evaluation : Context → ρ × Context} {f : Except EvalError α → ρ}
    (hrun : ∀ context : Context, (∀ resolver, context.identifiers ≠ .delayed resolver) →
      evaluation context = (f (script.run context).1, (script.run context).2))
    (hapart : Apart values context) (hcalls : context.FollowsCalls) :
    Indifferent values context evaluation := by
  have hboth (context : Context) :
      evaluation (context.withIdentifiers (.bindings values)) = _ ∧
        evaluation (context.withIdentifiers (.resolver values.resolver)) = _ :=
    ⟨hrun _ (by simp [withIdentifiers]), hrun _ (by simp [withIdentifiers])⟩
  obtain ⟨hresult, hmirrors⟩ := mirrorsRun script (mirrors_start context values) hapart hcalls
  obtain ⟨-, hfresh⟩ := mirrorsRun script (mirrors_start context.track values) hapart hcalls
  constructor
  · rw [(hboth context).1, (hboth context).2, hresult]
  · rw [(hboth context).1, (hboth context).2, hmirrors.calls]
  · obtain ⟨added, hasked, hbound⟩ := hfresh.usage
    rw [(hboth context.track).1, (hboth context.track).2]
    exact ⟨added, hasked, hbound⟩

theorem indifferent_isolated (script : Script α) (hapart : Apart values context)
    (hcalls : context.FollowsCalls) : Indifferent values context script.runNow.isolated :=
  indifferent_of_run (f := id) (fun _ hc => isolated_runNow_eq_run script hc) hapart hcalls

theorem indifferent_polled (patience : Nat) (script : Script α) (hapart : Apart values context)
    (hcalls : context.FollowsCalls) : Indifferent values context (script.polled patience) :=
  indifferent_of_run (f := some) (fun _ hc => polled_eq_run patience script hc) hapart hcalls

end Script

/-- Bindings and a resolver that answers from them agree for all expressions and unions of types,
without waiting and by polls, if no constant is bound and the functions follow the calls. -/
theorem bindings_agree_with_resolver {context : Context} {values : Fields}
    (hapart : Context.Apart values context) (hcalls : context.FollowsCalls) :
    (∀ e : Expr, Indifferent values context e.evaluate.isolated ∧
      ∀ patience, Indifferent values context (e.script.polled patience)) ∧
    ∀ union : TypeUnion, Indifferent values context union.evaluate.isolated ∧
      ∀ patience, Indifferent values context (union.script.polled patience) := by
  refine ⟨fun e => ⟨?_, ?_⟩, fun union => ⟨?_, ?_⟩⟩
  · exact e.script.indifferent_isolated hapart hcalls
  · exact fun patience => e.script.indifferent_polled patience hapart hcalls
  · exact union.script.indifferent_isolated hapart hcalls
  · exact fun patience => union.script.indifferent_polled patience hapart hcalls

/-- A bound name is logged by the resolver's evaluation alone, and a function that counts the calls
before it counts the same in both. -/
theorem bindings_agree_with_resolver_counting :
    let values : Fields := [("a", .number .one)]
    let count : HostFunction := fun history _ => .ok (.ofCount (Event.calls history).length)
    let context := Context.bare.withFunction "count" count
    let e := Expr.array [.identifier "b", .call "count" [], .identifier "a",
      .call "count" [.identifier "a"], .identifier "b"]
    Context.Apart values context ∧ context.FollowsCalls ∧
      Indifferent values context e.evaluate.isolated ∧
      (e.evaluate.isolated (context.track.withIdentifiers (.resolver values.resolver))).2.usage =
        some ["b", "a"] := by
  intro values count context e
  have hapart : Context.Apart values context := fun _ _ _ => rfl
  have hcalls : context.FollowsCalls := by
    intro name f hf history history' args hsame
    have hcount : f = count := by
      change (if "count" = name then some count else none) = some f at hf
      split at hf
      · exact (Option.some.inj hf).symm
      · cases hf
    rw [hcount]
    exact congrArg (fun calls : List Event => Except.ok (Value.ofCount calls.length)) hsame
  exact ⟨hapart, hcalls, ((bindings_agree_with_resolver hapart hcalls).1 e).1, rfl⟩

end Guest
