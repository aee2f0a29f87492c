import Guest.Proofs.Evaluation.Builtins
import Guest.Proofs.Evaluation.Steady
import Guest.Proofs.Evaluation.Usage
import Guest.Proofs.Expr.Exactness
import Guest.Proofs.Expr.Objects
import Guest.Proofs.TypeExpr.Results

/-!
# Keyed values over a session

A session gets its values from the host: from bindings, resolvers and functions.  If none of them
has a key twice in an object, at any depth, neither has a value that an evaluation of the session
returns.  The invariant is that the context is a host of keyed values; an evaluation changes its
record and its log alone.
-/

namespace Guest

/-! ## The host of an evaluation -/

namespace Evaluator

variable {α : Type} {host : Context} {evaluator : Evaluator} {event : Event}
  {failed : String → EvalError} {resume : Value → Evaluator → Poll α × Evaluator}

theorem sameHost_receive (h : evaluator.context.SameHost host)
    (hresume : ∀ v evaluator, evaluator.context.SameHost host →
      (resume v evaluator).2.context.SameHost host) :
    (evaluator.receive event failed resume).2.context.SameHost host := by
  unfold receive
  cases event.answer with
  | ok v => exact hresume v _ (h.record event)
  | error message => exact h.record event

theorem sameHost_await {name : String} {answer : Resolver} {next : Value → Script α}
    (h : evaluator.context.SameHost host)
    (hresume : ∀ v evaluator, evaluator.context.SameHost host →
      (resume v evaluator).2.context.SameHost host) (polls : Option Nat) :
    (evaluator.await name answer next resume polls).2.context.SameHost host := by
  rcases polls with _ | _ | polls
  · exact h
  · exact sameHost_receive h hresume
  · exact h

end Evaluator

namespace Script

open Evaluator

variable {α : Type} {host : Context} {evaluator : Evaluator}

/-- A poll changes the record and the log alone. -/
theorem sameHost_advance (script : Script α) (h : evaluator.context.SameHost host) :
    (script.advance evaluator).2.context.SameHost host := by
  induction script generalizing evaluator with
  | done a => exact h
  | nullAccess key => exact h
  | lookup name next ih =>
      have hnext (v : Value) (evaluator : Evaluator) (h : evaluator.context.SameHost host) :
          ((next v).advance evaluator).2.context.SameHost host := ih v h
      unfold advance Context.lookup
      cases evaluator.context.value? name with
      | some v => exact ih v h
      | none =>
          cases evaluator.context.identifiers with
          | bindings values => exact ih .null (h.note name)
          | resolver answer => exact sameHost_receive (h.note name) hnext
          | delayed source => exact sameHost_await (h.note name) hnext _
  | known name next ih => exact ih _ h
  | call name args next ih =>
      unfold advance
      cases evaluator.context.functions.find? name with
      | none => exact ih .null h
      | some f => exact sameHost_receive h fun v evaluator h => ih v h

theorem sameHost_runNow (script : Script α) (evaluator : Evaluator) :
    (script.runNow evaluator).2.context.SameHost evaluator.context := by
  have h := script.sameHost_advance (.refl evaluator.context)
  rw [runNow_apply]
  rcases hpoll : script.advance evaluator with ⟨result | task, after⟩
  · rwa [hpoll] at h
  · rwa [hpoll] at h

end Script

namespace Task

variable {α : Type} {P : α → Prop} {host : Context} {evaluator : Evaluator}

theorem sameHost_poll (task : Task α) (h : evaluator.context.SameHost host) :
    (task.poll evaluator).2.context.SameHost host := by
  cases task with
  | running script => exact script.sameHost_advance h
  | awaiting name answer polls next =>
      exact Evaluator.sameHost_await h (fun v _ h => (next v).sameHost_advance h) polls

theorem sameHost_block (patience : Nat) (task : Task α) (h : evaluator.context.SameHost host) :
    (task.block patience evaluator).2.context.SameHost host := by
  have hpoll := task.sameHost_poll h
  induction patience generalizing task evaluator with
  | zero =>
      unfold block
      rcases htask : task.poll evaluator with ⟨result | rest, after⟩
      · rwa [htask] at hpoll
      · rwa [htask] at hpoll
  | succ patience ih =>
      unfold block
      rcases htask : task.poll evaluator with ⟨result | rest, after⟩
      · rwa [htask] at hpoll
      · rw [htask] at hpoll
        exact ih rest hpoll (rest.sameHost_poll hpoll)

end Task

/-! ## Hosts of keyed values -/

/-- A source of identifiers gives keyed values only. -/
def Identifiers.Keyed : Identifiers → Prop
  | .bindings values => ∀ name v, Fields.find? values name = some v → v.Keyed
  | .resolver answer => ∀ history name v, answer history name = .ok v → v.Keyed
  | .delayed source => ∀ history name v, source.answer history name = .ok v → v.Keyed

/-- A function of the host answers keyed arguments with keyed values. -/
def HostFunction.Keyed (f : HostFunction) : Prop :=
  ∀ history args, (∀ arg ∈ args, arg.Keyed) → ∀ v, f history args = .ok v → v.Keyed

theorem Functions.find?_insert {functions : Functions} {name other : String} {f : HostFunction} :
    (functions.insert name f).find? other =
      if name = other then some f else functions.find? other := by
  induction functions with
  | nil => rfl
  | cons entry rest ih =>
      obtain ⟨key, g⟩ := entry
      rw [insert]
      by_cases hkey : key = name
      · subst hkey
        rw [if_pos rfl, find?, find?]
        split <;> rfl
      · rw [if_neg hkey, find?, find?, ih]
        by_cases hother : key = other
        · rw [if_pos hother, if_pos hother, if_neg (hother ▸ Ne.symm hkey)]
        · rw [if_neg hother, if_neg hother]

namespace Context

variable {context host : Context}

theorem Keyed.of_sameHost (h : host.Keyed) (hsame : context.SameHost host) : context.Keyed where
  constants := hsame.constants ▸ h.constants
  bindings := hsame.identifiers ▸ h.bindings
  resolver := hsame.identifiers ▸ h.resolver
  delayed := hsame.identifiers ▸ h.delayed
  functions := hsame.functions ▸ h.functions

theorem Keyed.withIdentifiers (h : context.Keyed) {identifiers : Identifiers}
    (hidentifiers : identifiers.Keyed) : (context.withIdentifiers identifiers).Keyed where
  constants := h.constants
  bindings := by
    rintro values rfl
    exact hidentifiers
  resolver := by
    rintro answer rfl
    exact hidentifiers
  delayed := by
    rintro source rfl
    exact hidentifiers
  functions := h.functions

theorem Keyed.withFunction (h : context.Keyed) {f : HostFunction} (hf : f.Keyed) (name : String) :
    (context.withFunction name f).Keyed where
  constants := h.constants
  bindings := h.bindings
  resolver := h.resolver
  delayed := h.delayed
  functions other g hg := by
    rw [Context.withFunction, Functions.find?_insert] at hg
    split at hg
    · cases hg
      exact hf
    · exact h.functions other g hg

end Context

/-! ## Sessions -/

namespace Task.Ensures

variable {α : Type} {P : α → Prop} {task : Task α} {evaluator : Evaluator} {a : α}

theorem block (h : task.Ensures P) (hc : evaluator.context.Keyed) {patience : Nat}
    (ha : (task.block patience evaluator).1 = some (.ok a)) : P a := by
  induction patience generalizing task evaluator with
  | zero =>
      have hpoll := h.poll hc
      unfold Task.block at ha
      rcases htask : task.poll evaluator with ⟨result | rest, after⟩
      · rw [htask] at ha hpoll
        cases ha
        exact hpoll
      · rw [htask] at ha
        cases ha
  | succ patience ih =>
      have hpoll := h.poll hc
      have hhost := task.sameHost_poll (.refl evaluator.context)
      unfold Task.block at ha
      rcases htask : task.poll evaluator with ⟨result | rest, after⟩
      · rw [htask] at ha hpoll
        cases ha
        exact hpoll
      · rw [htask] at ha hpoll hhost
        exact ih hpoll (hc.of_sameHost hhost) ha

end Task.Ensures

namespace Evaluation

variable {context : Context} {v : Value}

/-- The literals of what is evaluated to a value are keyed. -/
def Keyed : Evaluation → Prop
  | expr e _ => e.Keyed
  | types union _ => union.Keyed
  | text _ => True
  | messages _ => True

/-- An evaluation without waiting returns a value. -/
def Returns : Evaluation → Context → Value → Prop
  | expr e suspendedOn, context, v => (e.evaluate ⟨context, suspendedOn⟩).1 = .ok v
  | types union suspendedOn, context, v => (union.evaluate ⟨context, suspendedOn⟩).1 = .ok v
  | text _, _, _ => False
  | messages _, _, _ => False

/-- An evaluation that is polled returns a value. -/
def ReturnsWithin (patience : Nat) : Evaluation → Context → Value → Prop
  | expr e suspendedOn, context, v =>
    ((Task.running e.script).block patience ⟨context, suspendedOn⟩).1 = some (.ok v)
  | types union suspendedOn, context, v =>
    ((Task.running union.script).block patience ⟨context, suspendedOn⟩).1 = some (.ok v)
  | text _, _, _ => False
  | messages _, _, _ => False

theorem sameHost_now (evaluation : Evaluation) (context : Context) :
    (evaluation.now context).SameHost context := by
  cases evaluation with
  | expr e suspendedOn => exact e.script.sameHost_runNow ⟨context, suspendedOn⟩
  | types union suspendedOn => exact union.script.sameHost_runNow ⟨context, suspendedOn⟩
  | text template =>
      rw [now, Template.render_eq_runNow]
      exact template.script.sameHost_runNow (.new context)
  | messages lines =>
      rw [now, Line.renderAll_eq_runNow]
      exact (Line.scripts lines).sameHost_runNow (.new context)

theorem sameHost_within (patience : Nat) (evaluation : Evaluation) (context : Context) :
    (evaluation.within patience context).SameHost context := by
  cases evaluation with
  | expr e suspendedOn => exact Task.sameHost_block patience _ (.refl context)
  | types union suspendedOn => exact Task.sameHost_block patience _ (.refl context)
  | text template => exact Task.sameHost_block patience _ (.refl context)
  | messages lines => exact Task.sameHost_block patience _ (.refl context)

theorem keyed_of_returns {evaluation : Evaluation} (h : evaluation.Keyed) (hc : context.Keyed)
    (hv : evaluation.Returns context v) : v.Keyed := by
  cases evaluation with
  | expr e suspendedOn => exact (Expr.Keyed.ensures h).runNow hc hv
  | types union suspendedOn => exact (TypeUnion.Keyed.ensures h).runNow hc hv
  | text template => exact hv.elim
  | messages lines => exact hv.elim

theorem keyed_of_returnsWithin {evaluation : Evaluation} {patience : Nat} (h : evaluation.Keyed)
    (hc : context.Keyed) (hv : evaluation.ReturnsWithin patience context v) : v.Keyed := by
  cases evaluation with
  | expr e suspendedOn => exact (Task.Ensures.running (Expr.Keyed.ensures h)).block hc hv
  | types union suspendedOn => exact (Task.Ensures.running (TypeUnion.Keyed.ensures h)).block hc hv
  | text template => exact hv.elim
  | messages lines => exact hv.elim

end Evaluation

namespace Operation

variable {context : Context} {v : Value}

/-- What an operation gets from the host, or from who wrote a tree, is keyed. -/
def Keyed : Operation → Prop
  | withIdentifiers identifiers => identifiers.Keyed
  | withFunction _ f => f.Keyed
  | track => True
  | take => True
  | evaluate evaluation => evaluation.Keyed
  | poll _ evaluation => evaluation.Keyed

/-- The evaluation of an operation returns a value. -/
def Returns : Operation → Context → Value → Prop
  | evaluate evaluation, context, v => evaluation.Returns context v
  | poll patience evaluation, context, v => evaluation.ReturnsWithin patience context v
  | _, _, _ => False

theorem keyed_apply {op : Operation} (h : op.Keyed) (hc : context.Keyed) :
    (op.apply context).Keyed := by
  cases op with
  | withIdentifiers identifiers => exact hc.withIdentifiers h
  | withFunction name f => exact hc.withFunction h name
  | track => exact hc.of_sameHost ⟨rfl, rfl, rfl⟩
  | take => exact hc.of_sameHost ⟨rfl, rfl, rfl⟩
  | evaluate evaluation => exact hc.of_sameHost (evaluation.sameHost_now context)
  | poll patience evaluation => exact hc.of_sameHost (evaluation.sameHost_within patience context)

theorem keyed_applyAll {ops : List Operation} (h : ∀ op ∈ ops, op.Keyed) (hc : context.Keyed) :
    (applyAll ops context).Keyed := by
  induction ops generalizing context with
  | nil => exact hc
  | cons op ops ih =>
      obtain ⟨hop, hops⟩ := List.forall_mem_cons.mp h
      exact ih hops (keyed_apply hop hc)

theorem keyed_of_returns {op : Operation} (h : op.Keyed) (hc : context.Keyed)
    (hv : op.Returns context v) : v.Keyed := by
  cases op with
  | evaluate evaluation => exact Evaluation.keyed_of_returns h hc hv
  | poll patience evaluation => exact Evaluation.keyed_of_returnsWithin h hc hv
  | _ => exact hv.elim

end Operation

/-- The literals of an expression that the parser gives are atomic. -/
theorem Expr.keyed_of_parse {dialect : Dialect} {source : String} {e : Expr}
    (h : parse dialect source = .ok e) : e.Keyed := by
  obtain ⟨ts, -, hderived⟩ := exists_derivation_of_parse h
  exact Grammar.keyed_expression hderived

/-- An object literal comes to a value, without waiting or polled, where its entries do one after
another; the value is an object with each key once, where it first comes, and the value of its last
entry.  Over every session that gets keyed values only, every value that an evaluation returns is
keyed, in particular that of every text that can be read. -/
theorem objects_have_each_key_once :
    (∀ (drive : Script.Drive) (entries : Entries) (start stop : Evaluator) (w : Value),
      (Expr.object entries).EvaluatesTo drive start w stop ↔
        ∃ values fields : Fields, Expr.EvaluateInTurn drive entries start values stop ∧
          values.Merges fields ∧ w = .object fields) ∧
    (∀ (builtins : Bool) (ops : List Operation), (∀ op ∈ ops, op.Keyed) →
      ∀ op : Operation, op.Keyed → ∀ v,
        op.Returns (Operation.applyAll ops (if builtins then .initial else .bare)) v → v.Keyed) ∧
    (∀ dialect source e, Expr.parse dialect source = .ok e → e.Keyed) ∧
    ∀ source union, TypeUnion.parse source = .ok union → union.Keyed := by
  refine ⟨fun drive entries start stop w => Expr.evaluatesTo_object,
    fun builtins ops hops op hop v hv => ?_, fun dialect source e h => Expr.keyed_of_parse h,
    fun source union h => TypeUnion.keyed_of_parse h⟩
  have hstart : (if builtins then Context.initial else Context.bare).Keyed := by
    cases builtins with
    | true => exact Context.keyed_initial
    | false => exact Context.keyed_bare
  exact Operation.keyed_of_returns hop (Operation.keyed_applyAll hops hstart) hv

/-- A key that comes again keeps its place and gets the later value, and a bound object comes back
as it was bound. -/
theorem repeated_key_keeps_its_place :
    (Expr.object [("a", .literal .null), ("b", .literal .null), ("a", .identifier "x")]).EvaluatesTo
      .now (.new .bare) (.object [("a", .null), ("b", .null)]) (.new (Context.bare.note "x")) ∧
    (Value.object [("k", .null)]).Keyed ∧
    (∃ e, Expr.parse .extended "[x, 1]" = .ok e ∧ e.Keyed) ∧
    ∃ union, TypeUnion.parse "T" = .ok union ∧ union.Keyed := by
  obtain ⟨hobject, hsession, hexpr, htypes⟩ := objects_have_each_key_once
  refine ⟨?object, ?session, ?expr, ?types⟩
  case object =>
    refine (hobject .now _ _ _ _).mpr ⟨[("a", .null), ("b", .null), ("a", .null)], _, ?_,
      Fields.merges_insertAll _, rfl⟩
    exact .cons rfl (.cons rfl (.cons rfl .nil))
  case session =>
    let values : Fields := [("x", .object [("k", .null)])]
    have hvalues : (Operation.withIdentifiers (.bindings values)).Keyed := by
      intro name v hv
      cases List.mem_singleton.mp (Fields.mem_of_find? hv)
      exact .object (List.nodup_singleton _) (List.forall_mem_singleton.mpr .null)
    exact hsession false [.withIdentifiers (.bindings values)]
      (List.forall_mem_singleton.mpr hvalues) (.evaluate (.expr (.identifier "x") none))
      (.identifier "x") _ rfl
  case expr =>
    cases hparse : Expr.parse .extended "[x, 1]" with
    | ok e => exact ⟨e, rfl, hexpr _ _ e hparse⟩
    | error error =>
        have hok : (Expr.parse .extended "[x, 1]").toBool = true := by
          decide +kernel
        rw [hparse] at hok
        cases hok
  case types =>
    cases hparse : TypeUnion.parse "T" with
    | ok union => exact ⟨union, rfl, htypes _ union hparse⟩
    | error error =>
        have hok : (TypeUnion.parse "T").toBool = true := by
          decide +kernel
        rw [hparse] at hok
        cases hok

end Guest
