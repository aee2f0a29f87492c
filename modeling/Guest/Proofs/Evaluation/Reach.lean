import Guest.Proofs.Evaluation.Usage

/-!
# The order in which names are reached

A script looks names up within a list if, whatever its host answers, the names that it looks up are
part of the list, in its order.  This is put together along the script, and polls keep it: what one
poll has looked up and what the rest of the evaluation may still look up are part of the list one
after the other.
-/

namespace Guest

/-- The name that was looked up. -/
def Mark.name? : Mark → Option String
  | lookup name _ => some name
  | _ => none

/-! ## Scripts -/

namespace Script

variable {α β : Type} {names more : List String} {script : Script α}

/-- The names that a script looks up are part of a list, in its order. -/
inductive LooksUp {α : Type} : List String → Script α → Prop where
  | done {names : List String} (a : α) :
      LooksUp names (.done a)
  | nullAccess {names : List String} (key : String) :
      LooksUp names (.nullAccess key)
  | lookup {names left : List String} {name : String} {next : Value → Script α} :
      (name :: left).Sublist names → (∀ v, LooksUp left (next v)) →
      LooksUp names (.lookup name next)
  | known {names : List String} {name : String} {next : Bool → Script α} :
      (∀ b, LooksUp names (next b)) → LooksUp names (.known name next)
  | call {names : List String} {name : String} {args : List Value} {next : Value → Script α} :
      (∀ v, LooksUp names (next v)) → LooksUp names (.call name args next)

theorem LooksUp.mono (h : script.LooksUp names) (hsub : names.Sublist more) :
    script.LooksUp more := by
  induction h generalizing more with
  | done a => exact .done a
  | nullAccess key => exact .nullAccess key
  | lookup hname hnext _ => exact .lookup (hname.trans hsub) hnext
  | known _ ih => exact .known fun b => ih b hsub
  | call _ ih => exact .call fun v => ih v hsub

/-- What one script looks up comes before what the next one looks up. -/
theorem LooksUp.bind {f : α → Script β} (h : script.LooksUp names)
    (hf : ∀ a, (f a).LooksUp more) : (script >>= f).LooksUp (names ++ more) := by
  induction h with
  | done a => exact (hf a).mono (List.sublist_append_right _ _)
  | nullAccess key => exact .nullAccess key
  | lookup hname _ ih => exact .lookup (hname.append_right more) ih
  | known _ ih => exact .known ih
  | call _ ih => exact .call ih

theorem LooksUp.map {f : α → β} (h : script.LooksUp names) :
    (script >>= fun a => pure (f a)).LooksUp names := by
  rw [← List.append_nil names]
  exact h.bind fun a => .done (f a)

end Script

/-! ## Polls -/

namespace Task

variable {α : Type}

/-- The names that a task may still look up are part of a list, in its order. -/
def LooksUp (names : List String) : Task α → Prop
  | running script => script.LooksUp names
  | awaiting _ _ _ next => ∀ v, (next v).LooksUp names

/-- The name whose look-up has been marked and is not recorded yet. -/
def waiting : Task α → List String
  | running _ => []
  | awaiting name _ _ _ => [name]

end Task

namespace Poll

variable {α : Type}

/-- What is left to be looked up after a poll is part of a list, in its order. -/
def LooksUp (names : List String) : Poll α → Prop
  | ready _ => True
  | pending task => task.LooksUp names

/-- The name for which an evaluation waits after a poll. -/
def waiting : Poll α → List String
  | ready _ => []
  | pending task => task.waiting

end Poll

namespace Evaluator

variable {α : Type} {names : List String} {event : Event} {evaluator : Evaluator}
  {failed : String → EvalError} {resume : Value → Evaluator → Poll α × Evaluator}
  {resumed : Value → Context → List Mark}

/-- A poll looks up the names of some marks, and what it leaves looks up others behind them. -/
def Reaches (names : List String) (marks : List Mark) (poll : Poll α) : Prop :=
  ∃ left, (marks.filterMap Mark.name? ++ left).Sublist names ∧ poll.LooksUp left

theorem reaches_receive
    (h : ∀ v evaluator, Reaches names (resumed v evaluator.context) (resume v evaluator).1)
    (evaluator : Evaluator) :
    Reaches names (evaluator.context.marksAfter event resumed)
      (evaluator.receive event failed resume).1 := by
  unfold receive Context.marksAfter
  cases event.answer with
  | ok v => exact h v { evaluator with context := evaluator.context.record event }
  | error message => exact ⟨[], List.nil_sublist _, trivial⟩

theorem reaches_await {name : String} {answer : Resolver} {next : Value → Script α}
    (hnext : ∀ v, (next v).LooksUp names)
    (h : ∀ v evaluator, Reaches names (resumed v evaluator.context) (resume v evaluator).1)
    (polls : Option Nat) (evaluator : Evaluator) :
    Reaches names (evaluator.context.marksOn name answer resumed polls)
      (evaluator.await name answer next resume polls).1 := by
  rcases polls with _ | _ | polls
  · exact ⟨names, List.Sublist.refl _, hnext⟩
  · exact reaches_receive h { evaluator with suspendedOn := none }
  · exact ⟨names, List.Sublist.refl _, hnext⟩

theorem reaches_cons {left : List String} {mark : Mark} {marks : List Mark} {name : String}
    {poll : Poll α} (hmark : mark.name? = some name) (hname : (name :: left).Sublist names)
    (h : Reaches left marks poll) : Reaches names (mark :: marks) poll := by
  obtain ⟨rest, hsub, hpoll⟩ := h
  refine ⟨rest, ?_, hpoll⟩
  rw [List.filterMap_cons_some hmark, List.cons_append]
  exact (hsub.cons_cons name).trans hname

theorem reaches_advance {script : Script α} (h : script.LooksUp names) (evaluator : Evaluator) :
    Reaches names (script.marks evaluator.context) (script.advance evaluator).1 := by
  induction h generalizing evaluator with
  | done a => exact ⟨[], List.nil_sublist _, trivial⟩
  | nullAccess key => exact ⟨[], List.nil_sublist _, trivial⟩
  | @lookup names left name next hname hnext ih =>
      simp only [Script.advance, Script.marks]
      apply reaches_cons rfl hname
      rcases evaluator.context.lookup name with ⟨found, after⟩
      cases found with
      | bound v => exact ih v { evaluator with context := after }
      | now answer => exact reaches_receive ih { evaluator with context := after }
      | later resolver =>
          exact reaches_await hnext ih _ ⟨after, some name⟩
  | known _ ih => exact ih _ evaluator
  | @call names name args next _ ih =>
      simp only [Script.advance, Script.marks]
      cases evaluator.context.functions.find? name with
      | none => exact ih .null evaluator
      | some f => exact reaches_receive ih evaluator

/-! ## The record of exchanges -/

/-- A poll adds exchanges to the record.  The look-ups among them, and the one that is waited for,
are part of some names, in their order. -/
def Records (history : List Event) (names : List String) (poll : Poll α × Evaluator) : Prop :=
  ∃ events, poll.2.context.history = history ++ events ∧
    (events.filterMap Event.lookedUp? ++ poll.1.waiting).Sublist names

variable {history : List Event} {poll : Poll α × Evaluator}

theorem records_nil (hhistory : poll.2.context.history = history)
    (hwaiting : poll.1.waiting.Sublist names) : Records history names poll :=
  ⟨[], hhistory.trans (List.append_nil _).symm, hwaiting⟩

theorem records_receive
    (h : ∀ v evaluator, Records evaluator.context.history
      ((resumed v evaluator.context).filterMap Mark.name?) (resume v evaluator))
    (evaluator : Evaluator) :
    Records evaluator.context.history
      (event.lookedUp?.toList ++
        (evaluator.context.marksAfter event resumed).filterMap Mark.name?)
      (evaluator.receive event failed resume) := by
  have hcons (events : List Event) : (event :: events).filterMap Event.lookedUp? =
      event.lookedUp?.toList ++ events.filterMap Event.lookedUp? := by
    cases event <;> rfl
  unfold receive Context.marksAfter
  cases event.answer with
  | ok v =>
      obtain ⟨events, hhistory, hsub⟩ :=
        h v { evaluator with context := evaluator.context.record event }
      refine ⟨event :: events, ?_, ?_⟩
      · exact hhistory.trans (List.append_assoc _ _ _)
      · rw [hcons, List.append_assoc]
        exact hsub.append_left _
  | error message =>
      refine ⟨[event], rfl, ?_⟩
      rw [hcons]
      simp [Poll.waiting]

theorem records_await {name : String} {answer : Resolver} {next : Value → Script α}
    (h : ∀ v evaluator, Records evaluator.context.history
      ((resumed v evaluator.context).filterMap Mark.name?) (resume v evaluator))
    (polls : Option Nat) (evaluator : Evaluator) :
    Records evaluator.context.history
      (name :: (evaluator.context.marksOn name answer resumed polls).filterMap Mark.name?)
      (evaluator.await name answer next resume polls) := by
  rcases polls with _ | _ | polls
  · exact records_nil rfl (List.Sublist.refl _)
  · exact records_receive h { evaluator with suspendedOn := none }
  · exact records_nil rfl (List.Sublist.refl _)

theorem records_advance (script : Script α) (evaluator : Evaluator) :
    Records evaluator.context.history ((script.marks evaluator.context).filterMap Mark.name?)
      (script.advance evaluator) := by
  induction script generalizing evaluator with
  | done a => exact records_nil rfl (List.Sublist.refl _)
  | nullAccess key => exact records_nil rfl (List.Sublist.refl _)
  | lookup name next ih =>
      have hhistory : (evaluator.context.lookup name).2.history = evaluator.context.history := by
        unfold Context.lookup
        cases evaluator.context.value? name with
        | some v => rfl
        | none => rfl
      have hmark : (evaluator.context.mark name).name? = some name := rfl
      simp only [Script.advance, Script.marks]
      rw [List.filterMap_cons_some hmark, ← hhistory]
      rcases evaluator.context.lookup name with ⟨found, after⟩
      cases found with
      | bound v =>
          obtain ⟨events, hevents, hsub⟩ := ih v { evaluator with context := after }
          exact ⟨events, hevents, hsub.cons name⟩
      | now answer => exact records_receive ih { evaluator with context := after }
      | later resolver => exact records_await ih _ ⟨after, some name⟩
  | known name next ih => exact ih _ evaluator
  | call name args next ih =>
      simp only [Script.advance, Script.marks]
      cases evaluator.context.functions.find? name with
      | none => exact ih .null evaluator
      | some f => exact records_receive ih evaluator

end Evaluator

/-! ## Evaluations that are polled -/

namespace Task

open Evaluator

variable {α : Type} {names : List String} {task : Task α}

theorem reaches_poll (h : task.LooksUp names) (evaluator : Evaluator) :
    Reaches names (task.marks evaluator.context) (task.poll evaluator).1 := by
  cases task with
  | running script => exact reaches_advance h evaluator
  | awaiting name answer polls next =>
      exact reaches_await h (fun v evaluator => reaches_advance (h v) evaluator) polls evaluator

theorem records_poll (task : Task α) (evaluator : Evaluator) :
    Records evaluator.context.history
      (task.waiting ++ (task.marks evaluator.context).filterMap Mark.name?)
      (task.poll evaluator) := by
  cases task with
  | running script => exact records_advance script evaluator
  | awaiting name answer polls next =>
      exact records_await (fun v evaluator => records_advance (next v) evaluator) polls evaluator

/-- However often a task is polled, it looks names up within its list. -/
theorem sublist_marksWithin (patience : Nat) (h : task.LooksUp names) (evaluator : Evaluator) :
    ((task.marksWithin patience evaluator).filterMap Mark.name?).Sublist names := by
  induction patience generalizing task names evaluator with
  | zero =>
      obtain ⟨left, hsub, hpoll⟩ := reaches_poll h evaluator
      unfold marksWithin
      rw [List.filterMap_append]
      rcases task.poll evaluator with ⟨result | rest, after⟩
      · exact ((List.nil_sublist left).append_left _).trans hsub
      · exact ((List.nil_sublist left).append_left _).trans hsub
  | succ patience ih =>
      obtain ⟨left, hsub, hpoll⟩ := reaches_poll h evaluator
      unfold marksWithin
      rw [List.filterMap_append]
      rcases htask : task.poll evaluator with ⟨result | rest, after⟩
      · exact ((List.nil_sublist left).append_left _).trans hsub
      · rw [htask] at hpoll
        exact ((ih hpoll after).append_left _).trans hsub

/-- The exchanges of an evaluation that is polled look up no more than it marks. -/
theorem records_block (patience : Nat) (task : Task α) (evaluator : Evaluator) :
    ∃ events,
      (task.block patience evaluator).2.context.history = evaluator.context.history ++ events ∧
      (events.filterMap Event.lookedUp?).Sublist
        (task.waiting ++ (task.marksWithin patience evaluator).filterMap Mark.name?) := by
  induction patience generalizing task evaluator with
  | zero =>
      obtain ⟨events, hhistory, hsub⟩ := records_poll task evaluator
      have hsub := ((List.nil_sublist _).append_left _).trans hsub
      rw [List.append_nil] at hsub
      unfold block marksWithin
      rw [List.filterMap_append]
      rcases htask : task.poll evaluator with ⟨result | rest, after⟩
      · rw [htask] at hhistory
        exact ⟨events, hhistory, by simpa using hsub⟩
      · rw [htask] at hhistory
        exact ⟨events, hhistory, by simpa using hsub⟩
  | succ patience ih =>
      obtain ⟨events, hhistory, hsub⟩ := records_poll task evaluator
      unfold block marksWithin
      rw [List.filterMap_append, ← List.append_assoc]
      rcases htask : task.poll evaluator with ⟨result | rest, after⟩
      · rw [htask] at hhistory hsub
        exact ⟨events, hhistory, by simpa [Poll.waiting] using hsub⟩
      · rw [htask] at hhistory hsub
        obtain ⟨later, hlater, hsublater⟩ := ih rest after
        refine ⟨events ++ later, ?_, ?_⟩
        · rw [hlater, show after.context.history = _ from hhistory, List.append_assoc]
        · rw [List.filterMap_append]
          refine (hsublater.append_left _).trans ?_
          rw [← List.append_assoc]
          exact hsub.append_right _

end Task

/-! ## The order of an evaluation -/

namespace Mark

variable {marks : List Mark}

theorem firsts_sublist (names : List String) : (firsts names).Sublist names := by
  have hsub := (List.dedup_sublist names.reverse).reverse
  rw [List.reverse_reverse] at hsub
  exact hsub

theorem nodup_firsts (names : List String) : (firsts names).Nodup :=
  List.nodup_reverse.mpr (List.nodup_dedup names.reverse)

theorem unknown_sublist (marks : List Mark) :
    (marks.filterMap unknown?).Sublist (marks.filterMap name?) := by
  induction marks with
  | nil => exact List.Sublist.refl _
  | cons mark marks ih =>
      rcases mark with _ | _ | ⟨name, _ | _⟩
      · exact ih
      · exact ih
      · exact ih.cons_cons name
      · exact ih.cons name

/-- The log behind look-ups that start from an empty one. -/
theorem log_track_append (h : OnlyLookups marks) :
    log (track :: marks) = some (firsts (marks.filterMap unknown?)) := by
  have hrecent : recent ([track] ++ marks) = marks := recent_append h
  rw [log, if_pos List.mem_cons_self, show track :: marks = [track] ++ marks from rfl, hrecent]

end Mark

/-- An evaluation with some look-ups reaches identifiers in the order of a list.  The names that it
looks up are part of the list, and so are those that it asks its host for; and what it writes into a
fresh log is a part of the list without a repeated name. -/
structure InOrder (identifiers : List String) (before after : Context) (marks : List Mark) :
    Prop where
  lookups : (marks.filterMap Mark.name?).Sublist identifiers
  exchanges : ∃ events, after.history = before.history ++ events ∧
    (events.filterMap Event.lookedUp?).Sublist (marks.filterMap Mark.name?)
  logged : before.usage = some [] → before.seen = [] →
    ∃ log, after.usage = some log ∧ log.Nodup ∧ log.Sublist identifiers

theorem Context.Logs.exists_log {before after : Context} {marks : List Mark} {names : List String}
    (hlookups : (marks.filterMap Mark.name?).Sublist names) (hmarks : Mark.OnlyLookups marks)
    (hlogs : before.Logs [.track] → after.Logs (.track :: marks))
    (husage : before.usage = some []) (hseen : before.seen = []) :
    ∃ log, after.usage = some log ∧ log.Nodup ∧ log.Sublist names := by
  have hfresh : before.Logs [.track] := by
    refine ⟨husage, ?_⟩
    intro log hlog name
    rw [husage] at hlog
    cases hlog
    rw [hseen]
  have hafter := (hlogs hfresh).usage
  rw [Mark.log_track_append hmarks] at hafter
  refine ⟨_, hafter, Mark.nodup_firsts _, ?_⟩
  exact (Mark.firsts_sublist _).trans ((Mark.unknown_sublist marks).trans hlookups)

namespace Script

variable {α : Type} {names : List String} {script : Script α}

/-- Evaluated without waiting, a script reaches names in the order of its list. -/
theorem LooksUp.inOrder_runNow (h : script.LooksUp names) (evaluator : Evaluator) :
    InOrder names evaluator.context (script.runNow evaluator).2.context
      (script.marks evaluator.context) := by
  have hlookups : ((script.marks evaluator.context).filterMap Mark.name?).Sublist names := by
    obtain ⟨left, hsub, -⟩ := Evaluator.reaches_advance h evaluator
    exact (List.sublist_append_left _ left).trans hsub
  have hcontext : (script.runNow evaluator).2.context = (script.advance evaluator).2.context := by
    rw [runNow_apply]
    rcases script.advance evaluator with ⟨result | task, after⟩
    · rfl
    · rfl
  refine ⟨hlookups, ?_, ?_⟩
  · obtain ⟨events, hhistory, hsub⟩ := Evaluator.records_advance script evaluator
    rw [hcontext]
    exact ⟨events, hhistory, (List.sublist_append_left _ _).trans hsub⟩
  · exact Context.Logs.exists_log hlookups (script.onlyLookups_marks _)
      (script.logs_runNow evaluator)

/-- Polled any number of times, a script reaches names in the order of its list. -/
theorem LooksUp.inOrder_block (h : script.LooksUp names) (patience : Nat) (evaluator : Evaluator) :
    InOrder names evaluator.context ((Task.running script).block patience evaluator).2.context
      ((Task.running script).marksWithin patience evaluator) := by
  have hrunning : (Task.running script).LooksUp names := h
  have hlookups := Task.sublist_marksWithin patience hrunning evaluator
  refine ⟨hlookups, Task.records_block patience (.running script) evaluator, ?_⟩
  exact Context.Logs.exists_log hlookups (Task.onlyLookups_marksWithin patience _ evaluator)
    (Task.logs_block patience (.running script) evaluator)

end Script

end Guest
