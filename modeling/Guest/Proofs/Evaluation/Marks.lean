import Guest.Proofs.Evaluation.Run
import Mathlib.Data.List.DropRight
import Mathlib.Data.List.Dedup

/-!
# The look-ups of evaluations

What happens to the log of a context is written down as marks, apart from the log: that it is turned
on or taken, and each look-up with what is known of the name at that moment.  The marks tell what
the log has to be.  An evaluation marks the name of every identifier that it reaches, also of the
one at which it fails or is left waiting.
-/

namespace Guest

/-- What happens in a session and matters to its log. -/
inductive Mark where
  | track
  | take
  /-- A name is looked up, which at this moment is known, as a binding or a constant, or is not. -/
  | lookup (name : String) (known : Bool)
  deriving DecidableEq

namespace Mark

/-- Tells the marks behind which the log is empty. -/
def empties : Mark → Bool
  | lookup .. => false
  | _ => true

/-- The name that was looked up without being known. -/
def unknown? : Mark → Option String
  | lookup name false => some name
  | _ => none

/-- The marks behind the last one that empties the log. -/
def recent (marks : List Mark) : List Mark := marks.rtakeWhile fun mark => !mark.empties

/-- Names in the order in which they first come, each once. -/
def firsts (names : List String) : List String := names.reverse.dedup.reverse

/-- What the log of a session has to be: nothing before it is turned on, and otherwise the unknown
names that were looked up since it was last emptied. -/
def log (marks : List Mark) : Option (List String) :=
  if track ∈ marks then some (firsts ((recent marks).filterMap unknown?)) else none

example :
    log [.lookup "x" false, .track, .lookup "b" false, .lookup "a" false, .lookup "c" true,
      .lookup "b" false] = some ["b", "a"] := by decide

variable {marks : List Mark} {name : String} {names : List String}

theorem mem_firsts : name ∈ firsts names ↔ name ∈ names := by
  simp [firsts]

theorem firsts_concat_of_mem (h : name ∈ names) : firsts (names ++ [name]) = firsts names := by
  have hreverse : name ∈ names.reverse := List.mem_reverse.mpr h
  rw [firsts, List.reverse_concat, List.dedup_cons_of_mem hreverse, firsts]

theorem firsts_concat_of_not_mem (h : name ∉ names) :
    firsts (names ++ [name]) = firsts names ++ [name] := by
  have hreverse : name ∉ names.reverse := mt List.mem_reverse.mp h
  rw [firsts, List.reverse_concat, List.dedup_cons_of_notMem hreverse, List.reverse_cons, firsts]

theorem log_eq_none : log marks = none ↔ track ∉ marks := by
  unfold log
  by_cases htrack : track ∈ marks
  · simp [htrack]
  · simp [htrack]

theorem log_track : log (marks ++ [track]) = some [] := by
  have hrecent : recent (marks ++ [track]) = [] := List.rtakeWhile_concat_neg _ _ _ (by decide)
  rw [log, hrecent, if_pos (by simp)]
  rfl

theorem log_take : log (marks ++ [take]) = (log marks).map fun _ => [] := by
  have hrecent : recent (marks ++ [take]) = [] := List.rtakeWhile_concat_neg _ _ _ (by decide)
  have hmem : track ∈ marks ++ [take] ↔ track ∈ marks := by simp
  rw [log, hrecent, log]
  by_cases htrack : track ∈ marks
  · rw [if_pos (hmem.mpr htrack), if_pos htrack]
    rfl
  · rw [if_neg (mt hmem.mp htrack), if_neg htrack]
    rfl

theorem log_lookup {known : Bool} : log (marks ++ [lookup name known]) =
    (log marks).map fun names => if known ∨ name ∈ names then names else names ++ [name] := by
  have hrecent : recent (marks ++ [lookup name known]) = recent marks ++ [lookup name known] :=
    List.rtakeWhile_concat_pos _ _ _ rfl
  have hmem : track ∈ marks ++ [lookup name known] ↔ track ∈ marks := by simp
  rw [log, hrecent, log, List.filterMap_append]
  by_cases htrack : track ∈ marks
  · rw [if_pos (hmem.mpr htrack), if_pos htrack, Option.map_some]
    cases known with
    | true => simp only [true_or, if_true, List.filterMap_cons, unknown?, List.filterMap_nil,
        List.append_nil]
    | false =>
        have hnew : [lookup name false].filterMap unknown? = [name] := rfl
        rw [hnew]
        by_cases hname : name ∈ (recent marks).filterMap unknown?
        · rw [firsts_concat_of_mem hname, if_pos (.inr (mem_firsts.mpr hname))]
        · rw [firsts_concat_of_not_mem hname, if_neg (by simpa [mem_firsts] using hname)]
  · rw [if_neg (mt hmem.mp htrack), if_neg htrack]
    rfl

end Mark

/-! ## The look-ups of an evaluation -/

namespace Context

/-- The mark of a look-up in a context. -/
def mark (context : Context) (name : String) : Mark :=
  .lookup name (context.value? name).isSome

/-- The marks behind an exchange; a failure of the host ends the evaluation. -/
def marksAfter (event : Event) (resume : Value → Context → List Mark) (context : Context) :
    List Mark :=
  match event.answer with
  | .ok v => resume v (context.record event)
  | .error _ => []

/-- The marks behind a poll of a resolver, of which there are none as long as it is waited for. -/
def marksOn (name : String) (answer : Resolver) (resume : Value → Context → List Mark) :
    Option Nat → Context → List Mark
  | some 0, context => context.marksAfter (.lookup name (answer context.history name)) resume
  | _, _ => []

end Context

namespace Script

/-- The look-ups of a poll in order, with the one that fails or has to be waited for. -/
def marks {α : Type} : Script α → Context → List Mark
  | done _, _ => []
  | nullAccess _, _ => []
  | lookup name next, context =>
    context.mark name ::
      match context.lookup name with
      | (.bound v, context) => (next v).marks context
      | (.now answer, context) =>
        Context.marksOn name answer (fun v => (next v).marks) (some 0) context
      | (.later resolver, context) =>
        Context.marksOn name resolver.answer (fun v => (next v).marks)
          (resolver.delay context.history name) context
  | known name next, context => (next (context.functions.find? name).isSome).marks context
  | call name args next, context =>
    match context.functions.find? name with
    | none => (next .null).marks context
    | some f =>
      context.marksAfter (.call name args (f context.history args)) fun v => (next v).marks

end Script

namespace Task

variable {α : Type}

/-- The look-ups of one poll. -/
def marks : Task α → Context → List Mark
  | running script, context => script.marks context
  | awaiting name answer polls next, context =>
    Context.marksOn name answer (fun v => (next v).marks) polls context

/-- The look-ups of an evaluation that is polled until it has ended, or given up. -/
def marksWithin (patience : Nat) (task : Task α) (evaluator : Evaluator) : List Mark :=
  task.marks evaluator.context ++
    match task.poll evaluator with
    | (.ready _, _) => []
    | (.pending task, evaluator) =>
      match patience with
      | 0 => []
      | patience + 1 => marksWithin patience task evaluator

end Task

/-! ## What is marked -/

namespace Mark

/-- Only look-ups are marked. -/
def OnlyLookups (marks : List Mark) : Prop := ∀ mark ∈ marks, mark.empties = false

variable {marks more : List Mark} {name : String}

theorem onlyLookups_nil : OnlyLookups [] := fun _ h => nomatch h

theorem onlyLookups_append (h : OnlyLookups marks) (hmore : OnlyLookups more) :
    OnlyLookups (marks ++ more) :=
  List.forall_mem_append.mpr ⟨h, hmore⟩

theorem recent_append (h : OnlyLookups more) : recent (marks ++ more) = recent marks ++ more := by
  induction more using List.reverseRecOn with
  | nil => rw [List.append_nil, List.append_nil]
  | append_singleton more mark ih =>
      have hmore : OnlyLookups more := fun other hother => h other (List.mem_append_left _ hother)
      have hmark : mark.empties = false := h mark (by simp)
      have hconcat : recent (marks ++ more ++ [mark]) = recent (marks ++ more) ++ [mark] :=
        List.rtakeWhile_concat_pos _ _ _ (by simp [hmark])
      rw [← List.append_assoc, hconcat, ih hmore, List.append_assoc]

/-- A name that was looked up last without being known is in the log. -/
theorem mem_log {names : List String} (hmore : OnlyLookups more) (hname : lookup name false ∈ more)
    (h : log (marks ++ more) = some names) : name ∈ names := by
  unfold log at h
  split at h
  · cases h
    rw [mem_firsts, recent_append hmore, List.mem_filterMap]
    exact ⟨_, List.mem_append_right _ hname, rfl⟩
  · cases h

end Mark

namespace Context

variable {context : Context} {event : Event} {name : String} {answer : Resolver}
  {resume : Value → Context → List Mark}

theorem onlyLookups_marksAfter (h : ∀ v context, Mark.OnlyLookups (resume v context)) :
    Mark.OnlyLookups (context.marksAfter event resume) := by
  unfold marksAfter
  cases event.answer with
  | ok v => exact h v _
  | error message => exact Mark.onlyLookups_nil

theorem onlyLookups_marksOn (h : ∀ v context, Mark.OnlyLookups (resume v context))
    (polls : Option Nat) : Mark.OnlyLookups (context.marksOn name answer resume polls) := by
  rcases polls with _ | _ | polls
  · exact Mark.onlyLookups_nil
  · exact onlyLookups_marksAfter h
  · exact Mark.onlyLookups_nil

end Context

namespace Script

variable {α : Type}

theorem onlyLookups_marks (script : Script α) (context : Context) :
    Mark.OnlyLookups (script.marks context) := by
  induction script generalizing context with
  | done a => exact Mark.onlyLookups_nil
  | nullAccess key => exact Mark.onlyLookups_nil
  | lookup name next ih =>
      unfold marks
      rw [← List.singleton_append]
      apply Mark.onlyLookups_append
      · intro mark hmark
        rw [List.mem_singleton.mp hmark]
        rfl
      · rcases context.lookup name with ⟨found, after⟩
        cases found with
        | bound v => exact ih v after
        | now answer => exact Context.onlyLookups_marksOn ih _
        | later resolver => exact Context.onlyLookups_marksOn ih _
  | known name next ih => exact ih _ context
  | call name args next ih =>
      unfold marks
      cases context.functions.find? name with
      | none => exact ih .null context
      | some f => exact Context.onlyLookups_marksAfter ih

end Script

namespace Task

variable {α : Type}

theorem onlyLookups_marks (task : Task α) (context : Context) :
    Mark.OnlyLookups (task.marks context) := by
  cases task with
  | running script => exact script.onlyLookups_marks context
  | awaiting name answer polls next =>
      exact Context.onlyLookups_marksOn (fun v => (next v).onlyLookups_marks) polls

theorem onlyLookups_marksWithin (patience : Nat) (task : Task α) (evaluator : Evaluator) :
    Mark.OnlyLookups (task.marksWithin patience evaluator) := by
  induction patience generalizing task evaluator with
  | zero =>
      unfold marksWithin
      apply Mark.onlyLookups_append (task.onlyLookups_marks _)
      rcases task.poll evaluator with ⟨result | waiting, after⟩
      · exact Mark.onlyLookups_nil
      · exact Mark.onlyLookups_nil
  | succ patience ih =>
      unfold marksWithin
      apply Mark.onlyLookups_append (task.onlyLookups_marks _)
      rcases task.poll evaluator with ⟨result | waiting, after⟩
      · exact Mark.onlyLookups_nil
      · exact ih waiting after

end Task

namespace Context

variable {context after : Context} {name : String}

/-- A name that is left to the source of identifiers is not known. -/
theorem mark_of_lookup {found : Lookup} (h : context.lookup name = (found, after))
    (hfound : ∀ v, found ≠ .bound v) : context.mark name = .lookup name false := by
  unfold lookup at h
  unfold mark
  cases hvalue : context.value? name with
  | some v =>
      rw [hvalue] at h
      cases h
      exact absurd rfl (hfound v)
  | none => rfl

end Context

/-! ## Where an evaluation stops -/

namespace EvalError

/-- The identifier at which an evaluation failed or was left waiting. -/
def identifier? : EvalError → Option String
  | resolver name _ => some name
  | suspended name => some name
  | _ => none

/-- The identifier at which a result tells that an evaluation stopped. -/
def stoppedAt? {α : Type} : Except EvalError α → Option String
  | .ok _ => none
  | .error error => error.identifier?

end EvalError

namespace Task

variable {α : Type}

/-- If a task waits for a name, its evaluator is suspended on the name, which is marked. -/
def Waits (marked : List Mark) (evaluator : Evaluator) : Task α → Prop
  | running _ => True
  | awaiting name _ _ _ => evaluator.suspendedOn = some name ∧ .lookup name false ∈ marked

end Task

namespace Evaluator

variable {α : Type}

/-- The identifier at which a poll fails is marked, and so is the one for which it has to wait. -/
def Accounted (marked : List Mark) : Poll α × Evaluator → Prop
  | (.ready (.ok _), _) => True
  | (.ready (.error error), _) =>
    ∀ name, error.identifier? = some name → .lookup name false ∈ marked
  | (.pending task, evaluator) =>
    task.Waits marked evaluator ∧
      ∃ name, evaluator.suspendedOn = some name ∧ .lookup name false ∈ marked

variable {marked more : List Mark} {evaluator : Evaluator} {event : Event} {name : String}
  {failed : String → EvalError} {resume : Value → Evaluator → Poll α × Evaluator}
  {resumed : Value → Context → List Mark}

theorem accounted_mono {poll : Poll α × Evaluator} (h : Accounted more poll)
    (hsub : more ⊆ marked) : Accounted marked poll := by
  rcases poll with ⟨(error | a) | task, evaluator⟩
  · exact fun name hname => hsub (h name hname)
  · trivial
  · obtain ⟨hwaits, name, hsuspended, hname⟩ := h
    refine ⟨?_, name, hsuspended, hsub hname⟩
    cases task with
    | running script => trivial
    | awaiting name answer polls next => exact ⟨hwaits.1, hsub hwaits.2⟩

/-- A poll that has to wait for a name. -/
theorem accounted_awaiting {answer : Resolver} {polls : Option Nat} {next : Value → Script α}
    (hname : .lookup name false ∈ marked) (hsuspended : evaluator.suspendedOn = some name) :
    Accounted marked (.pending (.awaiting name answer polls next), evaluator) :=
  ⟨⟨hsuspended, hname⟩, name, hsuspended, hname⟩

theorem accounted_receive
    (h : ∀ v evaluator, Accounted (resumed v evaluator.context) (resume v evaluator))
    (hfailed : ∀ message name,
      (failed message).identifier? = some name → .lookup name false ∈ marked) :
    Accounted (marked ++ evaluator.context.marksAfter event resumed)
      (evaluator.receive event failed resume) := by
  unfold receive Context.marksAfter
  cases event.answer with
  | ok v => exact accounted_mono (h v _) (List.subset_append_right _ _)
  | error message => exact fun name hname => List.mem_append_left _ (hfailed message name hname)

theorem accounted_resolve {answer : Resolver}
    (h : ∀ v evaluator, Accounted (resumed v evaluator.context) (resume v evaluator))
    (hname : .lookup name false ∈ marked) :
    Accounted (marked ++ evaluator.context.marksOn name answer resumed (some 0))
      (evaluator.resolve name answer resume) := by
  apply accounted_receive h
  intro message other hother
  obtain rfl := Option.some.inj hother
  exact hname

theorem accounted_await {answer : Resolver} {next : Value → Script α}
    (h : ∀ v evaluator, Accounted (resumed v evaluator.context) (resume v evaluator))
    (hname : .lookup name false ∈ marked) (hsuspended : evaluator.suspendedOn = some name)
    (polls : Option Nat) :
    Accounted (marked ++ evaluator.context.marksOn name answer resumed polls)
      (evaluator.await name answer next resume polls) := by
  rcases polls with _ | _ | polls
  · exact accounted_awaiting (List.mem_append_left _ hname) hsuspended
  · have hresolve : Accounted
        (marked ++ evaluator.context.marksOn name answer resumed (some 0))
        (resolve name answer resume { evaluator with suspendedOn := none }) :=
      accounted_resolve h hname
    exact hresolve
  · exact accounted_awaiting (List.mem_append_left _ hname) hsuspended

end Evaluator

namespace Script

open Evaluator

variable {α : Type}

theorem accounted_advance (script : Script α) (evaluator : Evaluator) :
    Accounted (script.marks evaluator.context) (script.advance evaluator) := by
  induction script generalizing evaluator with
  | done a => trivial
  | nullAccess key =>
      intro name hname
      cases hname
  | lookup name next ih =>
      unfold marks
      simp only [advance]
      rw [← List.singleton_append]
      rcases hlookup : evaluator.context.lookup name with ⟨found, after⟩
      have hmark : (∀ v, found ≠ .bound v) →
          .lookup name false ∈ [evaluator.context.mark name] := by
        intro hfound
        rw [Context.mark_of_lookup hlookup hfound]
        exact List.mem_singleton_self _
      cases found with
      | bound v => exact accounted_mono (ih v _) (List.subset_append_right _ _)
      | now answer => exact accounted_resolve ih (hmark (by simp))
      | later resolver => exact accounted_await ih (hmark (by simp)) rfl _
  | known name next ih => exact ih _ evaluator
  | call name args next ih =>
      unfold marks
      simp only [advance]
      cases evaluator.context.functions.find? name with
      | none => exact ih .null evaluator
      | some f =>
          dsimp only
          rw [← List.nil_append (Context.marksAfter _ _ _)]
          apply accounted_receive ih
          intro message other hother
          cases hother

/-- The identifier at which an evaluation without waiting stops is marked. -/
theorem lookup_mem_marks (script : Script α) (evaluator : Evaluator) {stop : String}
    (hstop : EvalError.stoppedAt? (script.runNow evaluator).1 = some stop) :
    .lookup stop false ∈ script.marks evaluator.context := by
  have hadvance := script.accounted_advance evaluator
  change EvalError.stoppedAt? (giveUp (script.advance evaluator)).1 = some stop at hstop
  rcases hscript : script.advance evaluator with ⟨(error | a) | waiting, after⟩
  · rw [hscript] at hadvance hstop
    exact hadvance stop hstop
  · rw [hscript] at hstop
    cases hstop
  · rw [hscript] at hadvance hstop
    obtain ⟨name, hsuspended, hname⟩ := hadvance.2
    have hsame : after.suspendedOn.getD "" = stop := Option.some.inj hstop
    rw [hsuspended, Option.getD_some] at hsame
    rw [← hsame]
    exact hname

end Script

/-! ## Evaluations that are polled -/

namespace Task

open Evaluator

variable {α : Type} {marked : List Mark}

theorem accounted_poll (task : Task α) {evaluator : Evaluator}
    (hwaits : task.Waits marked evaluator) :
    Accounted (marked ++ task.marks evaluator.context) (task.poll evaluator) := by
  cases task with
  | running script =>
      exact accounted_mono (script.accounted_advance evaluator) (List.subset_append_right _ _)
  | awaiting name answer polls next =>
      exact accounted_await (fun v => (next v).accounted_advance) hwaits.2 hwaits.1 polls

/-- The identifier at which an evaluation failed, or for which it waits when it is given up. -/
def stoppedAt? : Option (Except EvalError α) × Evaluator → Option String
  | (some result, _) => EvalError.stoppedAt? result
  | (none, evaluator) => evaluator.suspendedOn

/-- The identifier at which a task stops was marked before or is marked by a poll of it. -/
theorem lookup_mem_append (patience : Nat) (task : Task α) (evaluator : Evaluator)
    {stop : String} (hwaits : task.Waits marked evaluator)
    (hstop : stoppedAt? (task.block patience evaluator) = some stop) :
    .lookup stop false ∈ marked ++ task.marksWithin patience evaluator := by
  induction patience generalizing task evaluator marked with
  | zero =>
      have hpoll := task.accounted_poll hwaits
      unfold block at hstop
      unfold marksWithin
      rcases htask : task.poll evaluator with ⟨(error | a) | waiting, after⟩
      · rw [htask] at hpoll hstop
        simpa using hpoll stop hstop
      · rw [htask] at hstop
        cases hstop
      · rw [htask] at hpoll hstop
        obtain ⟨name, hsuspended, hname⟩ := hpoll.2
        obtain rfl := Option.some.inj (hsuspended.symm.trans hstop)
        simpa using hname
  | succ patience ih =>
      have hpoll := task.accounted_poll hwaits
      unfold block at hstop
      unfold marksWithin
      rcases htask : task.poll evaluator with ⟨(error | a) | waiting, after⟩
      · rw [htask] at hpoll hstop
        simpa using hpoll stop hstop
      · rw [htask] at hstop
        cases hstop
      · rw [htask] at hpoll hstop
        rw [← List.append_assoc]
        exact ih waiting after hpoll.1 hstop

/-- The identifier at which an evaluation stops is marked, however often it is polled. -/
theorem lookup_mem_marksWithin (patience : Nat) (script : Script α) (evaluator : Evaluator)
    {stop : String} (hstop : stoppedAt? ((running script).block patience evaluator) = some stop) :
    .lookup stop false ∈ (running script).marksWithin patience evaluator := by
  have hwaits : (running script).Waits [] evaluator := trivial
  exact lookup_mem_append patience (running script) evaluator hwaits hstop

end Task
end Guest
