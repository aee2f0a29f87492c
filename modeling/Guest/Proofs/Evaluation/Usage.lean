import Guest.Builtin.Table
import Guest.Proofs.Evaluation.Marks
import Guest.Proofs.Evaluation.Sessions

/-!
# The log of identifiers over a session

A session is any sequence of operations on one context: its source of identifiers is replaced,
functions are set, the log is turned on or taken, and evaluations end, fail or are given up while
they wait.  The log is kept as a list of names and a collection of the names seen.  The invariant
that carries all proofs is that the two hold the same names and that the list is what the marks of
the session tell.
-/

namespace Guest

/-! ## The invariant of the log -/

/-- The log is what the marks tell, and the names that it holds are those that were seen. -/
structure Context.Logs (context : Context) (marks : List Mark) : Prop where
  usage : context.usage = Mark.log marks
  seen : ∀ names, context.usage = some names → ∀ name, name ∈ context.seen ↔ name ∈ names

namespace Context

variable {context : Context} {marks : List Mark} {name : String}

theorem logs_initial : initial.Logs [] := by
  constructor
  · rfl
  · intro names h
    cases h

theorem logs_bare : bare.Logs [] := by
  constructor
  · rfl
  · intro names h
    cases h

theorem logs_track : context.track.Logs (marks ++ [.track]) := by
  constructor
  · exact Mark.log_track.symm
  · intro names h name
    cases h
    rfl

theorem logs_take (h : context.Logs marks) : context.takeUsage.2.Logs (marks ++ [.take]) := by
  constructor
  · rw [Mark.log_take, ← h.usage]
    rfl
  · intro names hnames name
    obtain ⟨_, -, rfl⟩ := Option.map_eq_some_iff.mp hnames
    rfl

/-- A name that is known leaves the log alone. -/
theorem logs_known (h : context.Logs marks) : context.Logs (marks ++ [.lookup name true]) := by
  refine ⟨?_, h.seen⟩
  rw [Mark.log_lookup, h.usage]
  simp

/-- A name that is not known is written into the log unless it was seen, hence unless the log
holds it. -/
theorem logs_note (h : context.Logs marks) :
    (context.note name).Logs (marks ++ [.lookup name false]) := by
  cases husage : context.usage with
  | none =>
      have hlog : Mark.log marks = none := h.usage.symm.trans husage
      have hnote : (context.note name).usage = none := by rw [note, husage]; rfl
      constructor
      · rw [Mark.log_lookup, hlog, hnote]
        rfl
      · intro names hnames
        rw [hnote] at hnames
        cases hnames
  | some names =>
      have hlog : Mark.log marks = some names := h.usage.symm.trans husage
      have hseen := h.seen names husage
      have hnote : (context.note name).usage =
          some (if name ∈ names then names else names ++ [name]) := by
        simp only [note, husage, Option.map_some, List.contains_iff_mem, hseen]
      have hinsert : (context.note name).seen = context.seen.insert name := by
        rw [note, husage]
        rfl
      constructor
      · rw [Mark.log_lookup, hlog, hnote]
        simp
      · intro names' hnames' other
        rw [hnote] at hnames'
        cases hnames'
        rw [hinsert, List.mem_insert_iff, hseen]
        by_cases hname : name ∈ names
        · rw [if_pos hname, or_iff_right_of_imp]
          rintro rfl
          exact hname
        · rw [if_neg hname, List.mem_append, List.mem_singleton]
          exact or_comm

/-- An exchange leaves the log alone. -/
theorem logs_record {event : Event} (h : context.Logs marks) : (context.record event).Logs marks :=
  ⟨h.usage, h.seen⟩

theorem logs_lookup {found : Lookup} {after : Context} (h : context.Logs marks)
    (hlookup : context.lookup name = (found, after)) :
    after.Logs (marks ++ [context.mark name]) := by
  unfold lookup at hlookup
  unfold mark
  cases hvalue : context.value? name with
  | some v =>
      rw [hvalue] at hlookup
      cases hlookup
      exact logs_known h
  | none =>
      rw [hvalue] at hlookup
      cases hlookup
      exact logs_note h

end Context

/-! ## One poll -/

namespace Evaluator

variable {α : Type} {event : Event} {failed : String → EvalError}
  {resume : Value → Evaluator → Poll α × Evaluator} {resumed : Value → Context → List Mark}

/-- A poll that makes the look-ups of some marks keeps the log. -/
def Logged (poll : Evaluator → Poll α × Evaluator) (marked : Context → List Mark) : Prop :=
  ∀ (evaluator : Evaluator) (marks : List Mark), evaluator.context.Logs marks →
    (poll evaluator).2.context.Logs (marks ++ marked evaluator.context)

theorem logged_receive (h : ∀ v, Logged (resume v) (resumed v)) :
    Logged (receive event failed resume) (Context.marksAfter event resumed) := by
  intro evaluator marks hlogs
  unfold receive Context.marksAfter
  cases event.answer with
  | ok v =>
      exact h v { evaluator with context := evaluator.context.record event } marks
        (Context.logs_record hlogs)
  | error message =>
      rw [List.append_nil]
      exact Context.logs_record hlogs

theorem logged_resolve {name : String} {answer : Resolver} (h : ∀ v, Logged (resume v) (resumed v)) :
    Logged (resolve name answer resume) (Context.marksOn name answer resumed (some 0)) := by
  intro evaluator marks hlogs
  exact logged_receive h evaluator marks hlogs

theorem logged_await {name : String} {answer : Resolver} {next : Value → Script α}
    (h : ∀ v, Logged (resume v) (resumed v)) (polls : Option Nat) :
    Logged (await name answer next resume polls) (Context.marksOn name answer resumed polls) := by
  intro evaluator marks hlogs
  rcases polls with _ | _ | polls
  · rw [show Context.marksOn name answer resumed none evaluator.context = [] from rfl,
      List.append_nil]
    exact hlogs
  · exact logged_resolve h { evaluator with suspendedOn := none } marks hlogs
  · rw [show Context.marksOn name answer resumed (some (polls + 1)) evaluator.context = [] from rfl,
      List.append_nil]
    exact hlogs

theorem logged_advance (script : Script α) : Logged script.advance script.marks := by
  induction script with
  | done a =>
      intro evaluator marks hlogs
      rw [show (Script.done a).marks evaluator.context = [] from rfl, List.append_nil]
      exact hlogs
  | nullAccess key =>
      intro evaluator marks hlogs
      rw [show (Script.nullAccess (α := α) key).marks evaluator.context = [] from rfl,
        List.append_nil]
      exact hlogs
  | lookup name next ih =>
      intro evaluator marks hlogs
      simp only [Script.advance, Script.marks]
      rw [List.append_cons]
      rcases hlookup : evaluator.context.lookup name with ⟨found, after⟩
      have hafter := Context.logs_lookup hlogs hlookup
      cases found with
      | bound v => exact ih v { evaluator with context := after } _ hafter
      | now answer => exact logged_resolve ih { evaluator with context := after } _ hafter
      | later resolver => exact logged_await ih _ ⟨after, some name⟩ _ hafter
  | known name next ih =>
      intro evaluator marks hlogs
      exact ih _ evaluator marks hlogs
  | call name args next ih =>
      intro evaluator marks hlogs
      simp only [Script.advance, Script.marks]
      cases evaluator.context.functions.find? name with
      | none => exact ih .null evaluator marks hlogs
      | some f => exact logged_receive ih evaluator marks hlogs

theorem logged_poll (task : Task α) : Logged task.poll task.marks := by
  cases task with
  | running script => exact logged_advance script
  | awaiting name answer polls next => exact logged_await (fun v => logged_advance (next v)) polls

end Evaluator

/-! ## Whole evaluations -/

namespace Task

variable {α : Type} {marks : List Mark}

theorem logs_block (patience : Nat) (task : Task α) (evaluator : Evaluator)
    (h : evaluator.context.Logs marks) :
    (task.block patience evaluator).2.context.Logs
      (marks ++ task.marksWithin patience evaluator) := by
  induction patience generalizing task evaluator marks with
  | zero =>
      have hpoll := Evaluator.logged_poll task evaluator marks h
      unfold block marksWithin
      rcases htask : task.poll evaluator with ⟨result | waiting, after⟩
      · rw [htask] at hpoll
        simpa using hpoll
      · rw [htask] at hpoll
        simpa using hpoll
  | succ patience ih =>
      have hpoll := Evaluator.logged_poll task evaluator marks h
      unfold block marksWithin
      rcases htask : task.poll evaluator with ⟨result | waiting, after⟩
      · rw [htask] at hpoll
        simpa using hpoll
      · rw [htask] at hpoll
        rw [← List.append_assoc]
        exact ih waiting after hpoll

end Task

namespace Script

variable {α : Type} {marks : List Mark}

theorem logs_runNow (script : Script α) (evaluator : Evaluator)
    (h : evaluator.context.Logs marks) :
    (script.runNow evaluator).2.context.Logs (marks ++ script.marks evaluator.context) := by
  have hadvance := Evaluator.logged_advance script evaluator marks h
  rw [runNow_apply]
  rcases hscript : script.advance evaluator with ⟨result | waiting, after⟩
  · rw [hscript] at hadvance
    exact hadvance
  · rw [hscript] at hadvance
    exact hadvance

end Script

/-! ## Sessions -/

/-- An evaluation over a context.  Expressions and unions are evaluated by an evaluator, which may
have been suspended before. -/
inductive Evaluation where
  | expr (e : Expr) (suspendedOn : Option String)
  | types (union : TypeUnion) (suspendedOn : Option String)
  | text (template : Template)
  | messages (lines : List Line)

namespace Evaluation

/-- The context behind an evaluation without waiting. -/
def now : Evaluation → Context → Context
  | expr e suspendedOn, context => (e.evaluate ⟨context, suspendedOn⟩).2.context
  | types union suspendedOn, context => (union.evaluate ⟨context, suspendedOn⟩).2.context
  | text template, context => (template.render context).2
  | messages lines, context => (Line.renderAll lines context).2

/-- The context behind an evaluation that is polled, and given up if it is found waiting more than
`patience` times. -/
def within (patience : Nat) : Evaluation → Context → Context
  | expr e suspendedOn, context =>
    ((Task.running e.script).block patience ⟨context, suspendedOn⟩).2.context
  | types union suspendedOn, context =>
    ((Task.running union.script).block patience ⟨context, suspendedOn⟩).2.context
  | text template, context =>
    ((Task.running template.script).block patience (.new context)).2.context
  | messages lines, context =>
    ((Task.running (Line.scripts lines)).block patience (.new context)).2.context

/-- The look-ups of an evaluation without waiting. -/
def marks : Evaluation → Context → List Mark
  | expr e _, context => e.script.marks context
  | types union _, context => union.script.marks context
  | text template, context => template.script.marks context
  | messages lines, context => (Line.scripts lines).marks context

/-- The look-ups of an evaluation that is polled. -/
def marksWithin (patience : Nat) : Evaluation → Context → List Mark
  | expr e suspendedOn, context =>
    (Task.running e.script).marksWithin patience ⟨context, suspendedOn⟩
  | types union suspendedOn, context =>
    (Task.running union.script).marksWithin patience ⟨context, suspendedOn⟩
  | text template, context => (Task.running template.script).marksWithin patience (.new context)
  | messages lines, context =>
    (Task.running (Line.scripts lines)).marksWithin patience (.new context)

/-- The identifier at which an evaluation without waiting fails or is suspended. -/
def stoppedAt? : Evaluation → Context → Option String
  | expr e suspendedOn, context => EvalError.stoppedAt? (e.evaluate ⟨context, suspendedOn⟩).1
  | types union suspendedOn, context =>
    EvalError.stoppedAt? (union.evaluate ⟨context, suspendedOn⟩).1
  | text template, context => EvalError.stoppedAt? (template.render context).1
  | messages lines, context => EvalError.stoppedAt? (Line.renderAll lines context).1

/-- The identifier at which an evaluation that is polled fails or is given up. -/
def stoppedWithin? (patience : Nat) : Evaluation → Context → Option String
  | expr e suspendedOn, context =>
    Task.stoppedAt? ((Task.running e.script).block patience ⟨context, suspendedOn⟩)
  | types union suspendedOn, context =>
    Task.stoppedAt? ((Task.running union.script).block patience ⟨context, suspendedOn⟩)
  | text template, context =>
    Task.stoppedAt? ((Task.running template.script).block patience (.new context))
  | messages lines, context =>
    Task.stoppedAt? ((Task.running (Line.scripts lines)).block patience (.new context))

variable {context : Context} {marked : List Mark}

theorem logs_now (evaluation : Evaluation) (h : context.Logs marked) :
    (evaluation.now context).Logs (marked ++ evaluation.marks context) := by
  cases evaluation with
  | expr e suspendedOn => exact e.script.logs_runNow ⟨context, suspendedOn⟩ h
  | types union suspendedOn => exact union.script.logs_runNow ⟨context, suspendedOn⟩ h
  | text template =>
      rw [now, Template.render_eq_runNow]
      exact template.script.logs_runNow (.new context) h
  | messages lines =>
      rw [now, Line.renderAll_eq_runNow]
      exact (Line.scripts lines).logs_runNow (.new context) h

theorem logs_within (patience : Nat) (evaluation : Evaluation) (h : context.Logs marked) :
    (evaluation.within patience context).Logs
      (marked ++ evaluation.marksWithin patience context) := by
  cases evaluation with
  | expr e suspendedOn => exact Task.logs_block patience _ ⟨context, suspendedOn⟩ h
  | types union suspendedOn => exact Task.logs_block patience _ ⟨context, suspendedOn⟩ h
  | text template => exact Task.logs_block patience _ (.new context) h
  | messages lines => exact Task.logs_block patience _ (.new context) h

theorem onlyLookups_marks (evaluation : Evaluation) :
    Mark.OnlyLookups (evaluation.marks context) := by
  cases evaluation with
  | expr e suspendedOn => exact e.script.onlyLookups_marks context
  | types union suspendedOn => exact union.script.onlyLookups_marks context
  | text template => exact template.script.onlyLookups_marks context
  | messages lines => exact (Line.scripts lines).onlyLookups_marks context

theorem onlyLookups_marksWithin (patience : Nat) (evaluation : Evaluation) :
    Mark.OnlyLookups (evaluation.marksWithin patience context) := by
  cases evaluation with
  | expr e suspendedOn => exact Task.onlyLookups_marksWithin patience _ _
  | types union suspendedOn => exact Task.onlyLookups_marksWithin patience _ _
  | text template => exact Task.onlyLookups_marksWithin patience _ _
  | messages lines => exact Task.onlyLookups_marksWithin patience _ _

theorem lookup_mem_marks (evaluation : Evaluation) {stop : String}
    (hstop : evaluation.stoppedAt? context = some stop) :
    .lookup stop false ∈ evaluation.marks context := by
  cases evaluation with
  | expr e suspendedOn => exact e.script.lookup_mem_marks ⟨context, suspendedOn⟩ hstop
  | types union suspendedOn => exact union.script.lookup_mem_marks ⟨context, suspendedOn⟩ hstop
  | text template =>
      rw [stoppedAt?, Template.render_eq_runNow] at hstop
      exact template.script.lookup_mem_marks (.new context) hstop
  | messages lines =>
      rw [stoppedAt?, Line.renderAll_eq_runNow] at hstop
      exact (Line.scripts lines).lookup_mem_marks (.new context) hstop

theorem lookup_mem_marksWithin (patience : Nat) (evaluation : Evaluation) {stop : String}
    (hstop : evaluation.stoppedWithin? patience context = some stop) :
    .lookup stop false ∈ evaluation.marksWithin patience context := by
  cases evaluation with
  | expr e suspendedOn =>
      exact Task.lookup_mem_marksWithin patience e.script ⟨context, suspendedOn⟩ hstop
  | types union suspendedOn =>
      exact Task.lookup_mem_marksWithin patience union.script ⟨context, suspendedOn⟩ hstop
  | text template =>
      exact Task.lookup_mem_marksWithin patience template.script (.new context) hstop
  | messages lines =>
      exact Task.lookup_mem_marksWithin patience (Line.scripts lines) (.new context) hstop

end Evaluation

/-- An operation on a context. -/
inductive Operation where
  | withIdentifiers (identifiers : Identifiers)
  | withFunction (name : String) (f : HostFunction)
  | track
  | take
  /-- An evaluation without waiting. -/
  | evaluate (evaluation : Evaluation)
  /-- An evaluation that is polled, and given up if it waits for too long. -/
  | poll (patience : Nat) (evaluation : Evaluation)

namespace Operation

/-- The context behind an operation. -/
def apply : Operation → Context → Context
  | withIdentifiers identifiers, context => context.withIdentifiers identifiers
  | withFunction name f, context => context.withFunction name f
  | track, context => context.track
  | take, context => context.takeUsage.2
  | evaluate evaluation, context => evaluation.now context
  | poll patience evaluation, context => evaluation.within patience context

/-- The identifier at which an operation fails or is left waiting. -/
def stoppedAt? : Operation → Context → Option String
  | evaluate evaluation, context => evaluation.stoppedAt? context
  | poll patience evaluation, context => evaluation.stoppedWithin? patience context
  | _, _ => none

/-- The marks of an operation. -/
def marks : Operation → Context → List Mark
  | withIdentifiers _, _ => []
  | withFunction _ _, _ => []
  | track, _ => [.track]
  | take, _ => [.take]
  | evaluate evaluation, context => evaluation.marks context
  | poll patience evaluation, context => evaluation.marksWithin patience context

/-- The context behind operations. -/
def applyAll (ops : List Operation) (context : Context) : Context :=
  ops.foldl (fun context op => op.apply context) context

/-- The marks of operations in order. -/
def marksOf : List Operation → Context → List Mark
  | [], _ => []
  | op :: ops, context => op.marks context ++ marksOf ops (op.apply context)

variable {context : Context} {marked : List Mark}

theorem logs_apply (op : Operation) (h : context.Logs marked) :
    (op.apply context).Logs (marked ++ op.marks context) := by
  cases op with
  | withIdentifiers identifiers =>
      rw [marks, List.append_nil]
      exact ⟨h.usage, h.seen⟩
  | withFunction name f =>
      rw [marks, List.append_nil]
      exact ⟨h.usage, h.seen⟩
  | track => exact Context.logs_track
  | take => exact Context.logs_take h
  | evaluate evaluation => exact evaluation.logs_now h
  | poll patience evaluation => exact evaluation.logs_within patience h

theorem logs_applyAll (ops : List Operation) (h : context.Logs marked) :
    (applyAll ops context).Logs (marked ++ marksOf ops context) := by
  induction ops generalizing context marked with
  | nil =>
      rw [marksOf, List.append_nil]
      exact h
  | cons op ops ih =>
      rw [marksOf, ← List.append_assoc]
      exact ih (logs_apply op h)

theorem onlyLookups_marks (op : Operation) {name : String}
    (hname : .lookup name false ∈ op.marks context) : Mark.OnlyLookups (op.marks context) := by
  cases op with
  | withIdentifiers identifiers => exact Mark.onlyLookups_nil
  | withFunction name f => exact Mark.onlyLookups_nil
  | track => simp [marks] at hname
  | take => simp [marks] at hname
  | evaluate evaluation => exact evaluation.onlyLookups_marks
  | poll patience evaluation => exact evaluation.onlyLookups_marksWithin patience

theorem track_mem_marks (op : Operation) : .track ∈ op.marks context ↔ op = .track := by
  cases op with
  | withIdentifiers identifiers => simp [marks]
  | withFunction name f => simp [marks]
  | track => simp [marks]
  | take => simp [marks]
  | evaluate evaluation =>
      refine ⟨fun h => ?_, fun h => by cases h⟩
      cases evaluation.onlyLookups_marks _ h
  | poll patience evaluation =>
      refine ⟨fun h => ?_, fun h => by cases h⟩
      cases evaluation.onlyLookups_marksWithin patience _ h

theorem track_mem_marksOf (ops : List Operation) : .track ∈ marksOf ops context ↔ .track ∈ ops := by
  induction ops generalizing context with
  | nil => simp [marksOf]
  | cons op ops ih => rw [marksOf, List.mem_append, track_mem_marks, ih, List.mem_cons, eq_comm]

theorem lookup_mem_marks (op : Operation) {stop : String}
    (hstop : op.stoppedAt? context = some stop) : .lookup stop false ∈ op.marks context := by
  cases op with
  | evaluate evaluation => exact evaluation.lookup_mem_marks hstop
  | poll patience evaluation => exact evaluation.lookup_mem_marksWithin patience hstop
  | _ => cases hstop

/-- Over every session that starts from a context with the built-ins or without them the log is what
the marks of the session tell: there is none exactly as long as it was not turned on, and it holds
the unknown names that were looked up since it was last emptied, by first look-up and each once.
Taking the log gives this list and leaves an empty one.  Where an operation fails or is left waiting
at an identifier, the log holds its name. -/
theorem usage_eq_log (builtins : Bool) (ops : List Operation) :
    let start := if builtins then Context.initial else Context.bare
    let context := applyAll ops start
    let expected := Mark.log (marksOf ops start)
    context.usage = expected ∧
      (context.usage = none ↔ .track ∉ ops) ∧
      context.takeUsage.1 = expected ∧
      context.takeUsage.2.usage = expected.map (fun _ => []) ∧
      ∀ (op : Operation) (stop : String), op.stoppedAt? context = some stop →
        ∀ names, (op.apply context).usage = some names → stop ∈ names := by
  intro start context expected
  have hstart : start.Logs [] := by
    cases builtins with
    | true => exact Context.logs_initial
    | false => exact Context.logs_bare
  have hlogs : context.Logs (marksOf ops start) := logs_applyAll ops hstart
  refine ⟨hlogs.usage, ?_, hlogs.usage, ?_, ?_⟩
  · rw [hlogs.usage, Mark.log_eq_none, track_mem_marksOf]
  · exact congrArg (Option.map fun _ => []) hlogs.usage
  · intro op stop hstop names hnames
    have hmem := op.lookup_mem_marks hstop
    rw [(logs_apply op hlogs).usage] at hnames
    exact Mark.mem_log (op.onlyLookups_marks hmem) hmem hnames

end Operation
end Guest
