import Guest.Context
import Guest.Expr.Parser
import Guest.Expr.Script

/-!
# Evaluation

An evaluation ends with the first failure of the host.  It stops only where a resolver has to be
waited for, and goes on from there when it is polled again.  Without waiting it is polled once.
-/

namespace Guest

/-- Why an evaluation fails. -/
inductive EvalError where
  | resolver (name message : String)
  | nullAccess (key : String)
  | function (name message : String)
  /-- A synchronous evaluation would have to wait for an identifier. -/
  | suspended (name : String)
  deriving DecidableEq, Repr

namespace EvalError

/-- The error in words. -/
def message : EvalError → String
  | resolver name message => s!"failed to resolve identifier '{name}': {message}"
  | nullAccess key => s!"access error: cannot read property '{key}' of null"
  | function name message => s!"function '{name}' failed: {message}"
  | suspended name =>
    s!"identifier '{name}' is resolved asynchronously; use evaluate_async"

end EvalError

/-- An evaluator. -/
structure Evaluator where
  context : Context
  /-- The name for which an evaluation waits, or waited when it was given up. -/
  suspendedOn : Option String

/-- An evaluation that has not ended. -/
inductive Task (α : Type) where
  | running (script : Script α)
  /-- It waits for a resolver, for which a number of further polls is in vain; without a number
  all of them are. -/
  | awaiting (name : String) (answer : Resolver) (polls : Option Nat) (next : Value → Script α)

/-- What a poll finds. -/
inductive Poll (α : Type) where
  | ready (result : Except EvalError α)
  | pending (task : Task α)

/-- A computation that changes a state, also where it fails. -/
abbrev Session (σ : Type) := ExceptT EvalError (StateM σ)

namespace Evaluator

/-- An evaluator that has not been used. -/
def new (context : Context) : Evaluator := ⟨context, none⟩

/-- Records an exchange and goes on with the answer of the host; a failure of the host ends the
evaluation. -/
def receive (event : Event) (failed : String → EvalError)
    (resume : Value → Evaluator → Poll α × Evaluator) (evaluator : Evaluator) :
    Poll α × Evaluator :=
  let evaluator := { evaluator with context := evaluator.context.record event }
  match event.answer with
  | .ok v => resume v evaluator
  | .error message => (.ready (.error (failed message)), evaluator)

/-- Asks a resolver for a name. -/
def resolve (name : String) (answer : Resolver)
    (resume : Value → Evaluator → Poll α × Evaluator) (evaluator : Evaluator) :
    Poll α × Evaluator :=
  receive (.lookup name (answer evaluator.context.history name)) (.resolver name) resume evaluator

/-- Polls a resolver. -/
def await (name : String) (answer : Resolver) (next : Value → Script α)
    (resume : Value → Evaluator → Poll α × Evaluator) :
    Option Nat → Evaluator → Poll α × Evaluator
  | some 0, evaluator => resolve name answer resume { evaluator with suspendedOn := none }
  | some (polls + 1), evaluator => (.pending (.awaiting name answer (some polls) next), evaluator)
  | none, evaluator => (.pending (.awaiting name answer none next), evaluator)

end Evaluator

namespace Script

/-- Goes on to the end of a script, or up to a resolver that has to be waited for. -/
def advance : Script α → Evaluator → Poll α × Evaluator
  | done a, evaluator => (.ready (.ok a), evaluator)
  | nullAccess key, evaluator => (.ready (.error (.nullAccess key)), evaluator)
  | lookup name next, evaluator =>
    let (found, context) := evaluator.context.lookup name
    match found with
    | .bound v => (next v).advance { evaluator with context := context }
    | .now answer =>
      { evaluator with context := context }.resolve name answer fun v => (next v).advance
    | .later resolver =>
      Evaluator.await name resolver.answer next (fun v => (next v).advance)
        (resolver.delay context.history name) ⟨context, some name⟩
  | known name next, evaluator =>
    (next (evaluator.context.functions.find? name).isSome).advance evaluator
  | call name args next, evaluator =>
    match evaluator.context.functions.find? name with
    | none => (next .null).advance evaluator
    | some f =>
      evaluator.receive (.call name args (f evaluator.context.history args)) (.function name)
        fun v => (next v).advance

end Script

namespace Task

/-- Polls an evaluation once. -/
def poll : Task α → Evaluator → Poll α × Evaluator
  | running script, evaluator => script.advance evaluator
  | awaiting name answer polls next, evaluator =>
    evaluator.await name answer next (fun v => (next v).advance) polls

/-- Polls an evaluation until it has ended; it may be found waiting at most `patience` times. -/
def block (patience : Nat) (task : Task α) (evaluator : Evaluator) :
    Option (Except EvalError α) × Evaluator :=
  match task.poll evaluator with
  | (.ready result, evaluator) => (some result, evaluator)
  | (.pending task, evaluator) =>
    match patience with
    | 0 => (none, evaluator)
    | patience + 1 => block patience task evaluator

end Task

namespace Evaluator

/-- What a single poll comes to: an evaluation that waits is given up. -/
def giveUp : Poll α × Evaluator → Except EvalError α × Evaluator
  | (.ready result, evaluator) => (result, evaluator)
  | (.pending _, evaluator) =>
    (.error (.suspended (evaluator.suspendedOn.getD "")), { evaluator with suspendedOn := none })

end Evaluator

namespace Script

/-- Evaluates without waiting, by one poll. -/
def runNow (script : Script α) : Session Evaluator α := fun evaluator =>
  Evaluator.giveUp ((Task.running script).poll evaluator)

end Script

namespace Session

/-- Runs a session of an evaluator of its own. -/
def isolated (session : Session Evaluator α) : Session Context α := fun context =>
  let (result, evaluator) := session (.new context)
  (result, evaluator.context)

end Session

/-- Why a source text has no value. -/
inductive Error where
  | parse (error : ParseError)
  | eval (error : EvalError)
  deriving DecidableEq

namespace Error

/-- The error in words. -/
def message : Error → String
  | parse error => s!"parse error: {error.message}"
  | eval error => s!"evaluation error: {error.message}"

end Error

/-- Evaluates what a source text denotes; a text that cannot be parsed leaves the context alone. -/
def runSource (parsed : Except ParseError (Session Context α)) (context : Context) :
    Except Error α × Context :=
  match parsed with
  | .error error => (.error (.parse error), context)
  | .ok session =>
    match session context with
    | (.ok a, context) => (.ok a, context)
    | (.error error, context) => (.error (.eval error), context)

namespace Expr

/-- The value of an expression. -/
def evaluate (expr : Expr) : Session Evaluator Value := expr.script.runNow

/-- The value of a source text. -/
def evaluateSource (source : String) (context : Context) : Except Error Value × Context :=
  runSource ((parse .extended source).map fun expr => expr.evaluate.isolated) context

end Expr

end Guest
