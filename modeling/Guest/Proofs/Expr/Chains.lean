import Guest.Proofs.Evaluation.Run

/-!
# Chains and groups

Operators between operands, steps of access and operators before an operand are kept in flat
chains.  A chain means what the same chain means with a part of it in parentheses: the chain of
operators and the steps of access with their first part, the operators before an operand with the
part next to the operand.  The scripts are equal, so no host can tell both forms apart, and this
holds wherever the chain stands.
-/

namespace Guest

namespace UnaryOp

theorem applyAll_append (first second : List UnaryOp) (v : Value) :
    applyAll (first ++ second) v = applyAll first (applyAll second v) :=
  List.foldr_append

end UnaryOp

namespace Expr

variable {e e' : Expr}

/-! ## Chains in two parts -/

/-- A part of a chain goes on from the value of the part before it. -/
theorem tailScript_append (left : Value) (first second : List (BinaryOp × Expr)) :
    tailScript left (first ++ second) =
      tailScript left first >>= fun v => tailScript v second := by
  induction first generalizing left with
  | nil => rfl
  | cons operation first ih =>
      obtain ⟨op, right⟩ := operation
      rw [List.cons_append, tailScript, tailScript]
      by_cases hdecides : op.decides left = true
      · rw [if_pos hdecides, if_pos hdecides]
        exact ih left
      · rw [if_neg hdecides, if_neg hdecides, LawfulMonad.bind_assoc]
        exact congrArg (script right >>= ·) (funext fun v => ih _)

/-- Later steps of access go on from the part that the earlier ones select. -/
theorem keysScript_append (target : Value) (first second : List Key) :
    keysScript target (first ++ second) =
      keysScript target first >>= fun v => keysScript v second := by
  induction first generalizing target with
  | nil => rfl
  | cons key first ih =>
      rw [List.cons_append]
      cases key with
      | name name =>
          rw [keysScript, keysScript, LawfulMonad.bind_assoc]
          exact congrArg (Script.access target _ >>= ·) (funext fun v => ih v)
      | computed key =>
          rw [keysScript, keysScript, LawfulMonad.bind_assoc]
          refine congrArg (script key >>= ·) (funext fun k => ?_)
          rw [LawfulMonad.bind_assoc]
          exact congrArg (Script.access target k >>= ·) (funext fun v => ih v)

theorem script_binary_append (head : Expr) (first second : List (BinaryOp × Expr)) :
    (binary head (first ++ second)).script = (binary (binary head first) second).script := by
  rw [script, script, script, LawfulMonad.bind_assoc]
  exact congrArg (script head >>= ·) (funext fun left => tailScript_append left first second)

theorem script_accessor_append (base : Expr) (first second : List Key) :
    (accessor base (first ++ second)).script = (accessor (accessor base first) second).script := by
  rw [script, script, script, LawfulMonad.bind_assoc]
  exact congrArg (script base >>= ·) (funext fun target => keysScript_append target first second)

theorem script_unary_append (first second : List UnaryOp) (operand : Expr) :
    (unary (first ++ second) operand).script = (unary first (unary second operand)).script := by
  rw [script, script, script, LawfulMonad.bind_assoc]
  refine congrArg (script operand >>= ·) (funext fun v => ?_)
  exact congrArg pure (UnaryOp.applyAll_append first second v)

/-! ## One expression in place of another -/

theorem scripts_congr (h : e.script = e'.script) (before after : List Expr) :
    scripts (before ++ e :: after) = scripts (before ++ e' :: after) := by
  induction before with
  | nil => rw [List.nil_append, List.nil_append, scripts, scripts, h]
  | cons item before ih => rw [List.cons_append, List.cons_append, scripts, scripts, ih]

theorem entryScripts_congr (h : e.script = e'.script) (key : String) (before after : Entries) :
    entryScripts (before ++ (key, e) :: after) = entryScripts (before ++ (key, e') :: after) := by
  induction before with
  | nil => rw [List.nil_append, List.nil_append, entryScripts, entryScripts, h]
  | cons entry before ih =>
      rw [List.cons_append, List.cons_append, entryScripts, entryScripts, ih]

theorem tailScript_congr (h : e.script = e'.script) (op : BinaryOp)
    (before after : List (BinaryOp × Expr)) (left : Value) :
    tailScript left (before ++ (op, e) :: after) =
      tailScript left (before ++ (op, e') :: after) := by
  rw [tailScript_append, tailScript_append]
  refine congrArg (tailScript left before >>= ·) (funext fun v => ?_)
  rw [tailScript, tailScript, h]

theorem keysScript_congr (h : e.script = e'.script) (before after : List Key) (target : Value) :
    keysScript target (before ++ .computed e :: after) =
      keysScript target (before ++ .computed e' :: after) := by
  rw [keysScript_append, keysScript_append]
  refine congrArg (keysScript target before >>= ·) (funext fun v => ?_)
  rw [keysScript, keysScript, h]

/-- Two expressions differ in the grouping of chains alone, wherever in them the chains stand. -/
inductive Regroups : Expr → Expr → Prop where
  | refl (e : Expr) :
      Regroups e e
  | symm {e e' : Expr} :
      Regroups e e' → Regroups e' e
  | trans {e middle e' : Expr} :
      Regroups e middle → Regroups middle e' → Regroups e e'
  | operators (head : Expr) (first second : List (BinaryOp × Expr)) :
      Regroups (.binary head (first ++ second)) (.binary (.binary head first) second)
  | accesses (base : Expr) (first second : List Key) :
      Regroups (.accessor base (first ++ second)) (.accessor (.accessor base first) second)
  | prefixes (first second : List UnaryOp) (operand : Expr) :
      Regroups (.unary (first ++ second) operand) (.unary first (.unary second operand))
  | item {e e' : Expr} (before after : List Expr) :
      Regroups e e' → Regroups (.array (before ++ e :: after)) (.array (before ++ e' :: after))
  | entry {e e' : Expr} (key : String) (before after : Entries) :
      Regroups e e' →
      Regroups (.object (before ++ (key, e) :: after)) (.object (before ++ (key, e') :: after))
  | operand {e e' : Expr} (ops : List UnaryOp) :
      Regroups e e' → Regroups (.unary ops e) (.unary ops e')
  | head {e e' : Expr} (tail : List (BinaryOp × Expr)) :
      Regroups e e' → Regroups (.binary e tail) (.binary e' tail)
  | right {e e' : Expr} (head : Expr) (op : BinaryOp) (before after : List (BinaryOp × Expr)) :
      Regroups e e' →
      Regroups (.binary head (before ++ (op, e) :: after))
        (.binary head (before ++ (op, e') :: after))
  | test {e e' : Expr} (whenTrue : Option Expr) (whenFalse : Expr) :
      Regroups e e' →
      Regroups (.conditional e whenTrue whenFalse) (.conditional e' whenTrue whenFalse)
  | whenTrue {e e' : Expr} (test whenFalse : Expr) :
      Regroups e e' →
      Regroups (.conditional test (some e) whenFalse) (.conditional test (some e') whenFalse)
  | whenFalse {e e' : Expr} (test : Expr) (whenTrue : Option Expr) :
      Regroups e e' →
      Regroups (.conditional test whenTrue e) (.conditional test whenTrue e')
  | base {e e' : Expr} (keys : List Key) :
      Regroups e e' → Regroups (.accessor e keys) (.accessor e' keys)
  | key {e e' : Expr} (base : Expr) (before after : List Key) :
      Regroups e e' →
      Regroups (.accessor base (before ++ .computed e :: after))
        (.accessor base (before ++ .computed e' :: after))
  | argument {e e' : Expr} (name : String) (before after : List Expr) :
      Regroups e e' →
      Regroups (.call name (before ++ e :: after)) (.call name (before ++ e' :: after))

theorem script_regroups (h : Regroups e e') : e.script = e'.script := by
  induction h with
  | refl e => rfl
  | symm _ ih => exact ih.symm
  | trans _ _ ih ih' => exact ih.trans ih'
  | operators head first second => exact script_binary_append head first second
  | accesses base first second => exact script_accessor_append base first second
  | prefixes first second operand => exact script_unary_append first second operand
  | item before after _ ih => rw [script, script, scripts_congr ih]
  | entry key before after _ ih => rw [script, script, entryScripts_congr ih]
  | operand ops _ ih => rw [script, script, ih]
  | head tail _ ih => rw [script, script, ih]
  | right head op before after _ ih =>
      rw [script, script]
      exact congrArg (script head >>= ·) (funext (tailScript_congr ih op before after))
  | test whenTrue whenFalse _ ih => rw [script, script, ih]
  | whenTrue test whenFalse _ ih =>
      rw [script, script]
      dsimp only
      rw [ih]
  | whenFalse test whenTrue _ ih => rw [script, script, ih]
  | base keys _ ih => rw [script, script, ih]
  | key base before after _ ih =>
      rw [script, script]
      exact congrArg (script base >>= ·) (funext (keysScript_congr ih before after))
  | argument name before after _ ih => rw [script, script, scripts_congr ih]

/-! ## Evaluations -/

/-- No host tells two expressions apart: every evaluator comes with both to the same result, the
same exchanges and the same log, without waiting and by polls. -/
def SameOutcome (e e' : Expr) : Prop :=
  (∀ evaluator, e.evaluate evaluator = e'.evaluate evaluator) ∧
    ∀ patience evaluator, (Task.running e.script).block patience evaluator =
      (Task.running e'.script).block patience evaluator

theorem sameOutcome_of_script (h : e.script = e'.script) : SameOutcome e e' := by
  constructor
  · intro evaluator
    rw [evaluate, evaluate, h]
  · intro patience evaluator
    rw [h]

/-- A chain has the outcome of its nested forms: its first operators or steps of access may be
grouped, or its last operators before an operand, and a chain may be regrouped wherever it
stands. -/
theorem chains_eq_nested :
    (∀ head first second,
      SameOutcome (.binary head (first ++ second)) (.binary (.binary head first) second)) ∧
    (∀ base first second,
      SameOutcome (.accessor base (first ++ second)) (.accessor (.accessor base first) second)) ∧
    (∀ first second operand,
      SameOutcome (.unary (first ++ second) operand) (.unary first (.unary second operand))) ∧
    ∀ e e', Regroups e e' → SameOutcome e e' := by
  refine ⟨fun head first second => ?_, fun base first second => ?_,
    fun first second operand => ?_, fun e e' h => ?_⟩
  · exact sameOutcome_of_script (script_binary_append head first second)
  · exact sameOutcome_of_script (script_accessor_append base first second)
  · exact sameOutcome_of_script (script_unary_append first second operand)
  · exact sameOutcome_of_script (script_regroups h)

/-- The argument of a call, with its first operator in parentheses. -/
theorem chains_eq_nested_argument :
    let flat : Expr := .call "f" [.binary (.identifier "a")
      [(.or, .identifier "b"), (.subtract, .identifier "c")]]
    let grouped : Expr := .call "f" [.binary
      (.binary (.identifier "a") [(.or, .identifier "b")]) [(.subtract, .identifier "c")]]
    Regroups flat grouped ∧ SameOutcome flat grouped := by
  intro flat grouped
  have hregroups : Regroups flat grouped :=
    .argument "f" [] [] (.operators (.identifier "a") [(.or, .identifier "b")]
      [(.subtract, .identifier "c")])
  exact ⟨hregroups, chains_eq_nested.2.2.2 flat grouped hregroups⟩

end Expr

end Guest
