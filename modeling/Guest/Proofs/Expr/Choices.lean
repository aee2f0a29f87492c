import Guest.Proofs.Evaluation.Agreement
import Guest.Proofs.Evaluation.Steady
import Guest.Proofs.Expr.Chains

/-!
# Lazy operators and choices

A lazy operator and a choice between branches are two ways to write one thing.  A chain of `or` is
a choice without a first branch, nested to the right, for every host.  A choice that evaluates its
test again as a branch differs in the record of exchanges; against a steady host it has the same
result and leaves the same log.
-/

namespace Guest

namespace BinaryOp

variable {op : BinaryOp} {v w : Value}

theorem decides_or : BinaryOp.or.decides v = v.isTruthy := by
  cases h : v.isTruthy <;> simp [decides, isLazy, h]

theorem decides_and : BinaryOp.and.decides v = !v.isTruthy := by
  cases h : v.isTruthy <;> simp [decides, isLazy, h]

/-- A lazy operator applied to two values gives the left one where that decides. -/
theorem apply_of_isLazy (h : op.isLazy = true) :
    op.apply v w = if op.decides v then v else w := by
  cases op with
  | or => rw [decides_or, apply]
  | and =>
      rw [decides_and, apply]
      cases v.isTruthy <;> rfl
  | _ => cases h

end BinaryOp

namespace Expr

variable {e e' a b : Expr} {op : BinaryOp} {v : Value}

/-! ## Alternatives -/

/-- The first operand that is true, or else the last one. -/
def alternatives (first : Expr) (rest : List Expr) : Expr :=
  .binary first (rest.map fun e => (.or, e))

/-- The same as choices without a first branch, nested to the right. -/
def nestedChoices (first : Expr) : List Expr → Expr
  | [] => first
  | second :: rest => .conditional first none (nestedChoices second rest)

theorem tailScript_of_isTruthy (hv : v.isTruthy = true) (rest : List Expr) :
    tailScript v (rest.map fun e => (.or, e)) = pure v := by
  induction rest with
  | nil => rfl
  | cons second rest ih =>
      rw [List.map_cons, tailScript, BinaryOp.decides_or, hv, if_pos rfl, ih]

theorem script_alternatives (first : Expr) (rest : List Expr) :
    (alternatives first rest).script = (nestedChoices first rest).script := by
  induction rest generalizing first with
  | nil =>
      rw [alternatives, script, nestedChoices]
      exact Script.bind_done first.script
  | cons second rest ih =>
      rw [alternatives, script, nestedChoices, script]
      refine congrArg (script first >>= ·) (funext fun v => ?_)
      rw [List.map_cons, tailScript, BinaryOp.decides_or]
      by_cases hv : v.isTruthy = true
      · rw [if_pos hv, if_pos hv, tailScript_of_isTruthy hv]
      · rw [if_neg hv, if_neg hv, ← ih second, alternatives, script]
        rfl

/-! ## Operators on values -/

/-- A lazy operator whose operands both have values gives what it gives on these values; where the
left one decides, nothing is asked for the right one. -/
theorem evaluate_lazy {evaluator after later : Evaluator} {l r : Value} (hop : op.isLazy = true)
    (hleft : a.evaluate evaluator = (.ok l, after)) (hright : b.evaluate after = (.ok r, later)) :
    (binary a [(op, b)]).evaluate evaluator =
      (.ok (op.apply l r), if op.decides l then after else later) := by
  have hscript : (binary a [(op, b)]).script = a.script >>= fun v => tailScript v [(op, b)] := by
    rw [script]
  rw [evaluate, hscript, Script.runNow_bind, Session.bind_apply, ← evaluate, hleft]
  dsimp only
  rw [BinaryOp.apply_of_isLazy hop, tailScript]
  by_cases hdecides : op.decides l = true
  · rw [if_pos hdecides, if_pos hdecides, if_pos hdecides]
    rfl
  · rw [if_neg hdecides, if_neg hdecides, if_neg hdecides, Script.runNow_bind, Session.bind_apply,
      ← evaluate, hright]
    dsimp only
    rw [if_pos hop]
    rfl

/-! ## Tests that are evaluated again -/

/-- Two expressions have the same result and leave the same log against steady hosts, without
waiting and by polls to the end. -/
def SameResult (e e' : Expr) : Prop :=
  (∀ evaluator : Evaluator, evaluator.context.Steady →
    (e.evaluate evaluator).1 = (e'.evaluate evaluator).1 ∧
      (e.evaluate evaluator).2.context.SameLog (e'.evaluate evaluator).2.context) ∧
  ∀ (context : Context) (answer : Resolver) (polls : List Event → String → Nat),
    (context.prompt answer).Steady → ∃ count, ∀ patience, count ≤ patience →
      let evaluator := Evaluator.new
        (context.delayed (fun history name => some (polls history name)) answer)
      let found := (Task.running e.script).block patience evaluator
      let found' := (Task.running e'.script).block patience evaluator
      found.1.isSome = true ∧ found.1 = found'.1 ∧ found.2.context.usage = found'.2.context.usage

/-- Polls come to the end of the evaluations that do not wait. -/
theorem sameResult_of_evaluate
    (h : ∀ evaluator : Evaluator, evaluator.context.Steady →
      (e.evaluate evaluator).1 = (e'.evaluate evaluator).1 ∧
        (e.evaluate evaluator).2.context.SameLog (e'.evaluate evaluator).2.context) :
    SameResult e e' := by
  refine ⟨h, fun context answer polls hsteady => ?_⟩
  obtain ⟨hresult, hlog⟩ := h (.new (context.prompt answer)) hsteady
  obtain ⟨count, hcount⟩ := e.script.agreement.completes context answer polls
  obtain ⟨count', hcount'⟩ := e'.script.agreement.completes context answer polls
  refine ⟨max count count', fun patience hpatience => ?_⟩
  obtain ⟨hfound, hrecord⟩ := hcount patience (Nat.le_trans (Nat.le_max_left _ _) hpatience)
  obtain ⟨hfound', hrecord'⟩ := hcount' patience (Nat.le_trans (Nat.le_max_right _ _) hpatience)
  refine ⟨?_, ?_, ?_⟩
  · rw [hfound]
    rfl
  · rw [hfound, hfound']
    exact congrArg some hresult
  · rw [hrecord.2, hrecord'.2]
    exact hlog.1

/-- A choice between the value of its test and something else: what goes on with the value that is
at hand may as well evaluate the test again. -/
theorem sameResult_of_script {test : Expr} {follow follow' : Value → Script Value}
    (he : e.script = test.script >>= follow) (he' : e'.script = test.script >>= follow')
    (hfollow : ∀ v, follow v = follow' v ∨ follow v = pure v ∧ follow' v = test.script) :
    SameResult e e' := by
  apply sameResult_of_evaluate
  intro evaluator hsteady
  rw [evaluate, evaluate, he, he', Script.runNow_bind, Script.runNow_bind, Session.bind_apply,
    Session.bind_apply]
  rcases htest : test.script.runNow evaluator with ⟨error | v, after⟩
  · exact ⟨rfl, rfl, rfl⟩
  · dsimp only
    rcases hfollow v with heq | ⟨hdone, hagain⟩
    · rw [heq]
      exact ⟨rfl, rfl, rfl⟩
    · obtain ⟨later, hlater, hlog⟩ := Script.exists_runNow_again hsteady htest
      rw [hdone, hagain, hlater]
      exact ⟨rfl, hlog.symm⟩

theorem sameResult_elvis (a b : Expr) :
    SameResult (.conditional a none b) (.conditional a (some a) b) := by
  have helvis : (conditional a none b).script =
      a.script >>= fun v => if v.isTruthy then pure v else script b := by
    rw [script]
  have hchoice : (conditional a (some a) b).script =
      a.script >>= fun v => if v.isTruthy then script a else script b := by
    rw [script]
  refine sameResult_of_script helvis hchoice fun v => ?_
  by_cases hv : v.isTruthy = true
  · exact .inr ⟨if_pos hv, if_pos hv⟩
  · exact .inl ((if_neg hv).trans (if_neg hv).symm)

theorem sameResult_and (a b : Expr) :
    SameResult (.binary a [(.and, b)]) (.conditional a (some b) a) := by
  have hand : (binary a [(.and, b)]).script =
      a.script >>= fun v => tailScript v [(.and, b)] := by
    rw [script]
  have hchoice : (conditional a (some b) a).script =
      a.script >>= fun v => if v.isTruthy then script b else script a := by
    rw [script]
  refine sameResult_of_script hand hchoice fun v => ?_
  rw [tailScript, BinaryOp.decides_and]
  by_cases hv : v.isTruthy = true
  · left
    rw [hv, if_neg (by decide), if_pos rfl]
    exact Script.bind_done b.script
  · right
    rw [Bool.not_eq_true] at hv
    rw [hv]
    exact ⟨rfl, rfl⟩

/-- Lazy operators and choices stand for each other.  A chain of alternatives is a choice nested to
the right; a lazy operator gives what it gives on the values of its operands; and against a steady
host a choice may evaluate its test once more, in place of its value. -/
theorem lazy_operators_eq_choices :
    (∀ first rest, SameOutcome (alternatives first rest) (nestedChoices first rest)) ∧
    (∀ (a b : Expr) (op : BinaryOp) (evaluator after later : Evaluator) (l r : Value),
      op.isLazy = true → a.evaluate evaluator = (.ok l, after) → b.evaluate after = (.ok r, later) →
      ((binary a [(op, b)]).evaluate evaluator).1 = .ok (op.apply l r)) ∧
    (∀ a b, SameResult (.conditional a none b) (.conditional a (some a) b)) ∧
    ∀ a b, SameResult (.binary a [(.and, b)]) (.conditional a (some b) a) := by
  refine ⟨fun first rest => ?_, fun a b op evaluator after later l r hop hleft hright => ?_,
    sameResult_elvis, sameResult_and⟩
  · exact sameOutcome_of_script (script_alternatives first rest)
  · rw [evaluate_lazy hop hleft hright]

/-- Two literals: the left one does not decide, and the operator gives the right one. -/
theorem lazy_operators_eq_choices_literals :
    let host := Evaluator.new .bare
    let unset : Expr := .literal (.boolean false)
    let chosen : Expr := .literal (.string "b")
    BinaryOp.or.isLazy = true ∧ unset.evaluate host = (.ok (.boolean false), host) ∧
      chosen.evaluate host = (.ok (.string "b"), host) ∧
      ((binary unset [(.or, chosen)]).evaluate host).1 = .ok (.string "b") := by
  intro host unset chosen
  have hleft : unset.evaluate host = (.ok (.boolean false), host) := rfl
  have hright : chosen.evaluate host = (.ok (.string "b"), host) := rfl
  exact ⟨rfl, hleft, hright,
    lazy_operators_eq_choices.2.1 unset chosen .or host host host _ _ rfl hleft hright⟩

end Expr

end Guest
