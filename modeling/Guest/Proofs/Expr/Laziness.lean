import Guest.Proofs.Evaluation.Questions
import Guest.Proofs.Evaluation.Sessions

/-!
# Laziness

What a run skips has no influence on it.  A run skips the right operand of a lazy operator that its
left operand decides, the branch that a conditional does not choose, the arguments of a function
that does not exist, all that stands behind a failure, and whatever is inside of these.  Two trees
that differ in nothing else have the same run, also against a host that answers differently where
the run does not ask it.
-/

namespace Guest
namespace Expr

mutual

/-- An expression and another one that may differ from it in what its run from a context skips. -/
inductive Variant : Context → Expr → Expr → Prop where
  | literal (context : Context) (v : Value) :
      Variant context (.literal v) (.literal v)
  | identifier (context : Context) (name : String) :
      Variant context (.identifier name) (.identifier name)
  | array {context items items'} :
      Variants context items items' → Variant context (.array items) (.array items')
  | object {context entries entries'} :
      EntryVariants context entries entries' →
      Variant context (.object entries) (.object entries')
  | unary {context operand operand'} (ops : List UnaryOp) :
      Variant context operand operand' →
      Variant context (.unary ops operand) (.unary ops operand')
  | binary {context head head' tail tail'} :
      Variant context head head' →
      (∀ v after, head.script.run context = (.ok v, after) → TailVariant after v tail tail') →
      Variant context (.binary head tail) (.binary head' tail')
  /-- A test; each branch matters if it is chosen. -/
  | conditional {context test test' whenTrue whenTrue' whenFalse whenFalse'} :
      Variant context test test' →
      (∀ v after, test.script.run context = (.ok v, after) → v.isTruthy = true →
        BranchVariant after whenTrue whenTrue') →
      (∀ v after, test.script.run context = (.ok v, after) → v.isTruthy = false →
        Variant after whenFalse whenFalse') →
      Variant context (.conditional test whenTrue whenFalse)
        (.conditional test' whenTrue' whenFalse')
  | accessor {context base base' keys keys'} :
      Variant context base base' →
      (∀ v after, base.script.run context = (.ok v, after) → KeyVariants after v keys keys') →
      Variant context (.accessor base keys) (.accessor base' keys')
  /-- The arguments of a function matter if there is the function. -/
  | call {context args args'} (name : String) :
      ((context.functions.find? name).isSome = true → Variants context args args') →
      Variant context (.call name args) (.call name args')

/-- The first branch of a conditional that was chosen. -/
inductive BranchVariant : Context → Option Expr → Option Expr → Prop where
  | none (context : Context) :
      BranchVariant context none none
  | some {context branch branch'} :
      Variant context branch branch' → BranchVariant context (some branch) (some branch')

/-- Items in order; what stands behind an item matters if the item has a value. -/
inductive Variants : Context → List Expr → List Expr → Prop where
  | nil (context : Context) :
      Variants context [] []
  | cons {context item item' rest rest'} :
      Variant context item item' →
      (∀ v after, item.script.run context = (.ok v, after) → Variants after rest rest') →
      Variants context (item :: rest) (item' :: rest')

/-- Entries in order, with the same keys. -/
inductive EntryVariants : Context → Entries → Entries → Prop where
  | nil (context : Context) :
      EntryVariants context [] []
  | cons {context value value' rest rest'} (key : String) :
      Variant context value value' →
      (∀ v after, value.script.run context = (.ok v, after) → EntryVariants after rest rest') →
      EntryVariants context ((key, value) :: rest) ((key, value') :: rest')

/-- A chain behind a value, with the same operators; a right operand matters if the value in front
of it does not decide its operator. -/
inductive TailVariant :
    Context → Value → List (BinaryOp × Expr) → List (BinaryOp × Expr) → Prop where
  | nil (context : Context) (left : Value) :
      TailVariant context left [] []
  | skipped {context op left rest rest'} (right right' : Expr) :
      op.decides left = true → TailVariant context left rest rest' →
      TailVariant context left ((op, right) :: rest) ((op, right') :: rest')
  | reached {context op left right right' rest rest'} :
      op.decides left = false → Variant context right right' →
      (∀ v after, right.script.run context = (.ok v, after) →
        TailVariant after (if op.isLazy then v else op.apply left v) rest rest') →
      TailVariant context left ((op, right) :: rest) ((op, right') :: rest')

/-- Steps of access from a value, with the same known keys; what stands behind a step matters if
the step can be made. -/
inductive KeyVariants : Context → Value → List Key → List Key → Prop where
  | nil (context : Context) (target : Value) :
      KeyVariants context target [] []
  | name {context target rest rest'} (name : String) :
      (∀ v, target.access? (.string name) = some v → KeyVariants context v rest rest') →
      KeyVariants context target (.name name :: rest) (.name name :: rest')
  | computed {context target key key' rest rest'} :
      Variant context key key' →
      (∀ k after v, key.script.run context = (.ok k, after) → target.access? k = some v →
        KeyVariants after v rest rest') →
      KeyVariants context target (.computed key :: rest) (.computed key' :: rest')

end

end Expr

namespace Script

theorem sameRun_access {α : Type} {context : Context} {target key : Value} {f g : Value → Script α}
    (h : ∀ v, target.access? key = some v → SameRun context (f v) (g v)) :
    SameRun context (access target key >>= f) (access target key >>= g) := by
  refine (SameRun.refl context _).bind ?_
  intro v after hrun
  unfold access at hrun
  split at hrun
  · next hfound =>
      cases hrun
      exact h _ hfound
  · cases hrun

end Script

namespace Expr

open Script

mutual

theorem sameRun_script {context : Context} {e e' : Expr} :
    Variant context e e' → SameRun context e.script e'.script
  | .literal context v => .refl context _
  | .identifier context name => .refl context _
  | .array h => by
      simp only [script]
      exact (sameRun_scripts h).bind_left
  | .object h => by
      simp only [script]
      exact (sameRun_entryScripts h).bind_left
  | .unary ops h => by
      simp only [script]
      exact (sameRun_script h).bind_left
  | .binary h hrest => by
      simp only [script]
      exact (sameRun_script h).bind fun v after hv => sameRun_tailScript (hrest v after hv)
  | .conditional h htrue hfalse => by
      simp only [script]
      refine (sameRun_script h).bind fun v after hv => ?_
      cases hv' : v.isTruthy with
      | true =>
          simp only [if_true]
          exact sameRun_branch v (htrue v after hv hv')
      | false =>
          simp only [Bool.false_eq_true, if_false]
          exact sameRun_script (hfalse v after hv hv')
  | .accessor h hrest => by
      simp only [script]
      exact (sameRun_script h).bind fun v after hv => sameRun_keysScript (hrest v after hv)
  | .call name h => by
      simp only [script]
      refine SameRun.known ?_
      cases hknown : (context.functions.find? name).isSome with
      | true =>
          simp only [if_true]
          exact (sameRun_scripts (h hknown)).bind_left
      | false => exact .refl context _

theorem sameRun_branch {context : Context} {branch branch' : Option Expr} (v : Value) :
    BranchVariant context branch branch' →
      SameRun context
        (match branch with
          | some branch => script branch
          | none => return v)
        (match branch' with
          | some branch => script branch
          | none => return v)
  | .none context => .refl context _
  | .some h => sameRun_script h

theorem sameRun_scripts {context : Context} {items items' : List Expr} :
    Variants context items items' → SameRun context (scripts items) (scripts items')
  | .nil context => .refl context _
  | .cons h hrest => by
      simp only [scripts]
      exact (sameRun_script h).bind fun v after hv =>
        (sameRun_scripts (hrest v after hv)).bind_left

theorem sameRun_entryScripts {context : Context} {entries entries' : Entries} :
    EntryVariants context entries entries' →
      SameRun context (entryScripts entries) (entryScripts entries')
  | .nil context => .refl context _
  | .cons key h hrest => by
      simp only [entryScripts]
      exact (sameRun_script h).bind fun v after hv =>
        (sameRun_entryScripts (hrest v after hv)).bind_left

theorem sameRun_tailScript {context : Context} {left : Value}
    {tail tail' : List (BinaryOp × Expr)} :
    TailVariant context left tail tail' →
      SameRun context (tailScript left tail) (tailScript left tail')
  | .nil context left => .refl context _
  | .skipped right right' hdecides h => by
      simp only [tailScript, hdecides, if_true]
      exact sameRun_tailScript h
  | .reached hdecides h hrest => by
      simp only [tailScript, hdecides, Bool.false_eq_true, if_false]
      exact (sameRun_script h).bind fun v after hv => sameRun_tailScript (hrest v after hv)

theorem sameRun_keysScript {context : Context} {target : Value} {keys keys' : List Key} :
    KeyVariants context target keys keys' →
      SameRun context (keysScript target keys) (keysScript target keys')
  | .nil context target => .refl context _
  | .name name hrest => by
      simp only [keysScript]
      exact sameRun_access fun v hv => sameRun_keysScript (hrest v hv)
  | .computed h hrest => by
      simp only [keysScript]
      exact (sameRun_script h).bind fun k after hk =>
        sameRun_access fun v hv => sameRun_keysScript (hrest k after v hk hv)

end

/-- Evaluation is lazy.  An evaluation without delay has the same result, makes the same exchanges
with its host and logs the same names, however the occurrences that its run skips are replaced, and
whatever the host answers to questions that the run does not ask. -/
theorem evaluate_variant {context : Context} {e e' : Expr} {identifiers : Identifiers}
    {functions : Functions} (hsource : SameSource context.identifiers identifiers)
    (hanswers : context.AnswersAll identifiers functions (e.script.asked context))
    (hvariant : Variant context e e') :
    let run := e.evaluate.isolated context
    let run' := e'.evaluate.isolated (context.withHost identifiers functions)
    run'.1 = run.1 ∧ run'.2.history = run.2.history ∧ run'.2.usage = run.2.usage := by
  obtain ⟨hrun, hasked⟩ := sameRun_script hvariant
  have hprompt : e.evaluate.isolated context = e.script.run context :=
    isolated_runNow_eq_run e.script hsource.left_ne_delayed
  have hprompt' : e'.evaluate.isolated (context.withHost identifiers functions) =
      e'.script.run (context.withHost identifiers functions) :=
    isolated_runNow_eq_run e'.script hsource.right_ne_delayed
  have hhost : Context.Rehosted identifiers functions (e'.script.run context)
      (e'.script.run (context.withHost identifiers functions)) := by
    apply rehosts e'.script context hsource
    rw [hasked]
    exact hanswers
  dsimp only
  rw [hprompt, hprompt', hhost, hrun]
  exact ⟨rfl, rfl, rfl⟩

/-- A resolver that knows one name, which is true. -/
def truthAt (name : String) : Resolver := fun _ other =>
  if other = name then .ok (.boolean true) else .error "unknown"

/-- Behind a true operand of `or` a call of a failing function may stand for a name. -/
theorem evaluate_variant_decided :
    let context := Context.bare.withIdentifiers (.resolver (truthAt "a"))
    let run := (binary (.identifier "a") [(.or, .identifier "b")]).evaluate.isolated context
    let run' := (binary (.identifier "a") [(.or, .call "f" [.identifier "b"])]).evaluate.isolated
      (context.withHost (.resolver fun _ _ => .ok (.boolean true)) [("f", fun _ _ => .error "")])
    run'.1 = run.1 ∧ run'.2.history = run.2.history ∧ run'.2.usage = run.2.usage := by
  have hasked : (binary (.identifier "a") [(.or, .identifier "b")]).script.asked
      (Context.bare.withIdentifiers (.resolver (truthAt "a"))) = [([], .lookup "a")] := by rfl
  refine evaluate_variant (.resolver _ _) ?_ (.binary (.identifier _ _) ?_)
  · rw [hasked]
    intro question hquestion
    rw [List.mem_singleton.mp hquestion]
    rfl
  · intro v after hv
    have htrue : v = .boolean true := by
      cases hv
      rfl
    rw [htrue]
    exact .skipped _ _ rfl (.nil _ _)

end Expr
end Guest
