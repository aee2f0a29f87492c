import Guest.Builtin.Table
import Guest.Proofs.Evaluation.Ensured

/-!
# The values of built-in functions

A built-in function makes no object, whatever its arguments are: it answers with an atom, or with an
array of texts and nulls.  So a context with the built-ins is a host of keyed values.
-/

namespace Guest

namespace Builtin

/-- All answers of a function are keyed. -/
def AnswersKeyed (f : Builtin) : Prop := ∀ args v, f args = .ok v → v.Keyed

theorem keyed_ofChars (s : List Char) : (Value.ofChars s).Keyed := .string _

theorem keyed_indexOr (index? : Option Nat) : (indexOr index?).Keyed := by
  cases index? <;> exact .number _

/-! ## Functions that never fail -/

theorem answersKeyed_ok {f : List Value → Value} (h : ∀ args, (f args).Keyed) :
    AnswersKeyed fun args => .ok (f args) := by
  intro args v hv
  cases hv
  exact h args

theorem answersKeyed_ofUnary (f : Number → Number) : (ofUnary f).AnswersKeyed :=
  answersKeyed_ok fun _ => .number _

theorem answersKeyed_ofBinary (f : Number → Number → Number) : (ofBinary f).AnswersKeyed :=
  answersKeyed_ok fun _ => .number _

theorem answersKeyed_ofNumbers (f : List Number → Number) : (ofNumbers f).AnswersKeyed :=
  answersKeyed_ok fun _ => .number _

theorem answersKeyed_testNumber (p : Number → Bool) : (testNumber p).AnswersKeyed :=
  answersKeyed_ok fun _ => .boolean _

theorem answersKeyed_ofText (f : List Char → List Char) : (ofText f).AnswersKeyed :=
  answersKeyed_ok fun _ => keyed_ofChars _

/-! ## Functions that may fail -/

theorem keyed_of_textOr {error : BuiltinError} {s? : Option (List Char)} {v : Value}
    (h : textOr error s? = .ok v) : v.Keyed := by
  cases s? with
  | none => cases h
  | some s =>
      cases h
      exact keyed_ofChars s

theorem keyed_of_bind {α : Type} {x : Except BuiltinError α} {f : α → Except BuiltinError Value}
    {v : Value} (h : x >>= f = .ok v) (hf : ∀ a, f a = .ok v → v.Keyed) : v.Keyed := by
  cases x with
  | error error => cases h
  | ok a => exact hf a h

theorem answersKeyed_toExponential : toExponential.AnswersKeyed :=
  fun _ _ h => keyed_of_bind h fun _ => keyed_of_textOr

theorem answersKeyed_toFixed : toFixed.AnswersKeyed :=
  fun _ _ h => keyed_of_bind h fun _ => keyed_of_textOr

theorem answersKeyed_at : at?.AnswersKeyed := by
  intro args v h
  unfold at? at h
  dsimp only at h
  split at h
  · cases h
    exact keyed_ofChars _
  · cases h
    exact .null

theorem answersKeyed_charCodeAt : charCodeAt.AnswersKeyed := by
  intro args v h
  unfold charCodeAt at h
  split at h <;> cases h <;> exact .number _

theorem answersKeyed_codePointAt : codePointAt.AnswersKeyed := by
  intro args v h
  unfold codePointAt at h
  split at h
  · cases h
    exact .number _
  · cases h
    exact .null

theorem answersKeyed_matchGroups : matchGroups.AnswersKeyed := by
  intro args v h
  refine keyed_of_bind h fun pattern h => ?_
  dsimp only at h
  split at h
  · cases h
    refine .array (List.forall_mem_map.mpr fun span? _ => ?_)
    cases span? with
    | none => exact .null
    | some span => exact keyed_ofChars _
  · cases h
    exact .null

theorem answersKeyed_search : search.AnswersKeyed := by
  intro args v h
  refine keyed_of_bind h fun pattern h => ?_
  cases h
  exact keyed_indexOr _

theorem answersKeyed_pad (place : List Char → List Char → List Char) :
    (pad place).AnswersKeyed := by
  intro args v h
  unfold pad at h
  dsimp only at h
  split_ifs at h <;> cases h <;> exact keyed_ofChars _

theorem answersKeyed_repeatText : repeatText.AnswersKeyed := by
  intro args v h
  unfold repeatText at h
  dsimp only at h
  split_ifs at h <;> cases h <;> exact keyed_ofChars _

theorem answersKeyed_split : split.AnswersKeyed :=
  answersKeyed_ok fun _ => .array (List.forall_mem_map.mpr fun s _ => keyed_ofChars s)

theorem answersKeyed_fromCodePoints : fromCodePoints.AnswersKeyed := by
  intro args v h
  refine keyed_of_bind h fun chars h => ?_
  cases h
  exact keyed_ofChars chars

/-! ## The tables -/

theorem answersKeyed_mathFunctions : ∀ entry ∈ mathFunctions, entry.2.AnswersKeyed := by
  simp only [mathFunctions, List.forall_mem_cons, answersKeyed_ofUnary, answersKeyed_ofBinary,
    answersKeyed_ofNumbers, true_and]
  exact List.forall_mem_nil _

theorem answersKeyed_numberFunctions : ∀ entry ∈ numberFunctions, entry.2.AnswersKeyed := by
  have hparseFloat : parseFloat.AnswersKeyed := answersKeyed_ok fun _ => .number _
  have hparseInt : parseInt.AnswersKeyed := answersKeyed_ok fun _ => .number _
  have htoPrecision : toPrecision.AnswersKeyed := fun _ _ => keyed_of_textOr
  have htoText : toText.AnswersKeyed := fun _ _ => keyed_of_textOr
  simp only [numberFunctions, List.forall_mem_cons, answersKeyed_testNumber, hparseFloat,
    hparseInt, answersKeyed_toExponential, answersKeyed_toFixed, htoPrecision, htoText, true_and]
  exact List.forall_mem_nil _

theorem answersKeyed_textFunctions : ∀ entry ∈ textFunctions, entry.2.AnswersKeyed := by
  have hchars (f : List Value → List Char) : AnswersKeyed fun args => .ok (.ofChars (f args)) :=
    answersKeyed_ok fun _ => keyed_ofChars _
  have htests (p : List Value → Bool) : AnswersKeyed fun args => .ok (.boolean (p args)) :=
    answersKeyed_ok fun _ => .boolean _
  have hindices (i? : List Value → Option Nat) : AnswersKeyed fun args => .ok (indexOr (i? args)) :=
    answersKeyed_ok fun _ => keyed_indexOr _
  simp only [textFunctions, List.forall_mem_cons, answersKeyed_ofText, answersKeyed_at,
    answersKeyed_charCodeAt, answersKeyed_codePointAt, answersKeyed_matchGroups,
    answersKeyed_search, answersKeyed_pad, answersKeyed_repeatText, answersKeyed_split,
    answersKeyed_fromCodePoints, true_and]
  exact ⟨hchars _, hchars _, hchars _, htests _, htests _, hindices _, hindices _, hchars _,
    hchars _, hchars _, htests _, hchars _, List.forall_mem_nil _⟩

theorem answersKeyed_truthFunctions : ∀ entry ∈ truthFunctions, entry.2.AnswersKeyed := by
  have htruthText : truthText.AnswersKeyed := answersKeyed_ok fun _ => .string _
  have htruth : truth.AnswersKeyed := answersKeyed_ok fun _ => .boolean _
  simp only [truthFunctions, List.forall_mem_cons, htruthText, htruth, true_and]
  exact List.forall_mem_nil _

/-- Every built-in function answers with keyed values only. -/
theorem answersKeyed_functions : ∀ entry ∈ functions, entry.2.AnswersKeyed := by
  intro entry hentry
  simp only [functions, underMathNames, List.mem_append, List.mem_flatMap, List.mem_map] at hentry
  rcases hentry with ((⟨space, -, ⟨name, f⟩, hf, rfl⟩ | hnumber) | htext) | htruth
  · exact answersKeyed_mathFunctions (name, f) hf
  · exact answersKeyed_numberFunctions entry hnumber
  · exact answersKeyed_textFunctions entry htext
  · exact answersKeyed_truthFunctions entry htruth

end Builtin

/-! ## Contexts -/

theorem Functions.mem_of_find? {functions : Functions} {name : String} {f : HostFunction}
    (h : functions.find? name = some f) : (name, f) ∈ functions := by
  induction functions with
  | nil => cases h
  | cons entry rest ih =>
      obtain ⟨other, g⟩ := entry
      rw [find?] at h
      split at h
      · next heq =>
          cases h
          exact heq ▸ List.mem_cons_self
      · exact List.mem_cons_of_mem _ (ih h)

namespace Context

theorem keyed_bare : bare.Keyed where
  constants := nofun
  bindings values hvalues := by
    cases hvalues
    nofun
  resolver := nofun
  delayed := nofun
  functions := nofun

/-- The built-in constants and functions supply keyed values only. -/
theorem keyed_initial : initial.Keyed where
  constants name v hv := by
    obtain ⟨⟨other, x⟩, -, heq⟩ := List.mem_map.mp (Fields.mem_of_find? hv)
    cases heq
    exact .number x
  bindings values hvalues := by
    cases hvalues
    nofun
  resolver := nofun
  delayed := nofun
  functions name f hf history args _ v hv := by
    obtain ⟨⟨other, g⟩, hg, heq⟩ := List.mem_map.mp (Functions.mem_of_find? hf)
    cases heq
    unfold Builtin.host at hv
    cases hanswer : g args with
    | error error =>
        rw [hanswer] at hv
        cases hv
    | ok w =>
        rw [hanswer] at hv
        cases hv
        exact Builtin.answersKeyed_functions (name, g) hg args _ hanswer

end Context
end Guest
