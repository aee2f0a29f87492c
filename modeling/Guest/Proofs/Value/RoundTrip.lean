import Guest.Builtin.Table
import Guest.Proofs.Evaluation.Settled
import Guest.Proofs.Expr.RoundTrip
import Guest.Proofs.Value.Keyed
import Guest.Proofs.Value.Source

/-!
# Evaluating the source text of a value

The tokens of a value's source text derive an expression: literals, with a minus before a negative
number, and names for the numbers that have no literal.  Its script only looks these names up, so
it settles wherever they have their values, and it comes to the value itself.  A zero loses its
sign on the way, since it is written without one.
-/

namespace Guest

namespace Source

/-- The expression of a number. -/
def numberExpr : Number → Expr
  | .nan => .identifier (String.ofList nanName)
  | .infinite negative => .identifier (String.ofList (infinityName negative))
  | .finite negative units h =>
    if negative ∧ units ≠ 0 then .unary [.minus] (.literal (.number (.finite false units h)))
    else .literal (.number (.finite false units h))

end Source

namespace Value

mutual

/-- The expression of a value. -/
def expr : Value → Expr
  | number x => Source.numberExpr x
  | array items => .array (itemExprs items)
  | object fields => .object (fieldExprs fields)
  | null => .literal null
  | boolean b => .literal (boolean b)
  | string s => .literal (string s)

/-- The expressions of the items of an array. -/
def itemExprs : List Value → List Expr
  | [] => []
  | item :: rest => expr item :: itemExprs rest

/-- The expressions of the fields of an object. -/
def fieldExprs : List (String × Value) → Entries
  | [] => []
  | (name, value) :: rest => (name, expr value) :: fieldExprs rest

end

mutual

/-- The value with every negative zero replaced by zero. -/
def unsigned : Value → Value
  | number x => number (if x = .negZero then .zero else x)
  | array items => array (unsignedItems items)
  | object fields => object (unsignedFields fields)
  | null => null
  | boolean b => boolean b
  | string s => string s

/-- The items of an array without a negative zero. -/
def unsignedItems : List Value → List Value
  | [] => []
  | item :: rest => unsigned item :: unsignedItems rest

/-- The fields of an object without a negative zero. -/
def unsignedFields : List (String × Value) → Fields
  | [] => []
  | (name, value) :: rest => (name, unsigned value) :: unsignedFields rest

end

theorem unsignedFields_keys (fields : Fields) :
    (unsignedFields fields).map Prod.fst = fields.map Prod.fst := by
  induction fields with
  | nil => rfl
  | cons field rest ih =>
      rw [unsignedFields, List.map_cons, List.map_cons, ih]

end Value

/-! ## Derivations -/

open Grammar

namespace Source

theorem entryKey_keyToken (name : String) : EntryKey (keyToken name) name := by
  unfold keyToken
  split
  · exact .identifier name
  · exact .string name

theorem expression_numberTokens (x : Number) : Expression (numberTokens x) (numberExpr x) := by
  cases x with
  | nan => exact Expr.expression_of_binds (.primary (.identifier _))
  | infinite negative => exact Expr.expression_of_binds (.primary (.identifier _))
  | finite negative units h =>
      have hnumber : Primary [.number (.finite false units h)]
          (.literal (.number (.finite false units h))) := .number _
      rw [numberTokens, numberExpr]
      split
      · have hpower := Expr.power_of_binds (Expr.binds_of_le (by decide) (.primary hnumber))
        have hunary := Unary.prefixes (.cons (UnaryOp.unaryOp?_token .minus) .nil) hpower
        exact Expr.expression_of_binds (.chain (by decide) (by decide) (.unary hunary))
      · exact Expr.expression_of_binds (.primary hnumber)

end Source

namespace Value

mutual

/-- The tokens of a value's source text derive the expression of the value. -/
theorem expression_sourceTokens : ∀ v : Value, Expression v.sourceTokens v.expr
  | null => Expr.expression_of_binds (.primary .null)
  | boolean b => Expr.expression_of_binds (.primary (.boolean b))
  | string s => Expr.expression_of_binds (.primary (.string s))
  | number x => by
      rw [sourceTokens, expr]
      exact Source.expression_numberTokens x
  | array items => by
      rw [sourceTokens, expr]
      exact Expr.expression_of_binds (.primary (.array (sequence_itemTokens items)))
  | object fields => by
      rw [sourceTokens, expr]
      exact Expr.expression_of_binds (.primary (.object (entrySequence_fieldTokens fields)))

theorem sequence_itemTokens : ∀ items : List Value, Sequence (itemTokens items) (itemExprs items)
  | [] => .nil
  | [item] => .items (.last (expression_sourceTokens item))
  | item :: next :: more => by
      have hmore := Expr.items_of_sequence (sequence_itemTokens (next :: more))
      rw [itemTokens]
      · exact .items (.more (expression_sourceTokens item) hmore)
      · simp

theorem entrySequence_fieldTokens :
    ∀ fields : List (String × Value), EntrySequence (fieldTokens fields) (fieldExprs fields)
  | [] => .nil
  | [(name, value)] =>
      .pairs (.last (Source.entryKey_keyToken name) (expression_sourceTokens value))
  | (name, value) :: (next, following) :: more => by
      have hmore := Expr.pairs_of_entrySequence
        (entrySequence_fieldTokens ((next, following) :: more))
      have hkey := Source.entryKey_keyToken name
      rw [fieldTokens]
      · exact .pairs (.more hkey (expression_sourceTokens value) hmore)
      · simp

end

end Value

/-! ## Evaluation -/

/-- The context has the built-in constants, and its bindings leave the names of the numbers that
have no literal alone. -/
structure Context.NamesNumbers (context : Context) : Prop where
  constants : ∀ name x, (name, x) ∈ Builtin.constants →
    Fields.find? context.constants name = some (.number x)
  unbound : ∀ values, context.identifiers = .bindings values →
    ∀ name ∈ ["Number_NaN", "Number_POSITIVE_INFINITY", "Number_NEGATIVE_INFINITY"],
      Fields.find? values name = none

variable {context : Context}

namespace Context

theorem NamesNumbers.value?_eq (h : context.NamesNumbers) {name : String} {x : Number}
    (hname : name ∈ ["Number_NaN", "Number_POSITIVE_INFINITY", "Number_NEGATIVE_INFINITY"])
    (hx : (name, x) ∈ Builtin.constants) : context.value? name = some (.number x) := by
  have hconstant := h.constants name x hx
  unfold value?
  cases hi : context.identifiers with
  | bindings values => simp [h.unbound values hi name hname, hconstant]
  | resolver answer => simp [hconstant]
  | delayed source => simp [hconstant]

theorem namesNumbers_initial : initial.NamesNumbers := by
  constructor
  · intro name x hx
    have hdistinct : Fields.Distinct initial.constants := by decide +kernel
    exact Fields.find?_of_mem hdistinct (List.mem_map.mpr ⟨_, hx, rfl⟩)
  · rintro values ⟨⟩ name hname
    rfl

end Context

namespace Source

open Script

theorem settles_numberExpr (h : context.NamesNumbers) (x : Number) :
    (numberExpr x).script.Settles context (.number (if x = .negZero then .zero else x)) := by
  cases x with
  | nan =>
      have hvalue : context.value? "Number_NaN" = some (.number .nan) :=
        h.value?_eq (by simp) (by simp [Builtin.constants, Builtin.numberConstants])
      exact .lookup hvalue (.done _)
  | infinite negative =>
      have hvalue : context.value? (String.ofList (infinityName negative)) =
          some (.number (.infinite negative)) := by
        apply h.value?_eq
        · cases negative <;> simp [infinityName]
        · cases negative <;> simp [infinityName, Builtin.constants, Builtin.numberConstants]
      exact .lookup hvalue (.done _)
  | finite negative units hunits =>
      rw [numberExpr]
      by_cases hminus : negative ∧ units ≠ 0
      · obtain ⟨rfl, hne⟩ := hminus
        have hnonzero : Number.finite true units hunits ≠ .negZero := by
          intro heq
          injection heq with _ hzero
          exact hne hzero
        rw [if_pos ⟨rfl, hne⟩, if_neg hnonzero]
        exact Settles.map (.done (Value.number (.finite false units hunits)))
      · have hplain : (if Number.finite negative units hunits = .negZero then Number.zero
            else .finite negative units hunits) = .finite false units hunits := by
          cases negative with
          | false => rfl
          | true =>
              obtain rfl : units = 0 := by simpa using hminus
              exact if_pos rfl
        rw [if_neg hminus, hplain]
        exact .done _

end Source

namespace Value

open Script

mutual

/-- The expression of a value settles to the value, with unsigned zeros. -/
theorem settles_expr (h : context.NamesNumbers) :
    ∀ v : Value, v.Keyed → v.expr.script.Settles context v.unsigned
  | null, _ => .done null
  | boolean b, _ => .done (boolean b)
  | string s, _ => .done (string s)
  | number x, _ => by
      rw [expr, unsigned]
      exact Source.settles_numberExpr h x
  | array items, .array hitems => by
      rw [expr, unsigned, Expr.script]
      exact (settles_itemExprs h items hitems).map
  | object fields, .object hdistinct hfields => by
      have hunsigned : (unsignedFields fields).Distinct := by
        rw [Fields.Distinct, unsignedFields_keys]
        exact hdistinct
      have hmap := (settles_fieldExprs h fields hfields).map
        (f := fun entries => object (Fields.insertAll [] entries))
      rw [expr, unsigned, Expr.script]
      rwa [Fields.insertAll_nil hunsigned] at hmap

theorem settles_itemExprs (h : context.NamesNumbers) :
    ∀ items : List Value, (∀ item ∈ items, item.Keyed) →
      (Expr.scripts (itemExprs items)).Settles context (unsignedItems items)
  | [], _ => .done []
  | item :: rest, hitems => by
      obtain ⟨hitem, hrest⟩ := List.forall_mem_cons.mp hitems
      rw [itemExprs, unsignedItems, Expr.scripts]
      exact (settles_expr h item hitem).bind (settles_itemExprs h rest hrest).map

theorem settles_fieldExprs (h : context.NamesNumbers) :
    ∀ fields : List (String × Value), (∀ field ∈ fields, field.2.Keyed) →
      (Expr.entryScripts (fieldExprs fields)).Settles context (unsignedFields fields)
  | [], _ => .done []
  | (name, value) :: rest, hfields => by
      obtain ⟨hvalue, hrest⟩ := List.forall_mem_cons.mp hfields
      rw [fieldExprs, unsignedFields, Expr.entryScripts]
      exact (settles_expr h value hvalue).bind (settles_fieldExprs h rest hrest).map

end

theorem parse_source (d : Dialect) (v : Value) :
    Expr.parse d (String.ofList v.source) = .ok v.expr := by
  have hlexes := @lexes_source d [] Lexeme.closes_nil v
  rw [List.append_nil] at hlexes
  have hyields : (Lexer.ofString d (String.ofList v.source)).Yields v.sourceTokens := by
    rw [Lexer.ofString, String.toList_ofList]
    exact Parser.yields_of_lexes hlexes
  exact Expr.parse_of_derivation hyields (expression_sourceTokens v)

/-- In every dialect the source text of a value is an expression.  Wherever the constants are the
built-in ones, it evaluates to the value with unsigned zeros; the first poll ends the evaluation,
and it leaves the evaluator as it was, with the record of the exchanges with the host and the
log. -/
theorem evaluate_source (d : Dialect) {v : Value} (hv : v.Keyed) :
    ∃ e, Expr.parse d (String.ofList v.source) = .ok e ∧
      ∀ evaluator : Evaluator, evaluator.context.NamesNumbers →
        (Task.running e.script).poll evaluator = (.ready (.ok v.unsigned), evaluator) ∧
        e.evaluate evaluator = (.ok v.unsigned, evaluator) := by
  refine ⟨v.expr, parse_source d v, ?_⟩
  intro evaluator hcontext
  have hsettles := settles_expr hcontext v hv
  exact ⟨hsettles.poll, hsettles.runNow⟩

/-- Keys that a dialect would not read as names, and numbers without a literal, two levels deep. -/
theorem evaluate_source_object :
    let v : Value :=
      .object [("NOTE", .array [.number .negZero, .number (.infinite true), .number .nan]),
        ("", .string "a\"b\\")]
    v.Keyed ∧ Context.initial.NamesNumbers ∧
      String.ofList v.source =
        "\x7b\"NOTE\": [0, Number_NEGATIVE_INFINITY, Number_NaN], \"\": \"a\\\"b\\\\\"\x7d" ∧
      ∃ e, Expr.parse .filter (String.ofList v.source) = .ok e ∧
        e.evaluate (.new .initial) =
          (.ok (.object [("NOTE", .array [.number .zero, .number (.infinite true), .number .nan]),
            ("", .string "a\"b\\")]), .new .initial) := by
  intro v
  have hitems : ∀ item ∈ [number .negZero, number (.infinite true), number .nan], item.Keyed := by
    simp [Keyed.number]
  have hkeyed : v.Keyed := by
    refine .object (by decide) (List.forall_mem_cons.mpr ⟨.array hitems, ?_⟩)
    exact List.forall_mem_singleton.mpr (.string _)
  obtain ⟨e, hparse, hevaluate⟩ := evaluate_source .filter hkeyed
  refine ⟨hkeyed, Context.namesNumbers_initial, rfl, e, hparse, ?_⟩
  exact (hevaluate (.new .initial) Context.namesNumbers_initial).2

end Value
end Guest
