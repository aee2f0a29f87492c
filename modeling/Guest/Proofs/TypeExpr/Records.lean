import Guest.Command
import Guest.Proofs.TypeExpr.Results

/-!
# Nothing is lost on the way through records

The value of a union is torn down into records, and the command for types builds a value from them
again.  Both ways meet in one script, which makes the records themselves: the script of the union
is this script followed by the step from records to their value, and that step is undone when the
records are taken out.  The script carries the shape of the types along with its records.
-/

namespace Guest

/-! ## The way through JSON -/

namespace Value

mutual

/-- On the way through JSON a value loses the numbers that are not finite, and nothing else. -/
theorem toValue_toJson : ∀ v : Value, v.toJson.toValue = v.withoutNonFinite
  | null => rfl
  | boolean _ => rfl
  | string _ => rfl
  | number x => by
      rw [toJson, withoutNonFinite]
      split
      · rfl
      · rfl
  | array items => by
      rw [toJson, JsonValue.toValue, itemValues_itemsToJson items, withoutNonFinite]
  | object fields => by
      rw [toJson, JsonValue.toValue, fieldValues_fieldsToJson fields, withoutNonFinite]

theorem itemValues_itemsToJson :
    ∀ items : List Value, JsonValue.itemValues (itemsToJson items) = itemsWithoutNonFinite items
  | [] => rfl
  | item :: rest => by
      rw [itemsToJson, JsonValue.itemValues, toValue_toJson item, itemValues_itemsToJson rest,
        itemsWithoutNonFinite]

theorem fieldValues_fieldsToJson :
    ∀ fields : List (String × Value),
      JsonValue.fieldValues (fieldsToJson fields) = fieldsWithoutNonFinite fields
  | [] => rfl
  | (key, value) :: rest => by
      rw [fieldsToJson, JsonValue.fieldValues, toValue_toJson value, fieldValues_fieldsToJson rest,
        fieldsWithoutNonFinite]

end

end Value

namespace TypeRecord

open JsonValue (itemValues fieldValues)
open Value (itemsWithoutNonFinite fieldsWithoutNonFinite withoutNonFinite)

mutual

/-- The JSON value of a record stands for the value of the record. -/
theorem toValue_toJson : ∀ r : TypeRecord, r.toJson.toValue = r.toValue.withoutNonFinite
  | ⟨name, config, fullname, template⟩ => by
      rw [toJson, toValue, TypeTerm.record]
      simp only [JsonValue.toValue, fieldValues, withoutNonFinite, fieldsWithoutNonFinite,
        Value.toValue_toJson, itemValues_templateJson template]

theorem itemValues_unionJson :
    ∀ rs : List TypeRecord, itemValues (unionJson rs) = itemsWithoutNonFinite (unionValues rs)
  | [] => rfl
  | r :: rest => by
      rw [unionJson, itemValues, toValue_toJson r, itemValues_unionJson rest, unionValues,
        itemsWithoutNonFinite]

theorem itemValues_templateJson :
    ∀ template : List (List TypeRecord),
      itemValues (templateJson template) = itemsWithoutNonFinite (templateValues template)
  | [] => rfl
  | rs :: rest => by
      rw [templateJson, itemValues, JsonValue.toValue, itemValues_unionJson rs,
        itemValues_templateJson rest, templateValues, itemsWithoutNonFinite, withoutNonFinite]

end

end TypeRecord

/-! ## The script of the records -/

/-- A record has the name and the source text of a type.  It has one list of records for each
template argument, and one record in it for each member of the argument, in order. -/
inductive TypeTerm.RecordedAs : TypeTerm → TypeRecord → Prop where
  | mk {name : String} {config : Option Entries} {fullname : String} {fields : Fields}
      {template : List (List TypeTerm)} {arguments : List (List TypeRecord)} :
      List.Forall₂ (List.Forall₂ TypeTerm.RecordedAs) template arguments →
      TypeTerm.RecordedAs ⟨name, config, fullname, template⟩ ⟨name, fields, fullname, arguments⟩

namespace TypeTerm

/-- The fields of a configuration; without one there are none. -/
def configFields (config : Option Entries) : Script Fields :=
  match config with
  | some entries => do return Fields.insertAll [] (← Expr.entryScripts entries)
  | none => .done []

mutual

/-- The record of a single type. -/
def recordOf : (t : TypeTerm) → Script { r : TypeRecord // t.RecordedAs r }
  | ⟨name, config, fullname, template⟩ => do
    let fields ← configFields config
    let arguments ← argumentsOf template
    return ⟨⟨name, fields, fullname, arguments.1⟩, .mk arguments.2⟩

/-- The records of single types in order. -/
def membersOf : (us : List TypeTerm) →
    Script { rs : List TypeRecord // List.Forall₂ RecordedAs us rs }
  | [] => .done ⟨[], .nil⟩
  | t :: rest => do
    let r ← recordOf t
    let rs ← membersOf rest
    return ⟨r.1 :: rs.1, .cons r.2 rs.2⟩

/-- The records of template arguments in order. -/
def argumentsOf : (template : List (List TypeTerm)) →
    Script { arguments : List (List TypeRecord) //
      List.Forall₂ (List.Forall₂ RecordedAs) template arguments }
  | [] => .done ⟨[], .nil⟩
  | us :: rest => do
    let rs ← membersOf us
    let arguments ← argumentsOf rest
    return ⟨rs.1 :: arguments.1, .cons rs.2 arguments.2⟩

end

open TypeRecord

theorem configScript_eq (config : Option Entries) :
    configScript config = do return .object (← configFields config) := by
  cases config with
  | none => rfl
  | some entries => simp [configScript, configFields, Expr.script]

mutual

/-- The script of a type makes its record and then the value of the record. -/
theorem script_eq : ∀ t : TypeTerm, script t = do return (← recordOf t).1.toValue
  | ⟨name, config, fullname, template⟩ => by
      simp [script, recordOf, configScript_eq, argumentScripts_eq template, toValue]

theorem memberScripts_eq : ∀ us : List TypeTerm,
    memberScripts us = do return unionValues (← membersOf us).1
  | [] => rfl
  | t :: rest => by
      simp [memberScripts, membersOf, script_eq t, memberScripts_eq rest, unionValues]

theorem argumentScripts_eq : ∀ template : List (List TypeTerm),
    argumentScripts template = do return templateValues (← argumentsOf template).1
  | [] => rfl
  | us :: rest => by
      simp [argumentScripts, argumentsOf, memberScripts_eq us, argumentScripts_eq rest,
        templateValues]

end

end TypeTerm

namespace TypeUnion

open TypeRecord TypeTerm

variable {source : String} {context : Context} {us : TypeUnion} {rs : List TypeRecord}

/-! ## The value and the records of a union -/

theorem script_eq_membersOf (us : TypeUnion) :
    us.script = do return .array (unionValues (← membersOf us).1) := by
  simp [script, memberScripts_eq]

/-- The records of a union are those of its script: none is left out, and no part of one falls back
to a default. -/
theorem recordsScript_eq_membersOf (us : TypeUnion) :
    us.recordsScript = do return (← membersOf us).1 := by
  simp [recordsScript, script_eq_membersOf, ofValue, recordsOf_unionValues]

/-- What an evaluation of the records of a union comes to, as its value and as records. -/
theorem evaluate_and_records (us : TypeUnion) (context : Context) :
    (us.evaluate.isolated context).1 =
        (us.records context).1.map (fun rs => .array (unionValues rs)) ∧
      (us.evaluate.isolated context).2 = (us.records context).2 ∧
      ∀ rs, (us.records context).1 = .ok rs → List.Forall₂ RecordedAs us rs := by
  rw [records_eq_runNow, recordsScript_eq_membersOf, evaluate, script_eq_membersOf,
    Script.isolated_runNow_bind, Script.isolated_runNow_bind, Session.bind_apply,
    Session.bind_apply]
  rcases (membersOf us).runNow.isolated context with ⟨error | found, after⟩
  · refine ⟨rfl, rfl, ?_⟩
    rintro rs h
    cases h
  · refine ⟨rfl, rfl, ?_⟩
    rintro rs h
    cases h
    exact found.2

theorem evaluateSource_of_parse (h : parse source = .ok us) :
    (evaluateSource source context).1 = (us.records context).1.mapError .eval := by
  rw [evaluateSource, h]
  simp only [Except.map, runSource]
  rcases us.records context with ⟨error | found, after⟩
  · rfl
  · rfl

theorem evaluateSource_of_error {error : ParseError} (h : parse source = .error error) :
    (evaluateSource source context).1 = .error (.parse error) := by
  rw [evaluateSource, h]
  rfl

/-- A text evaluates to records exactly if it denotes a union whose value is that of the records,
and then there is one record for each type. -/
theorem evaluateSource_eq_ok_iff : (evaluateSource source context).1 = .ok rs ↔
    ∃ us, parse source = .ok us ∧
      (us.evaluate.isolated context).1 = .ok (.array (unionValues rs)) ∧
      List.Forall₂ RecordedAs us rs := by
  cases hparse : parse source with
  | error error =>
      rw [evaluateSource_of_error hparse]
      simp
  | ok us =>
      obtain ⟨hvalue, -, hshape⟩ := evaluate_and_records us context
      rw [evaluateSource_of_parse hparse]
      simp only [Except.ok.injEq, exists_eq_left', hvalue]
      cases hrecords : (us.records context).1 with
      | error error => simp [Except.mapError, Except.map]
      | ok found =>
          simp only [Except.mapError, Except.map, Except.ok.injEq, Value.array.injEq]
          constructor
          · rintro rfl
            exact ⟨rfl, hshape _ hrecords⟩
          · rintro ⟨hsame, -⟩
            have hfound := recordsOf_unionValues found
            rw [hsame, recordsOf_unionValues] at hfound
            exact hfound.symm

/-- Nothing is lost on the way through records.  The command for types fails with the error of the
bindings, of the source or of the evaluation, whichever comes first, and else gives the value that
an evaluation of the union gives in the same context, with null for the numbers that have no JSON
form.  The records that a text evaluates to in any context have the value of the union that the text
denotes, and the shape of the union down to the last template argument. -/
theorem types_lossless (source : String) :
    (∀ bound, Command.types bound source = do
        let context ← Command.contextOf bound
        let us ← Command.parsed (parse source)
        let v ← (us.evaluate.isolated context).1.mapError CommandError.eval
        return v.withoutNonFinite) ∧
      ∀ context rs, (evaluateSource source context).1 = .ok rs ↔
        ∃ us, parse source = .ok us ∧
          (us.evaluate.isolated context).1 = .ok (.array (unionValues rs)) ∧
          List.Forall₂ RecordedAs us rs := by
  refine ⟨fun bound => ?_, fun context rs => evaluateSource_eq_ok_iff⟩
  rw [Command.types]
  cases Command.contextOf bound with
  | error error => rfl
  | ok context =>
      cases hparse : parse source with
      | error error =>
          change (Command.evaluated (evaluateSource source context).1 >>= _) = _
          rw [evaluateSource_of_error hparse]
          rfl
      | ok us =>
          obtain ⟨hvalue, -, -⟩ := evaluate_and_records us context
          change (Command.evaluated (evaluateSource source context).1 >>= _) =
            ((us.evaluate.isolated context).1.mapError CommandError.eval >>= _)
          rw [evaluateSource_of_parse hparse, hvalue]
          cases (us.records context).1 with
          | error error => rfl
          | ok rs =>
              exact congrArg (fun items => Except.ok (Value.array items))
                (TypeRecord.itemValues_unionJson rs)

end TypeUnion
end Guest
