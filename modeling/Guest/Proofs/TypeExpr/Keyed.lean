import Guest.Proofs.Expr.Keyed
import Guest.TypeExpr.Script

/-!
# Types with keyed configurations

The record of a type has four fields with different names, of which one holds the configuration and
one the values of the template arguments.  So the value of a union is keyed if the literals in its
configurations are, whatever keyed values a host answers with.
-/

namespace Guest

namespace TypeTerm

open Script

/-- The literals in the configurations of a type are keyed. -/
inductive Keyed : TypeTerm → Prop where
  | mk {name : String} {config : Option Entries} {fullname : String}
      {template : List (List TypeTerm)} :
      (∀ entries ∈ config, ∀ entry ∈ entries, entry.2.Keyed) →
      (∀ us ∈ template, ∀ t ∈ us, Keyed t) → Keyed ⟨name, config, fullname, template⟩

theorem ensures_configScript {config : Option Entries}
    (h : ∀ entries ∈ config, ∀ entry ∈ entries, entry.2.Keyed) :
    (configScript config).Ensures fun v => ∃ fields : Fields,
      (Value.object fields).Keyed ∧ v = .object fields := by
  cases config with
  | none => exact .done ⟨[], .object List.nodup_nil (List.forall_mem_nil _), rfl⟩
  | some entries =>
      have hentries := Expr.ensures_entryScripts fun entry hentry =>
        (h entries rfl entry hentry).ensures
      rw [configScript, Expr.script]
      exact hentries.map fun fields hfields => ⟨_, Value.keyed_insertAll hfields, rfl⟩

theorem keyed_record {name fullname : String} {config : Value} {template : List Value}
    (hconfig : config.Keyed) (htemplate : ∀ argument ∈ template, argument.Keyed) :
    (record name config fullname template).Keyed := by
  have hdistinct : Fields.Distinct [("name", .string name), ("config", config),
      ("fullname", .string fullname), ("template", .array template)] :=
    (by decide : ["name", "config", "fullname", "template"].Nodup)
  refine .object hdistinct (List.forall_mem_cons.mpr ⟨.string _, List.forall_mem_cons.mpr
    ⟨hconfig, List.forall_mem_cons.mpr ⟨.string _, List.forall_mem_singleton.mpr ?_⟩⟩⟩)
  exact .array htemplate

mutual

theorem Keyed.ensures : ∀ t : TypeTerm, t.Keyed → (script t).Ensures Value.Keyed
  | ⟨name, config, fullname, template⟩, .mk hconfig htemplate => by
      rw [script]
      apply (ensures_configScript hconfig).bind
      rintro _ ⟨fields, hfields, rfl⟩
      exact (ensures_arguments template htemplate).map fun vs hvs => keyed_record hfields hvs

theorem ensures_members : ∀ us : List TypeTerm, (∀ t ∈ us, t.Keyed) →
    (memberScripts us).Ensures fun vs => ∀ v ∈ vs, v.Keyed
  | [], _ => .done (List.forall_mem_nil _)
  | t :: rest, h => by
      obtain ⟨ht, hrest⟩ := List.forall_mem_cons.mp h
      rw [memberScripts]
      exact (Keyed.ensures t ht).bind fun v hv =>
        (ensures_members rest hrest).map fun vs hvs => List.forall_mem_cons.mpr ⟨hv, hvs⟩

theorem ensures_arguments : ∀ template : List (List TypeTerm),
    (∀ us ∈ template, ∀ t ∈ us, t.Keyed) →
    (argumentScripts template).Ensures fun vs => ∀ v ∈ vs, v.Keyed
  | [], _ => .done (List.forall_mem_nil _)
  | us :: rest, h => by
      obtain ⟨hus, hrest⟩ := List.forall_mem_cons.mp h
      rw [argumentScripts]
      exact (ensures_members us hus).bind fun members hmembers =>
        (ensures_arguments rest hrest).map fun vs hvs =>
          List.forall_mem_cons.mpr ⟨.array hmembers, hvs⟩

end

end TypeTerm

namespace TypeUnion

variable {union : TypeUnion}

/-- The literals in the configurations of a union are keyed. -/
def Keyed (union : TypeUnion) : Prop := ∀ t ∈ union, t.Keyed

theorem Keyed.ensures (h : union.Keyed) : union.script.Ensures Value.Keyed :=
  (TypeTerm.ensures_members union h).map fun _ hmembers => .array hmembers

end TypeUnion

end Guest
