import Guest.Proofs.Evaluation.Reach
import Guest.Proofs.Value.Keyed

/-!
# Object literals

The entries of an object literal are evaluated one after another, each once, also those whose value
is replaced later.  The object has the keys in the order in which they first come, each with the
value of its last entry.  This holds of every way to drive evaluations that goes through a script as
through its parts one after another.
-/

namespace Guest

/-! ## Setting keys in turn -/

namespace Fields

variable {fields entries : Fields} {key name : String} {v w : Value}

/-- The last entry of a key holds a value. -/
def LastIs (entries : Fields) (key : String) (v : Value) : Prop :=
  ∃ before after, entries = before ++ (key, v) :: after ∧ key ∉ after.map Prod.fst

theorem lastIs_concat : LastIs (entries ++ [(name, w)]) key v ↔
    name = key ∧ w = v ∨ name ≠ key ∧ LastIs entries key v := by
  constructor
  · rintro ⟨before, after, heq, hafter⟩
    rcases List.eq_nil_or_concat after with rfl | ⟨after, last, rfl⟩
    · obtain ⟨-, hlast⟩ := List.append_inj' heq rfl
      cases hlast
      exact .inl ⟨rfl, rfl⟩
    · rw [List.concat_eq_append, ← List.cons_append, ← List.append_assoc] at heq
      obtain ⟨rfl, hlast⟩ := List.append_inj' heq rfl
      cases hlast
      rw [List.concat_eq_append, List.map_append, List.mem_append, not_or] at hafter
      refine .inr ⟨fun hname => hafter.2 (List.mem_singleton.mpr hname.symm), before, after, rfl,
        hafter.1⟩
  · rintro (⟨rfl, rfl⟩ | ⟨hname, before, after, rfl, hafter⟩)
    · exact ⟨entries, [], rfl, List.not_mem_nil⟩
    · refine ⟨before, after ++ [(name, w)], by simp, ?_⟩
      rw [List.map_append, List.mem_append, not_or]
      exact ⟨hafter, fun hmem => hname (List.mem_singleton.mp hmem).symm⟩

theorem insertAll_concat :
    insertAll fields (entries ++ [(key, v)]) = insert (insertAll fields entries) key v :=
  List.foldl_append ..

/-- Setting a key keeps the places of the keys. -/
theorem keys_insert : (insert fields key v).map Prod.fst =
    if key ∈ fields.map Prod.fst then fields.map Prod.fst else fields.map Prod.fst ++ [key] := by
  induction fields with
  | nil => rfl
  | cons field rest ih =>
      obtain ⟨name, old⟩ := field
      rw [insert]
      by_cases hname : name = key
      · rw [if_pos hname, if_pos (hname ▸ List.mem_cons_self)]
        rfl
      · have hmem : key ∈ ((name, old) :: rest).map Prod.fst ↔ key ∈ rest.map Prod.fst := by
          rw [List.map_cons, List.mem_cons, or_iff_right (Ne.symm hname)]
        rw [if_neg hname, List.map_cons, ih]
        by_cases hrest : key ∈ rest.map Prod.fst
        · rw [if_pos hrest, if_pos (hmem.mpr hrest), List.map_cons]
        · rw [if_neg hrest, if_neg (mt hmem.mp hrest), List.map_cons, List.cons_append]

theorem mem_insert_iff (h : fields.Distinct) :
    (key, v) ∈ insert fields name w ↔ name = key ∧ w = v ∨ name ≠ key ∧ (key, v) ∈ fields := by
  induction fields with
  | nil => simp [insert, eq_comm]
  | cons field rest ih =>
      obtain ⟨other, old⟩ := field
      obtain ⟨hother, hrest⟩ := List.nodup_cons.mp h
      rw [insert]
      by_cases hname : other = name
      · subst hname
        have hnot : (other, v) ∉ rest := fun hmem => hother (List.mem_map.mpr ⟨_, hmem, rfl⟩)
        rw [if_pos rfl]
        by_cases hkey : other = key
        · subst hkey
          simp [hnot, eq_comm]
        · simp [hkey, Ne.symm hkey]
      · rw [if_neg hname, List.mem_cons, ih hrest, List.mem_cons]
        by_cases hkey : name = key
        · subst hkey
          simp [Ne.symm hname]
        · simp [hkey]

/-- Setting keys in turn leaves them in the order in which they first come. -/
theorem keys_insertAll (entries : Fields) :
    (insertAll [] entries).map Prod.fst = Mark.firsts (entries.map Prod.fst) := by
  induction entries using List.reverseRecOn with
  | nil => rfl
  | append_singleton entries entry ih =>
      obtain ⟨key, v⟩ := entry
      rw [insertAll_concat, keys_insert, ih, List.map_append]
      by_cases hkey : key ∈ entries.map Prod.fst
      · rw [if_pos (Mark.mem_firsts.mpr hkey)]
        exact (Mark.firsts_concat_of_mem hkey).symm
      · rw [if_neg (mt Mark.mem_firsts.mp hkey)]
        exact (Mark.firsts_concat_of_not_mem hkey).symm

/-- Setting keys in turn leaves the value that was set last. -/
theorem mem_insertAll_iff (entries : Fields) :
    (key, v) ∈ insertAll [] entries ↔ LastIs entries key v := by
  induction entries using List.reverseRecOn with
  | nil =>
      refine ⟨nofun, ?_⟩
      rintro ⟨before, after, heq, -⟩
      simp at heq
  | append_singleton entries entry ih =>
      obtain ⟨name, w⟩ := entry
      have hdistinct : Distinct (insertAll [] entries) := Distinct.insertAll List.nodup_nil
      rw [insertAll_concat, mem_insert_iff hdistinct, lastIs_concat, ih]

/-- The object of some entries: each key once, where it first comes, with the value of its last
entry. -/
structure Merges (entries fields : Fields) : Prop where
  distinct : fields.Distinct
  keys : fields.map Prod.fst = Mark.firsts (entries.map Prod.fst)
  values : ∀ key v, (key, v) ∈ fields ↔ LastIs entries key v

theorem merges_insertAll (entries : Fields) : Merges entries (insertAll [] entries) where
  distinct := Distinct.insertAll List.nodup_nil
  keys := keys_insertAll entries
  values _ _ := mem_insertAll_iff entries

/-- Objects with the same keys in the same order and the same fields are one. -/
theorem eq_of_keys_eq {others : Fields} (h : fields.Distinct)
    (hkeys : fields.map Prod.fst = others.map Prod.fst) (hsub : ∀ field ∈ fields, field ∈ others) :
    fields = others := by
  induction fields generalizing others with
  | nil => exact (List.map_eq_nil_iff.mp hkeys.symm).symm
  | cons field rest ih =>
      cases others with
      | nil => cases hkeys
      | cons other more =>
          obtain ⟨hkey, hrestKeys⟩ := List.cons.inj hkeys
          obtain ⟨hnot, hrest⟩ := List.nodup_cons.mp h
          have hfield : field = other := by
            refine (List.mem_cons.mp (hsub field List.mem_cons_self)).resolve_right fun hmem => ?_
            rw [hrestKeys] at hnot
            exact hnot (List.mem_map.mpr ⟨field, hmem, rfl⟩)
          have htail : rest = more := by
            refine ih hrest hrestKeys fun later hlater => ?_
            refine (List.mem_cons.mp (hsub later (List.mem_cons_of_mem _ hlater))).resolve_left ?_
            rintro rfl
            exact hnot (List.mem_map.mpr ⟨later, hlater, hkey.symm⟩)
          rw [hfield, htail]

/-- Entries have one object. -/
theorem Merges.eq (h : Merges entries fields) : fields = insertAll [] entries := by
  have hset := merges_insertAll entries
  refine eq_of_keys_eq h.distinct (h.keys.trans hset.keys.symm) fun field hfield => ?_
  exact (hset.values _ _).mpr ((h.values _ _).mp hfield)

end Fields

/-! ## Ways to drive an evaluation -/

namespace Task

variable {α β : Type} {f : α → Script β}

/-- Polling an evaluation that a computation follows polls the evaluation first. -/
theorem poll_bind (task : Task α) (evaluator : Evaluator) :
    (task.bind f).poll evaluator = Evaluator.andThen (task.poll evaluator) f := by
  cases task with
  | running script => exact script.advance_bind f evaluator
  | awaiting name answer polls next =>
      rcases polls with _ | _ | polls
      · rfl
      · exact Evaluator.receive_andThen fun v evaluator => (next v).advance_bind f evaluator
      · rfl

end Task

namespace Evaluator

variable {α β : Type} {poll : Poll α × Evaluator} {a : α} {b : β} {evaluator stop : Evaluator}
  {f : α → Script β}

/-- Polling on comes to a value. -/
def Concludes (poll : Poll α × Evaluator) (a : α) (stop : Evaluator) : Prop :=
  ∃ patience, conclude patience poll = (some (.ok a), stop)

theorem concludes_ready {result : Except EvalError α} :
    Concludes (.ready result, evaluator) a stop ↔ result = .ok a ∧ evaluator = stop := by
  constructor
  · rintro ⟨patience, h⟩
    cases h
    exact ⟨rfl, rfl⟩
  · rintro ⟨rfl, rfl⟩
    exact ⟨0, rfl⟩

theorem concludes_pending {task : Task α} :
    Concludes (.pending task, evaluator) a stop ↔ Concludes (task.poll evaluator) a stop := by
  constructor
  · rintro ⟨_ | patience, h⟩
    · cases h
    · exact ⟨patience, block_eq.symm.trans h⟩
  · rintro ⟨patience, h⟩
    exact ⟨patience + 1, block_eq.trans h⟩

theorem exists_concludes_of_conclude {patience : Nat}
    (h : conclude patience (andThen poll f) = (some (.ok b), stop)) :
    ∃ a middle, Concludes poll a middle ∧ Concludes ((f a).advance middle) b stop := by
  induction patience generalizing poll with
  | zero =>
      rcases poll with ⟨(error | a) | task, middle⟩
      · cases h
      · exact ⟨a, middle, concludes_ready.mpr ⟨rfl, rfl⟩, 0, h⟩
      · cases h
  | succ patience ih =>
      rcases poll with ⟨(error | a) | task, middle⟩
      · cases h
      · exact ⟨a, middle, concludes_ready.mpr ⟨rfl, rfl⟩, patience + 1, h⟩
      · have hpoll : conclude patience (andThen (task.poll middle) f) = (some (.ok b), stop) := by
          rw [← task.poll_bind, ← block_eq]
          exact h
        obtain ⟨a, after, htask, hrest⟩ := ih hpoll
        exact ⟨a, after, concludes_pending.mpr htask, hrest⟩

theorem concludes_of_conclude {patience : Nat} {middle : Evaluator}
    (h : conclude patience poll = (some (.ok a), middle))
    (hrest : Concludes ((f a).advance middle) b stop) : Concludes (andThen poll f) b stop := by
  induction patience generalizing poll with
  | zero =>
      rcases poll with ⟨result | task, evaluator⟩
      · cases h
        exact hrest
      · cases h
  | succ patience ih =>
      rcases poll with ⟨result | task, evaluator⟩
      · cases h
        exact hrest
      · apply concludes_pending.mpr
        rw [task.poll_bind]
        exact ih (block_eq.symm.trans h)

/-- Polling on through a computation that follows comes to an end where both do. -/
theorem concludes_andThen : Concludes (andThen poll f) b stop ↔
    ∃ a middle, Concludes poll a middle ∧ Concludes ((f a).advance middle) b stop := by
  constructor
  · rintro ⟨patience, h⟩
    exact exists_concludes_of_conclude h
  · rintro ⟨a, middle, ⟨patience, h⟩, hrest⟩
    exact concludes_of_conclude h hrest

end Evaluator

namespace Script

variable {α β : Type}

/-- An evaluation without waiting comes to a value. -/
def EndsNow (script : Script α) (start : Evaluator) (a : α) (stop : Evaluator) : Prop :=
  script.runNow start = (.ok a, stop)

/-- An evaluation that is polled often enough comes to a value. -/
def EndsPolled (script : Script α) (start : Evaluator) (a : α) (stop : Evaluator) : Prop :=
  ∃ patience, (Task.running script).block patience start = (some (.ok a), stop)

/-- The ways to drive scripts. -/
inductive Drive where
  | now
  | polled

/-- A script that is driven in a way comes to a value. -/
def Ends : Drive → Script α → Evaluator → α → Evaluator → Prop
  | .now => EndsNow
  | .polled => EndsPolled

variable {drive : Drive} {script : Script α} {f : α → Script β} {a c : α} {b : β}
  {start stop : Evaluator}

theorem ends_polled_iff :
    script.Ends .polled start c stop ↔ Evaluator.Concludes (script.advance start) c stop := by
  simp only [Ends, EndsPolled, Evaluator.block_running, Evaluator.Concludes]

theorem ends_done : (done a).Ends drive start c stop ↔ a = c ∧ start = stop := by
  cases drive with
  | now =>
      constructor
      · intro h
        cases h
        exact ⟨rfl, rfl⟩
      · rintro ⟨rfl, rfl⟩
        rfl
  | polled =>
      rw [ends_polled_iff, advance, Evaluator.concludes_ready, Except.ok.injEq]

theorem ends_bind : (script >>= f).Ends drive start b stop ↔
    ∃ a middle, script.Ends drive start a middle ∧ (f a).Ends drive middle b stop := by
  cases drive with
  | now =>
      change (script >>= f).runNow start = _ ↔ _
      rw [runNow_bind, Session.bind_apply]
      constructor
      · intro h
        rcases hscript : script.runNow start with ⟨error | a, middle⟩
        · rw [hscript] at h
          cases h
        · rw [hscript] at h
          exact ⟨a, middle, hscript, h⟩
      · rintro ⟨a, middle, hscript, hrest⟩
        rw [show script.runNow start = _ from hscript]
        exact hrest
  | polled =>
      have hadvance : (script >>= f).advance start = Evaluator.andThen (script.advance start) f :=
        script.advance_bind f start
      simp only [ends_polled_iff, hadvance]
      exact Evaluator.concludes_andThen

end Script

/-! ## Entries in turn -/

namespace Expr

open Script

variable {drive : Drive} {entries : Entries} {start stop : Evaluator} {values : Fields} {w : Value}

/-- An expression that is evaluated in a way comes to a value. -/
def EvaluatesTo (drive : Drive) (e : Expr) : Evaluator → Value → Evaluator → Prop :=
  e.script.Ends drive

/-- The entries of an object are evaluated one after another: each once, from where the one before
it has ended, also if a later one has its key. -/
inductive EvaluateInTurn (drive : Drive) :
    Entries → Evaluator → Fields → Evaluator → Prop where
  | nil {start : Evaluator} :
      EvaluateInTurn drive [] start [] start
  | cons {key : String} {e : Expr} {rest : Entries} {v : Value} {values : Fields}
      {start middle stop : Evaluator} :
      e.EvaluatesTo drive start v middle → EvaluateInTurn drive rest middle values stop →
      EvaluateInTurn drive ((key, e) :: rest) start ((key, v) :: values) stop

theorem ends_entryScripts : (entryScripts entries).Ends drive start values stop ↔
    EvaluateInTurn drive entries start values stop := by
  induction entries generalizing start values with
  | nil =>
      rw [entryScripts, ends_done]
      constructor
      · rintro ⟨rfl, rfl⟩
        exact .nil
      · intro h
        cases h
        exact ⟨rfl, rfl⟩
  | cons entry rest ih =>
      obtain ⟨key, e⟩ := entry
      rw [entryScripts, ends_bind]
      constructor
      · rintro ⟨v, middle, he, hrest⟩
        obtain ⟨more, after, hmore, hdone⟩ := ends_bind.mp hrest
        obtain ⟨rfl, rfl⟩ := ends_done.mp hdone
        exact .cons he (ih.mp hmore)
      · intro h
        cases h with
        | cons he hrest =>
            exact ⟨_, _, he, ends_bind.mpr ⟨_, _, ih.mpr hrest, ends_done.mpr ⟨rfl, rfl⟩⟩⟩

/-- An object literal evaluates to the object of its entries, which are evaluated in turn. -/
theorem evaluatesTo_object : (Expr.object entries).EvaluatesTo drive start w stop ↔
    ∃ values fields, EvaluateInTurn drive entries start values stop ∧
      Fields.Merges values fields ∧ w = .object fields := by
  rw [EvaluatesTo, script, ends_bind]
  constructor
  · rintro ⟨values, middle, hvalues, hdone⟩
    obtain ⟨rfl, rfl⟩ := ends_done.mp hdone
    exact ⟨values, _, ends_entryScripts.mp hvalues, Fields.merges_insertAll values, rfl⟩
  · rintro ⟨values, fields, hvalues, hmerges, rfl⟩
    have hobject : Value.object (Fields.insertAll [] values) = .object fields := by
      rw [hmerges.eq]
    exact ⟨values, stop, ends_entryScripts.mpr hvalues, ends_done.mpr ⟨hobject, rfl⟩⟩

end Expr
end Guest
