import Guest.Proofs.TypeExpr.Steps

/-!
# Reading canonical type text

The text of a record is read back by the parser of types.  Nested template arguments end in a run
of closing angle brackets, which the lexer reads as longer signs; the parser stands inside of such
a sign after each of the brackets but the last, and its place in the source still tells how much
has been consumed.  Hence the text that each type keeps is its own text.
-/

namespace Guest

open Lexeme

namespace TypeRecord

/-! ## The parts of canonical text -/

/-- The text of template arguments without the brackets around them. -/
def argumentsText : List (List TypeRecord) → List Char
  | [] => []
  | [argument] => unionChars argument
  | argument :: rest => unionChars argument ++ ',' :: ' ' :: argumentsText rest

theorem chars_eq (r : TypeRecord) :
    r.chars = r.name.toList ++ (templateChars r.template ++ configChars r.config) := by
  obtain ⟨name, config, fullname, template⟩ := r
  rw [chars, List.append_assoc, configChars]

theorem unionChars_argumentChars (argument : List TypeRecord) (rest : List (List TypeRecord)) :
    unionChars argument ++ argumentChars rest = argumentsText (argument :: rest) ++ ['>'] := by
  induction rest generalizing argument with
  | nil => rw [argumentsText, argumentChars]
  | cons next more ih =>
      have hmore := ih next
      rw [argumentChars, List.cons_append, List.cons_append, hmore]
      simp [argumentsText]

theorem templateChars_cons (argument : List TypeRecord) (rest : List (List TypeRecord)) :
    templateChars (argument :: rest) = '<' :: (argumentsText (argument :: rest) ++ ['>']) := by
  rw [templateChars, List.cons_append, unionChars_argumentChars]

/-- The records with a canonical text: names are read as names, no configuration has a key twice,
and a template argument is not empty. -/
inductive WellFormed : TypeRecord → Prop where
  | mk {name : String} {config : Fields} {fullname : String}
      {template : List (List TypeRecord)} :
      Token.IsName name → (Value.object config).Keyed →
      (∀ argument ∈ template, argument ≠ []) →
      (∀ argument ∈ template, ∀ member ∈ argument, WellFormed member) →
      WellFormed ⟨name, config, fullname, template⟩

/-! ## What the text is read as -/

mutual

/-- The type that the text of a record is read as. -/
def term : TypeRecord → TypeTerm
  | ⟨name, config, fullname, template⟩ =>
    ⟨name, configEntries config, String.ofList (chars ⟨name, config, fullname, template⟩),
      argumentTerms template⟩

/-- The types of a union. -/
def unionTerms : List TypeRecord → List TypeTerm
  | [] => []
  | member :: rest => term member :: unionTerms rest

/-- The types of template arguments. -/
def argumentTerms : List (List TypeRecord) → List (List TypeTerm)
  | [] => []
  | argument :: rest => unionTerms argument :: argumentTerms rest

end

mutual

/-- How many names and signs a record has, apart from its configuration. -/
def size : TypeRecord → Nat
  | ⟨_, _, _, template⟩ => 1 + templateSize template

/-- How many names and signs a union has. -/
def unionSize : List TypeRecord → Nat
  | [] => 0
  | [member] => size member
  | member :: rest => size member + 1 + unionSize rest

/-- How many names and signs template arguments have, each with the sign before it. -/
def templateSize : List (List TypeRecord) → Nat
  | [] => 0
  | argument :: rest => 1 + unionSize argument + templateSize rest

end

end TypeRecord

/-! ## Texts of types start with a name -/

namespace TypeRecord

variable {tail : List Char} {us : List TypeRecord} {arguments : List (List TypeRecord)}

theorem closes_templateChars (template : List (List TypeRecord)) (htail : Closes tail) :
    Closes (templateChars template ++ tail) := by
  cases template with
  | nil => exact htail
  | cons argument rest =>
      rw [templateChars_cons]
      exact closes_cons.mpr (by decide)

theorem startsName_chars {r : TypeRecord} (hr : r.WellFormed) (htail : Closes tail) :
    StartsName (r.chars ++ tail) := by
  obtain ⟨hname, -, -, -⟩ := hr
  rw [chars_eq, List.append_assoc, List.append_assoc]
  exact ⟨_, _, rfl, hname, closes_templateChars _ (closes_configChars _ htail)⟩

theorem startsName_unionChars (hne : us ≠ []) (hus : ∀ r ∈ us, r.WellFormed)
    (htail : Closes tail) : StartsName (unionChars us ++ tail) := by
  cases us with
  | nil => exact absurd rfl hne
  | cons r rest =>
      have hr := hus r List.mem_cons_self
      cases rest with
      | nil =>
          rw [unionChars]
          exact startsName_chars hr htail
      | cons next more =>
          rw [unionChars, List.append_assoc]
          · exact startsName_chars hr (closes_cons.mpr (by decide))
          · simp

theorem startsName_argumentsText (hne : arguments ≠ []) (hargs : ∀ us ∈ arguments, us ≠ [])
    (hwell : ∀ us ∈ arguments, ∀ r ∈ us, r.WellFormed) (htail : Closes tail) :
    StartsName (argumentsText arguments ++ tail) := by
  cases arguments with
  | nil => exact absurd rfl hne
  | cons us rest =>
      have hus := hargs us List.mem_cons_self
      have hmembers := hwell us List.mem_cons_self
      cases rest with
      | nil =>
          rw [argumentsText]
          exact startsName_unionChars hus hmembers htail
      | cons next more =>
          rw [argumentsText, List.append_assoc]
          · exact startsName_unionChars hus hmembers (closes_delimiter .comma)
          · simp

end TypeRecord

/-! ## Types -/

namespace Parse

open Guest.Parser TypeRecord

variable {gap : List Char} {depth : Nat}

theorem readsText_templateIn {template : List (List TypeRecord)}
    (hname : ∀ tail, Closes tail → template ≠ [] → StartsName (argumentsText template ++ tail))
    (ih : template ≠ [] → ReadsText (argumentsIn depth) (argumentsText template)
      (argumentTerms template) (Stops ['>'])) :
    ReadsText (templateIn (depth + 1)) (templateChars template) (argumentTerms template)
      (Stops ['\x7b', '|', ',', '>']) := by
  rw [templateIn]
  cases template with
  | nil =>
      intro before tail p htail hp
      have hfalse : Gives (accept .less) p false p :=
        gives_accept_false_of_stops rfl (by decide) htail hp
      rw [templateChars, List.append_nil]
      exact ⟨p, hfalse.bind (gives_pure.mpr ⟨rfl, rfl⟩), hp⟩
  | cons argument rest =>
      have hne : argument :: rest ≠ [] := List.cons_ne_nil _ _
      have hopen : ReadsText (accept .less) ['<'] true
          (fun tail => Ready .extended tail ∧ Starts (fun c => isNameStart c = true) tail) :=
        readsText_accept (fun _ h => h.1) fun _ h => lexes_less h.2
      have hclose : ReadsText closingAngle ['>'] ()
          (fun tail => Ready .extended tail ∧ Starts (· ≠ '=') tail) :=
        fun _ _ _ htail hp => exists_closingAngle hp htail.1 htail.2
      have hargs : ReadsText (argumentsIn depth >>= fun us => closingAngle >>= fun _ => pure us)
          (argumentsText (argument :: rest) ++ ['>']) (argumentTerms (argument :: rest))
          (fun tail => Ready .extended tail ∧ Starts (· ≠ '=') tail) := by
        apply (ih hne).bind (hclose.map _)
        intro tail htail
        exact .angle (List.mem_cons_self ..) htail.2
      rw [templateChars_cons]
      change ReadsText _ (['<'] ++ (argumentsText (argument :: rest) ++ ['>'])) _ _
      refine hopen.bind (hargs.mono fun _ h => ⟨h.ready, h.starts_ne (by decide)⟩) ?_
      intro tail htail
      have hstarts := hname (['>'] ++ tail) (closes_cons.mpr (by decide)) hne
      rw [List.append_assoc]
      exact ⟨hstarts.ready (List.forall_mem_nil _), hstarts.starts⟩

theorem ready_templateChars {template : List (List TypeRecord)} {tail : List Char}
    (hname : ∀ tail, Closes tail → template ≠ [] → StartsName (argumentsText template ++ tail))
    (htail : Ready .extended tail) : Ready .extended (templateChars template ++ tail) := by
  cases template with
  | nil => exact htail
  | cons argument rest =>
      have hstarts := hname (['>'] ++ tail) (closes_cons.mpr (by decide)) (List.cons_ne_nil _ _)
      rw [templateChars_cons, List.cons_append, List.append_assoc]
      exact ready_of_lexes (lexes_less hstarts.starts)

/-- A single type, when its template arguments are read. -/
theorem readsText_termIn {name fullname : String} {config : Fields}
    {template : List (List TypeRecord)} (hname : Token.IsName name)
    (hgap : ∀ c ∈ gap, Text.isBlank c = true)
    (hready : ∀ tail, Ready .extended tail → Ready .extended (templateChars template ++ tail))
    (ih : ReadsText (templateIn depth) (templateChars template) (argumentTerms template)
      (Stops ['\x7b', '|', ',', '>'])) :
    ReadsText (termIn (depth + 1)) (gap ++ chars ⟨name, config, fullname, template⟩)
      (term ⟨name, config, fullname, template⟩) (Stops ['|', ',', '>']) := by
  intro before tail p htail hp
  have hconfig := stops_configChars config htail
  rw [chars_eq, List.append_assoc, List.append_assoc, List.append_assoc] at hp
  obtain ⟨q₁, h₁, hq₁⟩ := exists_typeName hname hgap
    (closes_templateChars template hconfig.closes) (hready _ hconfig.ready) hp
  obtain ⟨q₂, h₂, hq₂⟩ := ih hconfig hq₁
  obtain ⟨q₃, h₃, hq₃⟩ := readsText_typeConfig config htail hq₂
  have hwhole : before ++ (gap ++ name.toList) ++ templateChars template ++ configChars config =
      before ++ gap ++ chars ⟨name, config, fullname, template⟩ := by
    simp [chars_eq]
  rw [hwhole] at hq₃
  have h₄ := gives_textFrom hq₃
  rw [List.length_append] at h₄
  rw [termIn, ← List.append_assoc]
  exact ⟨q₃, h₁.bind (h₂.bind (h₃.bind (h₄.bind (gives_pure.mpr ⟨rfl, rfl⟩)))), hq₃⟩

mutual

/-- The text of a well-formed record is read as its type. -/
theorem readsText_term {gap : List Char} (hgap : ∀ c ∈ gap, Text.isBlank c = true) :
    ∀ r : TypeRecord, r.WellFormed → ∀ depth, 4 * r.size ≤ depth →
      ReadsText (termIn depth) (gap ++ r.chars) r.term (Stops ['|', ',', '>'])
  | ⟨name, config, fullname, template⟩, .mk hname _ hne hwell, depth, hdepth => by
      rw [size] at hdepth
      obtain ⟨depth, rfl⟩ : ∃ k, depth = k + 2 := ⟨depth - 2, by omega⟩
      have hargs (hsome : template ≠ []) : ReadsText (argumentsIn depth) (argumentsText template)
          (argumentTerms template) (Stops ['>']) :=
        readsText_arguments (List.forall_mem_nil _) template hsome hne hwell depth (by omega)
      have hstarts (tail : List Char) (htail : Closes tail) (hsome : template ≠ []) :
          StartsName (argumentsText template ++ tail) :=
        startsName_argumentsText hsome hne hwell htail
      apply readsText_termIn hname hgap
      · intro tail htail
        exact ready_templateChars hstarts htail
      · exact readsText_templateIn hstarts hargs

/-- The text of a union is read as its types. -/
theorem readsText_union {gap : List Char} (hgap : ∀ c ∈ gap, Text.isBlank c = true) :
    ∀ us : List TypeRecord, us ≠ [] → (∀ r ∈ us, r.WellFormed) →
      ∀ depth, 4 * unionSize us + 1 ≤ depth →
        ReadsText (unionIn depth) (gap ++ unionChars us) (unionTerms us) (Stops [',', '>'])
  | [], hne, _, _, _ => absurd rfl hne
  | [r], _, hwell, depth, hdepth => by
      simp only [unionSize] at hdepth
      obtain ⟨depth, rfl⟩ : ∃ k, depth = k + 1 := ⟨depth - 1, by omega⟩
      have hr := readsText_term hgap r (hwell r List.mem_cons_self) depth (by omega)
      intro before tail p htail hp
      obtain ⟨q, hgives, hq⟩ := hr (htail.mono (List.subset_cons_self _ _)) hp
      have hbar : Gives (accept .bar) q false q :=
        gives_accept_false_of_stops rfl (by decide) htail hq
      rw [unionIn]
      exact ⟨q, hgives.bind (hbar.bind (gives_pure.mpr ⟨rfl, rfl⟩)), hq⟩
  | r :: next :: more, _, hwell, depth, hdepth => by
      simp only [unionSize] at hdepth
      obtain ⟨depth, rfl⟩ : ∃ k, depth = k + 1 := ⟨depth - 1, by omega⟩
      obtain ⟨hr, hmore⟩ := List.forall_mem_cons.mp hwell
      have hne : next :: more ≠ [] := List.cons_ne_nil _ _
      have hterm := readsText_term hgap r hr depth (by omega)
      have hunion := readsText_union isBlank_gap (next :: more) hne hmore depth (by omega)
      have htext : gap ++ unionChars (r :: next :: more) =
          gap ++ r.chars ++ ([' ', '|'] ++ ([' '] ++ unionChars (next :: more))) := by
        simp [unionChars]
      rw [htext, unionIn]
      refine hterm.bind (readsText_bar.bind (hunion.map _) ?_) ?_
      · intro tail htail
        have hstarts := startsName_unionChars hne hmore htail.closes
        rw [List.append_assoc]
        exact ⟨hstarts.ready isBlank_gap, _, rfl⟩
      · intro tail _
        exact .bar (List.mem_cons_self ..)

/-- The text of template arguments is read as their types. -/
theorem readsText_arguments {gap : List Char} (hgap : ∀ c ∈ gap, Text.isBlank c = true) :
    ∀ arguments : List (List TypeRecord), arguments ≠ [] → (∀ us ∈ arguments, us ≠ []) →
      (∀ us ∈ arguments, ∀ r ∈ us, r.WellFormed) →
      ∀ depth, 4 * templateSize arguments + 1 ≤ depth →
        ReadsText (argumentsIn depth) (gap ++ argumentsText arguments) (argumentTerms arguments)
          (Stops ['>'])
  | [], hsome, _, _, _, _ => absurd rfl hsome
  | [us], _, hne, hwell, depth, hdepth => by
      rw [templateSize] at hdepth
      obtain ⟨depth, rfl⟩ : ∃ k, depth = k + 1 := ⟨depth - 1, by omega⟩
      have hus := readsText_union hgap us (hne us List.mem_cons_self)
        (hwell us List.mem_cons_self) depth (by omega)
      intro before tail p htail hp
      obtain ⟨q, hgives, hq⟩ := hus (htail.mono (List.subset_cons_self _ _)) hp
      have hcomma : Gives (accept .comma) q false q :=
        gives_accept_false_of_stops rfl (by decide) htail hq
      rw [argumentsIn]
      exact ⟨q, hgives.bind (hcomma.bind (gives_pure.mpr ⟨rfl, rfl⟩)), hq⟩
  | us :: next :: more, _, hne, hwell, depth, hdepth => by
      rw [templateSize] at hdepth
      obtain ⟨depth, rfl⟩ : ∃ k, depth = k + 1 := ⟨depth - 1, by omega⟩
      obtain ⟨hus, hmore⟩ := List.forall_mem_cons.mp hwell
      obtain ⟨hsome, hnext⟩ := List.forall_mem_cons.mp hne
      have hunion := readsText_union hgap us hsome hus depth (by omega)
      have harguments := readsText_arguments isBlank_gap (next :: more) (List.cons_ne_nil _ _)
        hnext hmore depth (by omega)
      have htext : gap ++ argumentsText (us :: next :: more) =
          gap ++ unionChars us ++ ([','] ++ ([' '] ++ argumentsText (next :: more))) := by
        simp [argumentsText]
      rw [htext, argumentsIn]
      refine hunion.bind (readsText_comma.bind (harguments.map _) ?_) ?_
      · intro tail htail
        have hstarts := startsName_argumentsText (List.cons_ne_nil _ _) hnext hmore htail.closes
        rw [List.append_assoc]
        exact hstarts.ready isBlank_gap
      · intro tail _
        exact .of_delimiter .comma (List.mem_cons_self ..)

end

end Parse

/-! ## Whole texts -/

namespace TypeRecord

theorem name_length_pos {r : TypeRecord} (hr : r.WellFormed) : 0 < r.name.toList.length := by
  obtain ⟨hname, -, -, -⟩ := hr
  obtain ⟨c, rest, hchars, -⟩ := (isWord_of_isName hname).1.start
  rw [hchars]
  exact Nat.succ_pos _

theorem templateChars_length_le (arguments : List (List TypeRecord)) :
    (templateChars arguments).length ≤ (argumentChars arguments).length := by
  cases arguments with
  | nil => exact Nat.zero_le _
  | cons us rest =>
      rw [templateChars, argumentChars]
      simp only [List.length_append, List.length_cons]
      omega

mutual

theorem size_le :
    ∀ r : TypeRecord, r.WellFormed → r.size + r.name.toList.length ≤ r.chars.length + 1
  | ⟨name, config, fullname, template⟩, .mk _ _ _ hwell => by
      have htemplate := templateSize_le template hwell
      rw [size, chars_eq]
      simp only [List.length_append]
      omega

theorem unionSize_le :
    ∀ us : List TypeRecord, (∀ r ∈ us, r.WellFormed) → unionSize us ≤ (unionChars us).length
  | [], _ => Nat.le_refl _
  | [r], hwell => by
      have hr := hwell r List.mem_cons_self
      have hname := name_length_pos hr
      have hsize := size_le r hr
      rw [unionSize, unionChars]
      omega
  | r :: next :: more, hwell => by
      obtain ⟨hr, hmore⟩ := List.forall_mem_cons.mp hwell
      have hname := name_length_pos hr
      have hsize := size_le r hr
      have hrest := unionSize_le (next :: more) hmore
      rw [unionSize, unionChars]
      · simp only [List.length_append, List.length_cons]
        omega
      · simp
      · simp

theorem templateSize_le :
    ∀ arguments : List (List TypeRecord), (∀ us ∈ arguments, ∀ r ∈ us, r.WellFormed) →
      templateSize arguments ≤ (templateChars arguments).length
  | [], _ => Nat.le_refl _
  | us :: rest, hwell => by
      obtain ⟨hus, hrest⟩ := List.forall_mem_cons.mp hwell
      have hunion := unionSize_le us hus
      have harguments := templateSize_le rest hrest
      have hlength := templateChars_length_le rest
      rw [templateSize, templateChars]
      simp only [List.length_append, List.length_cons]
      omega

end

/-- The first name of a union, and how much of its text is left behind the name. -/
theorem exists_name {us : List TypeRecord} (hne : us ≠ []) (hus : ∀ r ∈ us, r.WellFormed) :
    ∃ name rest, unionChars us = String.toList name ++ rest ∧ Token.IsName name ∧ Closes rest ∧
      unionSize us ≤ rest.length + 1 := by
  cases us with
  | nil => exact absurd rfl hne
  | cons r more =>
      obtain ⟨hr, hmore⟩ := List.forall_mem_cons.mp hus
      have hsize := size_le r hr
      have hrest : ∃ after, unionChars (r :: more) = r.chars ++ after ∧ Closes after ∧
          unionSize (r :: more) ≤ r.size + after.length := by
        cases more with
        | nil => exact ⟨[], by simp [unionChars], closes_nil, by simp [unionSize]⟩
        | cons next more =>
            have hlength := unionSize_le (next :: more) hmore
            refine ⟨_, by rw [unionChars]; simp, closes_cons.mpr (by decide), ?_⟩
            rw [unionSize]
            · simp only [List.length_cons]
              omega
            · simp
      obtain ⟨after, hsplit, hafter, hunion⟩ := hrest
      obtain ⟨hname, -, -, -⟩ := hr
      rw [chars_eq, List.append_assoc, List.append_assoc] at hsplit
      rw [chars_eq] at hsize
      refine ⟨_, _, hsplit, hname, closes_templateChars _ (closes_configChars _ hafter), ?_⟩
      simp only [List.length_append] at hsize ⊢
      omega

end TypeRecord

namespace TypeUnion

open Parse Guest.Parser TypeRecord

variable {us : List TypeRecord}

/-- The canonical text of a union is read as its types. -/
theorem parse_unionText (hne : us ≠ []) (hus : ∀ r ∈ us, r.WellFormed) :
    parse (unionText us) = .ok (unionTerms us) := by
  obtain ⟨name, rest, hsplit, hname, hclose, hsize⟩ := exists_name hne hus
  have hfront := front_name hname (List.forall_mem_nil _) hclose
  rw [List.nil_append, ← hsplit] at hfront
  obtain ⟨p, hofLexer, hp, -⟩ := exists_faces_of_ready ⟨_, _, _, _, hfront⟩
  have hdepth : 4 * unionSize us + 1 ≤ p.depth := by
    obtain ⟨gap, w, hshows, -⟩ := hp.current
    obtain ⟨-, hrest, -⟩ := hshows.unique hfront (by simp [IsPlain])
    rw [Parser.depth, hrest]
    omega
  rw [← List.append_nil (unionChars us)] at hp
  obtain ⟨q, hgives, hq⟩ := readsText_union (List.forall_mem_nil _) us hne hus p.depth hdepth
    .nil hp
  obtain ⟨r, hend⟩ := hq.exists_end
  have hwhole : Gives wholeType p (unionTerms us) r :=
    gives_wholeType.mpr ⟨q, hgives, hend⟩
  rw [parse, unionText, String.toList_ofList]
  exact run_eq_ok.mpr ⟨p, r, hofLexer, hwhole⟩

end TypeUnion

end Guest
