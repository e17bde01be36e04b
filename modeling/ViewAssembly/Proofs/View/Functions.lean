import ViewAssembly.Proofs.Script.Inlined
import ViewAssembly.Proofs.View.Blockwise

/-!
# References to functions, checked and inlined

A reference to a function is checked when its block is validated and resolved when the block is
assembled. If every function that is named is found, the two agree on which references are no
references: one of them is found fault with exactly if it is left out
(`Rule.faults_iff_left_out`). The kind of the component makes no difference.
-/

namespace ViewAssembly

open Report

/-! ### Findings of several reports -/

namespace Report

variable {i : Issue} {r s : Report} {severity : Severity} {path : String} {rules : List String}

lemma mem_findings_append :
    i ∈ (r ++ s).findings severity ↔ i ∈ r.findings severity ∨ i ∈ s.findings severity := by
  cases severity <;> simp [findings]

lemma mem_findings_concat_map {α : Type} {xs : List α} {f : α → Report} :
    i ∈ (concat (xs.map f)).findings severity ↔ ∃ x ∈ xs, i ∈ (f x).findings severity := by
  rw [findings_concat]
  simp

@[simp] lemma not_mem_findings_empty : i ∉ empty.findings severity := by
  rw [findings_empty]
  exact List.not_mem_nil

@[simp] lemma mem_findings_error {rule message : String} :
    i ∈ (error path rule message).findings severity ↔
      severity = .error ∧ i = ⟨path, rule, message⟩ := by
  cases severity <;> simp [findings, error]

@[simp] lemma mem_findings_warning {rule message : String} :
    i ∈ (warning path rule message).findings severity ↔
      severity = .warning ∧ i = ⟨path, rule, message⟩ := by
  cases severity <;> simp [findings, warning]

lemma mem_findings_unless {c : Prop} [Decidable c] :
    i ∈ (if c then empty else r).findings severity ↔ ¬ c ∧ i ∈ r.findings severity := by
  split_ifs with h <;> simp [h]

end Report

/-! ### Faults of a reference -/

/-- What may be wrong with a reference to a function. -/
inductive FunctionFault where
  /-- It is neither a text nor an object. -/
  | type
  /-- It is an object that names no file. -/
  | file
  /-- It is an object that names no function. -/
  | function
deriving DecidableEq

namespace FunctionFault

/-- The rule that finds the fault. -/
def rule : FunctionFault → String
  | type     => "function_type"
  | file     => "function_requires_file"
  | function => "function_requires_function"

def severity : FunctionFault → Severity
  | type            => .warning
  | file | function => .error

def message (name : String) : FunctionFault → String
  | type     =>
    "Function \"" ++ name ++ "\" should be either a string or an object with "
      ++ "\"file\" and \"function\" keys."
  | file     => "Function \"" ++ name ++ "\" is missing the \"file\" key (e.g. \"misc.js\")."
  | function => "Function \"" ++ name ++ "\" is missing the \"function\" key."

/-- The finding on the function of a name whose reference stands at a path. -/
def issue (path name : String) (fault : FunctionFault) : Issue :=
  ⟨path, fault.rule, fault.message name⟩

/-- Does a reference have the fault? -/
def IsOf (ref : Value) : FunctionFault → Prop
  | type     => ref.isStr = false ∧ ref.isObj = false
  | file     => ref.isObj = true ∧ ref.get? "file" = none
  | function => ref.isObj = true ∧ ref.get? "function" = none

variable {fault fault' : FunctionFault} {path path' name name' : String} {ref : Value}

lemma exists_iff {p : FunctionFault → Prop} :
    (∃ fault, p fault) ↔ p type ∨ p file ∨ p function := by
  constructor
  · rintro ⟨fault, hfault⟩
    cases fault with
    | type => exact .inl hfault
    | file => exact .inr (.inl hfault)
    | function => exact .inr (.inr hfault)
  · rintro (htype | hfile | hfunction)
    · exact ⟨type, htype⟩
    · exact ⟨file, hfile⟩
    · exact ⟨function, hfunction⟩

lemma rule_mem (fault : FunctionFault) : fault.rule ∈ Rule.functionRules := by
  cases fault <;> decide

lemma eq_of_rule_eq (h : fault.rule = fault'.rule) : fault = fault' := by
  revert h
  cases fault <;> cases fault' <;> decide

/-- A path alone does not say where the name of the function starts, but the message does. -/
lemma eq_and_eq_of_issue_eq (h : issue path name fault = issue path' name' fault') :
    path = path' ∧ name = name' := by
  have hpath : path = path' := congrArg Issue.path h
  obtain rfl : fault = fault' := eq_of_rule_eq (congrArg Issue.rule h)
  have hmessage := congrArg Issue.message h
  refine ⟨hpath, ?_⟩
  cases fault <;> simpa [issue, message] using hmessage

/-- What is neither a text nor names a file and a function has a fault, and nothing else has. -/
lemma exists_isOf_iff : (∃ fault, IsOf ref fault) ↔ ref.isStr = false ∧ ref.reference? = none := by
  constructor
  · rintro ⟨fault, hfault⟩
    cases fault with
    | type =>
      cases ref with
      | str s => cases hfault.1
      | obj fs => cases hfault.2
      | _ => exact ⟨rfl, rfl⟩
    | file =>
      obtain ⟨fs, rfl⟩ := Value.isObj_iff.mp hfault.1
      refine ⟨rfl, Option.eq_none_iff_forall_ne_some.mpr fun names hnames => ?_⟩
      obtain ⟨f, -, hf, -⟩ := Value.reference?_eq_some_iff.mp hnames
      cases hfault.2.symm.trans hf
    | function =>
      obtain ⟨fs, rfl⟩ := Value.isObj_iff.mp hfault.1
      refine ⟨rfl, Option.eq_none_iff_forall_ne_some.mpr fun names hnames => ?_⟩
      obtain ⟨-, g, -, hg, -⟩ := Value.reference?_eq_some_iff.mp hnames
      cases hfault.2.symm.trans hg
  · rintro ⟨hstr, hnone⟩
    by_cases hobj : ref.isObj = true
    · cases hfile : ref.get? "file" with
      | none => exact ⟨file, hobj, hfile⟩
      | some f =>
        cases hfunction : ref.get? "function" with
        | none => exact ⟨function, hobj, hfunction⟩
        | some g =>
          have hnames := Value.reference?_eq_some_iff.mpr ⟨f, g, hfile, hfunction, rfl, rfl⟩
          cases hnone.symm.trans hnames
    · exact ⟨type, hstr, by simpa using hobj⟩

end FunctionFault

namespace Rule

open FunctionFault

variable {i : Issue} {v ref : Value} {path name key : String} {severity : Severity}
  {known : List String} {columns : Option (List String)} {refs : Entries Value}

/-! ### One reference -/

/-- The findings on a reference are its faults. -/
lemma mem_findings_functionRef_iff :
    i ∈ (functionRef name ref path).findings severity ↔
      ∃ fault, FunctionFault.IsOf ref fault ∧ severity = fault.severity ∧
        i = fault.issue path name := by
  rw [FunctionFault.exists_iff]
  cases ref with
  | str s => simp [functionRef, IsOf, Value.isStr, Value.isObj, Value.str?, Value.fields?]
  | obj fs =>
    have hhas (n : String) : Entries.has fs n = false ↔ (Value.obj fs).get? n = none := by
      simp [Entries.has, Value.get?, Value.fields?]
    simp [functionRef, mem_findings_append, mem_findings_unless, hhas, IsOf, issue, rule, message,
      FunctionFault.severity, Value.isObj, Value.fields?]
  | _ =>
    simp [functionRef, IsOf, issue, rule, message, FunctionFault.severity, Value.isStr, Value.isObj,
      Value.str?, Value.fields?]

/-! ### The references of a block -/

lemma mem_findings_functionRefs_iff :
    i ∈ (functionRefs v path).findings severity ↔
      ∃ e ∈ (object? v "functions").getD [],
        i ∈ (functionRef e.1 e.2 (path ++ ".functions." ++ e.1)).findings severity :=
  mem_findings_concat_map

/-- The rules on references to functions find nothing that other rules find. -/
lemma not_mem_findings_of_all {r : Report} {rules : List String}
    (h : r.All (·.ComesFrom path rules)) (hrule : i.rule ∈ functionRules)
    (hrules : ∀ rule ∈ functionRules, rule ∉ rules) : i ∉ r.findings severity :=
  fun hi => hrules i.rule hrule (h.of_mem_findings hi).rule_mem

/-- Forms are held to further rules, but their functions to the same. -/
lemma mem_findings_form_iff (hrule : i.rule ∈ functionRules) :
    i ∈ (form v path).findings severity ↔ i ∈ (functionRefs v path).findings severity := by
  -- the rules go by disjoint sets of names, so no other rule has found this
  simp only [form, mem_findings_append,
    not_mem_findings_of_all all_fieldGroups hrule (by decide),
    not_mem_findings_of_all all_repeatedGroups hrule (by decide), distinctGroups,
    not_mem_findings_of_all all_groupTitles hrule (by decide),
    not_mem_findings_of_all all_searchFields hrule (by decide),
    not_mem_findings_of_all all_eventHandlers hrule (by decide), false_or]

/-- Whatever the kind of a component, its functions are held to the same rules. -/
lemma mem_findings_component_iff (hrule : i.rule ∈ functionRules) :
    i ∈ (component key v path).findings severity ↔
      i ∈ (functionRefs v path).findings severity := by
  have hcustomizations : i ∉ (customizations v path).findings severity :=
    not_mem_findings_of_all all_customizations hrule (by decide)
  cases v with
  | obj fs =>
    rw [component, if_neg (by simp [Value.isObj, Value.fields?]), mem_findings_append,
      or_iff_left hcustomizations]
    split
    · exact mem_findings_form_iff hrule
    · exact Iff.rfl
  | _ => simp [component, functionRefs, object?, Value.isObj, Value.get?, Value.fields?, concat]

/-- The functions of a block are those of its components. -/
lemma mem_findings_block_iff (hrule : i.rule ∈ functionRules) :
    i ∈ (block known columns v path).findings severity ↔
      ∃ e ∈ (components? v).getD [],
        i ∈ (functionRefs e.2 (path ++ ".components." ++ e.1)).findings severity := by
  simp only [block, mem_findings_append,
    not_mem_findings_of_all all_languages hrule (by decide),
    not_mem_findings_of_all all_pageSize hrule (by decide),
    not_mem_findings_of_all all_ownColumns hrule (by decide),
    not_mem_findings_of_all all_tableColumns hrule (by decide),
    not_mem_findings_of_all all_templates hrule (by decide),
    not_mem_findings_of_all all_columnReferences hrule (by decide),
    not_mem_findings_of_all all_customizations hrule (by decide),
    not_mem_findings_of_all all_definitions hrule (by decide), false_or, or_false,
    mem_findings_concat_map, mem_findings_component_iff hrule]

/-- The functions of a component of a block, if it has an object of them. -/
def functionsOf? (block : Value) (key : String) : Option (Entries Value) :=
  ((components? block).bind (·.get? key)).bind (object? · "functions")

/-- The path of the reference to a function of a component, in a block at a path. -/
def functionPath (path key name : String) : String :=
  path ++ ".components." ++ key ++ ".functions." ++ name

lemma functionsOf?_eq_some_iff :
    functionsOf? v key = some refs ↔
      ∃ c, (components? v).bind (·.get? key) = some c ∧ object? c "functions" = some refs :=
  Option.bind_eq_some_iff

lemma wellFormed_of_object? {fs : Entries Value} (hv : v.WellFormed)
    (h : object? v name = some fs) : (Value.obj fs).WellFormed := by
  obtain ⟨w, hw, hfs⟩ := Option.bind_eq_some_iff.mp h
  obtain ⟨es, rfl, hget⟩ := Value.exists_obj_of_step?_name hw
  obtain rfl := Value.fields?_eq_some_iff.mp hfs
  exact hv.of_get? hget

lemma wellFormed_of_get?_object? {n : String} {w : Value} (hv : v.WellFormed)
    (h : (object? v name).bind (·.get? n) = some w) : w.WellFormed := by
  obtain ⟨fs, hfs, hw⟩ := Option.bind_eq_some_iff.mp h
  exact (wellFormed_of_object? hv hfs).of_get? hw

lemma nodup_keys_of_functionsOf? (hv : v.WellFormed) (h : functionsOf? v key = some refs) :
    refs.keys.Nodup := by
  obtain ⟨c, hkey, hrefs⟩ := functionsOf?_eq_some_iff.mp h
  exact (wellFormed_of_object? (wellFormed_of_get?_object? hv hkey) hrefs).nodup_keys

/-- The entries of an object are what is found under its names. -/
lemma mem_object?_iff (hv : v.WellFormed) {e : String × Value} :
    e ∈ (object? v name).getD [] ↔ (object? v name).bind (·.get? e.1) = some e.2 := by
  cases hobject : object? v name with
  | none => simp
  | some fs =>
    have hnodup := (wellFormed_of_object? hv hobject).nodup_keys
    exact ⟨Entries.get?_of_mem hnodup, Entries.mem_of_get?⟩

/-- What is found in the functions of a block are the faults of its references. -/
lemma mem_findings_functions_iff (hv : v.WellFormed) (hrule : i.rule ∈ functionRules) :
    i ∈ (block known columns v path).findings severity ↔
      ∃ key refs n ref fault, functionsOf? v key = some refs ∧ refs.get? n = some ref ∧
        IsOf ref fault ∧ severity = fault.severity ∧
          i = fault.issue (functionPath path key n) n := by
  rw [mem_findings_block_iff hrule]
  simp only [mem_findings_functionRefs_iff, mem_findings_functionRef_iff]
  constructor
  · rintro ⟨⟨key, c⟩, hc, ⟨n, ref⟩, href, fault, hfault⟩
    -- the names are distinct, so an entry is what is found under its name
    have hkey := (mem_object?_iff hv).mp hc
    have hmem := (mem_object?_iff (wellFormed_of_get?_object? hv hkey)).mp href
    obtain ⟨refs, hobject, hget⟩ := Option.bind_eq_some_iff.mp hmem
    have hrefs : functionsOf? v key = some refs := functionsOf?_eq_some_iff.mpr ⟨c, hkey, hobject⟩
    exact ⟨key, refs, n, ref, fault, hrefs, hget, hfault⟩
  · rintro ⟨key, refs, n, ref, fault, hrefs, href, hfault⟩
    obtain ⟨c, hkey, hobject⟩ := functionsOf?_eq_some_iff.mp hrefs
    have hc : (key, c) ∈ (components? v).getD [] := (mem_object?_iff hv).mpr hkey
    refine ⟨(key, c), hc, (n, ref), ?_, fault, hfault⟩
    rw [hobject]
    exact Entries.mem_of_get? href

end Rule

/-! ### References that are left out -/

/-- Is every function found that is named in an object of references? -/
def FunctionSource.FindsAll (source : FunctionSource) (refs : Entries Value) : Prop :=
  ∀ n ref file function, refs.get? n = some ref → ref.get? "file" = some file →
    ref.get? "function" = some function → ∃ body, source.body? file.text function.text = some body

/-- Where every function that is named is found, what is left out are the references with faults. -/
lemma not_mem_keys_inlineReferences_iff {source : FunctionSource} {refs : Entries Value}
    (hrefs : refs.keys.Nodup) (hfinds : source.FindsAll refs) {n : String} {ref : Value}
    (hn : refs.get? n = some ref) :
    n ∉ (Value.inlineReferences source refs).keys ↔ ∃ fault, FunctionFault.IsOf ref fault := by
  rw [← Entries.get?_eq_none_iff, Value.get?_inlineReferences hrefs, hn, Option.bind_some,
    Option.map_eq_none_iff, FunctionFault.exists_isOf_iff]
  cases hstr : ref.isStr with
  | true =>
    obtain ⟨s, hs⟩ := Option.isSome_iff_exists.mp hstr
    obtain rfl := Value.str?_eq_some_iff.mp hs
    simp [Value.inlined?]
  | false =>
    rw [Value.inlined?_of_not_isStr hstr, Option.bind_eq_none_iff]
    constructor
    · intro h
      refine ⟨rfl, Option.eq_none_iff_forall_ne_some.mpr ?_⟩
      rintro ⟨file, function⟩ hnames
      obtain ⟨f, g, hf, hg, rfl, rfl⟩ := Value.reference?_eq_some_iff.mp hnames
      obtain ⟨body, hbody⟩ := hfinds n ref f g hn hf hg
      cases (h _ hnames).symm.trans hbody
    · rintro ⟨-, hnone⟩ names hnames
      cases hnone.symm.trans hnames

namespace Rule

/--
Where every function that is named is found, the references that are found fault with are those
that are left out when the functions are inlined, in components of all kinds. The rules on
references find nothing else.
-/
theorem faults_iff_left_out (v : ReadValue) (known : List String)
    (columns : Option (List String)) (path : String) :
    (∀ key refs source, functionsOf? v key = some refs → source.FindsAll refs → ∀ n ∈ refs.keys,
      ((∃ severity, ∃ fault : FunctionFault, fault.issue (functionPath path key n) n ∈
          (block known columns v path).findings severity) ↔
        n ∉ (Value.inlineReferences source refs).keys)) ∧
    ∀ severity, ∀ i ∈ (block known columns v path).findings severity, i.rule ∈ functionRules →
      ∃ key refs n, ∃ fault : FunctionFault, functionsOf? v key = some refs ∧ n ∈ refs.keys ∧
        i = fault.issue (functionPath path key n) n := by
  obtain ⟨v, hv⟩ := v
  refine ⟨?agree, ?nothingElse⟩
  case agree =>
    intro key refs source hrefs hfinds n hn
    obtain ⟨ref, href⟩ := Option.isSome_iff_exists.mp (Entries.isSome_get?_iff.mpr hn)
    rw [not_mem_keys_inlineReferences_iff (nodup_keys_of_functionsOf? hv hrefs) hfinds href]
    constructor
    · rintro ⟨severity, fault, hmem⟩
      obtain ⟨key', refs', n', ref', fault', hrefs', href', hfault, -, heq⟩ :=
        (mem_findings_functions_iff hv fault.rule_mem).mp hmem
      -- the finding tells by its message and path which function it is about
      obtain ⟨hpath, rfl⟩ := FunctionFault.eq_and_eq_of_issue_eq heq
      obtain rfl : key = key' := by simpa [functionPath] using hpath
      obtain rfl := Option.some.inj (hrefs.symm.trans hrefs')
      obtain rfl := Option.some.inj (href.symm.trans href')
      exact ⟨fault', hfault⟩
    · rintro ⟨fault, hfault⟩
      refine ⟨fault.severity, fault, (mem_findings_functions_iff hv fault.rule_mem).mpr ?_⟩
      exact ⟨key, refs, n, ref, fault, hrefs, href, hfault, rfl, rfl⟩
  case nothingElse =>
    intro severity i hi hrule
    obtain ⟨key, refs, n, ref, fault, hrefs, href, -, -, heq⟩ :=
      (mem_findings_functions_iff hv hrule).mp hi
    exact ⟨key, refs, n, fault, hrefs, Entries.isSome_get?_iff.mp (by rw [href]; rfl), heq⟩

/-- Functions of a form: one is written out, one is in a file, and two are badly referred to. -/
def formFunctions : Entries Value :=
  [("check", .str "return true"),
    ("save", .obj [("file", .str "form.js"), ("function", .str "save")]),
    ("lost", .obj [("file", .str "form.js")]), ("shape", .int 5)]

def formBlock : Value :=
  .obj [("components",
    .obj [("form", .obj []), ("form2", .obj [("functions", .obj formFunctions)])])]

def formFolder : Folder := .ofFiles [("form.js", "function save() { return 1 }")]

lemma findsAll_formFolder : FunctionSource.FindsAll (.ofFolder formFolder) formFunctions := by
  intro n ref file function href hfile hfunction
  have hmem := Entries.mem_of_get? href
  simp only [formFunctions, List.mem_cons, Prod.mk.injEq, List.not_mem_nil, or_false] at hmem
  rcases hmem with ⟨-, rfl⟩ | ⟨-, rfl⟩ | ⟨-, rfl⟩ | ⟨-, rfl⟩
  · cases hfile
  · cases hfile
    cases hfunction
    exact ⟨"return 1", by decide +kernel⟩
  · cases hfunction
  · cases hfile

/-- A function without a name is found fault with and left out, the one in the file is neither. -/
theorem faults_iff_left_out_form :
    formBlock.WellFormed ∧ functionsOf? formBlock "form2" = some formFunctions ∧
      FunctionSource.FindsAll (.ofFolder formFolder) formFunctions ∧
      (∃ severity, ∃ fault : FunctionFault,
        fault.issue (functionPath "detail" "form2" "lost") "lost" ∈
          (block [] none formBlock "detail").findings severity) ∧
      "save" ∈ (Value.inlineReferences (.ofFolder formFolder) formFunctions).keys := by
  have hwellFormed : formBlock.WellFormed := by
    simp [formBlock, formFunctions, Value.WellFormed, Value.WellFormedFields]
  have hfunctions : functionsOf? formBlock "form2" = some formFunctions := rfl
  obtain ⟨hagree, -⟩ := faults_iff_left_out ⟨_, hwellFormed⟩ [] none "detail"
  have hlost := hagree "form2" formFunctions _ hfunctions findsAll_formFolder "lost" (by decide)
  exact ⟨hwellFormed, hfunctions, findsAll_formFolder, hlost.mpr (by decide +kernel),
    by decide +kernel⟩

end Rule

end ViewAssembly
