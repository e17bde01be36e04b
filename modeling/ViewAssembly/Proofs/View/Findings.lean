import Mathlib.Tactic.Common
import ViewAssembly.View.Validate

/-!
# Where findings come from

Every rule puts its findings at the path that it is given or below it, and each finding names the
rule. So all findings on a block lie in the block (`Rule.all_block_below`), and only the rules that
look columns up, which warn and nothing else, know the columns (`Rule.all_columnReferences`). The
report on the view config of one block is that on the block (`validate_block`).
-/

namespace ViewAssembly

variable {i : Issue} {path rest rule message : String} {rules : List String}

namespace Issue

/-- Does a finding lie at a path or below it? -/
def Below (i : Issue) (path : String) : Prop := ∃ rest, i.path = path ++ rest

/-- Is this a finding of one of these rules, at a path or below it? -/
structure ComesFrom (i : Issue) (path : String) (rules : List String) : Prop where
  below : i.Below path
  rule_mem : i.rule ∈ rules

lemma comesFrom_self (h : rule ∈ rules) : ComesFrom ⟨path, rule, message⟩ path rules :=
  ⟨⟨"", (String.append_empty).symm⟩, h⟩

lemma comesFrom_append (h : rule ∈ rules) : ComesFrom ⟨path ++ rest, rule, message⟩ path rules :=
  ⟨⟨rest, rfl⟩, h⟩

lemma Below.of_append (h : i.Below (path ++ rest)) : i.Below path := by
  obtain ⟨more, hmore⟩ := h
  exact ⟨rest ++ more, by rw [hmore, String.append_assoc]⟩

lemma Below.under (name : String) (h : i.Below (path ++ ("." ++ name))) :
    i.Below (path ++ ".") := by
  rw [← String.append_assoc] at h
  exact h.of_append

lemma ComesFrom.of_append (h : i.ComesFrom (path ++ rest) rules) : i.ComesFrom path rules :=
  ⟨h.below.of_append, h.rule_mem⟩

lemma ComesFrom.under (name : String) (h : i.ComesFrom (path ++ ("." ++ name)) rules) :
    i.ComesFrom (path ++ ".") rules :=
  ⟨h.below.under name, h.rule_mem⟩

lemma ComesFrom.widen {more : List String} (h : i.ComesFrom path rules) (hrules : rules ⊆ more) :
    i.ComesFrom path more :=
  ⟨h.below, hrules h.rule_mem⟩

end Issue

namespace Report

variable {p q : Issue → Prop} {r s : Report}

/-- Has every finding of a report a property? -/
def All (p : Issue → Prop) (r : Report) : Prop := (∀ i ∈ r.errors, p i) ∧ ∀ i ∈ r.warnings, p i

@[simp] lemma all_empty : empty.All p := ⟨nofun, nofun⟩

@[simp] lemma all_error : (error path rule message).All p ↔ p ⟨path, rule, message⟩ := by
  simp [All, error]

@[simp] lemma all_warning : (warning path rule message).All p ↔ p ⟨path, rule, message⟩ := by
  simp [All, warning]

@[simp] lemma all_append : (r ++ s).All p ↔ r.All p ∧ s.All p := by
  simp only [All, errors_append, warnings_append, List.mem_append, or_imp, forall_and]
  tauto

lemma all_concat_map {α : Type} {xs : List α} {f : α → Report} :
    (concat (xs.map f)).All p ↔ ∀ x ∈ xs, (f x).All p := by
  induction xs with
  | nil => simp [concat]
  | cons x xs ih =>
    rw [List.forall_mem_cons, ← ih]
    exact all_append

lemma all_unless {c : Prop} [Decidable c] (h : r.All p) : (if c then empty else r).All p := by
  split
  · exact all_empty
  · exact h

lemma all_when {c : Prop} [Decidable c] (h : r.All p) : (if c then r else empty).All p := by
  split
  · exact h
  · exact all_empty

lemma All.imp (h : r.All p) (himp : ∀ i, p i → q i) : r.All q :=
  ⟨fun i hi => himp i (h.1 i hi), fun i hi => himp i (h.2 i hi)⟩

lemma append_empty (r : Report) : r ++ empty = r := by
  obtain ⟨errors, warnings⟩ := r
  change Report.mk (errors ++ []) (warnings ++ []) = _
  simp

end Report

open Report Issue

namespace Rule

variable {v : Value} {known columns : List String}

/-! ### Rules on the structure of a block -/

lemma all_languages :
    (languages v path).All (·.ComesFrom (path ++ ".lang") ["required", "required_array"]) := by
  rw [languages]
  split
  · exact all_error.mpr (comesFrom_self (by decide))
  · exact all_empty
  · exact all_error.mpr (comesFrom_self (by decide))

lemma all_pageSize :
    (pageSize v path).All (·.ComesFrom (path ++ ".per_page") ["positive_integer"]) := by
  rw [pageSize]
  split
  · exact all_empty
  · exact all_unless (all_warning.mpr (comesFrom_self (by decide)))

lemma all_ownColumns :
    (ownColumns v path).All
      (·.ComesFrom (path ++ ".columnsSchema") ["nomodel_requires_schema"]) :=
  all_when (all_error.mpr (comesFrom_self (by decide)))

lemma all_tableColumns :
    (tableColumns v path).All (·.ComesFrom (path ++ ".columns") ["columns_required"]) :=
  all_unless (all_error.mpr (comesFrom_self (by decide)))

lemma all_templates :
    (templates known v path).All
      (·.ComesFrom (path ++ ".components.") ["component_config_exists"]) := by
  refine all_concat_map.mpr fun e _ => ?_
  exact all_unless (all_warning.mpr (comesFrom_append (by decide)))

/-- A component without template is worth a warning, but no error. -/
lemma errors_templates : (templates known v path).errors = [] := by
  rw [templates, errors_concat, List.flatMap_map, List.flatMap_eq_nil_iff]
  intro e _
  simp only
  split <;> rfl

/-! ### Rules on references to columns -/

def lookupRules : List String :=
  ["column_exists_in_schema", "filter_key_exists", "customization_key_exists"]

lemma all_references {refs : List Value} :
    (references columns refs path).All (·.ComesFrom path ["column_exists_in_schema"]) := by
  refine all_concat_map.mpr fun e _ => ?_
  simp only
  split
  · refine all_unless (all_warning.mpr ?_)
    rw [String.append_assoc, String.append_assoc]
    exact comesFrom_append (by decide)
  · exact all_empty

lemma all_listedColumns :
    (listedColumns columns v path).All
      (·.ComesFrom (path ++ ".") ["column_exists_in_schema"]) := by
  refine all_append.mpr ⟨all_references.imp fun i h => h.under "columns", ?_⟩
  refine all_concat_map.mpr fun e _ => all_references.imp fun i h => ?_
  exact h.of_append.of_append.under "components."

lemma all_filters :
    (filters columns v path).All (·.ComesFrom (path ++ ".") ["filter_key_exists"]) := by
  refine all_concat_map.mpr fun e _ => ?_
  simp only
  split
  · refine all_unless (all_warning.mpr (.under "filters[" ?_))
    rw [String.append_assoc]
    exact comesFrom_append (by decide)
  · exact all_empty

lemma all_customizedColumns :
    (customizedColumns columns v path).All
      (·.ComesFrom (path ++ ".") ["customization_key_exists"]) := by
  refine all_concat_map.mpr fun e _ => all_unless (all_warning.mpr ?_)
  exact .under "columnCustomizations." (comesFrom_append (by decide))

/-- The rules that look columns up are the only ones for what refers to columns. -/
lemma all_columnReferences {columns : Option (List String)} :
    (columnReferences columns v path).All (·.ComesFrom (path ++ ".") lookupRules) := by
  -- where no columns are known, none is looked up
  cases columns with
  | none => exact all_empty
  | some columns =>
    refine all_append.mpr ⟨all_append.mpr ⟨?_, ?_⟩, ?_⟩
    · exact all_listedColumns.imp fun i h => h.widen (by decide)
    · exact all_filters.imp fun i h => h.widen (by decide)
    · exact all_customizedColumns.imp fun i h => h.widen (by decide)

lemma errors_references {refs : List Value} : (references columns refs path).errors = [] := by
  rw [references, errors_concat, List.flatMap_map, List.flatMap_eq_nil_iff]
  intro e _
  simp only
  split
  · split <;> rfl
  · rfl

/-- The rules that look columns up warn, and nothing else. -/
lemma errors_columnReferences {columns : Option (List String)} :
    (columnReferences columns v path).errors = [] := by
  cases columns with
  | none => rfl
  | some columns =>
    simp only [columnReferences, errors_append, listedColumns, filters, customizedColumns,
      errors_references, errors_concat, List.flatMap_map, List.append_eq_nil_iff,
      List.flatMap_eq_nil_iff, true_and, implies_true]
    refine ⟨?_, ?_⟩
    · intro e _
      split
      · split <;> rfl
      · rfl
    · intro e _
      split <;> rfl

/-! ### Rules on column definitions -/

def definitionRules : List String :=
  ["select_requires_config", "self_mode_requires_items", "relation_mode_requires_relationship",
    "displaytype_requires_config"]

lemma all_selectChoices : (selectChoices v path).All (·.ComesFrom path definitionRules) := by
  refine all_unless ?_
  split
  · exact all_error.mpr (comesFrom_self (by decide))
  · simp only
    split
    · exact all_unless (all_warning.mpr (comesFrom_append (by decide)))
    · exact all_unless (all_warning.mpr (comesFrom_append (by decide)))

lemma all_displayConfig : (displayConfig v path).All (·.ComesFrom path definitionRules) := by
  rw [displayConfig]
  split
  · exact all_unless (all_warning.mpr (comesFrom_self (by decide)))
  · exact all_empty

lemma all_customizations :
    (customizations v path).All
      (·.ComesFrom (path ++ ".columnCustomizations.") definitionRules) := by
  refine all_concat_map.mpr fun e _ => all_when (all_append.mpr ⟨?_, ?_⟩)
  · exact all_displayConfig.imp fun i h => h.of_append
  · exact all_selectChoices.imp fun i h => h.of_append

lemma all_definitions :
    (definitions v path).All (·.ComesFrom (path ++ ".columnsSchema.") definitionRules) := by
  refine all_concat_map.mpr fun e _ => all_when (all_append.mpr ⟨?_, ?_⟩)
  · exact all_selectChoices.imp fun i h => h.of_append
  · exact all_displayConfig.imp fun i h => h.of_append

/-! ### Rules on components -/

def functionRules : List String :=
  ["function_type", "function_requires_file", "function_requires_function"]

def formRules : List String :=
  ["function_type", "function_requires_file", "function_requires_function", "field_group_exists",
    "group_name_unique", "group_title_required", "group_title_localized", "group_title_langs",
    "search_requires_submiturl", "event_handler_exists"]

lemma all_functionRefs : (functionRefs v path).All (·.ComesFrom path functionRules) := by
  refine all_concat_map.mpr fun e _ => ?_
  have hhere {rule message : String} (hrule : rule ∈ functionRules) :
      ComesFrom ⟨path ++ ".functions." ++ e.1, rule, message⟩ path functionRules := by
    rw [String.append_assoc]
    exact comesFrom_append hrule
  simp only [functionRef]
  split
  · exact all_empty
  · refine all_append.mpr ⟨all_unless (all_error.mpr ?_), all_unless (all_error.mpr ?_)⟩
    · exact hhere (by decide)
    · exact hhere (by decide)
  · exact all_warning.mpr (hhere (by decide))

lemma elementPath_eq {list : String} {n : Nat} :
    elementPath path list n = path ++ ("." ++ list ++ "[" ++ toString n ++ "]") := by
  simp only [elementPath, String.append_assoc]

/-- A finding on an element of a list lies below what has the list. -/
lemma comesFrom_element {list : String} {n : Nat} (h : rule ∈ rules) :
    ComesFrom ⟨elementPath path list n, rule, message⟩ path rules := by
  rw [elementPath_eq]
  exact comesFrom_append h

lemma all_fieldGroups : (fieldGroups v path).All (·.ComesFrom path ["field_group_exists"]) := by
  refine all_unless (all_concat_map.mpr fun e _ => ?_)
  simp only
  split
  · exact all_empty
  · exact all_unless (all_warning.mpr (comesFrom_element (by decide)))

lemma all_repeatedGroups {seen : List String} {gs : List (Value × Nat)} :
    (repeatedGroups path seen gs).All (·.ComesFrom path ["group_name_unique"]) := by
  -- the names seen before decide which findings there are, but not where they lie
  induction gs generalizing seen with
  | nil => exact all_empty
  | cons g gs ih =>
    rw [repeatedGroups]
    split
    · exact ih
    · exact all_append.mpr ⟨all_when (all_warning.mpr (comesFrom_element (by decide))), ih⟩

lemma all_groupTitles :
    (groupTitles v path).All (·.ComesFrom path
      ["group_title_required", "group_title_localized", "group_title_langs"]) := by
  refine all_concat_map.mpr fun e _ => ?_
  simp only [groupTitle]
  split
  · exact all_warning.mpr (comesFrom_element (by decide))
  · exact all_unless (all_warning.mpr (comesFrom_element (by decide)))
  · exact all_warning.mpr (comesFrom_element (by decide))

lemma all_searchFields :
    (searchFields v path).All (·.ComesFrom path ["search_requires_submiturl"]) := by
  refine all_concat_map.mpr fun e _ => ?_
  exact all_unless (all_error.mpr (comesFrom_element (by decide)))

lemma all_eventHandlers :
    (eventHandlers v path).All (·.ComesFrom path ["event_handler_exists"]) := by
  refine all_concat_map.mpr fun e _ => all_concat_map.mpr fun event _ => ?_
  simp only
  split
  · refine all_unless (all_warning.mpr ?_)
    rw [elementPath_eq, String.append_assoc, String.append_assoc]
    exact comesFrom_append (by decide)
  · exact all_empty

lemma all_form : (form v path).All (·.ComesFrom path formRules) := by
  simp only [form, all_append]
  refine ⟨⟨⟨⟨⟨?_, ?_⟩, ?_⟩, ?_⟩, ?_⟩, ?_⟩
  · exact all_fieldGroups.imp fun i h => h.widen (by decide)
  · exact all_repeatedGroups.imp fun i h => h.widen (by decide)
  · exact all_groupTitles.imp fun i h => h.widen (by decide)
  · exact all_searchFields.imp fun i h => h.widen (by decide)
  · exact all_eventHandlers.imp fun i h => h.widen (by decide)
  · exact all_functionRefs.imp fun i h => h.widen (by decide)

lemma all_component {key : String} :
    (component key v path).All (·.ComesFrom path (formRules ++ definitionRules)) := by
  refine all_unless (all_append.mpr ⟨?_, ?_⟩)
  · split
    · exact all_form.imp fun i h => h.widen (List.subset_append_left _ _)
    · exact all_functionRefs.imp fun i h => h.widen (by decide)
  · exact all_customizations.imp fun i h => h.of_append.widen (List.subset_append_right _ _)

lemma all_components :
    (concat (((components? v).getD []).map fun (key, c) =>
      component key c (path ++ ".components." ++ key))).All
      (·.ComesFrom (path ++ ".") (formRules ++ definitionRules)) := by
  refine all_concat_map.mpr fun e _ => all_component.imp fun i h => ?_
  exact h.of_append.under "components."

/-! ### Blocks -/

/-- All findings on a block lie below its path. -/
lemma all_block_below {columns : Option (List String)} :
    (block known columns v path).All (·.Below (path ++ ".")) := by
  simp only [block, all_append]
  refine ⟨⟨⟨⟨⟨⟨⟨⟨?_, ?_⟩, ?_⟩, ?_⟩, ?_⟩, ?_⟩, ?_⟩, ?_⟩, ?_⟩
  · exact all_languages.imp fun i h => h.below.under "lang"
  · exact all_pageSize.imp fun i h => h.below.under "per_page"
  · exact all_ownColumns.imp fun i h => h.below.under "columnsSchema"
  · exact all_tableColumns.imp fun i h => h.below.under "columns"
  · exact all_templates.imp fun i h => h.below.under "components."
  · exact all_columnReferences.imp fun i h => h.below
  · exact all_components.imp fun i h => h.below
  · exact all_customizations.imp fun i h => h.below.under "columnCustomizations."
  · exact all_definitions.imp fun i h => h.below.under "columnsSchema."

end Rule

/-! ### View configs -/

variable {known : List String} {columns : Option (List String)} {model : String}

lemma validate_of_ne_nil {document : Entries Value} (h : document ≠ []) :
    validate known columns model document = validateBlocks known columns document := by
  rw [validate, if_neg (by simpa using h)]

/-- The report on the view config of one block is that on the block. -/
lemma validate_block (block : String × Value) :
    validate known columns model [block] =
      if block.2.isObj then
        Rule.block known (Rule.columnsOf columns block.2) block.2 block.1
      else .empty := by
  rw [validate_of_ne_nil (List.cons_ne_nil _ _)]
  exact append_empty _

end ViewAssembly
