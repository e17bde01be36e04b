import ViewAssembly.Proofs.Entries
import ViewAssembly.Proofs.Value.Basic
import ViewAssembly.Proofs.View.Findings

/-!
# Doubts about columns

Two rules warn of a token for which no column is known: one looks at the columns that are listed,
one at those that are customized. No other rule does (`Rule.doubts_block_iff`). A listed token is
looked up among the known columns alone, whatever its customization says; only a token that is
listed nowhere is left alone when its customization brings a column on purpose.
-/

namespace ViewAssembly

variable {token : String}

/-- Does a finding say that no column of a token is known? -/
def Issue.Doubts (i : Issue) (token : String) : Prop :=
  (i.rule = "column_exists_in_schema" ∧
    i.message = "Column \"" ++ token ++ "\" is not defined in the schema.") ∨
  (i.rule = "customization_key_exists" ∧
    i.message =
      "Column customization \"" ++ token ++ "\" does not match any known column in the schema "
        ++ "or columns list. If this is intentional, set displayType to \"custom\".")

namespace Report

variable {r s : Report} {path message : String}

/-- Does a warning say that no column of a token is known? -/
def Doubts (r : Report) (token : String) : Prop := ∃ i ∈ r.warnings, i.Doubts token

lemma not_doubts_empty : ¬ empty.Doubts token := nofun

lemma doubts_append : (r ++ s).Doubts token ↔ r.Doubts token ∨ s.Doubts token := by
  simp [Doubts, or_and_right, exists_or]

lemma doubts_concat_map {α : Type} {xs : List α} {f : α → Report} :
    (concat (xs.map f)).Doubts token ↔ ∃ x ∈ xs, (f x).Doubts token := by
  simp only [Doubts, warnings_concat, List.mem_flatMap, List.mem_map]
  constructor
  · rintro ⟨i, ⟨_, ⟨x, hx, rfl⟩, hi⟩, hdoubts⟩
    exact ⟨x, hx, i, hi, hdoubts⟩
  · rintro ⟨x, hx, i, hi, hdoubts⟩
    exact ⟨i, ⟨_, ⟨x, hx, rfl⟩, hi⟩, hdoubts⟩

lemma doubts_warning_iff {rule : String} :
    (warning path rule message).Doubts token ↔ Issue.Doubts ⟨path, rule, message⟩ token := by
  simp [Doubts, warning]

/-- Only two rules doubt columns. -/
lemma not_doubts_of_all {rules : List String} (h : r.All (·.ComesFrom path rules))
    (hrules : ∀ rule ∈ rules,
      rule ≠ "column_exists_in_schema" ∧ rule ≠ "customization_key_exists") :
    ¬ r.Doubts token := by
  rintro ⟨i, hi, ⟨hrule, -⟩ | ⟨hrule, -⟩⟩
  · exact (hrules i.rule (h.2 i hi).rule_mem).1 hrule
  · exact (hrules i.rule (h.2 i hi).rule_mem).2 hrule

end Report

open Report

namespace Rule

variable {v : Value} {path : String} {known columns : List String}

/-- Does a block list a token, among its own columns or among those of a component? -/
def Lists (block : Value) (token : String) : Prop :=
  token ∈ columnTexts block ∨ ∃ e ∈ (components? block).getD [], token ∈ columnTexts e.2

/-- Does a block customize a token by an object that brings no column on purpose? -/
def CustomizesPlainly (block : Value) (token : String) : Prop :=
  ∃ custom, (token, custom) ∈ (object? block "columnCustomizations").getD [] ∧
    custom.isObj = true ∧ isCustom custom = false

lemma doubts_listed_iff {ref : String} :
    (warning path "column_exists_in_schema"
      ("Column \"" ++ ref ++ "\" is not defined in the schema.")).Doubts token ↔ ref = token := by
  simp [doubts_warning_iff, Issue.Doubts]

lemma doubts_customized_iff {ref : String} :
    (warning path "customization_key_exists"
      ("Column customization \"" ++ ref ++ "\" does not match any known column in the schema "
        ++ "or columns list. If this is intentional, set displayType to \"custom\".")).Doubts token
      ↔ ref = token := by
  simp [doubts_warning_iff, Issue.Doubts]

lemma doubts_references_iff {refs : List Value} :
    (references columns refs path).Doubts token ↔
      token ∈ refs.filterMap Value.str? ∧ Token.isRelated token = false ∧ token ∉ columns := by
  rw [references, doubts_concat_map]
  constructor
  · rintro ⟨⟨ref, i⟩, hmem, hdoubts⟩
    have href : ref ∈ refs := List.fst_mem_of_mem_zipIdx hmem
    cases ref with
    | str t =>
      simp only at hdoubts
      split at hdoubts
      · exact absurd hdoubts not_doubts_empty
      · next hunknown =>
        obtain rfl := doubts_listed_iff.mp hdoubts
        exact ⟨List.mem_filterMap.mpr ⟨_, href, rfl⟩, by simpa using hunknown⟩
    | _ => exact absurd hdoubts not_doubts_empty
  · rintro ⟨hmem, hrelated, hunknown⟩
    obtain ⟨ref, href, hstr⟩ := List.mem_filterMap.mp hmem
    obtain rfl := Value.str?_eq_some_iff.mp hstr
    obtain ⟨i, hi⟩ := List.mem_iff_getElem?.mp href
    refine ⟨(.str token, i), List.mem_zipIdx_iff_getElem?.mpr hi, ?_⟩
    simp [hrelated, hunknown, doubts_listed_iff]

lemma doubts_listedColumns_iff :
    (listedColumns columns v path).Doubts token ↔
      Lists v token ∧ Token.isRelated token = false ∧ token ∉ columns := by
  rw [listedColumns, doubts_append, doubts_concat_map]
  simp only [doubts_references_iff]
  constructor
  · rintro (⟨hlisted, hrest⟩ | ⟨e, he, hlisted, hrest⟩)
    · exact ⟨.inl hlisted, hrest⟩
    · exact ⟨.inr ⟨e, he, hlisted⟩, hrest⟩
  · rintro ⟨hlisted | ⟨e, he, hlisted⟩, hrest⟩
    · exact .inl ⟨hlisted, hrest⟩
    · exact .inr ⟨e, he, hlisted, hrest⟩

lemma mem_mentionedTokens_iff :
    token ∈ mentionedTokens columns v ↔ token ∈ columns ∨ Lists v token := by
  simp [mentionedTokens, Lists]

lemma doubts_customizedColumns_iff :
    (customizedColumns columns v path).Doubts token ↔
      CustomizesPlainly v token ∧ token ∉ columns ∧ ¬ Lists v token := by
  have hmentioned : (mentionedTokens columns v).contains token = false ↔
      token ∉ columns ∧ ¬ Lists v token := by
    rw [← not_or, ← mem_mentionedTokens_iff]
    simp
  rw [customizedColumns, doubts_concat_map, ← hmentioned]
  constructor
  · rintro ⟨⟨t, custom⟩, hmem, hdoubts⟩
    simp only at hdoubts
    split at hdoubts
    · exact absurd hdoubts not_doubts_empty
    · next hplain =>
      obtain rfl := doubts_customized_iff.mp hdoubts
      simp only [Bool.or_eq_true, Bool.not_eq_true', not_or, Bool.not_eq_false,
        Bool.not_eq_true] at hplain
      obtain ⟨⟨hobj, hcustom⟩, hunknown⟩ := hplain
      exact ⟨⟨custom, hmem, hobj, hcustom⟩, hunknown⟩
  · rintro ⟨⟨custom, hmem, hobj, hcustom⟩, hunknown⟩
    refine ⟨(token, custom), hmem, ?_⟩
    simp only [hobj, hcustom, hunknown, Bool.not_true, Bool.or_self, Bool.false_eq_true, if_false]
    exact doubts_customized_iff.mpr rfl

/-- In a block, only what refers to columns casts doubt on them. -/
lemma doubts_block_iff_columnReferences {columns : Option (List String)} :
    (block known columns v path).Doubts token ↔ (columnReferences columns v path).Doubts token := by
  simp only [block, doubts_append, not_doubts_of_all all_languages (by decide),
    not_doubts_of_all all_pageSize (by decide), not_doubts_of_all all_ownColumns (by decide),
    not_doubts_of_all all_tableColumns (by decide), not_doubts_of_all all_templates (by decide),
    not_doubts_of_all all_components (by decide),
    not_doubts_of_all all_customizations (by decide),
    not_doubts_of_all all_definitions (by decide), false_or, or_false]

/--
A block casts doubt on an unknown token exactly if it lists the token, which must not be one of a
related column, or lists it nowhere and customizes it without bringing a column on purpose.
-/
lemma doubts_block_iff :
    (block known (some columns) v path).Doubts token ↔
      token ∉ columns ∧ ((Lists v token ∧ Token.isRelated token = false) ∨
        (CustomizesPlainly v token ∧ ¬ Lists v token)) := by
  rw [doubts_block_iff_columnReferences]
  simp only [columnReferences, doubts_append, not_doubts_of_all all_filters (by decide),
    doubts_listedColumns_iff,
    doubts_customizedColumns_iff, or_false]
  constructor
  · rintro (⟨hlisted, hrelated, hunknown⟩ | ⟨hplain, hunknown, hlisted⟩)
    · exact ⟨hunknown, .inl ⟨hlisted, hrelated⟩⟩
    · exact ⟨hunknown, .inr ⟨hplain, hlisted⟩⟩
  · rintro ⟨hunknown, ⟨hlisted, hrelated⟩ | ⟨hplain, hlisted⟩⟩
    · exact .inl ⟨hlisted, hrelated, hunknown⟩
    · exact .inr ⟨hplain, hunknown, hlisted⟩

end Rule

end ViewAssembly
