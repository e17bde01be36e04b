import Mathlib.Data.List.Basic
import ViewAssembly.Proofs.View.Valid

/-!
# Validation block by block

The report on a view config consists of the reports on its blocks, each as if the block were alone
(`findings_blockwise`). What the columns of the model and the components with templates are makes no
difference to the errors, and the columns matter only to the warnings of the rules that look columns
up, and of these only to those on blocks with a model (`verdict_without_lookups`).
-/

namespace ViewAssembly

/-! ### Errors and warnings -/

/-- How grave a finding is. -/
inductive Severity where
  | error | warning

namespace Report

variable {p : Issue → Prop} {r s : Report}

def findings (r : Report) : Severity → List Issue
  | .error   => r.errors
  | .warning => r.warnings

lemma findings_empty (severity : Severity) : empty.findings severity = [] := by
  cases severity <;> rfl

lemma findings_concat (rs : List Report) (severity : Severity) :
    (concat rs).findings severity = rs.flatMap (·.findings severity) := by
  cases severity with
  | error => exact errors_concat rs
  | warning => exact warnings_concat rs

lemma All.of_mem_findings (h : r.All p) {severity : Severity} {i : Issue}
    (hi : i ∈ r.findings severity) : p i := by
  cases severity with
  | error => exact h.1 i hi
  | warning => exact h.2 i hi

end Report

open Report

variable {known : List String} {columns : Option (List String)} {model : String}
variable {document : Entries Value}

/-! ### Blocks alone -/

/-- The blocks of a view config; what is no object is none. -/
def blocksOf (document : Entries Value) : Entries Value := document.filter fun e => e.2.isObj

lemma findings_validate_of_not_isObj {block : String × Value} (h : ¬ block.2.isObj)
    (severity : Severity) : (validate known columns model [block]).findings severity = [] := by
  rw [validate_block, if_neg h, findings_empty]

/-- What is found in a view config is what is found in each of its entries alone. -/
lemma findings_validate (h : document ≠ []) (severity : Severity) :
    (validate known columns model document).findings severity =
      document.flatMap fun block => (validate known columns model [block]).findings severity := by
  rw [validate_of_ne_nil h, validateBlocks, findings_concat, List.flatMap_map]
  apply List.flatMap_congr
  intro block _
  rw [validate_block]

lemma flatMap_blocksOf (severity : Severity) :
    (blocksOf document).flatMap
        (fun block => (validate known columns model [block]).findings severity) =
      document.flatMap fun block => (validate known columns model [block]).findings severity := by
  induction document with
  | nil => rfl
  | cons block document ih =>
    rw [List.flatMap_cons, ← ih, blocksOf, List.filter_cons]
    split_ifs with h
    · rfl
    · rw [findings_validate_of_not_isObj h, List.nil_append]
      rfl

/--
The errors of a view config are those of its blocks, each taken as a view config of its own, and so
are its warnings. What is found in a block lies in it. So to put the blocks in another order is to
put the findings in another order, and a further block adds its own findings and no others.
-/
theorem findings_blockwise (known : List String) (columns : Option (List String)) (model : String)
    (severity : Severity) {document : Entries Value} (h : document ≠ []) :
    (validate known columns model document).findings severity =
      (blocksOf document).flatMap
        (fun block => (validate known columns model [block]).findings severity) ∧
    (∀ block, ∀ i ∈ (validate known columns model [block]).findings severity,
      i.LiesIn block.1) ∧
    (∀ reordered, reordered.Perm document →
      ((validate known columns model reordered).findings severity).Perm
        ((validate known columns model document).findings severity)) ∧
    (∀ before block after, document = before ++ after →
      ∃ is js, (validate known columns model document).findings severity = is ++ js ∧
        (validate known columns model (before ++ block :: after)).findings severity =
          is ++ (validate known columns model [block]).findings severity ++ js) := by
  refine ⟨?_, ?_, ?_, ?_⟩
  · rw [flatMap_blocksOf, findings_validate h]
  · intro block i hi
    rw [validate_block] at hi
    split at hi
    · exact Rule.all_block_liesIn.of_mem_findings hi
    · rw [findings_empty] at hi
      cases hi
  · intro reordered hperm
    have hne : reordered ≠ [] := by
      rintro rfl
      exact h hperm.nil_eq.symm
    rw [findings_validate h, findings_validate hne]
    exact hperm.flatMap_right _
  · intro before block after hdocument
    subst hdocument
    rw [findings_validate h, findings_validate (by simp)]
    exact ⟨_, _, List.flatMap_append, by simp⟩

/-- Two blocks without languages, and between them a remark that is no block. -/
def twoBlocks : Entries Value :=
  [("list", .obj []), ("remark", .str "to be filled in"), ("detail", .obj [])]

/-- What is found in two blocks is what is found in the one and then what is found in the other. -/
theorem findings_blockwise_two :
    twoBlocks ≠ [] ∧
      (validate [] none "posts" twoBlocks).findings .error =
        (validate [] none "posts" [("list", .obj [])]).findings .error
          ++ (validate [] none "posts" [("detail", .obj [])]).findings .error ∧
      ((validate [] none "posts" twoBlocks).findings .error).map Issue.path =
        ["list.lang", "detail.lang"] := by
  have hne : twoBlocks ≠ [] := by decide
  obtain ⟨hfindings, -⟩ := findings_blockwise [] none "posts" .error hne
  exact ⟨hne, hfindings, by decide⟩

/-! ### What the verdict does not depend on -/

/-- The findings but for those of the rules that look columns up. -/
def withoutLookups (is : List Issue) : List Issue :=
  is.filter fun i => !Rule.lookupRules.contains i.rule

namespace Rule

variable {r : Report} {v : Value} {path : String} {rules : List String}

lemma withoutLookups_append (is js : List Issue) :
    withoutLookups (is ++ js) = withoutLookups is ++ withoutLookups js := by
  simp [withoutLookups]

lemma withoutLookups_of_all (h : r.All (·.ComesFrom path rules))
    (hrules : ∀ rule ∈ rules, rule ∉ lookupRules) :
    withoutLookups r.warnings = r.warnings := by
  apply List.filter_eq_self.mpr
  intro i hi
  simpa using hrules i.rule (h.2 i hi).rule_mem

lemma withoutLookups_columnReferences :
    withoutLookups (columnReferences columns v path).warnings = [] := by
  apply List.filter_eq_nil_iff.mpr
  intro i hi
  simpa using (all_columnReferences.2 i hi).rule_mem

lemma columnReferences_none : columnReferences none v path = .empty := rfl

/-- Without the rules that look columns up, a block is reported on as if no columns were known. -/
lemma withoutLookups_block :
    withoutLookups (block known columns v path).warnings = (block known none v path).warnings := by
  simp only [block, warnings_append, withoutLookups_append, withoutLookups_columnReferences,
    withoutLookups_of_all all_languages (by decide),
    withoutLookups_of_all all_pageSize (by decide),
    withoutLookups_of_all all_ownColumns (by decide),
    withoutLookups_of_all all_tableColumns (by decide),
    withoutLookups_of_all all_templates (by decide),
    withoutLookups_of_all all_components (by decide),
    withoutLookups_of_all all_customizations (by decide),
    withoutLookups_of_all all_definitions (by decide), columnReferences_none, Report.empty]

lemma errors_block_congr (known known' : List String) (columns columns' : Option (List String)) :
    (block known columns v path).errors = (block known' columns' v path).errors := by
  simp only [block, errors_append, errors_templates, errors_columnReferences]

end Rule

lemma errors_validate_congr (known known' : List String) (columns columns' : Option (List String)) :
    (validate known columns model document).errors =
      (validate known' columns' model document).errors := by
  by_cases h : document = []
  · subst h
    simp only [validate, List.isEmpty_nil, if_true]
  · have hblock (block : String × Value) : (validate known columns model [block]).errors =
        (validate known' columns' model [block]).errors := by
      rw [validate_block, validate_block]
      split
      · exact Rule.errors_block_congr ..
      · rfl
    refine (findings_validate h .error).trans (.trans ?_ (findings_validate h .error).symm)
    exact List.flatMap_congr fun block _ => hblock block

/-- Where no columns of the model are known, only blocks with a model lose warnings. -/
lemma warnings_validate_none (known columns : List String) (block : String × Value) :
    (validate known none model [block]).warnings =
      if (block.2.filled? "noModel").isSome then
        (validate known (some columns) model [block]).warnings
      else withoutLookups (validate known (some columns) model [block]).warnings := by
  rw [validate_block, validate_block]
  by_cases hobj : block.2.isObj = true
  · rw [if_pos hobj, if_pos hobj, Rule.columnsOf, Rule.columnsOf]
    split
    · rfl
    · exact Rule.withoutLookups_block.symm
  · rw [if_neg hobj, if_neg hobj]
    split <;> rfl

/--
The errors of a view config do not depend on what columns its model has, or whether they are known,
nor on what components there are templates for. Its warnings without known columns are those with
any columns, block by block: all of them if the block has no model, and otherwise all but those of
the rules that look columns up.
-/
theorem verdict_without_lookups (known columns : List String) (model : String)
    (document : Entries Value) :
    (∀ known' columns',
      (validate known' columns' model document).errors
          = (validate known none model document).errors ∧
        (validate known' columns' model document).ok = (validate known none model document).ok) ∧
    (validate known (some columns) model document).warnings =
      document.flatMap (fun block => (validate known (some columns) model [block]).warnings) ∧
    (validate known none model document).warnings =
      document.flatMap fun block =>
        if (block.2.filled? "noModel").isSome then
          (validate known (some columns) model [block]).warnings
        else withoutLookups (validate known (some columns) model [block]).warnings := by
  refine ⟨?_, ?_, ?_⟩
  · intro known' columns'
    have herrors := @errors_validate_congr model document known' known columns' none
    exact ⟨herrors, by rw [ok, ok, herrors]⟩
  · by_cases h : document = []
    · subst h
      rfl
    · exact findings_validate h .warning
  · by_cases h : document = []
    · subst h
      rfl
    · refine (findings_validate h .warning).trans ?_
      exact List.flatMap_congr fun block _ => warnings_validate_none known columns block

end ViewAssembly
