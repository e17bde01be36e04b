import ViewAssembly.Proofs.Assembly.Outcome
import ViewAssembly.Proofs.View.Block
import ViewAssembly.Proofs.View.Findings

/-!
# What the absence of errors says

A finding lies in a block when its path leads on from the name of the block. A block without errors
lists its languages, and it brings column definitions if it says that it has no model.
-/

namespace ViewAssembly

/-- Does a finding lie in the block of this name? -/
def Issue.LiesIn (i : Issue) (name : String) : Prop := ∃ rest, i.path = name ++ "." ++ rest

variable {known : List String} {columns modelColumns : Option (List String)}
variable {v : Value} {name path : String} {document fs : Entries Value}

/-! ### The errors of single rules -/

namespace Rule

lemma errors_languages_eq_nil_iff :
    (languages v path).errors = [] ↔ ∃ l ls, v.get? "lang" = some (.arr (l :: ls)) := by
  rw [languages, Value.given?]
  cases v.get? "lang" with
  | none => exact iff_of_false (List.cons_ne_nil _ _) (by simp)
  | some w =>
    cases w with
    | arr ls =>
      cases ls with
      | nil => exact iff_of_false (List.cons_ne_nil _ _) (by simp)
      | cons l ls => exact iff_of_true rfl ⟨l, ls, rfl⟩
    | _ => exact iff_of_false (List.cons_ne_nil _ _) (by simp)

lemma hasEntries_iff {n : String} :
    hasEntries (.obj fs) n = true ↔ ∃ e es, fs.get? n = some (.obj (e :: es)) := by
  rw [hasEntries, object?, Value.get?, Value.fields?, Option.bind_some]
  cases fs.get? n with
  | none => simp
  | some w =>
    cases w with
    | obj es => cases es <;> simp [Value.fields?]
    | _ => simp [Value.fields?]

lemma errors_ownColumns_eq_nil_iff :
    (ownColumns v path).errors = [] ↔
      ((v.filled? "noModel").isSome = true → hasEntries v "columnsSchema" = true) := by
  rw [ownColumns]
  split
  · next h =>
    obtain ⟨hfilled, hentries⟩ := Bool.and_eq_true_iff.mp h
    refine iff_of_false nofun fun himp => ?_
    rw [himp hfilled] at hentries
    cases hentries
  · next h => exact iff_of_true rfl (by simpa using h)

/-- Every finding on a block lies in it. -/
lemma all_block_liesIn : (block known columns v name).All (·.LiesIn name) := all_block_below

end Rule

/-! ### Blocks without errors -/

/-- What is found in a block is found in the document. -/
lemma mem_errors_validate {model : String} (hblock : document.get? name = some (.obj fs))
    {i : Issue}
    (h : i ∈ (Rule.block known (Rule.columnsOf modelColumns (.obj fs)) (.obj fs) name).errors) :
    i ∈ (validate known modelColumns model document).errors := by
  have hmem := Entries.mem_of_get? hblock
  rw [validate_of_ne_nil (List.ne_nil_of_mem hmem), validateBlocks, Report.errors_concat]
  exact List.mem_flatMap.mpr ⟨_, List.mem_map.mpr ⟨_, hmem, rfl⟩, h⟩

/-- What a block without errors has. -/
structure ViewBlock.Sound (fs : Entries Value) : Prop where
  lang : ∃ l ls, fs.get? "lang" = some (.arr (l :: ls))
  columnsSchema : ((Value.obj fs).filled? "noModel").isSome = true →
    Rule.hasEntries (.obj fs) "columnsSchema" = true

lemma ViewBlock.sound_of_no_errors {model : String}
    (hblock : document.get? name = some (.obj fs))
    (hvalid : ∀ i ∈ (validate known modelColumns model document).errors, ¬ i.LiesIn name) :
    ViewBlock.Sound fs := by
  have hnone : (Rule.block known (Rule.columnsOf modelColumns (.obj fs)) (.obj fs) name).errors
      = [] := by
    apply List.eq_nil_iff_forall_not_mem.mpr
    intro i hi
    exact hvalid i (mem_errors_validate hblock hi) (Rule.all_block_liesIn.1 i hi)
  simp only [Rule.block, Report.errors_append, List.append_eq_nil_iff] at hnone
  obtain ⟨⟨⟨⟨⟨⟨⟨⟨hlanguages, -⟩, hcolumns⟩, -⟩, -⟩, -⟩, -⟩, -⟩, -⟩ := hnone
  exact ⟨Rule.errors_languages_eq_nil_iff.mp hlanguages,
    Rule.errors_ownColumns_eq_nil_iff.mp hcolumns⟩

/-! ### Reading blocks without errors -/

namespace ViewBlock.Sound

variable {block : ViewBlock}

lemma lang_ne_nil (h : Sound fs) (hblock : ViewBlock.ofFields fs = .ok block) :
    block.lang ≠ [] := by
  obtain ⟨l, ls, hget⟩ := h.lang
  obtain ⟨-, -, -, -, -, -, -, hlang, -⟩ := ViewBlock.ofFields_eq_ok_iff.mp hblock
  exact ne_nil_of_mapM_cons (FieldName.reader_of_read hlang hget)

/-- Under its main name, the absence of a model goes with column definitions. -/
lemma not_lacksColumns (h : Sound fs) (hblock : ViewBlock.ofFields fs = .ok block)
    (hgiven : fs.get? "noModel" ≠ none) : ¬ block.LacksColumns := by
  rintro ⟨hnoModel, hcolumns⟩
  obtain ⟨v, hv⟩ := Option.ne_none_iff_exists'.mp hgiven
  obtain ⟨-, -, -, -, hschema, -, -, -, hread, -⟩ := ViewBlock.ofFields_eq_ok_iff.mp hblock
  have htrue : v.readFlag? = some true :=
    (FieldName.reader_of_read hread hv).trans (congrArg some hnoModel)
  have hfilled : ((Value.obj fs).filled? "noModel").isSome = true := by
    rw [Value.filled?, Value.get?, Value.fields?, Option.bind_some, hv,
      Option.filter_some_pos (Value.truthy_of_readFlag? htrue)]
    rfl
  obtain ⟨e, es, hes⟩ := Rule.hasEntries_iff.mp (h.columnsSchema hfilled)
  obtain ⟨columns, hentries, hsome⟩ :=
    Option.map_eq_some_iff.mp (FieldName.reader_of_read hschema hes)
  rw [← hsome] at hcolumns
  rw [Value.readEntries?, Value.fields?, Option.bind_some] at hentries
  exact ne_nil_of_mapM_cons hentries hcolumns

end ViewBlock.Sound

end ViewAssembly
