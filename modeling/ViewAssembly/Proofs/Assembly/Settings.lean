import ViewAssembly.Proofs.Assembly.Failure
import ViewAssembly.Proofs.Assembly.Order

/-!
# Names of settings in a section

What a component says about columns, page size and languages says how to assemble it. Columns and
their customizations are taken out of an override before it is applied and never show in a section.
The page size and the languages are not; they show wherever names of one's own are allowed
(`Engine.setting_in_section_iff`).
-/

namespace ViewAssembly.Engine

variable {a : Engine} {block : ViewBlock} {ctx : Context} {schema : Snapshot} {r : ViewRequest}
variable {t : Template} {draft override : Entries Value} {n : String}

/-! ### Names that an override brings -/

/-- Is a name of its own left in what an override puts into a section? -/
def Brings (a : Engine) (override : Entries Value) (n : String) : Prop :=
  n ∉ internalNames ∧ a.settings.allowCustomKeys = true ∧
    ∃ v, override.get? n = some v ∧ v.saysOff = false

/-- A name that is not in the template is in a section if the override brings it. -/
lemma isSome_get?_applyOverride_iff (ho : override.keys.Nodup) (ht : n ∉ t.directives.keys)
    (hdraft : draft.get? n = none) :
    ((a.applyOverride t draft override).get? n).isSome = true ↔ a.Brings override n := by
  have hrestricted : (override.restrict fun name => !internalNames.contains name).keys.Nodup :=
    Entries.nodup_keys_restrict ho _
  rw [applyOverride, Override.get?_apply hrestricted, Entries.get?_restrict, Brings, hdraft]
  by_cases hinternal : n ∈ internalNames
  · exact iff_of_false (by simp [hinternal]) fun h => h.1 hinternal
  · cases hget : override.get? n with
    | none => exact iff_of_false (by simp) (by simp)
    | some v =>
      cases hcustom : a.settings.allowCustomKeys <;>
        simp [hinternal, Override.allowing, ht, Override.isSome_overrideValue]

/-- Beyond its template, a section has what its override brings, unless it has become a text. -/
lemma isSome_get?_of_component {languages : List String} {here : Value}
    (h : a.component ctx languages t override = .ok here) (ho : override.keys.Nodup)
    (hnodup : t.directives.keys.Nodup) (ht : n ∉ t.directives.keys) :
    (here.get? n).isSome = true ↔ here.isObj = true ∧ a.Brings override n := by
  obtain ⟨draft, merged, hdraft, hmerged, rfl⟩ := exists_merged_of_component h
  have hnone : draft.get? n = none := by
    have hget := get?_of_resolveDirectives hdraft hnodup n
    rwa [Entries.get?_eq_none_iff.mpr ht] at hget
  rw [← isSome_get?_applyOverride_iff ho ht hnone,
    ← Entries.isSome_get?_congr (keys_of_orderHeaders hmerged) n,
    ← Entries.isSome_get?_congr (Value.keys_inlineFields a.functions merged) n]
  exact Value.isSome_get?_localizeWith _ n

/-! ### Names of settings -/

/-- The names under which a block or a component says how it is to be assembled. -/
def settingNames : List String := ["columns", "columnCustomizations", "per_page", "lang"]

/-- No shipped template has an entry under such a name. -/
lemma not_mem_keys_templateOf (hn : n ∈ settingNames) (kind : ComponentKind) :
    n ∉ (Shipped.templateOf kind).directives.keys := by
  revert n
  cases kind <;> decide

/--
The columns and their customizations that a component lists never show in its section. Its page size
and its languages do, exactly if names of one's own are allowed: unless the override says that the
entry is off, or the section as a whole has become a text.
-/
theorem setting_in_section_iff (block : ReadBlock) {p : Payload} {key : String} {here : Value}
    (htemplates : a.templates = Shipped.templates)
    (hp : a.assemble block schema r = .ok (.payload p)) (hhere : (key, here) ∈ p.sections)
    (hn : n ∈ settingNames) :
    (here.get? n).isSome = true ↔
      here.isObj = true ∧ n ∉ internalNames ∧ a.settings.allowCustomKeys = true ∧
        ∃ v, (block.override key).get? n = some v ∧ v.saysOff = false := by
  obtain ⟨hkey, snapshot, t, -, ht, hsection⟩ := sectionOf_of_mem_sections hp hhere
  rw [htemplates, Shipped.find?_templates] at ht
  obtain ⟨kind, -, rfl⟩ := Option.map_eq_some_iff.mp ht
  exact isSome_get?_of_component hsection (block.nodup_override key) (Shipped.nodup_keys_templateOf kind)
    (not_mem_keys_templateOf hn kind)

/-- A block with a component that lists columns and gives a page size. -/
def sizedMeta : ViewBlock where
  components := [("meta", .obj [("columns", .arr [.str "id"]), ("per_page", .int 5)])]
  lang := ["en"]

def sizedSection : Value :=
  .obj [("datalink", .str "/api/gapi/?columns=id&per_page=25"),
    ("pagination", .obj [("current_page", .int 1), ("per_page", .int 25)]),
    ("per_page", .int 5)]

set_option maxRecDepth 4000 in
lemma assemble_sizedMeta :
    shippedEngine.assemble sizedMeta [("id", {})] { lang := some "en" }
      = .ok (.payload { sections := [("meta", sizedSection)] }) := by
  with_unfolding_all rfl

/-- The columns that the component lists do not show. -/
theorem setting_in_section_iff_columns :
    ∃ p, shippedEngine.assemble sizedMeta [("id", {})] { lang := some "en" } = .ok (.payload p) ∧
      ∃ here, ("meta", here) ∈ p.sections ∧ (here.get? "columns").isSome = false := by
  have hwf : (Value.obj sizedMeta.components).WellFormed := by
    simp [sizedMeta, Value.WellFormed, Value.WellFormedFields, Value.WellFormedElems]
  refine ⟨_, assemble_sizedMeta, sizedSection, List.mem_cons_self, ?_⟩
  rw [Bool.eq_false_iff, ne_eq, setting_in_section_iff (.ofWellFormed _ hwf) rfl
    assemble_sizedMeta List.mem_cons_self (by decide)]
  exact fun h => h.2.1 (by decide)

/-- The page size does. -/
theorem page_size_in_section :
    ∃ p here, shippedEngine.assemble sizedMeta [("id", {})] { lang := some "en" }
        = .ok (.payload p) ∧
      ("meta", here) ∈ p.sections ∧ here.get? "per_page" = some (.int 5) :=
  ⟨_, sizedSection, assemble_sizedMeta, List.mem_cons_self, rfl⟩

end ViewAssembly.Engine
