import Mathlib.Data.List.Forall2
import ViewAssembly.Proofs.Assembly.Order
import ViewAssembly.Proofs.Section.Choices

/-!
# Choices in a payload

The filters of a view stand in its filter sections, and beside the sections where the settings ask
for it. In both places they are localized like everything else, and what becomes of their choices is
what localizing makes of them: they are intact unless the names of their titles and values pass for
language codes (`Engine.choices_in_payload`).
-/

namespace ViewAssembly

/-- A name that an override does not mention stays as it is. -/
lemma Override.get?_apply_of_get?_eq_none {allows : String → Bool} {draft o : Entries Value}
    {n : String} (h : o.get? n = none) : (apply allows draft o).get? n = draft.get? n := by
  induction o generalizing draft with
  | nil => rfl
  | cons e o ih =>
    obtain ⟨k, v⟩ := e
    rw [Entries.get?_cons] at h
    split_ifs at h with hk
    rw [apply_cons, ih h]
    split_ifs
    · rw [get?_applyEntry, if_neg hk]
    · rfl

/-- Filters are shown for those of a context if each shows the choices that it offers. -/
def Context.ShowsChoices (ctx : Context) (languages : List String) (shown : List Value) : Prop :=
  List.Forall₂ (fun f g => ∀ names items, f.OffersChoices names items →
    Value.OffersChoices.Shown ctx.lang (Value.knownLanguages ctx.lang languages) names items g)
    ctx.filters shown

namespace Engine

variable {a : Engine} {block : ViewBlock} {ctx : Context} {schema : Snapshot} {r : ViewRequest}
variable {t : Template} {override : Entries Value} {languages : List String}

/-- Filters that an override leaves alone are inlined and localized as they were built. -/
lemma filters_of_component {here : Value} (hbuilders : a.builders = Builder.byName)
    (hnodup : t.directives.keys.Nodup) (hon : t.directives.get? "filters" = some (.str "on"))
    (ho : override.get? "filters" = none) (h : a.component ctx languages t override = .ok here) :
    here.get? "filters" = some (((Value.arr ctx.filters).inlineFunctions a.functions).localize
      ctx.lang languages) := by
  obtain ⟨draft, merged, hdraft, hmerged, rfl⟩ := exists_merged_of_component h
  have hbuilt : draft.get? "filters" = some (.arr ctx.filters) := by
    have hget := get?_of_resolveDirectives hdraft hnodup "filters"
    rw [hon, hbuilders] at hget
    exact (Except.ok.inj hget).symm
  have hrestricted : (override.restrict fun name => !internalNames.contains name).get? "filters"
      = none := by
    rw [Entries.get?_restrict, ho, ite_self]
  have hget : merged.get? "filters" = some (.arr ctx.filters) := by
    rw [get?_of_orderHeaders hmerged (by decide), applyOverride,
      Override.get?_apply_of_get?_eq_none hrestricted, hbuilt]
  exact Value.get?_localize_inlineFunctions (by decide) rfl hget

/-- Localizing filters shows their choices, whether they were inlined before or not. -/
lemma showsChoices_localize (ctx : Context) (languages : List String) (change : Value → Value)
    (hchange : ∀ f names items, f.OffersChoices names items →
      (change f).OffersChoices names items) :
    ctx.ShowsChoices languages ((ctx.filters.map change).map (Value.localizeWith ctx.lang
      (Value.knownLanguages ctx.lang languages))) := by
  rw [Context.ShowsChoices, List.map_map, List.forall₂_map_right_iff, List.forall₂_same]
  intro f _ names items hoffers
  exact (hchange f names items hoffers).localizeWith ctx.lang _

/--
What becomes of choices in a payload. Those filters have choices that are select filters and list
them. Beside the sections, and in every filter section that overrides no filters, each shows those
that were built for it; they are intact unless the names of their titles and values pass for
language codes.
-/
theorem choices_in_payload {p : Payload} (htemplates : a.templates = Shipped.templates)
    (hbuilders : a.builders = Builder.byName)
    (hp : a.assemble block schema r = .ok (.payload p)) :
    ∃ snapshot, snapshotFor block schema r.blockName = .ok snapshot ∧
      (∀ token column f, (a.context block snapshot r).filter? token column = some f →
        ((∃ names items, f.OffersChoices names items) ↔
          ∃ config, column.filterable = some (.config config) ∧ ListsChoices config)) ∧
      (∀ v, p.filters = some v → ∃ shown, v = .arr shown ∧
        (a.context block snapshot r).ShowsChoices block.lang shown) ∧
      ∀ key here, (key, here) ∈ p.sections → ComponentKind.ofKey? key = some .filterSection →
        (block.override key).get? "filters" = none → ∃ shown,
          here.get? "filters" = some (.arr shown) ∧
            (a.context block snapshot r).ShowsChoices block.lang shown := by
  obtain ⟨-, -, -, snapshot, hs, hpayload⟩ := assemble_eq_payload_iff.mp hp
  obtain ⟨-, -, hfilters, -⟩ := payload_eq_ok_iff.mp hpayload
  refine ⟨snapshot, hs, fun _ _ _ hf => Context.exists_offersChoices_iff hf, fun v hv => ?_,
    fun key here hhere hkind ho => ?_⟩
  · rw [hv] at hfilters
    split_ifs at hfilters
    cases hfilters
    refine ⟨_, congrArg Value.arr (Value.localizeElems_eq_map _), ?_⟩
    -- beside the sections nothing is inlined before the texts are chosen
    simpa using showsChoices_localize (a.context block snapshot r) block.lang id fun _ _ _ h => h
  · obtain ⟨-, snapshot', t, hs', ht, hsection⟩ := sectionOf_of_mem_sections hp hhere
    obtain rfl : snapshot = snapshot' := Except.ok.inj (hs.symm.trans hs')
    rw [htemplates, Shipped.find?_templates, hkind] at ht
    cases ht
    have hget := filters_of_component hbuilders (Shipped.nodup_keys_templateOf .filterSection) rfl
      ho hsection
    rw [Value.inlineFunctions, Value.inlineElems_eq_map, Value.localize, Value.localizeWith,
      Value.localizeElems_eq_map] at hget
    exact ⟨_, hget, showsChoices_localize (a.context block snapshot r) block.lang _
      fun _ _ _ h => h.inlineFunctions a.functions⟩

/-- An engine with the shipped templates that puts filters beside the sections. -/
def filteringEngine : Engine where
  settings := { topLevelFilters := true }
  templates := Shipped.templates

def filterBlock : ViewBlock where
  components := [("filterSection", .obj [])]
  lang := ["en"]

/-- A column with a select filter of one choice, whose title has the given name. -/
def selectColumn (title : String) : Snapshot :=
  [("id", { filterable := some (.config [("type", .str "select"), ("itemTitle", .str title),
    ("itemValue", .str "id"), ("items", .arr [.obj [("id", .int 1), (title, .str "One")]])]) })]

def selectFilter (title : String) (choices : List Value) : Value :=
  .obj [("type", .str "Select"), ("key", .str "id"), ("label", .str "Id"),
    ("itemTitle", .str title), ("itemValue", .str "id"), ("items", .arr choices)]

def filterSection (filter : Value) : Value :=
  .obj [("filters", .arr [filter]),
    ("buttons", .arr [
      .obj [("type", .str "apply"), ("label", .str "Apply"), ("color", .str "primary")],
      .obj [("type", .str "clear"), ("label", .str "Clear")]]),
    ("layout", .obj [("columns", .int 3), ("collapsed", .bool false)])]

def oneChoice (title : String) : Value := .obj [(title, .str "One"), ("id", .str "1")]

set_option maxRecDepth 4000 in
lemma assemble_selectColumn_name :
    filteringEngine.assemble filterBlock (selectColumn "name") { lang := some "en" }
      = .ok (.payload {
        sections := [("filterSection", filterSection (selectFilter "name" [oneChoice "name"]))]
        filters := some (.arr [selectFilter "name" [oneChoice "name"]]) }) := by
  with_unfolding_all rfl

set_option maxRecDepth 4000 in
/-- A choice whose title is called a name is intact. -/
theorem choices_in_payload_name :
    ∃ p g, filteringEngine.assemble filterBlock (selectColumn "name") { lang := some "en" }
        = .ok (.payload p) ∧
      p.filters = some (.arr [g]) ∧ g.get? "items" = some (.arr [oneChoice "name"]) := by
  obtain ⟨snapshot, hs, -, hbeside, -⟩ := choices_in_payload rfl rfl assemble_selectColumn_name
  cases hs
  obtain ⟨shown, hshown, hall⟩ := hbeside _ rfl
  have hfilters : (filteringEngine.context filterBlock (selectColumn "name")
      { lang := some "en" }).filters = [selectFilter "name" [oneChoice "name"]] := by
    with_unfolding_all rfl
  rw [Context.ShowsChoices, hfilters, List.forall₂_cons_left_iff] at hall
  obtain ⟨g, rest, hg, hrest, rfl⟩ := hall
  obtain rfl := List.forall₂_nil_left_iff.mp hrest
  have hoffers : (selectFilter "name" [oneChoice "name"]).OffersChoices ⟨"name", "id"⟩
      [.obj [("id", .int 1), ("name", .str "One")]] := ⟨rfl, rfl, by with_unfolding_all rfl⟩
  have hintact := (hg _ _ hoffers).intact_iff.mpr (.inr (by decide))
  refine ⟨_, g, assemble_selectColumn_name, congrArg some hshown, hintact.trans ?_⟩
  with_unfolding_all rfl

set_option maxRecDepth 4000 in
/-- Where the title is named by a language code, each choice is taken for a text. -/
theorem choice_becomes_text :
    (filteringEngine.context filterBlock (selectColumn "en") { lang := some "en" }).filters
        = [selectFilter "en" [oneChoice "en"]] ∧
      filteringEngine.assemble filterBlock (selectColumn "en") { lang := some "en" }
        = .ok (.payload {
          sections := [("filterSection", filterSection (selectFilter "en" [.str "One"]))]
          filters := some (.arr [selectFilter "en" [.str "One"]]) }) := by
  refine ⟨?_, ?_⟩ <;> with_unfolding_all rfl

end Engine

end ViewAssembly
