import ViewAssembly.Header.Basic
import ViewAssembly.Proofs.Header.Order
import ViewAssembly.Proofs.Value.Names
import ViewAssembly.Section.Filters

/-!
# What holds of all names in a header

A header has the names that headers are built with, those in the definition of its column, and those
in the customization of the column. So has a list of headers that is put in order.
-/

namespace ViewAssembly

open Value

/-- The names that headers, fields, filters and buttons are built with. -/
def builtNames : List String :=
  ["key", "title", "value", "sortable", "hidden", "type", "displayType", "displayProps",
    "inlineEditable", "chip", "lang", "label", "inputType", "select", "filterable", "multiple",
    "itemTitle", "itemValue", "items", "url", "current_page", "per_page", "icon", "color", "en",
    "dv"]

variable {p : String → Prop} {token lang : String} {column : Column}

/-- An entry that is only there when something is set. -/
lemma Value.allNames_optional_map {α : Type} {name : String} {x : Option α} {f : α → Value}
    (hname : p name) (hx : ∀ y ∈ x, (f y).AllNames p) :
    (obj ((x.map f).map (name, ·)).toList).AllNames p := by
  cases x with
  | none => exact nofun
  | some y => exact allNames_obj_cons_iff.mpr ⟨hname, hx y rfl, allNames_obj_nil⟩

/-! ### Columns -/

/--
Does every name in a column's definition have a property, and do the names under which the choices
of its filter are shown?
-/
structure Column.AllNames (p : String → Prop) (token lang : String) (column : Column) : Prop where
  label : ∀ l ∈ column.label, l.toValue.AllNames p
  relationLabel : ∀ l ∈ column.relationLabel, l.toValue.AllNames p
  chip : ∀ fs ∈ column.chip, (obj fs).AllNames p
  select : ∀ fs ∈ column.select, (obj fs).AllNames p
  displayProps : ∀ fs ∈ column.displayProps, (obj fs).AllNames p
  filterable : ∀ f ∈ column.filterable, f.toValue.AllNames p
  choices : ∀ config, column.filterable = some (.config config) →
    p (ChoiceNames.ofConfig config (column.valueKey token) lang).title ∧
      p (ChoiceNames.ofConfig config (column.valueKey token) lang).value
  extras : (obj column.extras).AllNames p

namespace Column.AllNames

lemma labelOr (h : column.AllNames p token lang) (fallback : String) :
    (column.labelOr fallback).AllNames p := by
  rw [Column.labelOr]
  cases hlabel : column.label.filter LocalizedText.nonempty with
  | none => exact allNames_str fallback
  | some l => exact h.label l (Option.filter_eq_some_iff.mp hlabel).1

lemma title (h : column.AllNames p token lang) : (column.title token).AllNames p := by
  rw [Column.title]
  split
  · next l hl => exact h.relationLabel l (Option.filter_eq_some_iff.mp hl).1
  · exact h.labelOr _

variable (hbuilt : ∀ n ∈ builtNames, p n)
include hbuilt

lemma header (h : column.AllNames p token lang) (current : String) :
    (obj (column.header token current)).AllNames p := by
  have hfixed : (obj [("key", .str token), ("title", column.title token),
      ("value", .str (column.valueKey token)), ("sortable", .bool column.sortable),
      ("hidden", .bool column.hidden), ("type", .str column.type.name)]).AllNames p := by
    simp only [builtNames, List.forall_mem_cons] at hbuilt
    simp [allNames_obj_cons_iff, hbuilt, h.title]
  rw [Column.header]
  refine .append (.append (.append (.append (.append hfixed ?_) ?_) ?_) ?_) ?_
  · exact allNames_optional_map (hbuilt _ (by simp [builtNames])) fun _ _ => allNames_str _
  · exact allNames_optional_map (hbuilt _ (by simp [builtNames])) h.displayProps
  · exact allNames_optional_map (hbuilt _ (by simp [builtNames])) fun _ _ => allNames_bool _
  · exact allNames_optional_map (hbuilt _ (by simp [builtNames])) h.chip
  · exact allNames_optional_map (hbuilt _ (by simp [builtNames])) fun _ _ => allNames_str _

end Column.AllNames

/-! ### Customizations -/

namespace Customizations

/-- Does every name in what is said about columns have a property? -/
def AllNames (p : String → Prop) (c : Customizations) : Prop :=
  ∀ token v, c.block.get? token = some v ∨ c.component.get? token = some v → v.AllNames p

lemma allNames_said {es : Entries Value} (h : ∀ v, es.get? token = some v → v.AllNames p) :
    (said es token).AllNames p := by
  rw [said]
  cases hsaid : (es.get? token).filter Value.truthy with
  | none => exact allNames_obj_nil
  | some v => exact h v (Option.filter_eq_some_iff.mp hsaid).1

lemma AllNames.of {c : Customizations} (h : c.AllNames p) (token : String) :
    (c.of token).AllNames p := by
  rw [Customizations.of]
  apply Value.AllNames.merge
  · exact allNames_said fun v hv => h token v (.inl hv)
  · exact allNames_said fun v hv => h token v (.inr hv)

end Customizations

/-! ### Headers -/

namespace Header

variable {h : Header} {hs : List Header} {custom : Entries Value}

/-- Ordering takes entries away and brings in none. -/
lemma exists_of_mem_arrange (hmem : h ∈ arrange hs) : ∃ g ∈ hs, h = g.erase "order" := by
  obtain ⟨g, hg, rfl⟩ := List.mem_map.mp ((arrange_perm hs).mem_iff.mp hmem)
  exact ⟨g, hg, rfl⟩

lemma allNames_arrange (hall : ∀ h ∈ hs, (obj h).AllNames p) :
    ∀ h ∈ arrange hs, (obj h).AllNames p := by
  intro h hmem
  obtain ⟨g, hg, rfl⟩ := exists_of_mem_arrange hmem
  exact (hall g hg).erase "order"

variable (hbuilt : ∀ n ∈ builtNames, p n)
include hbuilt

lemma allNames_shell (token : String) (hcustom : (obj custom).AllNames p) :
    (obj (shell token custom)).AllNames p := by
  have hdata := hcustom.getD_get? (allNames_str token) "columnData"
  simp only [builtNames, List.forall_mem_cons] at hbuilt
  simp [shell, allNames_obj_cons_iff, hbuilt, hdata]

lemma allNames_settleEditable (hh : (obj h).AllNames p) : (obj h.settleEditable).AllNames p := by
  rw [settleEditable]
  split
  · exact (hh.erase "editable").put (hbuilt _ (by simp [builtNames])) (allNames_bool _)
  · exact hh

lemma allNames_settleTitle (hcustom : (obj custom).AllNames p) (hh : (obj h).AllNames p) :
    (obj (settleTitle custom h)).AllNames p := by
  have htitle : p "title" := hbuilt _ (by simp [builtNames])
  rw [settleTitle]
  split
  · next label _ hlabel =>
    have hput := hh.put htitle (hcustom.of_given? hlabel)
    exact hput.putNew htitle (hput.getD_get? allNames_null "label")
  · exact hh.putNew htitle (hh.getD_get? allNames_null "label")

lemma allNames_settleLanguage (lang : String) (hh : (obj h).AllNames p) :
    (obj (settleLanguage lang h)).AllNames p := by
  rw [settleLanguage]
  split
  · split
    · exact (hh.erase "lang").put (hbuilt _ (by simp [builtNames])) (allNames_str _)
    · exact hh.erase "lang"
  · exact hh

lemma allNames_settle (lang : String) (hcustom : (obj custom).AllNames p)
    (hh : (obj h).AllNames p) : (obj (settle lang custom h)).AllNames p := by
  apply allNames_settleLanguage hbuilt
  apply allNames_settleTitle hbuilt hcustom
  exact allNames_settleEditable hbuilt hh

lemma allNames_resolveTexts (lang : String) (hh : (obj h).AllNames p) :
    (obj (h.resolveTexts lang)).AllNames p := by
  have hput := hh.put (hbuilt "title" (by simp [builtNames]))
    (allNames_str (((h.get? "title").getD .null).resolve lang))
  rw [resolveTexts]
  split
  · exact hput.put (hbuilt _ (by simp [builtNames])) (allNames_str _)
  · exact hput

end Header

namespace HeaderSource

open Customizations

/-- Does every name in what headers are built from have a property? -/
structure AllNames (p : String → Prop) (s : HeaderSource) : Prop where
  built : ∀ n ∈ builtNames, p n
  columns : ∀ e ∈ s.snapshot, e.2.AllNames p e.1 s.lang
  customizations : s.customizations.AllNames p

variable {s : HeaderSource} {h : Header} {hs : List Header} {tokens : List String}

lemma allNames_of_customEntries {custom : Value} {fs : Entries Value} (hcustom : custom.AllNames p)
    (hfs : customEntries token custom = .ok fs) : (obj fs).AllNames p := by
  cases custom with
  | obj es =>
    cases hfs
    exact hcustom
  | _ => cases hfs

lemma allNames_of_schemaHeader (hs : s.AllNames p) (hcolumn : column.AllNames p token s.lang)
    (hh : s.schemaHeader token column = .ok (some h)) : (obj h).AllNames p := by
  rw [schemaHeader] at hh
  split at hh
  · cases hh
  · obtain ⟨custom, hcustom, hh⟩ := bind_eq_ok_iff.mp hh
    cases hh
    have hentries := allNames_of_customEntries (hs.customizations.of token) hcustom
    apply Header.allNames_settle hs.built s.lang hentries
    exact .mergeFields .patch (hcolumn.header hs.built s.lang) hentries

lemma allNames_of_broughtHeader (hs : s.AllNames p)
    (hh : s.broughtHeader token = .ok (some h)) : (obj h).AllNames p := by
  rw [broughtHeader] at hh
  split at hh
  · cases hh
  · obtain ⟨custom, hcustom, hh⟩ := bind_eq_ok_iff.mp hh
    cases hh
    have hentries := (allNames_of_customEntries (hs.customizations.of token) hcustom).putNew
      (hs.built "label" (by simp [builtNames])) (allNames_str (Token.title token))
    apply Header.allNames_settle hs.built s.lang hentries
    exact .mergeFields .patch (Header.allNames_shell hs.built token hentries) hentries

lemma allNames_of_header? (hs : s.AllNames p) (hh : s.header? token = .ok (some h)) :
    (obj h).AllNames p := by
  rw [header?] at hh
  split at hh
  · next column hcolumn =>
    exact allNames_of_schemaHeader hs (hs.columns _ (Entries.mem_of_get? hcolumn)) hh
  · obtain ⟨brought, -, hh⟩ := bind_eq_ok_iff.mp hh
    split at hh
    · exact allNames_of_broughtHeader hs hh
    · cases hh

/-- The headers as they stand before their texts are resolved. -/
lemma allNames_of_mapM_header? {found : List (Option Header)} (hs : s.AllNames p)
    (hfound : tokens.mapM s.header? = .ok found) :
    ∀ h ∈ Header.arrange (found.filterMap id), (obj h).AllNames p := by
  apply Header.allNames_arrange
  intro h hmem
  obtain ⟨x, hx, rfl⟩ := List.mem_filterMap.mp hmem
  obtain ⟨token, -, hheader⟩ := exists_of_mem_mapM hfound hx
  exact allNames_of_header? hs hheader

lemma allNames_of_headers {out : List Header} (hs : s.AllNames p)
    (hout : s.headers tokens = .ok out) : ∀ h ∈ out, (obj h).AllNames p := by
  obtain ⟨all, -, hout⟩ := bind_eq_ok_iff.mp hout
  obtain ⟨found, hfound, hout⟩ := bind_eq_ok_iff.mp hout
  cases hout
  intro h hmem
  obtain ⟨g, hg, rfl⟩ := List.mem_map.mp hmem
  exact Header.allNames_resolveTexts hs.built s.lang (allNames_of_mapM_header? hs hfound g hg)

end HeaderSource

end ViewAssembly
