import ViewAssembly.Proofs.Header.Listed
import ViewAssembly.Proofs.Merge.Layers

/-!
# Layers of customizations

What a block and a component say about a column is merged first, and only then merged into the
header of the column. The outcome is the same as if the two were merged into the header one after
the other, unless the block puts aside an object of the header for which the component brings an
object again (`Context.exists_header_layered`): then what the header had there comes back
(`Context.old_chip_comes_back`).
-/

namespace ViewAssembly

open Customizations Value

variable {token : String} {column : Column} {custom : Entries Value}

/-- The header of a column that is shown. -/
lemma HeaderSource.header?_eq {s : HeaderSource} (hcolumn : s.snapshot.get? token = some column)
    (hof : s.customizations.of token = .obj custom)
    (hshown : column.hidden = false ∨ s.includeHidden = true)
    (hadmits : column.admits s.lang = true) :
    s.header? token = .ok (some (Header.settle s.lang custom
      (mergeFields .patch (column.header token s.lang) custom))) := by
  have hvisible : ((column.hidden && !s.includeHidden) || !column.admits s.lang) = false := by
    rcases hshown with h | h <;> simp [h, hadmits]
  rw [header?, hcolumn]
  change s.schemaHeader token column = _
  rw [schemaHeader, hvisible, hof]
  rfl

namespace Context

variable {ctx : Context} {c : Customizations}

/--
The header of a column that is shown: what the block and the component say about it, merged, and
merged into the header that it has by itself. Where what the block says is no object, the header
holds what the component says merged into what the header had there by itself. So it is the header
into which the two are merged one after the other exactly if at no such place anything of the latter
is left.
-/
theorem exists_header_layered
    (hc : ofValues ctx.blockCustomizations ctx.componentCustomizations = .ok c) (hplain : c.Plain)
    (hcolumn : ctx.snapshot.get? token = some column) (htoken : token ∈ ctx.columns)
    (hshown : column.hidden = false ∨ ctx.includeHidden = true)
    (hadmits : column.admits ctx.lang = true)
    (hbase : (obj (column.header token ctx.lang)).WellFormed)
    (hblock : (obj (entriesFor c.block token)).WellFormed)
    (hcomponent : (obj (entriesFor c.component token)).WellFormed) :
    let base := obj (column.header token ctx.lang)
    let lower := obj (entriesFor c.block token)
    let upper := obj (entriesFor c.component token)
    ∃ hs h, ctx.headers = .ok hs ∧ (Header.settle ctx.lang (c.merged token) h).final ctx.lang ∈ hs ∧
      obj h = base.merge .patch (lower.merge .patch upper) ∧
      (∀ path b r p, base.at? path = some b → lower.at? path = some r → upper.at? path = some p →
        r.isObj = false → (obj h).at? path = some (b.merge .patch p)) ∧
      (obj h = (base.merge .patch lower).merge .patch upper ↔ Covers base lower upper) := by
  intro base lower upper
  obtain ⟨hs, hhs⟩ := exists_headers hc hplain
  have hmerged : (obj (c.merged token)).WellFormed :=
    WellFormed.mergeFields .patch hblock hcomponent
  refine ⟨hs, mergeFields .patch (column.header token ctx.lang) (c.merged token), hhs, ?_, rfl,
    fun path b r p hb hr hp hobj => ?_, merge_merge_iff hbase hblock hcomponent⟩
  · rw [headers_eq hc] at hhs
    refine (HeaderSource.mem_headers_iff hhs).mpr ⟨token, _, .inl htoken, ?_, rfl⟩
    exact HeaderSource.header?_eq hcolumn (hplain.of_eq_merged token) hshown hadmits
  · have hpath : (obj (c.merged token)).at? path = some (r.merge .patch p) :=
      at?_merge hcomponent hr hp
    rw [merge_of_not_isObj hobj] at hpath
    exact at?_merge hmerged hb hpath

/-! ### A chip that is put aside -/

def chipColumn : Column := { label := some (.plain "Id"), chip := some [("color", .str "red")] }

def chipHeader (chip : Value) : Header :=
  [("key", .str "id"), ("title", .str "Id"), ("value", .str "id"), ("sortable", .bool false),
    ("hidden", .bool false), ("type", .str "string"), ("chip", chip)]

/-- The block takes the chip off, and the component wants one with an icon. -/
def chipCustomizations : Customizations where
  block := [("id", .obj [("chip", .null)])]
  component := [("id", .obj [("chip", .obj [("icon", .str "mdi-eye")])])]

def chipContext : Context where
  snapshot := [("id", chipColumn)]
  blockCustomizations := .obj chipCustomizations.block
  componentCustomizations := .obj chipCustomizations.component

lemma header_chipColumn : chipColumn.header "id" "en" = chipHeader (.obj [("color", .str "red")]) := by
  with_unfolding_all rfl

lemma wellFormed_chipHeader {chip : Value} (h : chip.WellFormed) :
    (obj (chipHeader chip)).WellFormed := by
  have hkeys : Entries.keys (chipHeader chip)
      = ["key", "title", "value", "sortable", "hidden", "type", "chip"] := rfl
  refine wellFormed_obj_iff.mpr ⟨hkeys ▸ by decide, ?_⟩
  simp [chipHeader, WellFormed, h]

/-- The component's chip is merged into the one that the column has by itself. -/
theorem exists_header_layered_chip :
    ∃ hs h, chipContext.headers = .ok hs ∧
      (Header.settle "en" (chipCustomizations.merged "id") h).final "en" ∈ hs ∧
      (obj h).at? ["chip"] = some (.obj [("color", .str "red"), ("icon", .str "mdi-eye")]) := by
  have hbase : (obj (chipColumn.header "id" "en")).WellFormed := by
    rw [header_chipColumn]
    exact wellFormed_chipHeader (wellFormed_obj_singleton trivial)
  have hc : ofValues chipContext.blockCustomizations chipContext.componentCustomizations
      = .ok chipCustomizations := rfl
  have hplain : chipCustomizations.Plain := by simp [Plain, chipCustomizations, isObj, fields?]
  have hblock : (obj (entriesFor chipCustomizations.block "id")).WellFormed :=
    wellFormed_obj_singleton trivial
  have hcomponent : (obj (entriesFor chipCustomizations.component "id")).WellFormed :=
    wellFormed_obj_singleton (wellFormed_obj_singleton trivial)
  obtain ⟨hs, h, hhs, hmem, -, hchip, -⟩ :=
    exists_header_layered hc hplain rfl (by decide) (.inl rfl) rfl hbase hblock hcomponent
  exact ⟨hs, h, hhs, hmem, hchip ["chip"] _ _ _ rfl rfl rfl rfl⟩

/-- The color of the chip comes back, although the block takes the chip off. -/
theorem old_chip_comes_back :
    chipContext.headers
        = .ok [chipHeader (.obj [("color", .str "red"), ("icon", .str "mdi-eye")])] ∧
      ((obj (chipColumn.header "id" "en")).merge .patch (obj [("chip", .null)])).merge .patch
          (obj [("chip", .obj [("icon", .str "mdi-eye")])])
        = obj (chipHeader (.obj [("icon", .str "mdi-eye")])) := by
  constructor
  · with_unfolding_all rfl
  · with_unfolding_all rfl

end Context

end ViewAssembly
