import ViewAssembly.Proofs.Record.Reading
import ViewAssembly.Proofs.Value.Basic
import ViewAssembly.Proofs.Value.WellFormed
import ViewAssembly.View.Block

/-!
# Reading view blocks

A block can be read when each of its fields can (`ViewBlock.exists_ofFields_iff`). What is read
under a field is what its reader makes of the value there. The names of an override are then
distinct, and `ReadBlock` carries that.
-/

namespace ViewAssembly

namespace ViewBlock

variable {fs : Entries Value} {block : ViewBlock}

/-- The reader of the column definitions that a block brings. -/
def readColumns? : Value → Option (Option (Entries Column)) :=
  Value.readOptional? (Value.readEntries? fun v => (Column.ofValue v).toOption)

/-- A block is read field by field. -/
lemma ofFields_eq_ok_iff :
    ofFields fs = .ok block ↔
      (∀ k ∈ fs.keys, Text.hasHalf k = false) ∧
      Field.components.read fs (.ok []) readComponents? = .ok block.components ∧
      Field.columns.read fs (.ok []) Value.readNames? = .ok block.columns ∧
      Field.columnCustomizations.read fs (.ok []) (Value.readEntries? Value.fields?)
        = .ok block.columnCustomizations ∧
      Field.columnsSchema.read fs (.ok none) readColumns? = .ok block.columnsSchema ∧
      Field.filters.read fs (.ok none) (Value.readOptional? Value.readNames?)
        = .ok block.filters ∧
      Field.perPage.read fs (.ok none) (Value.readOptional? Value.readPositive?)
        = .ok block.perPage ∧
      Field.lang.read fs (.ok []) Value.readNames? = .ok block.lang ∧
      Field.noModel.read fs (.ok false) Value.readFlag? = .ok block.noModel ∧
      FieldName.unused Field.all fs = block.extras := by
  rw [ofFields, Checked.ofWholeNames_eq_ok_iff]
  simp only [Checked.seq_eq_ok_iff, Checked.map_eq_ok_iff]
  refine and_congr_right fun _ => ⟨?_, ?_⟩
  · rintro ⟨_, _, ⟨_, _, ⟨_, _, ⟨_, _, ⟨_, _, ⟨_, _, ⟨_, _, ⟨_, _, ⟨_, h₁, rfl⟩, h₂, rfl⟩, h₃, rfl⟩,
      h₄, rfl⟩, h₅, rfl⟩, h₆, rfl⟩, h₇, rfl⟩, h₈, rfl⟩, h₉, rfl⟩
    exact ⟨h₁, h₂, h₃, h₄, h₅, h₆, h₇, h₈, Checked.ok.inj h₉⟩
  · obtain ⟨components, columns, customizations, schema, filters, perPage, lang, noModel, extras⟩ :=
      block
    rintro ⟨h₁, h₂, h₃, h₄, h₅, h₆, h₇, h₈, rfl⟩
    exact ⟨_, _, ⟨_, _, ⟨_, _, ⟨_, _, ⟨_, _, ⟨_, _, ⟨_, _, ⟨_, _, ⟨_, h₁, rfl⟩, h₂, rfl⟩, h₃, rfl⟩,
      h₄, rfl⟩, h₅, rfl⟩, h₆, rfl⟩, h₇, rfl⟩, h₈, rfl⟩, rfl, rfl⟩

/-- Can a block be read: are its names whole, and do the values of its fields suit their readers? -/
structure Readable (fs : Entries Value) : Prop where
  names : ∀ k ∈ fs.keys, Text.hasHalf k = false
  components : Field.components.Suits fs readComponents?
  columns : Field.columns.Suits fs Value.readNames?
  columnCustomizations : Field.columnCustomizations.Suits fs (Value.readEntries? Value.fields?)
  columnsSchema : Field.columnsSchema.Suits fs readColumns?
  filters : Field.filters.Suits fs (Value.readOptional? Value.readNames?)
  perPage : Field.perPage.Suits fs (Value.readOptional? Value.readPositive?)
  lang : Field.lang.Suits fs Value.readNames?
  noModel : Field.noModel.Suits fs Value.readFlag?

lemma exists_ofFields_iff : (∃ block, ofFields fs = .ok block) ↔ Readable fs := by
  constructor
  · rintro ⟨block, hblock⟩
    obtain ⟨h₀, h₁, h₂, h₃, h₄, h₅, h₆, h₇, h₈, -⟩ := ofFields_eq_ok_iff.mp hblock
    exact ⟨h₀,
      FieldName.exists_read_eq_ok_iff.mp ⟨_, h₁⟩, FieldName.exists_read_eq_ok_iff.mp ⟨_, h₂⟩,
      FieldName.exists_read_eq_ok_iff.mp ⟨_, h₃⟩, FieldName.exists_read_eq_ok_iff.mp ⟨_, h₄⟩,
      FieldName.exists_read_eq_ok_iff.mp ⟨_, h₅⟩, FieldName.exists_read_eq_ok_iff.mp ⟨_, h₆⟩,
      FieldName.exists_read_eq_ok_iff.mp ⟨_, h₇⟩, FieldName.exists_read_eq_ok_iff.mp ⟨_, h₈⟩⟩
  · intro h
    obtain ⟨components, h₁⟩ := FieldName.exists_read_eq_ok_iff (d := []).mpr h.components
    obtain ⟨columns, h₂⟩ := FieldName.exists_read_eq_ok_iff (d := []).mpr h.columns
    obtain ⟨customizations, h₃⟩ :=
      FieldName.exists_read_eq_ok_iff (d := []).mpr h.columnCustomizations
    obtain ⟨schema, h₄⟩ := FieldName.exists_read_eq_ok_iff (d := none).mpr h.columnsSchema
    obtain ⟨filters, h₅⟩ := FieldName.exists_read_eq_ok_iff (d := none).mpr h.filters
    obtain ⟨perPage, h₆⟩ := FieldName.exists_read_eq_ok_iff (d := none).mpr h.perPage
    obtain ⟨lang, h₇⟩ := FieldName.exists_read_eq_ok_iff (d := []).mpr h.lang
    obtain ⟨noModel, h₈⟩ := FieldName.exists_read_eq_ok_iff (d := false).mpr h.noModel
    exact ⟨⟨components, columns, customizations, schema, filters, perPage, lang, noModel, _⟩,
      ofFields_eq_ok_iff.mpr ⟨h.names, h₁, h₂, h₃, h₄, h₅, h₆, h₇, h₈, rfl⟩⟩

/-! ### What is read -/

/-- A list of component keys gives each of them an empty override. -/
lemma get?_of_readComponents?_arr {vs : List Value} {components : Entries Value}
    (h : readComponents? (.arr vs) = some components) {key : String} {v : Value}
    (hv : components.get? key = some v) : v = .obj [] := by
  cases h
  by_cases hkey : key ∈ ((vs.filterMap Value.str?).map (·, Value.obj [])).map Prod.fst
  · rw [Entries.get?_ofPairs_of_forall (f := fun _ => some (.obj [])) _ (by simp) hkey] at hv
    exact (Option.some.inj hv).symm
  · rw [Entries.get?_eq_none_iff.mpr] at hv
    · cases hv
    · rwa [Entries.keys_ofPairs, List.mem_eraseDups]

/-- The components of a block that was read are well-formed. -/
lemma wellFormed_components (hfs : (Value.obj fs).WellFormed) (hblock : ofFields fs = .ok block) :
    (Value.obj block.components).WellFormed := by
  obtain ⟨-, hcomponents, -⟩ := ofFields_eq_ok_iff.mp hblock
  rcases FieldName.read_eq_ok_iff.mp hcomponents with ⟨-, hempty⟩ | ⟨used, w, hfind, hw⟩
  · rw [hempty]
    exact Value.wellFormed_obj_iff.mpr ⟨List.nodup_nil, nofun⟩
  have hwf := hfs.of_get? (FieldName.get?_of_find? hfind)
  by_cases hlist : ∃ vs, w = .arr vs
  · obtain ⟨vs, rfl⟩ := hlist
    have hkeys : block.components.keys.Nodup := by
      rw [← Option.some.inj hw, Entries.keys_ofPairs]
      exact nodup_eraseDups _
    refine Value.wellFormed_obj_iff.mpr ⟨hkeys, fun e he => ?_⟩
    rw [get?_of_readComponents?_arr hw (Entries.get?_of_mem hkeys he)]
    exact Value.wellFormed_obj_iff.mpr ⟨List.nodup_nil, nofun⟩
  · have hfields : w.fields? = some block.components := by
      cases w <;> first | exact hw | exact absurd ⟨_, rfl⟩ hlist
    exact Value.fields?_eq_some_iff.mp hfields ▸ hwf

lemma nodup_keys_override (h : (Value.obj block.components).WellFormed) (key : String) :
    (block.override key).keys.Nodup := by
  rw [override]
  cases hoverride : (block.components.get? key).bind Value.fields? with
  | none => exact List.nodup_nil
  | some o =>
    obtain ⟨v, hv, ho⟩ := Option.bind_eq_some_iff.mp hoverride
    obtain rfl := Value.fields?_eq_some_iff.mp ho
    exact (h.of_get? hv).nodup_keys

end ViewBlock

/-- A block as it is read from a document: the names of every override are distinct. -/
structure ReadBlock extends ViewBlock where
  nodup_override : ∀ key, (toViewBlock.override key).keys.Nodup

namespace ReadBlock

instance : Coe ReadBlock ViewBlock := ⟨toViewBlock⟩

def ofWellFormed (block : ViewBlock) (h : (Value.obj block.components).WellFormed) : ReadBlock where
  toViewBlock := block
  nodup_override := ViewBlock.nodup_keys_override h

@[simp] lemma toViewBlock_ofWellFormed {block : ViewBlock}
    (h : (Value.obj block.components).WellFormed) : (ofWellFormed block h).toViewBlock = block := rfl

def ofObject (fs : ReadObject) {block : ViewBlock} (h : ViewBlock.ofFields fs = .ok block) :
    ReadBlock := ofWellFormed block (ViewBlock.wellFormed_components fs.property h)

end ReadBlock

end ViewAssembly
