import ViewAssembly.Proofs.Column.Record
import ViewAssembly.Proofs.View.Block

/-!
# View blocks that are written out

A block is read back from what it is written as, if it could have been read in the first place
(`ViewBlock.exists_ofValue_iff`): if nothing in its extras would be taken for a field, its page
size is positive, and the column definitions that it brings are read back in turn.

Reading therefore normalises (`Record.ofValue_toFields`). A block may name its components in a list
and its fields by either name, and say `"yes"` for true; once read it is written in one way only,
and what is read from that is the same block.
-/

namespace ViewAssembly

namespace ViewBlock

open FieldName (read_eq_ok_of_get?)

variable {fs : Entries Value} {block : ViewBlock}

/-! ### Values of fields -/

lemma readComponents?_obj (fs : Entries Value) : readComponents? (.obj fs) = some fs := rfl

lemma readOverrides?_written (overrides : Entries (Entries Value)) :
    Value.readEntries? Value.fields? (.obj (overrides.mapValues fun _ fs => .obj fs))
      = some overrides :=
  Value.readEntries?_written fun _ _ => rfl

lemma readPositive?_int {n : Int} (h : 0 < n) : Value.readPositive? (.int n) = some n := by
  simp [Value.readPositive?, Value.readInt?, Option.filter, h]

/-- What is read as a positive number is one. -/
lemma pos_of_readPositive? {v : Value} {n : Int} (h : v.readPositive? = some n) : 0 < n := by
  simpa using (Option.filter_eq_some_iff.mp h).2

/-! ### Blocks that can be read back -/

/-- Can a block be read back from what it is written as? -/
structure Restorable (block : ViewBlock) : Prop where
  extras : FieldName.Besides Field.all block.extras
  columnsSchema : ∀ columns ∈ block.columnsSchema, ∀ e ∈ columns,
    FieldName.Besides Column.Field.all e.2.extras
  perPage : ∀ n ∈ block.perPage, 0 < n

lemma keys_toFields (block : ViewBlock) :
    block.toFields.keys = Field.all.map FieldName.main ++ block.extras.keys := by
  rw [toFields, Entries.keys_append]
  rfl

lemma readColumns?_written {columns : Entries Column}
    (h : ∀ e ∈ columns, FieldName.Besides Column.Field.all e.2.extras) :
    readColumns? (.obj (columns.mapValues fun _ c => .obj c.toFields)) = some (some columns) := by
  refine Value.readOptional?_eq_some rfl (Value.readEntries?_written fun e he => ?_)
  rw [Column.ofValue, Column.ofFields_toFields (h e he)]
  rfl

/-- A block is read back from what it is written as. -/
theorem ofFields_toFields (h : block.Restorable) : ofFields block.toFields = .ok block := by
  have hwhole : ∀ k ∈ block.toFields.keys, Text.hasHalf k = false :=
    FieldName.whole_written (by decide) rfl h.extras
  have hextras : FieldName.unused Field.all block.toFields = block.extras :=
    FieldName.unused_written rfl h.extras
  refine ofFields_eq_ok_iff.mpr ⟨hwhole, ?_, ?_, ?_, ?_, ?_, ?_, ?_, ?_, hextras⟩
  · exact read_eq_ok_of_get? rfl (readComponents?_obj _)
  · exact read_eq_ok_of_get? rfl (Value.readNames?_texts _)
  · exact read_eq_ok_of_get? rfl (readOverrides?_written _)
  · refine read_eq_ok_of_get? rfl ?_
    cases hcolumns : block.columnsSchema with
    | none => rfl
    | some columns => exact readColumns?_written (h.columnsSchema columns hcolumns)
  · refine read_eq_ok_of_get? rfl ?_
    cases block.filters with
    | none => rfl
    | some filters => exact Value.readOptional?_eq_some rfl (Value.readNames?_texts filters)
  · refine read_eq_ok_of_get? rfl ?_
    cases hperPage : block.perPage with
    | none => rfl
    | some n => exact Value.readOptional?_eq_some rfl (readPositive?_int (h.perPage n hperPage))
  · exact read_eq_ok_of_get? rfl (Value.readNames?_texts _)
  · exact read_eq_ok_of_get? rfl (Value.readFlag?_bool _)

/-! ### Blocks that were read -/

lemma besides_of_readColumns? {columns : Entries Column} {v : Value}
    (h : Value.readEntries? (fun w => (Column.ofValue w).toOption) v = some columns) :
    ∀ e ∈ columns, FieldName.Besides Column.Field.all e.2.extras := by
  intro e he
  obtain ⟨w, hw⟩ := Value.exists_of_readEntries? h e he
  rw [Checked.toOption_eq_some_iff] at hw
  cases w with
  | obj fs => exact Column.besides_of_ofFields hw
  | _ => cases hw

lemma restorable_of_ofFields (h : ofFields fs = .ok block) : block.Restorable := by
  obtain ⟨hwhole, -, -, -, hcolumns, -, hperPage, -, -, hextras⟩ := ofFields_eq_ok_iff.mp h
  refine ⟨?_, ?_, ?_⟩
  · rw [← hextras]
    exact FieldName.besides_unused hwhole
  · intro columns hmem
    rw [Option.mem_def.mp hmem] at hcolumns
    obtain ⟨v, hv⟩ := FieldName.exists_of_read_eq_some hcolumns
    exact besides_of_readColumns? hv
  · intro n hmem
    rw [Option.mem_def.mp hmem] at hperPage
    obtain ⟨v, hv⟩ := FieldName.exists_of_read_eq_some hperPage
    exact pos_of_readPositive? hv

lemma restorable_of_ofValue {v : Value} (h : ofValue v = .ok block) : block.Restorable := by
  cases v with
  | obj fs => exact restorable_of_ofFields h
  | _ => cases h

/-- The blocks that can be read are those that can be read back. -/
theorem exists_ofValue_iff : (∃ v, ofValue v = .ok block) ↔ block.Restorable := by
  constructor
  · rintro ⟨v, h⟩
    exact restorable_of_ofValue h
  · intro h
    exact ⟨.obj block.toFields, ofFields_toFields h⟩

end ViewBlock

/-! ### Reading normalises -/

namespace Record

/--
Column definitions and view blocks are normalised when they are read: one that was read is written
with all its fields under their main names, followed by its extras, and what is read from that is
the same definition or block. All can be read but those whose extras would be taken for fields, or
that have a page size or a column definition which cannot be read.
-/
theorem ofValue_toFields :
    ((∀ (v : Value) (c : Column), Column.ofValue v = .ok c →
        c.toFields.keys = Column.Field.all.map FieldName.main ++ c.extras.keys ∧
          Column.ofValue (.obj c.toFields) = .ok c) ∧
      ∀ c : Column, (∃ v, Column.ofValue v = .ok c) ↔
        FieldName.Besides Column.Field.all c.extras) ∧
    ((∀ (v : Value) (block : ViewBlock), ViewBlock.ofValue v = .ok block →
        block.toFields.keys = ViewBlock.Field.all.map FieldName.main ++ block.extras.keys ∧
          ViewBlock.ofValue (.obj block.toFields) = .ok block) ∧
      ∀ block : ViewBlock, (∃ v, ViewBlock.ofValue v = .ok block) ↔ block.Restorable) := by
  refine ⟨⟨?_, fun c => Column.exists_ofValue_iff⟩, ?_, fun block => ViewBlock.exists_ofValue_iff⟩
  · intro v c h
    exact ⟨c.keys_toFields, Column.ofFields_toFields (Column.besides_of_ofValue h)⟩
  · intro v block h
    exact ⟨block.keys_toFields,
      ViewBlock.ofFields_toFields (ViewBlock.restorable_of_ofValue h)⟩

/-- A column with a field under both of its names, and truth values in words and numbers. -/
def mixedColumn : Value :=
  .obj [("display_type", .str "text"), ("sortable", .str "Yes"), ("displayType", .str "chip"),
    ("hidden", .int 0), ("width", .int 3)]

/-- A block with a list of components and a text for a number, which brings that column. -/
def mixedBlock : Value :=
  .obj [("components", .arr [.str "table", .str "form", .str "table"]), ("per_page", .str "25"),
    ("columns_schema", .obj [("status", mixedColumn)]), ("icon", .null)]

/-- The second spelling of a name remains an extra, and is not taken for the field later on. -/
theorem ofValue_toFields_mixed :
    (∃ c, Column.ofValue mixedColumn = .ok c ∧
      c.extras = [("display_type", .str "text"), ("width", .int 3)] ∧
      Column.ofValue (.obj c.toFields) = .ok c) ∧
    (∃ block, ViewBlock.ofValue mixedBlock = .ok block ∧
      block.components = [("table", .obj []), ("form", .obj [])] ∧ block.perPage = some 25 ∧
      ViewBlock.ofValue (.obj block.toFields) = .ok block) := by
  obtain ⟨⟨hcolumn, -⟩, hblock, -⟩ := ofValue_toFields
  exact ⟨⟨_, rfl, rfl, (hcolumn mixedColumn _ rfl).2⟩,
    ⟨_, rfl, rfl, rfl, (hblock mixedBlock _ rfl).2⟩⟩

end Record

end ViewAssembly
