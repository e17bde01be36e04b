import ViewAssembly.Column.Record
import ViewAssembly.Proofs.Record.Writing

/-!
# Column definitions that are written out

A column definition is read back from what it is written as, unless one of its extras has the name
of a field, or a name that is not whole (`Column.ofFields_toFields`). No definition that was read
has such extras (`Column.exists_ofValue_iff`): whatever the spellings of names and values that it
was read from, it is written with main names and plain values.
-/

namespace ViewAssembly

/-! ### Values of fields -/

lemma DataType.ofName?_name (t : DataType) : ofName? t.name = some t := by
  cases t <;> decide

lemma DisplayType.ofName?_name (t : DisplayType) : ofName? t.name = some t := by
  cases t <;> decide

lemma InputType.ofName?_name (t : InputType) : ofName? t.name = some t := by
  cases t <;> decide

lemma LocalizedText.ofValue?_toValue (t : LocalizedText) : ofValue? t.toValue = some t := by
  cases t with
  | plain s => rfl
  | perLanguage texts =>
    have htexts : Value.readEntries? Value.str? (perLanguage texts).toValue = some texts :=
      Value.readEntries?_written fun _ _ => rfl
    exact congrArg (Option.map perLanguage) htexts

lemma Filterable.ofValue?_toValue (f : Filterable) : ofValue? f.toValue = some f := by
  cases f <;> rfl

namespace Column

open FieldName (read_eq_ok_of_get?)

variable {fs : Entries Value} {c : Column} {v : Value}

/-- A field that may be unset is read back if it is set to what is read back. -/
lemma readOptional?_optional {α : Type} {reader : Value → Option α} {write : α → Value}
    (hnull : reader .null = none) (hwrite : ∀ a, reader (write a) = some a) (o : Option α) :
    Value.readOptional? reader (optional write o) = some o := by
  cases o with
  | none => rfl
  | some a => exact Value.readOptional?_eq_some hnull (hwrite a)

/-! ### Reading -/

/-- A definition is read field by field. -/
lemma ofFields_eq_ok_iff :
    ofFields fs = .ok c ↔
      (∀ k ∈ fs.keys, Text.hasHalf k = false) ∧
      Field.key.read fs (.ok "") Value.str? = .ok c.key ∧
      Field.hidden.read fs (.ok false) Value.readFlag? = .ok c.hidden ∧
      Field.label.read fs (.ok none) (Value.readOptional? LocalizedText.ofValue?) = .ok c.label ∧
      Field.type.read fs (.ok .string) (fun v => v.str?.bind DataType.ofName?) = .ok c.type ∧
      Field.displayType.read fs (.ok none)
        (Value.readOptional? fun v => v.str?.bind DisplayType.ofName?) = .ok c.displayType ∧
      Field.inputType.read fs (.ok none)
        (Value.readOptional? fun v => v.str?.bind InputType.ofName?) = .ok c.inputType ∧
      Field.formField.read fs (.ok true) Value.readFlag? = .ok c.formField ∧
      Field.sortable.read fs (.ok false) Value.readFlag? = .ok c.sortable ∧
      Field.inlineEditable.read fs (.ok none) (Value.readOptional? Value.readFlag?)
        = .ok c.inlineEditable ∧
      Field.lang.read fs (.ok none) (Value.readOptional? Value.readNames?) = .ok c.lang ∧
      Field.chip.read fs (.ok none) (Value.readOptional? Value.fields?) = .ok c.chip ∧
      Field.select.read fs (.ok none) (Value.readOptional? Value.fields?) = .ok c.select ∧
      Field.filterable.read fs (.ok none) (Value.readOptional? Filterable.ofValue?)
        = .ok c.filterable ∧
      Field.displayProps.read fs (.ok none) (Value.readOptional? Value.fields?)
        = .ok c.displayProps ∧
      Field.relationLabel.read fs (.ok none) (Value.readOptional? LocalizedText.ofValue?)
        = .ok c.relationLabel ∧
      FieldName.unused Field.all fs = c.extras := by
  rw [ofFields, Checked.ofWholeNames_eq_ok_iff]
  simp only [Checked.seq_eq_ok_iff, Checked.map_eq_ok_iff]
  refine and_congr_right fun _ => ⟨?_, ?_⟩
  · rintro ⟨_, _, ⟨_, _, ⟨_, _, ⟨_, _, ⟨_, _, ⟨_, _, ⟨_, _, ⟨_, _, ⟨_, _, ⟨_, _, ⟨_, _, ⟨_, _,
      ⟨_, _, ⟨_, _, ⟨_, _, ⟨_, h₁, rfl⟩, h₂, rfl⟩, h₃, rfl⟩, h₄, rfl⟩, h₅, rfl⟩, h₆, rfl⟩,
      h₇, rfl⟩, h₈, rfl⟩, h₉, rfl⟩, h₁₀, rfl⟩, h₁₁, rfl⟩, h₁₂, rfl⟩, h₁₃, rfl⟩, h₁₄, rfl⟩,
      h₁₅, rfl⟩, h₁₆, rfl⟩
    exact ⟨h₁, h₂, h₃, h₄, h₅, h₆, h₇, h₈, h₉, h₁₀, h₁₁, h₁₂, h₁₃, h₁₄, h₁₅, Checked.ok.inj h₁₆⟩
  · obtain ⟨key, hidden, label, type, displayType, inputType, formField, sortable, inlineEditable,
      lang, chip, select, filterable, displayProps, relationLabel, extras⟩ := c
    rintro ⟨h₁, h₂, h₃, h₄, h₅, h₆, h₇, h₈, h₉, h₁₀, h₁₁, h₁₂, h₁₃, h₁₄, h₁₅, rfl⟩
    exact ⟨_, _, ⟨_, _, ⟨_, _, ⟨_, _, ⟨_, _, ⟨_, _, ⟨_, _, ⟨_, _, ⟨_, _, ⟨_, _, ⟨_, _, ⟨_, _,
      ⟨_, _, ⟨_, _, ⟨_, _, ⟨_, h₁, rfl⟩, h₂, rfl⟩, h₃, rfl⟩, h₄, rfl⟩, h₅, rfl⟩, h₆, rfl⟩,
      h₇, rfl⟩, h₈, rfl⟩, h₉, rfl⟩, h₁₀, rfl⟩, h₁₁, rfl⟩, h₁₂, rfl⟩, h₁₃, rfl⟩, h₁₄, rfl⟩,
      h₁₅, rfl⟩, rfl, rfl⟩

/-! ### Writing -/

lemma keys_toFields (c : Column) :
    c.toFields.keys = Field.all.map FieldName.main ++ c.extras.keys := by
  rw [toFields, Entries.keys_append]
  rfl

/-- A definition is read back from what it is written as. -/
theorem ofFields_toFields (h : FieldName.Besides Field.all c.extras) :
    ofFields c.toFields = .ok c := by
  have hwhole : ∀ k ∈ c.toFields.keys, Text.hasHalf k = false :=
    FieldName.whole_written (by decide) rfl h
  have hextras : FieldName.unused Field.all c.toFields = c.extras := FieldName.unused_written rfl h
  refine ofFields_eq_ok_iff.mpr
    ⟨hwhole, ?_, ?_, ?_, ?_, ?_, ?_, ?_, ?_, ?_, ?_, ?_, ?_, ?_, ?_, ?_, hextras⟩
  · exact read_eq_ok_of_get? rfl rfl
  · exact read_eq_ok_of_get? rfl rfl
  · exact read_eq_ok_of_get? rfl (readOptional?_optional rfl LocalizedText.ofValue?_toValue _)
  · exact read_eq_ok_of_get? rfl (DataType.ofName?_name _)
  · exact read_eq_ok_of_get? rfl (readOptional?_optional rfl DisplayType.ofName?_name _)
  · exact read_eq_ok_of_get? rfl (readOptional?_optional rfl InputType.ofName?_name _)
  · exact read_eq_ok_of_get? rfl rfl
  · exact read_eq_ok_of_get? rfl rfl
  · exact read_eq_ok_of_get? rfl (readOptional?_optional rfl Value.readFlag?_bool _)
  · exact read_eq_ok_of_get? rfl (readOptional?_optional rfl Value.readNames?_texts _)
  · exact read_eq_ok_of_get? rfl (readOptional?_optional rfl Value.fields?_obj _)
  · exact read_eq_ok_of_get? rfl (readOptional?_optional rfl Value.fields?_obj _)
  · exact read_eq_ok_of_get? rfl (readOptional?_optional rfl Filterable.ofValue?_toValue _)
  · exact read_eq_ok_of_get? rfl (readOptional?_optional rfl Value.fields?_obj _)
  · exact read_eq_ok_of_get? rfl (readOptional?_optional rfl LocalizedText.ofValue?_toValue _)

/-- Extras of a definition that was read are beside its fields. -/
lemma besides_of_ofFields (h : ofFields fs = .ok c) : FieldName.Besides Field.all c.extras := by
  obtain ⟨hwhole, -, -, -, -, -, -, -, -, -, -, -, -, -, -, -, hextras⟩ := ofFields_eq_ok_iff.mp h
  rw [← hextras]
  exact FieldName.besides_unused hwhole

lemma besides_of_ofValue (h : ofValue v = .ok c) : FieldName.Besides Field.all c.extras := by
  cases v with
  | obj fs => exact besides_of_ofFields h
  | _ => cases h

/-- The definitions that can be read are those whose extras are beside the fields. -/
theorem exists_ofValue_iff :
    (∃ v, ofValue v = .ok c) ↔ FieldName.Besides Field.all c.extras := by
  constructor
  · rintro ⟨v, h⟩
    exact besides_of_ofValue h
  · intro h
    exact ⟨.obj c.toFields, ofFields_toFields h⟩

end Column

end ViewAssembly
