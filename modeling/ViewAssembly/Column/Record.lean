import ViewAssembly.Column.Basic

/-!
# Column definitions as objects

Reading a column definition from an object and writing it as one. A definition is written with all
its fields under their main names, null where nothing is set, followed by what it says beyond
them.
-/

namespace ViewAssembly

def LocalizedText.ofValue? : Value → Option LocalizedText
  | .str s => some (.plain s)
  | v      => (v.readEntries? Value.str?).map .perLanguage

namespace Filterable

/-- Read what is said about filtering: an object of settings, or a truth value. -/
def ofValue? : Value → Option Filterable
  | .obj fs => some (.config fs)
  | v       => v.readFlag?.map .flag

def toValue : Filterable → Value
  | flag b    => .bool b
  | config fs => .obj fs

end Filterable

namespace Column

/-! ### The names of the fields -/

namespace Field

def key            : FieldName := .single "key"
def hidden         : FieldName := .single "hidden"
def label          : FieldName := .single "label"
def type           : FieldName := .single "type"
def displayType    : FieldName := ⟨"displayType", "display_type"⟩
def inputType      : FieldName := ⟨"inputType", "input_type"⟩
def formField      : FieldName := ⟨"formField", "form_field"⟩
def sortable       : FieldName := .single "sortable"
def inlineEditable : FieldName := ⟨"inlineEditable", "inline_editable"⟩
def lang           : FieldName := .single "lang"
def chip           : FieldName := .single "chip"
def select         : FieldName := .single "select"
def filterable     : FieldName := .single "filterable"
def displayProps   : FieldName := ⟨"displayProps", "display_props"⟩
def relationLabel  : FieldName := ⟨"relationLabel", "relation_label"⟩

def all : List FieldName :=
  [key, hidden, label, type, displayType, inputType, formField, sortable, inlineEditable, lang,
    chip, select, filterable, displayProps, relationLabel]

end Field

/-! ### Reading -/

def ofFields (fs : Entries Value) : Checked Column :=
  .ofWholeNames fs <| Column.mk
    <$> Field.key.read fs (.ok "") Value.str?
    <*> Field.hidden.read fs (.ok false) Value.readFlag?
    <*> Field.label.read fs (.ok none) (Value.readOptional? LocalizedText.ofValue?)
    <*> Field.type.read fs (.ok .string) (fun v => v.str?.bind DataType.ofName?)
    <*> Field.displayType.read fs (.ok none)
      (Value.readOptional? fun v => v.str?.bind DisplayType.ofName?)
    <*> Field.inputType.read fs (.ok none)
      (Value.readOptional? fun v => v.str?.bind InputType.ofName?)
    <*> Field.formField.read fs (.ok true) Value.readFlag?
    <*> Field.sortable.read fs (.ok false) Value.readFlag?
    <*> Field.inlineEditable.read fs (.ok none) (Value.readOptional? Value.readFlag?)
    <*> Field.lang.read fs (.ok none) (Value.readOptional? Value.readNames?)
    <*> Field.chip.read fs (.ok none) (Value.readOptional? Value.fields?)
    <*> Field.select.read fs (.ok none) (Value.readOptional? Value.fields?)
    <*> Field.filterable.read fs (.ok none) (Value.readOptional? Filterable.ofValue?)
    <*> Field.displayProps.read fs (.ok none) (Value.readOptional? Value.fields?)
    <*> Field.relationLabel.read fs (.ok none) (Value.readOptional? LocalizedText.ofValue?)
    <*> .ok (FieldName.unused Field.all fs)

/-- Read a column definition. A value that is no object is at fault as a whole. -/
def ofValue : Value → Checked Column
  | .obj fs => ofFields fs
  | _       => .faulty [""]

/-! ### Writing -/

/-- A field that may be unset, as a value. -/
def optional {α : Type} (write : α → Value) : Option α → Value
  | some a => write a
  | none   => .null

/-- The definition in full: every field under its main name, and the extras behind them. -/
def toFields (c : Column) : Entries Value :=
  [(Field.key.main, .str c.key),
    (Field.hidden.main, .bool c.hidden),
    (Field.label.main, optional LocalizedText.toValue c.label),
    (Field.type.main, .str c.type.name),
    (Field.displayType.main, optional (fun t => .str t.name) c.displayType),
    (Field.inputType.main, optional (fun t => .str t.name) c.inputType),
    (Field.formField.main, .bool c.formField),
    (Field.sortable.main, .bool c.sortable),
    (Field.inlineEditable.main, optional .bool c.inlineEditable),
    (Field.lang.main, optional (fun ls => .arr (ls.map .str)) c.lang),
    (Field.chip.main, optional .obj c.chip),
    (Field.select.main, optional .obj c.select),
    (Field.filterable.main, optional Filterable.toValue c.filterable),
    (Field.displayProps.main, optional .obj c.displayProps),
    (Field.relationLabel.main, optional LocalizedText.toValue c.relationLabel)]
    ++ c.extras

end Column

end ViewAssembly
