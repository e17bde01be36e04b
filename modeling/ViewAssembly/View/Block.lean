import ViewAssembly.Schema.Basic

/-!
# View blocks

A view block is one selectable unit of a view config. It names the components to assemble with an
override for each, the columns to show, customizations of single columns, the columns that can
be filtered by, a page size, and the languages that it supports. A block without model brings its
own column definitions.
-/

namespace ViewAssembly

/-- One selectable unit of a view config. -/
structure ViewBlock where
  /-- The components to assemble, each with its override. -/
  components : Entries Value := []
  columns : List String := []
  columnCustomizations : Entries (Entries Value) := []
  /-- The column definitions of a block without model. -/
  columnsSchema : Option (Entries Column) := none
  /-- The columns that can be filtered by; `none` stands for all of them. -/
  filters : Option (List String) := none
  perPage : Option Int := none
  lang : List String := []
  noModel : Bool := false
  /-- What the block says beyond the fields above. -/
  extras : Entries Value := []

namespace ViewBlock

/-! ### The names of the fields -/

namespace Field

def components           : FieldName := .single "components"
def columns              : FieldName := .single "columns"
def columnCustomizations : FieldName := ⟨"columnCustomizations", "column_customizations"⟩
def columnsSchema        : FieldName := ⟨"columnsSchema", "columns_schema"⟩
def filters              : FieldName := .single "filters"
def perPage              : FieldName := .single "per_page"
def lang                 : FieldName := .single "lang"
def noModel              : FieldName := ⟨"noModel", "no_model"⟩

def all : List FieldName :=
  [components, columns, columnCustomizations, columnsSchema, filters, perPage, lang, noModel]

end Field

/-! ### Reading and writing -/

/--
Read the components: an object of overrides, or a list of keys for components without override.
-/
def readComponents? : Value → Option (Entries Value)
  | .arr vs => some (.ofPairs ((vs.filterMap Value.str?).map (·, .obj [])))
  | v       => v.fields?

def ofFields (fs : Entries Value) : Checked ViewBlock :=
  .ofWholeNames fs <| ViewBlock.mk
    <$> Field.components.read fs (.ok []) readComponents?
    <*> Field.columns.read fs (.ok []) Value.readNames?
    <*> Field.columnCustomizations.read fs (.ok []) (Value.readEntries? Value.fields?)
    <*> Field.columnsSchema.read fs (.ok none)
      (Value.readOptional? (Value.readEntries? fun v => (Column.ofValue v).toOption))
    <*> Field.filters.read fs (.ok none) (Value.readOptional? Value.readNames?)
    <*> Field.perPage.read fs (.ok none) (Value.readOptional? Value.readPositive?)
    <*> Field.lang.read fs (.ok []) Value.readNames?
    <*> Field.noModel.read fs (.ok false) Value.readFlag?
    <*> .ok (FieldName.unused Field.all fs)

/-- Read a view block. A value that is no object is at fault as a whole. -/
def ofValue : Value → Checked ViewBlock
  | .obj fs => ofFields fs
  | _       => .faulty [""]

/-- What the block says about columns. -/
def customizations (b : ViewBlock) : Entries Value :=
  b.columnCustomizations.mapValues fun _ fs => .obj fs

private def names (ss : List String) : Value := .arr (ss.map .str)

/-- The block in full: every field under its main name, and the extras behind them. -/
def toFields (b : ViewBlock) : Entries Value :=
  [(Field.components.main, .obj b.components),
    (Field.columns.main, names b.columns),
    (Field.columnCustomizations.main, .obj b.customizations),
    (Field.columnsSchema.main,
      match b.columnsSchema with
      | some columns => .obj (columns.mapValues fun _ c => .obj c.toFields)
      | none         => .null),
    (Field.filters.main, (b.filters.map names).getD .null),
    (Field.perPage.main, (b.perPage.map .int).getD .null),
    (Field.lang.main, names b.lang),
    (Field.noModel.main, .bool b.noModel)]
    ++ b.extras

/-! ### Questions to a block -/

/-- The override of a component; one that is no object counts as empty. -/
def override (b : ViewBlock) (componentKey : String) : Entries Value :=
  ((b.components.get? componentKey).bind Value.fields?).getD []

/-- Does the block support a language? The empty code is no language. -/
def supports (b : ViewBlock) (lang : String) : Bool :=
  lang ≠ "" && Language.isDeclared b.lang lang

end ViewBlock

end ViewAssembly
