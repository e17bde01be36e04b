import ViewAssembly.Column.Record

/-!
# Model schemas

A model's schema names the model and defines its columns. Its relations lead to other models, whose
columns then are columns of this model too, under tokens `relation.field`.
-/

namespace ViewAssembly

/-- A relation of a model to another one. -/
structure Relation where
  model : String
  /-- The columns of the other model that the relation exposes; `none` stands for all of them. -/
  fields : Option (List String) := none
deriving DecidableEq, Repr

/-- The schema of one model. -/
structure ModelSchema where
  model : String
  columns : Entries Column := []
  searchable : List String := []
  relations : Entries Relation := []

/-- The columns that can be used, by their tokens. -/
abbrev Snapshot := Entries Column

namespace Relation

def ofValue? (v : Value) : Option Relation := do
  let fs ← v.record?
  let checked := Relation.mk
    <$> (FieldName.single "model").read fs (.faulty ["model"]) Value.str?
    <*> (FieldName.single "fields").read fs (.ok none) (Value.readOptional? Value.readNames?)
  checked.toOption

def exposes (r : Relation) (field : String) : Bool := (r.fields.map (·.contains field)).getD true

def toValue (r : Relation) : Value :=
  .obj
    [("model", .str r.model),
      ("fields", (r.fields.map fun names => .arr (names.map .str)).getD .null)]

end Relation

namespace ModelSchema

/-- Read a model's schema. A value that is no object is at fault as a whole. -/
def ofValue (v : Value) : Checked ModelSchema :=
  match v.record? with
  | some fs =>
    ModelSchema.mk
      <$> (FieldName.single "model").read fs (.faulty ["model"]) Value.str?
      <*> (FieldName.single "columns").read fs (.ok [])
        (Value.readEntries? fun v => (Column.ofValue v).toOption)
      <*> (FieldName.single "searchable").read fs (.ok []) Value.readNames?
      <*> (FieldName.single "relations").read fs (.ok []) (Value.readEntries? Relation.ofValue?)
  | none => .faulty [""]

def toFields (schema : ModelSchema) : Entries Value :=
  [("model", .str schema.model),
    ("columns", .obj (schema.columns.mapValues fun _ column => .obj column.toFields)),
    ("searchable", .arr (schema.searchable.map .str)),
    ("relations", .obj (schema.relations.mapValues fun _ relation => relation.toValue))]

def summary (schema : ModelSchema) : Value :=
  .obj
    [("model", .str schema.model),
      ("column_count", .int schema.columns.length),
      ("relations", .arr (schema.relations.keys.map .str))]

end ModelSchema

namespace Snapshot

/-- Columns with the token as key wherever a definition gives none. -/
def withKeys (columns : Entries Column) : Snapshot :=
  columns.mapValues fun token column => { column with key := column.valueKey token }

end Snapshot

end ViewAssembly
