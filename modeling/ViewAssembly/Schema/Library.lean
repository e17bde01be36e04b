import ViewAssembly.Catalog
import ViewAssembly.Error
import ViewAssembly.Schema.Basic
import ViewAssembly.Schema.ModelName
import ViewAssembly.Yaml.Document

/-!
# The library of model schemas

All schemas that were loaded, by the normalized names of their models. The columns of a model are
handed out as a snapshot: first its own, then those of the models that its relations lead to, under
tokens `relation.field`. Relations of related models are not followed.
-/

namespace ViewAssembly

/-- Schemas by the normalized names of their models, in the order in which they were loaded. -/
abbrev SchemaLibrary := Entries ModelSchema

namespace SchemaLibrary

/-! ### Loading -/

/--
Add a schema under its model's name; its columns get their tokens as keys where they have none.
-/
def add (library : SchemaLibrary) (schema : ModelSchema) : SchemaLibrary :=
  library.put (ModelName.normalize schema.model)
    { schema with columns := Snapshot.withKeys schema.columns }

def ofText? (text : String) : Option ModelSchema :=
  (Value.ofYaml? text).bind fun v => (ModelSchema.ofValue v).toOption

/-- The schemas in a folder. Files that hold none are passed over. -/
def ofFolder (folder : Folder) : SchemaLibrary :=
  ((folder.withExtension ".yaml").filterMap fun file => ofText? file.2).foldl add []

/-! ### Questions -/

/-- The schema of a model. -/
def find? (library : SchemaLibrary) (model : String) : Option ModelSchema :=
  Entries.get? library (ModelName.normalize model)

/-- The columns of a related model that a relation exposes, under their tokens. -/
def relatedColumns (library : SchemaLibrary) (name : String) (relation : Relation) :
    List (String × Column) :=
  match library.find? relation.model with
  | none        => []
  | some schema =>
    (schema.columns.restrict relation.exposes).map fun (field, column) =>
      let token := name ++ "." ++ field
      (token, { column with key := token })

/-- The columns of a schema and of the models that its relations lead to. -/
def snapshotOf (library : SchemaLibrary) (schema : ModelSchema) : Snapshot :=
  (schema.relations.flatMap fun (name, relation) => library.relatedColumns name relation).foldl
    (fun snapshot (token, column) => snapshot.put token column) schema.columns

/-- The columns that can be used for a model. -/
def snapshot (library : SchemaLibrary) (model : String) : Except RequestError Snapshot :=
  match library.find? model with
  | some schema => .ok (library.snapshotOf schema)
  | none        => .error (.noSchema model)

/-- The names of all models, in the order in which they were loaded. -/
def loadedModels (library : SchemaLibrary) : List String := library.values.map (·.model)

def models (library : SchemaLibrary) : List String :=
  library.loadedModels.mergeSort fun a b => a ≤ b

def knownModels (library : SchemaLibrary) : List String :=
  library.loadedModels.map ModelName.normalize

/-- What can be asked about schemas. -/
inductive Question where
  | find (model : String)
  | snapshot (model : String)
  | all
  | summaries
  | models
  | count

/-- What a question about schemas is answered with. -/
inductive Reply where
  | found (schema : Option ModelSchema)
  | snapshot (columns : Except RequestError Snapshot)
  | all (schemas : List ModelSchema)
  | summaries (vs : List Value)
  | models (names : List String)
  | count (n : Nat)

/-- The answer to a question about schemas. -/
def reply (library : SchemaLibrary) : Question → Reply
  | .find model     => .found (library.find? model)
  | .snapshot model => .snapshot (library.snapshot model)
  | .all            => .all library.values
  | .summaries      => .summaries (library.values.map ModelSchema.summary)
  | .models         => .models library.models
  | .count          => .count library.length

/-- Model schemas as they are kept in a folder. -/
def collection : Collection ModelSchema Question Reply where
  extension := ".yaml"
  entry? _ text := (ofText? text).map fun schema =>
    (ModelName.normalize schema.model, { schema with columns := Snapshot.withKeys schema.columns })
  concerns _ := true
  reply := reply
  reply_congr := nofun

end SchemaLibrary

end ViewAssembly
