import ViewAssembly.View.Rules.Form
import ViewAssembly.View.Rules.References

/-!
# Validating view configs

The report on a view config, as it stands in its file: the reports on its blocks, one after the
other.
-/

namespace ViewAssembly

namespace Rule

def component (key : String) (v : Value) (path : String) : Report :=
  if !v.isObj then .empty
  else
    (if baseKey key == ComponentKind.form.name then form v path else functionRefs v path)
      ++ customizations v path

/-- The rules that need to know which columns there are. -/
def columnReferences (columns : Option (List String)) (block : Value) (path : String) : Report :=
  match columns with
  | none         => .empty
  | some columns =>
    listedColumns columns block path ++ filters columns block path
      ++ customizedColumns columns block path

/-- All rules on a block. -/
def block (knownComponents : List String) (columns : Option (List String)) (v : Value)
    (path : String) : Report :=
  languages v path ++ pageSize v path ++ ownColumns v path ++ tableColumns v path
    ++ templates knownComponents v path ++ columnReferences columns v path
    ++ .concat (((components? v).getD []).map fun (key, c) =>
      component key c (path ++ ".components." ++ key))
    ++ customizations v path ++ definitions v path

/-- The columns that a block can refer to: those of the model, or its own if it has no model. -/
def columnsOf (modelColumns : Option (List String)) (v : Value) : Option (List String) :=
  if (v.filled? "noModel").isSome then (object? v "columnsSchema").map Entries.keys
  else modelColumns

end Rule

/-- The report on the blocks of a view config. What is no object is no block. -/
def validateBlocks (knownComponents : List String) (modelColumns : Option (List String))
    (document : Entries Value) : Report :=
  .concat <| document.map fun (name, v) =>
    if v.isObj then Rule.block knownComponents (Rule.columnsOf modelColumns v) v name else .empty

/--
The report on a view config. Where the columns of its model are not known, references to them are
not checked.
-/
def validate (knownComponents : List String) (modelColumns : Option (List String)) (model : String)
    (document : Entries Value) : Report :=
  if document.isEmpty then
    .error "(root)" "not_empty" ("View config for '" ++ model ++ "' is empty.")
  else validateBlocks knownComponents modelColumns document

end ViewAssembly
