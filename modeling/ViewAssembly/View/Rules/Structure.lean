import ViewAssembly.Template.Kind
import ViewAssembly.Value.Text
import ViewAssembly.View.Report

/-!
# Rules on the structure of a block

What a block must have: languages, a sensible page size, column definitions if it has no model,
columns if it has a table, and components for which there are templates. A rule gives the report
on a block; `path` is the path of the block.
-/

namespace ViewAssembly.Rule

def components? (block : Value) : Option (Entries Value) :=
  (block.get? "components").bind Value.fields?

def list? (v : Value) (name : String) : Option (List Value) := (v.get? name).bind Value.elems?

def object? (v : Value) (name : String) : Option (Entries Value) := (v.get? name).bind Value.fields?

def hasElems (v : Value) (name : String) : Bool := ((list? v name).map (!·.isEmpty)).getD false

def hasEntries (v : Value) (name : String) : Bool := ((object? v name).map (!·.isEmpty)).getD false

/-- A block lists its languages. -/
def languages (block : Value) (path : String) : Report :=
  match block.given? "lang" with
  | none          =>
    .error (path ++ ".lang") "required"
      "\"lang\" key is missing. It must be a non-empty array (e.g. [\"en\", \"dv\"])."
  | some (.arr (_ :: _)) => .empty
  | some _        =>
    .error (path ++ ".lang") "required_array"
      "\"lang\" must be a non-empty array (e.g. [\"en\", \"dv\"])."

/-- A page size is a positive whole number. -/
def pageSize (block : Value) (path : String) : Report :=
  match block.get? "per_page" with
  | none   => .empty
  | some v =>
    let positive := match v with
      | .int n => decide (0 < n)
      | _      => false
    if positive then .empty
    else
      .warning (path ++ ".per_page") "positive_integer"
        ("\"per_page\" should be a positive integer. Got: " ++ v.quoted)

/-- A block without model brings column definitions. -/
def ownColumns (block : Value) (path : String) : Report :=
  if (block.filled? "noModel").isSome && !hasEntries block "columnsSchema" then
    .error (path ++ ".columnsSchema") "nomodel_requires_schema"
      ("\"noModel\" is true but \"columnsSchema\" is missing or empty. "
        ++ "A non-empty columnsSchema is required.")
  else .empty

def tables (components : Entries Value) : Entries Value :=
  components.restrict fun key => baseKey key == ComponentKind.table.name

/-- A block with a table lists columns, for itself or in one of its tables. -/
def tableColumns (block : Value) (path : String) : Report :=
  let tables := tables ((components? block).getD [])
  if tables.isEmpty || hasElems block "columns" || tables.any fun e => hasElems e.2 "columns" then
    .empty
  else
    .error (path ++ ".columns") "columns_required"
      ("\"columns\" must be defined either at the root level or inside "
        ++ "\"components.table.columns\" when using a table component.")

/-- There is a template for every component. -/
def templates (known : List String) (block : Value) (path : String) : Report :=
  .concat <| ((components? block).getD []).map fun (key, _) =>
    if known.contains (baseKey key) then .empty
    else
      .warning (path ++ ".components." ++ key) "component_config_exists"
        ("Component \"" ++ key ++ "\" has no component template. Known: "
          ++ ", ".intercalate (known.eraseDups.mergeSort fun a b => a ≤ b) ++ ".")

end ViewAssembly.Rule
