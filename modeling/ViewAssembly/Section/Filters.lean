import ViewAssembly.Schema.ModelName
import ViewAssembly.Section.Context

/-!
# Filters

A view has one filter for every column that can be filtered by. By default a filter takes a text
or a date; a column's definition may ask for another type. A select filter offers choices: it
carries them itself, or the address of a related model's data to take them from. One whose related
model cannot be told, or is not known, is left out.
-/

namespace ViewAssembly

open Text

/-- The type of a filter for which a column asks nothing. -/
def DataType.filterType : DataType → String
  | .date | .datetime => "Date"
  | _                 => "Text"

/-- What a select filter shows and sends for each choice. -/
structure ChoiceNames where
  title : String
  value : String

namespace ChoiceNames

/-- The names of a choice's title and value; both default to the column's value key. -/
def ofConfig (config : Entries Value) (valueKey lang : String) : ChoiceNames where
  title := (((Value.obj config).filled? "itemTitle").getD (.str valueKey)).resolve lang
  value := (((Value.obj config).filled? "itemValue").getD (.str valueKey)).text

/--
A choice: the title and the value of an object, or any other value for both. A map with a name that
is no text counts as any other value.
-/
def choice (names : ChoiceNames) (item : Value) : Value :=
  let entry (name : String) : Value :=
    match item with
    | .obj fs => .str (((Entries.get? fs name).map Value.text).getD "")
    | v       => .str v.text
  .obj (Entries.put [(names.title, entry names.title)] names.value (entry names.value))

end ChoiceNames

namespace Context

/-- The related model of a select filter: that of its relation, or the one that its key names. -/
def relatedModel? (relationship key : String) : Option String :=
  if relationship ≠ "" then some (ModelName.pascalCase relationship)
  else
    let cs := key.toList
    if "_id".toList.isSuffixOf cs then
      some (ModelName.pascalCase (String.ofList (cs.take (cs.length - 3))))
    else none

def knows (ctx : Context) (model : String) : Bool :=
  match ctx.knownModels with
  | some models => models.contains (lower model)
  | none        => true

def choicesAddress (ctx : Context) (model : String) (names : ChoiceNames) : String :=
  ctx.dataAddress model ++ "?columns=" ++ names.value ++ "," ++ names.title
    ++ "&sort=" ++ names.title ++ "&pagination=off&wrap=data"

/-- Complete a select filter by its choices, or by the address to take them from. -/
def selectFilter? (ctx : Context) (config : Entries Value) (valueKey key : String)
    (filter : Entries Value) : Option (Entries Value) :=
  let names := ChoiceNames.ofConfig config valueKey ctx.lang
  let filter := (filter.put "itemTitle" (.str names.title)).put "itemValue" (.str names.value)
  let mode := lower (((Value.obj config).filled? "mode").map Value.text |>.getD "self")
  if mode == "self" then
    let items := (((Value.obj config).get? "items").bind Value.elems?).getD []
    some (filter.put "items" (.arr (items.map names.choice)))
  else
    let relationship := (((Value.obj config).filled? "relationship").map Value.text).getD ""
    match relatedModel? relationship key with
    | some model =>
      if ctx.knows model then some (filter.put "url" (.str (ctx.choicesAddress model names)))
      else none
    | none => none

def configuredFilter? (ctx : Context) (token : String) (column : Column) (config : Entries Value) :
    Option (Entries Value) :=
  let valueKey := column.valueKey token
  let settings := Value.obj config
  let type := lower ((settings.filled? "type").map Value.text |>.getD "search")
  let key := (settings.filled? "value").map Value.text |>.getD valueKey
  let filter : Entries Value :=
    [("type", .str (title type)),
      ("key", .str key),
      ("label", (settings.filled? "label").getD (column.labelOr (Token.title token)))]
      ++ ((settings.given? "multiple").map fun v => ("multiple", .bool v.truthy)).toList
  if type == "select" then ctx.selectFilter? config valueKey key filter else some filter

/-- Can the view be filtered by this column? Without a list of columns it can by the model's own. -/
def allowsFilter (ctx : Context) (token : String) : Bool :=
  match ctx.allowedFilters with
  | some tokens => tokens.contains token
  | none        => !Token.isRelated token

def filter? (ctx : Context) (token : String) (column : Column) : Option Value :=
  if !ctx.allowsFilter token || !column.admits ctx.lang then none
  else
    match column.filterable with
    | some (.flag false)    => none
    | some (.config config) => (ctx.configuredFilter? token column config).map .obj
    | _ =>
      some (.obj
        [("type", .str column.type.filterType),
          ("key", .str (column.valueKey token)),
          ("label", column.labelOr (Token.title token))])

/-- The filters, in the order of the columns. -/
def filters (ctx : Context) : List Value :=
  ctx.snapshot.filterMap fun (token, column) => ctx.filter? token column

end Context

end ViewAssembly
