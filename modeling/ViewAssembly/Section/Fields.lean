import ViewAssembly.Section.Context

/-!
# Form fields

A form has one field for every column that may be edited in a form. A field takes over what the
column says about its values, and everything that the definition says beyond its known fields.
-/

namespace ViewAssembly

namespace Column

/-- The entries of a definition that a form field takes over as they are, where they are set. -/
def passedToField (column : Column) : Entries Value :=
  [("select", column.select.map .obj),
    ("filterable", column.filterable.map Filterable.toValue),
    ("chip", column.chip.map .obj),
    ("displayType", column.displayType.map fun t => .str t.name)].filterMap
      fun (name, v) => v.map (name, ·)

def field (column : Column) (token : String) : Entries Value :=
  let known : Entries Value :=
    [("key", .str (column.valueKey token)),
      ("label", column.labelOr (Token.title token)),
      ("type", .str column.type.name)]
      ++ (column.inputType.map fun t => ("inputType", .str t.name)).toList
      ++ (if column.hidden then [("hidden", .bool true)] else [])
      ++ column.passedToField
  column.extras.foldl (fun es (name, v) => es.putNew name v) known

end Column

namespace Context

/-- The tokens of the columns of a form: those that the component lists, or the model's own. -/
def fieldTokens (ctx : Context) : List String :=
  columnsToShow ctx.snapshot none ctx.componentColumns

/--
The form field of a token, if its column may be edited in a form and is offered in the language.
-/
def field? (ctx : Context) (token : String) : Option Value :=
  match ctx.snapshot.get? token with
  | some column =>
    if column.formField && column.admits ctx.lang then some (.obj (column.field token)) else none
  | none => none

def fields (ctx : Context) : List Value := ctx.fieldTokens.filterMap ctx.field?

end Context

end ViewAssembly
