import ViewAssembly.Header.Basic

/-!
# What sections are built from

Everything that the builders of a component's sections may look at: the columns, the request, and
what the view block says.
-/

namespace ViewAssembly

/-- What the sections of one component are built from. -/
structure Context where
  snapshot : Snapshot := []
  lang : String := "en"
  perPage : Int := 25
  page : Int := 1
  model : String := ""
  /-- What addresses of data start with; slashes at its ends do not count. -/
  routePrefix : String := "api"
  blockColumns : Option (List Value) := none
  blockCustomizations : Value := .null
  /-- The columns that the component lists, if it lists any. -/
  componentColumns : Option (List Value) := none
  componentCustomizations : Value := .null
  /-- The columns that can be filtered by; `none` stands for all of them. -/
  allowedFilters : Option (List String) := none
  includeHidden : Bool := false
  /-- The models that related columns may lead to, by normalized name; `none` stands for any. -/
  knownModels : Option (List String) := none

namespace Context

/-- The tokens of the columns to show. -/
def columns (ctx : Context) : List String :=
  columnsToShow ctx.snapshot ctx.blockColumns ctx.componentColumns

def dataAddress (ctx : Context) (model : String) : String :=
  "/" ++ Text.trimOf '/' ctx.routePrefix ++ "/gapi/" ++ model

def headers (ctx : Context) : Except Malformed (List Header) := do
  let customizations ← Customizations.ofValues ctx.blockCustomizations ctx.componentCustomizations
  HeaderSource.headers ⟨ctx.snapshot, ctx.lang, customizations, ctx.includeHidden⟩ ctx.columns

def pagination (ctx : Context) : Value :=
  .obj [("current_page", .int ctx.page), ("per_page", .int ctx.perPage)]

end Context

end ViewAssembly
