import ViewAssembly.Template.Library

/-!
# Shipped component templates

The templates that come with the library, one for each kind of component.
-/

namespace ViewAssembly.Shipped

private def enDv (english dhivehi : String) : Value :=
  .obj [("en", .str english), ("dv", .str dhivehi)]

def filterSectionTemplate : Template where
  kind := .filterSection
  directives := [
    ("filters", .str "on"),
    ("buttons", .str "on"),
    ("layout", .obj [("columns", .int 3), ("collapsed", .bool false)])]

def formTemplate : Template where
  kind := .form
  directives := [
    ("title", enDv "Details" "ތަފްސީލު"),
    ("fields", .str "on"),
    ("groups", .arr []),
    ("buttons", .str "on"),
    ("functions", .obj [])]

def metaTemplate : Template where
  kind := .«meta»
  directives := [("datalink", .str "on"), ("pagination", .str "on"), ("headers", .str "off")]

def tableTemplate : Template where
  kind := .table
  directives := [
    ("headers", .str "on"),
    ("filters", .str "off"),
    ("pagination", .str "on"),
    ("datalink", .str "on"),
    ("actions", .str "on"),
    ("density", .str "compact"),
    ("search", .obj [("enabled", .bool true), ("placeholder", enDv "Search" "ހޯދާ")]),
    ("functions", .obj [])]

def toolbarTemplate : Template where
  kind := .toolbar
  directives := [
    ("title", enDv "Records" "ރިކޯޑުތައް"),
    ("buttons", .str "on"),
    ("search", .str "off")]

/-- The library of the shipped templates. -/
def templates : TemplateLibrary :=
  [filterSectionTemplate, formTemplate, metaTemplate, tableTemplate, toolbarTemplate].foldl
    TemplateLibrary.add []

end ViewAssembly.Shipped
