import ViewAssembly.View.Library

/-!
# Shipped view configs

The view config that comes with the library: persons in a list, in a form, and in numbers.
-/

namespace ViewAssembly.Shipped

private def label (english dhivehi : String) : Value :=
  .obj [("en", .str english), ("dv", .str dhivehi)]

private def script (function : String) : Value :=
  .obj [("file", .str "misc.js"), ("function", .str function)]

private def names (texts : List String) : Value := .arr (texts.map .str)

def listView : Entries Value := [
    ("components", .obj [
        ("table", .obj [
            ("actions", names ["edit", "view"]),
            ("columnCustomizations", .obj [
                ("gender", .obj [("order", .int 0), ("editable", .bool false)])]),
            ("functions", .obj [
                ("rowProps", script "highlightCustody"),
                ("formatName", script "formatFullName"),
                ("emptyText", .str "return '-';")])]),
        ("toolbar", .obj [("title", label "People" "މީހުން")]),
        ("filterSection", .obj []),
        ("meta", .obj [])]),
    ("columns", names ["full_name", "first_name_eng", "first_name_div", "date_of_birth", "gender",
        "country.name_eng", "country.name_div", "is_in_custody"]),
    ("columnCustomizations", .obj [
        ("full_name", .obj [("title", label "Name" "ނަން"), ("sortable", .bool false)]),
        ("custody_badge", .obj [
            ("label", label "Custody" "ހައްޔަރު"),
            ("displayType", .str "custom"),
            ("columnData", .str "is_in_custody"),
            ("order", .int 1)])]),
    ("filters", names ["gender", "country_id", "date_of_birth"]),
    ("per_page", .int 25),
    ("lang", names ["en", "dv"])]

def formView : Entries Value := [
    ("components", .obj [
        ("form", .obj [
            ("columns", names ["first_name_eng", "middle_name_eng", "first_name_div",
                "middle_name_div", "last_name_div", "date_of_birth", "gender"]),
            ("groups", .arr [
                .obj [("name", .str "names"), ("title", label "Names" "ނަންތައް")],
                .obj [("name", .str "personal"), ("title", label "Personal" "ޝަޚްސީ")]]),
            ("fields", .arr [
                .obj [("key", .str "date_of_birth"), ("group", .str "personal")],
                .obj [
                  ("key", .str "gender"),
                  ("group", .str "personal"),
                  ("events", .obj [("change", .str "onGenderChange")])]]),
            ("functions", .obj [
                ("onGenderChange", script "onGenderChange")])]),
        ("toolbar", .obj [("buttons", names ["create"])])]),
    ("lang", names ["en", "dv"])]

def statsView : Entries Value := [
    ("noModel", .bool true),
    ("columnsSchema", .obj [
        ("category", .obj [
            ("label", label "Category" "ބާވަތް"),
            ("type", .str "string"),
            ("displayType", .str "text"),
            ("sortable", .bool true)]),
        ("total", .obj [
            ("label", label "Total" "ޖުމްލަ"),
            ("type", .str "integer"),
            ("displayType", .str "text"),
            ("sortable", .bool true),
            ("filterable", .bool false)])]),
    ("components", .obj [("table", .obj [("actions", .str "off")]), ("meta", .obj [])]),
    ("columns", names ["category", "total"]),
    ("per_page", .int 10),
    ("lang", names ["en"])]

/-- The library of the shipped view configs. -/
def views : ViewLibrary :=
  ViewLibrary.add [] "person"
    [("listView", .obj listView), ("formView", .obj formView), ("statsView", .obj statsView)]

end ViewAssembly.Shipped
