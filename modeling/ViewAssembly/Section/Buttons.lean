import ViewAssembly.Template.Kind
import ViewAssembly.Value

/-!
# Default buttons

The buttons that a component has when its template asks for the default ones. Which they are
depends on the kind of component and on the name under which they are asked for.
-/

namespace ViewAssembly

/-- A default button. -/
structure Button where
  type : String
  english : String
  dhivehi : String
  /-- Further entries, such as an icon or a color. -/
  look : Entries Value := []

namespace Button

def toValue (b : Button) : Value :=
  .obj ([("type", .str b.type), ("label", .obj [("en", .str b.english), ("dv", .str b.dhivehi)])]
    ++ b.look)

def withIcon (type english dhivehi icon : String) : Button :=
  ⟨type, english, dhivehi, [("icon", .str icon)]⟩

/-- The button that matters most. -/
def primary (type english dhivehi : String) : Button :=
  ⟨type, english, dhivehi, [("color", .str "primary")]⟩

def defaults (kind name : String) : List Button :=
  match kind, name with
  | "table", "actions" =>
    [withIcon "view" "View" "ބަލާ" "mdi-eye",
      withIcon "edit" "Edit" "ބަދަލުކުރޭ" "mdi-pencil",
      withIcon "delete" "Delete" "ފޮހެލާ" "mdi-delete"]
  | "form", "buttons" =>
    [primary "submit" "Save" "ރައްކާކުރޭ", ⟨"reset", "Reset", "ރީސެޓް", []⟩]
  | "toolbar", "buttons" =>
    [withIcon "create" "New" "އާ" "mdi-plus",
      withIcon "export" "Export" "އެކްސްޕޯޓް" "mdi-download"]
  | "filterSection", "buttons" =>
    [primary "apply" "Apply" "ހޯދާ", ⟨"clear", "Clear", "ސާފުކުރޭ", []⟩]
  | _, _ => []

end Button

end ViewAssembly
