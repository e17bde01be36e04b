import ViewAssembly.Record.Reading
import ViewAssembly.Template.Kind

/-!
# Component templates

A template says what a component of its kind consists of, entry by entry: `on` stands for a part
that is built from the columns, `off` for one that is left out, and any other value for itself.
-/

namespace ViewAssembly

/-- What components of one kind consist of. -/
structure Template where
  kind : ComponentKind
  directives : Entries Value

namespace Template

def ofValues (kind directives : Value) : Checked Template :=
  Template.mk
    <$> .ofOption "kind" (kind.str?.bind ComponentKind.ofName?)
    <*> .ofOption "directives" directives.fields?

def toValue (t : Template) : Value :=
  .obj [("kind", .str t.kind.name), ("directives", .obj t.directives)]

/-- The names of the entries that are built, as far as they are written exactly so. -/
def autoBuilt (t : Template) : List String :=
  Entries.keys (t.directives.filter fun e => e.2.str? == some "on")

def summary (t : Template) : Value :=
  .obj
    [("kind", .str t.kind.name),
      ("directive_keys", .arr (t.directives.keys.map .str)),
      ("auto_built", .arr (t.autoBuilt.map .str))]

end Template

end ViewAssembly
