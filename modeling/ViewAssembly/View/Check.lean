import ViewAssembly.Schema.Library
import ViewAssembly.Template.Library
import ViewAssembly.View.Validate

/-!
# Checking view configs against what is loaded

A view config is validated against the columns of its model, as far as the model has a schema, and
against the components that there are templates for.
-/

namespace ViewAssembly

/-- The report on the view config of a model, given the schemas and templates that are loaded. -/
def ModelReport.ofDocument (schemas : SchemaLibrary) (templates : TemplateLibrary) (model : String)
    (document : Entries Value) : ModelReport :=
  let columns := (schemas.snapshot model).toOption.map Entries.keys
  ⟨model, validate templates.kinds columns model document⟩

end ViewAssembly
