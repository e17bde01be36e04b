import ViewAssembly.Catalog
import ViewAssembly.Error
import ViewAssembly.Json.Document
import ViewAssembly.Template.Basic

/-!
# The library of component templates

All templates that were loaded, at most one for each kind of component. A file holds the template
of the kind that it is named after.
-/

namespace ViewAssembly

/-- Templates by the names of their kinds, in the order in which they were loaded. -/
abbrev TemplateLibrary := Entries Template

namespace TemplateLibrary

def add (library : TemplateLibrary) (t : Template) : TemplateLibrary := library.put t.kind.name t

def ofFile? (stem text : String) : Option Template :=
  match ComponentKind.ofName? stem, (Value.ofJson? text).bind Value.fields? with
  | some kind, some directives => some ⟨kind, directives⟩
  | _, _                       => none

/-- The templates in a folder. Files that hold none are passed over. -/
def ofFolder (folder : Folder) : TemplateLibrary :=
  ((folder.withExtension ".json").filterMap fun file => ofFile? file.1 file.2).foldl add []

def find? (library : TemplateLibrary) (componentKey : String) : Option Template :=
  (ComponentKind.ofKey? componentKey).bind fun kind => Entries.get? library kind.name

/-- The component keys without a template. -/
def missing (library : TemplateLibrary) (componentKeys : List String) : List String :=
  componentKeys.filter fun key => (library.find? key).isNone

/-- The templates for component keys; all of them must have one. -/
def require (library : TemplateLibrary) (componentKeys : List String) :
    Except RequestError (Entries Template) :=
  match library.missing componentKeys with
  | []      =>
    .ok (.ofPairs (componentKeys.filterMap fun key => (library.find? key).map (key, ·)))
  | missing => .error (.noTemplates missing)

def kinds (library : TemplateLibrary) : List String := library.values.map (·.kind.name)

/-! ### Questions -/

/-- What can be asked about templates. -/
inductive Question where
  | find (componentKey : String)
  | require (componentKeys : List String)
  | all
  | summaries
  | kinds
  | count

/-- What a question about templates is answered with. -/
inductive Reply where
  | found (t : Option Template)
  | required (templates : Except RequestError (Entries Template))
  | all (templates : List Template)
  | summaries (vs : List Value)
  | kinds (names : List String)
  | count (n : Nat)

/-- The answer to a question about templates. -/
def reply (library : TemplateLibrary) : Question → Reply
  | .find key     => .found (library.find? key)
  | .require keys => .required (library.require keys)
  | .all          => .all library.values
  | .summaries    => .summaries (library.values.map Template.summary)
  | .kinds        => .kinds library.kinds
  | .count        => .count library.length

/-- Is a question answered from the templates? Nothing is needed to require none. -/
def concerns : Question → Bool
  | .require [] => false
  | _           => true

def collection : Collection Template Question Reply where
  extension := ".json"
  entry? stem text := (ofFile? stem text).map fun t => (t.kind.name, t)
  concerns := concerns
  reply := reply
  reply_congr := by
    intro q h es fs
    match q with
    | .require [] => rfl
    | .require (_ :: _) | .find _ | .all | .summaries | .kinds | .count => cases h

end TemplateLibrary

end ViewAssembly
