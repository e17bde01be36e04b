import ViewAssembly.Assembly.Payload
import ViewAssembly.Language.Localize
import ViewAssembly.Script.Inline
import ViewAssembly.Settings
import ViewAssembly.Template.Library
import ViewAssembly.Template.Resolve
import ViewAssembly.View.Block

/-!
# Assembling a view block

Every requested component of a block is assembled for itself. Its template is resolved to a draft,
the component's override is applied, headers that the override put in are ordered, functions are
inlined, and texts are resolved for the language of the request.

What makes a request impossible is found before any component is assembled.
-/

namespace ViewAssembly

/-- What assembles view blocks. -/
structure Engine where
  settings : Settings := {}
  templates : TemplateLibrary
  functions : FunctionSource := none
  builders : Entries Builder := Builder.byName
  /-- The models that related columns may lead to, by normalized name; `none` stands for any. -/
  knownModels : Option (List String) := none

/-- A request for a view block. What is not given is taken from the block or from the settings. -/
structure ViewRequest where
  /-- The components to assemble; `none` stands for all of the block's. -/
  componentKeys : Option (List String) := none
  lang : Option String := none
  perPage : Option Int := none
  page : Option Int := none
  model : String := ""
  blockName : String := ""
  /-- The columns to show instead of those that the block and its components list. -/
  columns : Option (List String) := none

namespace ViewRequest

/-- A number that is given and not zero. -/
private def nonzero? (n : Option Int) : Option Int := n.filter (· ≠ 0)

def chosenLang (r : ViewRequest) (settings : Settings) : String :=
  (r.lang.filter (· ≠ "")).getD settings.defaultLang

def chosenPerPage (r : ViewRequest) (settings : Settings) (block : ViewBlock) : Int :=
  ((nonzero? r.perPage).or (nonzero? block.perPage)).getD settings.defaultPerPage

def chosenPage (r : ViewRequest) : Int := (nonzero? r.page).getD 1

def ownColumns? (r : ViewRequest) : Option (List String) := r.columns.filter (!·.isEmpty)

def keys (r : ViewRequest) (block : ViewBlock) : List String :=
  r.componentKeys.getD block.components.keys

end ViewRequest

namespace Engine

/--
The entries of an override that say how to assemble the component and do not go into its section.
-/
def internalNames : List String := ["columns", "columnCustomizations"]

/-- The columns that a block is assembled from: its own if it has no model. -/
def snapshotFor (block : ViewBlock) (schema : Snapshot) (blockName : String) :
    Except RequestError Snapshot :=
  if block.noModel then
    match block.columnsSchema with
    | some (column :: more) => .ok (Snapshot.withKeys (column :: more))
    | _                     => .error (.noColumns blockName)
  else .ok schema

/--
What the sections of a component are built from, as far as it does not depend on the component.
-/
def context (a : Engine) (block : ViewBlock) (snapshot : Snapshot) (r : ViewRequest) :
    Context where
  snapshot := snapshot
  lang := r.chosenLang a.settings
  perPage := r.chosenPerPage a.settings block
  page := r.chosenPage
  model := r.model
  routePrefix := a.settings.routePrefix
  blockColumns := some ((r.ownColumns?.getD block.columns).map .str)
  blockCustomizations := .obj block.customizations
  allowedFilters := block.filters
  includeHidden := a.settings.includeHidden
  knownModels := a.knownModels

def componentContext (ctx : Context) (r : ViewRequest) (override : Entries Value) : Context :=
  { ctx with
    componentColumns :=
      if r.ownColumns?.isSome then none else (override.get? "columns").bind Value.elems?
    componentCustomizations := (override.get? "columnCustomizations").getD .null }

/-- Order the headers of a section if one of them says where it wants to stand. -/
def orderHeaders (fs : Entries Value) : Except Malformed (Entries Value) := do
  match fs.get? "headers" with
  | some (.arr hs) =>
    if Header.anyPlaced (.arr hs) then return fs.put "headers" (.arr (← Header.arrangeElems hs))
    else return fs
  | _ => return fs

def applyOverride (a : Engine) (t : Template) (draft override : Entries Value) : Entries Value :=
  Override.apply (Override.allowing (some t.directives.keys) a.settings.allowCustomKeys) draft
    (override.restrict fun name => !internalNames.contains name)

def component (a : Engine) (ctx : Context) (languages : List String) (t : Template)
    (override : Entries Value) : Except Malformed Value := do
  let draft ← t.resolve a.builders ctx
  let merged ← orderHeaders (a.applyOverride t draft override)
  return (← (Value.obj merged).inline a.functions).localize ctx.lang languages

/-- The sections of the components with the given keys and templates. -/
def sections (a : Engine) (block : ViewBlock) (ctx : Context) (r : ViewRequest) :
    List (String × Template) → Except Malformed (Entries Value)
  | []             => .ok []
  | (key, t) :: ts => do
    let override := block.override key
    let here ← a.component (componentContext ctx r override) block.lang t override
    let rest ← a.sections block ctx r ts
    return (key, here) :: rest

/-- The payload of a block whose components have the given templates. -/
def payload (a : Engine) (block : ViewBlock) (ctx : Context) (r : ViewRequest)
    (templates : Entries Template) : Except Malformed Payload := do
  let sections ← a.sections block ctx r templates
  let headers ←
    if a.settings.topLevelHeaders then pure (some (Value.arr ((← ctx.headers).map .obj)))
    else pure none
  return {
    sections
    headers
    filters :=
      if a.settings.topLevelFilters then some ((Value.arr ctx.filters).localize ctx.lang block.lang)
      else none
    pagination := if a.settings.topLevelPagination then some ctx.pagination else none }

/-- Assemble a block. `schema` holds the columns of the block's model, if it has one. -/
def assemble (a : Engine) (block : ViewBlock) (schema : Snapshot) (r : ViewRequest) :
    Except RequestError Answer := do
  let snapshot ← snapshotFor block schema r.blockName
  let templates ← a.templates.require (r.keys block)
  let lang := r.chosenLang a.settings
  if !block.supports lang then return .unsupported lang
  match a.payload block (a.context block snapshot r) r templates with
  | .ok p       => return .payload p
  | .error what => throw (.malformed what)

end Engine

end ViewAssembly
