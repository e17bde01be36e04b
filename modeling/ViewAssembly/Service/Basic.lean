import ViewAssembly.Assembly.Engine
import ViewAssembly.Record.Checked
import ViewAssembly.Schema.Library
import ViewAssembly.Service.Address
import ViewAssembly.Service.Route
import ViewAssembly.View.Check
import ViewAssembly.View.Library

/-!
# The service

View blocks, view configs and templates on request. A request either has an answer, or there is a
reason why it has none; both come as a status and a body.
-/

namespace ViewAssembly

/-- What a request is answered with. -/
structure Response where
  status : Nat
  body : Value

/-- Why a request has no answer. -/
inductive Refusal where
  | noRoute
  /-- The route exists, but only to read from. -/
  | wrongMethod
  | noTemplate (componentKey : String)
  | noViewConfig (model : String)
  /-- Some parameters of the query do not fit. -/
  | unfitParameters (names : List String)
  /-- Neither the path nor the query names a block. -/
  | noBlockName
  | failed (e : RequestError)
deriving DecidableEq, Repr

/-- What the service answers from. -/
structure Service where
  settings : Settings := {}
  schemas : SchemaLibrary
  templates : TemplateLibrary
  views : ViewLibrary
  functions : FunctionSource := none

namespace Refusal

/-- The status of a response without answer. -/
def status : Refusal → Nat
  | noRoute | noTemplate _ | noViewConfig _      => 404
  | wrongMethod                                  => 405
  | failed (.malformed _)                        => 500
  | unfitParameters _ | noBlockName | failed _   => 422

def detail : Refusal → Value
  | noRoute               => .str "Not Found"
  | wrongMethod           => .str "Method Not Allowed"
  | noTemplate key        => .str ("Component '" ++ key ++ "' not found")
  | noViewConfig model    => .str ("View config for '" ++ model ++ "' not found")
  | unfitParameters names =>
    .arr (names.map fun name => .obj [("loc", .arr [.str "query", .str name])])
  | noBlockName           => .obj [("error", .str "component parameter is required")]
  | failed e              => e.detail

def response (r : Refusal) : Response := ⟨r.status, .obj [("detail", r.detail)]⟩

end Refusal

namespace Service

def engine (s : Service) : Engine where
  settings := s.settings
  templates := s.templates
  functions := s.functions
  knownModels := some s.schemas.knownModels

def base (s : Service) : String := Text.trimOf '/' s.settings.routePrefix

/-! ### The service itself -/

/-- What the service is and where its parts are. -/
def home (s : Service) : Value :=
  .obj [
    ("service", .str "UI API"),
    ("version", .str "0.1.0"),
    ("description", .str "View config assembly service"),
    ("docs", .str "/docs"),
    ("endpoints", .obj [
      ("component_configs", .str ("/" ++ s.base ++ "/ccs/\x7bmodel\x7d/\x7bblock\x7d")),
      ("view_configs", .str ("/" ++ s.base ++ "/view-configs")),
      ("components", .str ("/" ++ s.base ++ "/components"))])]

def health (s : Service) : Value :=
  .obj [
    ("status", .str "healthy"),
    ("components_loaded", .int s.templates.length),
    ("schemas_loaded", .int s.schemas.length),
    ("view_configs_loaded", .int s.views.length)]

/-! ### Templates and view configs -/

def template (s : Service) (componentKey : String) : Except Refusal Value :=
  match s.templates.find? componentKey with
  | some t => .ok t.toValue
  | none   => .error (.noTemplate componentKey)

def viewConfigs (s : Service) : Value :=
  .arr <| s.views.summaries.map fun (model, blocks) =>
    .obj [("model", .str model), ("blocks", .arr (blocks.map .str))]

def viewConfig (s : Service) (model : String) : Except Refusal (Entries Value) :=
  match s.views.find? model with
  | some document => .ok document
  | none          => .error (.noViewConfig model)

def report (s : Service) (model : String) : Except Refusal Value := do
  let document ← s.viewConfig model
  return (ModelReport.ofDocument s.schemas s.templates model document).toValue

/-! ### Blocks -/

/-- Read a parameter that must be a positive whole number if it is given. -/
def positive (query : Entries String) (name : String) : Checked (Option Int) :=
  match query.get? name with
  | none      => .ok none
  | some text => .ofOption name (((Number.readLenientInt? text).filter (0 < ·)).map some)

/-- Read what a query asks of a block; which block it is is not known yet. -/
def viewRequest (model : String) (query : Entries String) : Checked ViewRequest :=
  (fun perPage page => {
    componentKeys := Text.commaList? (query.get? "componentSettings")
    lang := query.get? "lang"
    perPage
    page
    model
    columns := Text.commaList? (query.get? "columns") })
  <$> positive query "per_page"
  <*> positive query "page"

def answerBody (blockName : String) : Answer → Value
  | .payload p => .obj (("component", .str (baseKey blockName)) :: p.toFields)
  | answer     => answer.toValue

def assembled (s : Service) (r : ViewRequest) : Except RequestError Value := do
  let block ← s.views.block r.model r.blockName
  let snapshot ← if block.noModel then pure [] else s.schemas.snapshot r.model
  return answerBody r.blockName (← s.engine.assemble block snapshot r)

/-- The block that a path and a query ask for. -/
def block (s : Service) (model : String) (name : Option String) (query : Entries String) :
    Except Refusal Value :=
  match viewRequest model query with
  | .faulty names => .error (.unfitParameters names)
  | .ok r =>
    match name.or ((query.get? "component").filter (· ≠ "")) with
    | none      => .error .noBlockName
    | some name => (s.assembled { r with blockName := name }).mapError .failed

/-! ### Requests -/

def answer (s : Service) (query : Entries String) : Route → Except Refusal Value
  | .home             => .ok s.home
  | .health           => .ok s.health
  | .templates        => .ok (.arr (s.templates.values.map Template.summary))
  | .template key     => s.template key
  | .viewConfigs      => .ok s.viewConfigs
  | .viewConfig model => (s.viewConfig model).map .obj
  | .report model     => s.report model
  | .block model name => s.block model name query

/-- The answer to a request. The service can only be read from. -/
def request (s : Service) (method : String) (a : Address) : Except Refusal Value :=
  match Route.ofPath? s.base a.path with
  | none       => .error .noRoute
  | some route => if method = "GET" then s.answer a.parameters route else .error .wrongMethod

/-- The response to a request. -/
def respond (s : Service) (method : String) (a : Address) : Response :=
  match s.request method a with
  | .ok body   => ⟨200, body⟩
  | .error why => why.response

/-- The response at the end of redirects; `limit` bounds their number. -/
def follow? (s : Service) (method : String) : Nat → Address → Option Response
  | limit, a =>
    match Route.redirect? s.base a.path, limit with
    | none, _                => some (s.respond method a)
    | some _, 0              => none
    | some path, limit' + 1  => s.follow? method limit' (.redirect path a.query)

def maxRedirects : Nat := 20

/--
What a client gets to read. A method may be written in letters of any case; the response to `HEAD`
has no body, so there is nothing to read.
-/
def fetch? (s : Service) (method : String) (a : Address) : Option Response :=
  let method := Text.upper method
  if method = "HEAD" then none else s.follow? method maxRedirects a

end Service

end ViewAssembly
