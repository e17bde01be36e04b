import ViewAssembly.Record.Reading
import ViewAssembly.Text.LetterCase
import ViewAssembly.Text.Native
import ViewAssembly.Text.Pieces
import ViewAssembly.Text.Quoted

/-!
# Settings

The settings of the engine. They come from a record, or from the variables of an environment; what
neither gives has a default.
-/

namespace ViewAssembly

/-- Where definitions are loaded from: those that come with the library, or a folder. -/
inductive Location where
  | shipped
  | folder (path : String)
deriving DecidableEq, Repr

/-- What governs how views are assembled. -/
structure Settings where
  viewConfigs : Location := .shipped
  templates : Location := .shipped
  schemas : Location := .shipped
  functions : Location := .shipped
  /-- What addresses of data start with. -/
  routePrefix : String := "api"
  logging : Bool := true
  /-- Do overrides add entries that a component's template does not have? -/
  allowCustomKeys : Bool := true
  /-- Do hidden columns have headers? -/
  includeHidden : Bool := false
  topLevelHeaders : Bool := false
  topLevelFilters : Bool := false
  topLevelPagination : Bool := false
  defaultLang : String := "dv"
  defaultPerPage : Int := 25
deriving DecidableEq, Repr

namespace Settings

/-! ### Paths -/

/-- The slashes at the start of a path: none, one, or two; more than two count as one. -/
def rootOf (path : String) : String :=
  match (path.toList.takeWhile (· == '/')).length with
  | 0 => ""
  | 2 => "//"
  | _ => "/"

/-- A path without empty parts and parts that are a single point. -/
def normalizePath (path : String) : String :=
  let parts := (Text.pieces '/' path).filter fun part => part ≠ "" && part ≠ "."
  let whole := rootOf path ++ "/".intercalate parts
  if whole = "" then "." else whole

def readLocation? (v : Value) : Option Location :=
  v.str?.map fun path => .folder (normalizePath path)

/-! ### From a record -/

def ofFields (fs : Entries Value) : Checked Settings :=
  let field {α : Type} (name : String) (absent : α) (reader : Value → Option α) : Checked α :=
    (FieldName.single name).read fs (.ok absent) reader
  Settings.mk
    <$> field "view_configs_dir" .shipped readLocation?
    <*> field "templates_dir" .shipped readLocation?
    <*> field "schemas_dir" .shipped readLocation?
    <*> field "functions_dir" .shipped readLocation?
    <*> field "route_prefix" "api" Value.str?
    <*> field "logging_enabled" true Value.readFlag?
    <*> field "allow_custom_component_keys" true Value.readFlag?
    <*> field "include_hidden_columns_in_headers" false Value.readFlag?
    <*> field "include_top_level_headers" false Value.readFlag?
    <*> field "include_top_level_filters" false Value.readFlag?
    <*> field "include_top_level_pagination" false Value.readFlag?
    <*> field "default_lang" "dv" Value.str?
    <*> field "default_per_page" 25 Value.readPositive?

/-! ### From an environment -/

/-- Why settings cannot be taken from an environment. -/
inductive EnvironmentError where
  /-- No environment has a variable of this name with its value. -/
  | notAVariable (name : String)
  /-- The default page size is not a number. -/
  | notANumber (text : String)
  /-- The default page size has more digits than numbers are read from. -/
  | tooManyDigits
  /-- The default page size is a number, but not a positive one. -/
  | notPositive
deriving DecidableEq, Repr

namespace EnvironmentError

/-- The greatest number of characters that a message shows of a text in quotes. -/
def maxShown : Nat := 200

def message : EnvironmentError → String
  | notAVariable name => "There is no variable '" ++ name ++ "' with this value"
  | notANumber text   =>
    "invalid literal for int() with base 10: "
      ++ String.ofList ((Text.quoted text).toList.take maxShown)
  | tooManyDigits     => "The default page size has too many digits"
  | notPositive       => "The default page size must be positive"

end EnvironmentError

/-- Can an environment have this variable? -/
def isVariable (name value : String) : Bool :=
  name ≠ "" && !Text.holds name '=' && Text.isNative name && Text.isNative value

/-- The words by which a variable switches something on. -/
def onWords : List String := ["1", "true", "yes", "on"]

/-- A switch in an environment; an empty variable counts as not given. -/
def switch (env : Entries String) (name : String) (default : Bool) : Bool :=
  match env.get? name with
  | none | some "" => default
  | some s         => onWords.contains (Text.lower (Text.trim s))

/-- A location in an environment; an empty variable counts as not given. -/
def location (env : Entries String) (name : String) : Location :=
  match env.get? name with
  | none | some "" => .shipped
  | some path      => .folder (normalizePath path)

/-- The default page size in an environment; an empty variable counts as not given. -/
def perPage (env : Entries String) : Except EnvironmentError Int :=
  match env.get? "UIAPI_DEFAULT_PER_PAGE" with
  | none | some "" => .ok 25
  | some s         =>
    match Number.readInt s with
    | .error .notANumber    => .error (.notANumber s)
    | .error .tooManyDigits => .error .tooManyDigits
    | .ok n                 => if 0 < n then .ok n else .error .notPositive

def ofEnvironment (env : Entries String) : Except EnvironmentError Settings := do
  if let some (name, _) := env.find? fun e => !isVariable e.1 e.2 then throw (.notAVariable name)
  let perPage ← perPage env
  return {
    viewConfigs := location env "UIAPI_VIEW_CONFIGS_DIR"
    templates := location env "UIAPI_TEMPLATES_DIR"
    schemas := location env "UIAPI_SCHEMAS_DIR"
    functions := location env "UIAPI_FUNCTIONS_DIR"
    routePrefix := (env.get? "UIAPI_ROUTE_PREFIX").getD "api"
    logging := switch env "UIAPI_LOGGING_ENABLED" true
    allowCustomKeys := switch env "UIAPI_ALLOW_CUSTOM_COMPONENT_KEYS" true
    includeHidden := switch env "UIAPI_INCLUDE_HIDDEN_COLUMNS" false
    topLevelHeaders := switch env "UIAPI_TOP_LEVEL_HEADERS" false
    topLevelFilters := switch env "UIAPI_TOP_LEVEL_FILTERS" false
    topLevelPagination := switch env "UIAPI_TOP_LEVEL_PAGINATION" false
    defaultLang := (env.get? "UIAPI_DEFAULT_LANG").getD "dv"
    defaultPerPage := perPage }

end Settings

end ViewAssembly
