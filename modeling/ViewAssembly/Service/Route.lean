import ViewAssembly.Text.Pieces

/-!
# Routes

What the service can be asked for, and the paths under which it is asked. Apart from the two paths
at the root, all of them start with a part that the settings choose.
-/

namespace ViewAssembly

/-- What the service can be asked for. -/
inductive Route where
  /-- What the service is and where its parts are. -/
  | home
  /-- Whether the service runs and what it has loaded. -/
  | health
  /-- Short descriptions of all templates. -/
  | templates
  | template (componentKey : String)
  /-- The names of the blocks of all view configs. -/
  | viewConfigs
  | viewConfig (model : String)
  /-- The report on a view config. -/
  | report (model : String)
  /-- An assembled view block; without a name the query has to give one. -/
  | block (model : String) (name : Option String)
deriving DecidableEq, Repr

namespace Route

/-- The route whose path has these parts behind the common start. -/
def ofParts? : List String → Option Route
  | ["components"]                       => some templates
  | ["components", key]                  => some (template key)
  | ["view-configs"]                     => some viewConfigs
  | ["view-configs", model]              => some (viewConfig model)
  | ["view-configs", model, "validate"]  => some (report model)
  | ["ccs", model]                       => some (block model none)
  | ["ccs", model, name]                 => some (block model (some name))
  | _                                    => none

/-- The parts of a path behind its start, if it starts so. -/
def partsAfter? : List String → List String → Option (List String)
  | [], parts               => some parts
  | _ :: _, []              => none
  | b :: base, part :: rest => if b = part then partsAfter? base rest else none

/-- The route with exactly this path; no part of a path is empty. -/
def ofExactPath? (base path : String) : Option Route :=
  match Text.pieces '/' path with
  | ["", ""]       => some home
  | ["", "health"] => some health
  | "" :: parts    =>
    if parts.contains "" then none
    else (partsAfter? (Text.pieces '/' base) parts).bind ofParts?
  | _ => none

/-- A path without a single line end behind it. -/
def withoutLineEnd (path : String) : String :=
  if path.toList.getLast? == some '\n' then String.ofList path.toList.dropLast else path

/-- The route with this path. `base` is what paths start with; a line end may stand behind. -/
def ofPath? (base path : String) : Option Route :=
  (ofExactPath? base path).or (ofExactPath? base (withoutLineEnd path))

/-! ### Slashes at the end -/

def withoutEndSlashes (path : String) : String :=
  String.ofList (Text.dropEndWhile (· == '/') path.toList)

/-- The path to go to instead of one that leads nowhere, if only slashes at its end are too many. -/
def redirect? (base path : String) : Option String :=
  let target := withoutEndSlashes path
  if (ofPath? base path).isNone && target ≠ path && (ofPath? base target).isSome then some target
  else none

end Route

end ViewAssembly
