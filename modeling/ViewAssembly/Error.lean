import ViewAssembly.Malformed
import ViewAssembly.Value.Text

/-!
# Why a request cannot be answered

A request for a view fails when what it names does not exist, or when the view config or the
templates cannot be used for it.
-/

namespace ViewAssembly

/-- Why a request cannot be answered. -/
inductive RequestError where
  /-- Some requested components have no template. -/
  | noTemplates (missing : List String)
  /-- A block without model brings no column definitions; `block` is empty when it has no name. -/
  | noColumns (block : String)
  /-- A block cannot be read; `fields` are those that do not fit. -/
  | unreadableBlock (block model : String) (fields : List String)
  | noViewConfig (model : String)
  | noBlock (model block : String) (available : List String)
  | noSchema (model : String)
  /-- Something that was used without a check has no meaning. -/
  | malformed (what : Malformed)
deriving DecidableEq, Repr

def Malformed.message : Malformed → String
  | customizations      => "Column customizations must be an object"
  | customization token => "The customization of column '" ++ token ++ "' must be an object"
  | header              => "A header must be an object"
  | fileName name       => "The file name '" ++ name ++ "' is too long"

namespace RequestError

def message : RequestError → String
  | noTemplates missing => "Component config(s) not found: " ++ ", ".intercalate missing
  | noColumns block =>
    "noModel mode requires columnsSchema in view config"
      ++ (if block = "" then "" else " '" ++ block ++ "'")
  | unreadableBlock block model _ => "Invalid view block '" ++ block ++ "' for '" ++ model ++ "'"
  | noViewConfig model => "View config file missing for model '" ++ model ++ "'"
  | noBlock model block available =>
    "Component key '" ++ block ++ "' not found in view config for '" ++ model ++ "'. Available: "
      ++ quotedNames available
  | noSchema model => "Model '" ++ model ++ "' not found or missing schema"
  | malformed what => what.message

def detail : RequestError → Value
  | noTemplates missing =>
    .obj [("error", .str "Component config(s) not found"),
      ("missingComponents", .arr (missing.map .str))]
  | e => .obj [("error", .str e.message)]

end RequestError

end ViewAssembly
