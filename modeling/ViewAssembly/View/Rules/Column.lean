import ViewAssembly.Text.LetterCase
import ViewAssembly.View.Rules.Structure

/-!
# Rules on column definitions

What a column definition or customization has to go with: a select needs its choices, a chip its
looks.
-/

namespace ViewAssembly.Rule

/-- The text of an entry in small letters, if it says something. -/
def lowerText (v : Value) (name : String) : String :=
  ((v.filled? name).map fun w => Text.lower w.text).getD ""

/-- Where the choices of a select are configured, if they are anywhere. -/
def selectConfig? (definition : Value) : Option Value :=
  (["select", "filterable"].find? (hasEntries definition)).bind definition.get?

/-- A select has choices, or a relation to take them from. -/
def selectChoices (definition : Value) (path : String) : Report :=
  if lowerText definition "inputType" ≠ "select" then .empty
  else
    match selectConfig? definition with
    | none        =>
      .error path "select_requires_config"
        ("\"inputType\" is \"select\" but neither \"select\" nor \"filterable\" "
          ++ "configuration is defined.")
    | some config =>
      let mode := lowerText config "mode"
      if mode == "" || mode == "self" then
        if hasElems config "items" then .empty
        else
          .warning (path ++ ".select") "self_mode_requires_items"
            ("Select mode is \"self\" but \"items\" is missing or empty. "
              ++ "The dropdown will have no options.")
      else if ((config.filled? "relationship").map Value.isStr).getD false then .empty
      else
        .warning (path ++ ".select") "relation_mode_requires_relationship"
          ("Select mode is \"relation\" but \"relationship\" is missing. "
            ++ "The related model is guessed from the key name.")

/-- The ways to show a column that have to be configured. -/
def configuredDisplays : List String := ["chip", "select"]

/-- A way to show a column that has to be configured is configured. -/
def displayConfig (definition : Value) (path : String) : Report :=
  match definition.get? "displayType" with
  | some (.str display) =>
    if !configuredDisplays.contains (Text.lower display) || hasEntries definition display
        || hasEntries definition "displayProps" then .empty
    else
      .warning path "displaytype_requires_config"
        ("\"displayType\" is \"" ++ display ++ "\" but neither a \"" ++ display
          ++ "\" sub-key nor \"displayProps\" is defined.")
  | _ => .empty

def customizations (v : Value) (path : String) : Report :=
  .concat <| ((object? v "columnCustomizations").getD []).map fun (token, custom) =>
    let here := path ++ ".columnCustomizations." ++ token
    if custom.isObj then displayConfig custom here ++ selectChoices custom here else .empty

/-- The rules on the column definitions of a block without model. -/
def definitions (block : Value) (path : String) : Report :=
  .concat <| ((object? block "columnsSchema").getD []).map fun (token, definition) =>
    let here := path ++ ".columnsSchema." ++ token
    if definition.isObj then selectChoices definition here ++ displayConfig definition here
    else .empty

end ViewAssembly.Rule
