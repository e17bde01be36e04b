import ViewAssembly.Column.Token
import ViewAssembly.View.Rules.Structure

/-!
# Rules on references to columns

The columns, filters and customizations of a block refer to columns by their tokens. Where it is
known which columns there are, every reference is checked against them. Columns of related models
are not checked.
-/

namespace ViewAssembly.Rule

def references (columns : List String) (refs : List Value) (path : String) : Report :=
  .concat <| refs.zipIdx.map fun (ref, i) =>
    match ref with
    | .str token =>
      if Token.isRelated token || columns.contains token then .empty
      else
        .warning (path ++ "[" ++ toString i ++ "]") "column_exists_in_schema"
          ("Column \"" ++ token ++ "\" is not defined in the schema.")
    | _ => .empty

/-- The columns that a block and its components list are known. -/
def listedColumns (columns : List String) (block : Value) (path : String) : Report :=
  references columns ((list? block "columns").getD []) (path ++ ".columns")
    ++ .concat (((components? block).getD []).map fun (key, component) =>
      references columns ((list? component "columns").getD [])
        (path ++ ".components." ++ key ++ ".columns"))

def filters (columns : List String) (block : Value) (path : String) : Report :=
  .concat <| ((list? block "filters").getD []).zipIdx.map fun (ref, i) =>
    match ref with
    | .str token =>
      if columns.contains token then .empty
      else
        .warning (path ++ ".filters[" ++ toString i ++ "]") "filter_key_exists"
          ("Filter \"" ++ token ++ "\" does not reference a known column in the schema.")
    | _ => .empty

def columnTexts (v : Value) : List String := ((list? v "columns").getD []).filterMap Value.str?

/-- The tokens that a block knows or lists somewhere. -/
def mentionedTokens (columns : List String) (block : Value) : List String :=
  columns ++ columnTexts block ++ (((components? block).getD []).flatMap fun e => columnTexts e.2)

/-- Does a customization bring a column of its own on purpose? -/
def isCustom (custom : Value) : Bool :=
  (custom.get? "displayType").any (·.same (.str "custom")) || (custom.get? "columnData").isSome

/-- The customized columns are known or listed, unless a customization brings its own. -/
def customizedColumns (columns : List String) (block : Value) (path : String) : Report :=
  let known := mentionedTokens columns block
  .concat <| ((object? block "columnCustomizations").getD []).map fun (token, custom) =>
    if !custom.isObj || isCustom custom || known.contains token then .empty
    else
      .warning (path ++ ".columnCustomizations." ++ token) "customization_key_exists"
        ("Column customization \"" ++ token ++ "\" does not match any known column in the schema "
          ++ "or columns list. If this is intentional, set displayType to \"custom\".")

end ViewAssembly.Rule
