import ViewAssembly.Text.LetterCase
import ViewAssembly.Text.Pieces
import ViewAssembly.Value

/-!
# Column tokens

The names by which view configs refer to columns. A plain token names a column of the model itself,
`relation.field` a column of a related model.
-/

namespace ViewAssembly.Token

open Text

/-- Does the token name a column of a related model? -/
def isRelated (token : String) : Bool := holds token '.'

/-- The relation and the field that a token of a related column names. -/
def relation? (token : String) : Option (String × String) := splitFirst? '.' token

/-- The field part of a token: what follows its first point, or all of it. -/
def field (token : String) : String := ((relation? token).map Prod.snd).getD token

/--
The title of a column that declares none: the field part in title case, with blanks between words.
-/
def title (token : String) : String :=
  Text.title (String.ofList ((field token).toList.map fun c => if c == '_' then ' ' else c))

/-- The tokens in a list of values: the texts that are not empty, each once. -/
def ofValues (vs : List Value) : List String :=
  ((vs.filterMap Value.str?).filter (· ≠ "")).eraseDups

end ViewAssembly.Token
