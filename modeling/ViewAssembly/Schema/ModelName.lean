import ViewAssembly.Text.LetterCase
import ViewAssembly.Text.Pieces

/-!
# Model names

Models are found whatever the letter case and the separators in which they are asked for:
`Person`, `per-son` and `per_son` name one model. The model that a relation leads to is asked for by
the name of the relation in Pascal case, `user_role` as `UserRole`.
-/

namespace ViewAssembly.ModelName

open Text

def isSeparator (c : Char) : Bool := c == '-' || c == '_' || isBlank c

/-- The form under which models are kept: small letters without separators. -/
def normalize (name : String) : String :=
  lower (String.ofList (name.toList.filter (!isSeparator ·)))

/-- The words of a name, each with a capital at its start, without separators. -/
def pascalCase (name : String) : String :=
  String.join ((cutAt isSeparator name.toList).map fun word => capitalised (String.ofList word))

end ViewAssembly.ModelName
