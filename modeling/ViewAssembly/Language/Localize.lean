import ViewAssembly.Language.Localized

/-!
# Localizing a value

Every localized text inside a value is replaced by what it says in one language; all else stays as
it is. Under the names `label` and `title` an object from language codes to texts is always a
text, in other places only if one of its languages is known. Values that are shown, maps with a name
that is no text among them, are left as they are, with all that is in them.
-/

namespace ViewAssembly.Value

/-- The names whose value is a text whenever it can be one. -/
def isTextName (name : String) : Bool := name == "label" || name == "title"

mutual

/-- Replace the localized texts in a value, given the known languages. -/
def localizeWith (lang : String) (known : List String) : Value → Value
  | obj fs =>
    if (obj fs).isTextFor known then str (textIn fs lang)
    else obj (localizeFields lang known fs)
  | arr vs => arr (localizeElems lang known vs)
  | v      => v

def localizeElems (lang : String) (known : List String) : List Value → List Value
  | []      => []
  | v :: vs => v.localizeWith lang known :: localizeElems lang known vs

def localizeFields (lang : String) (known : List String) :
    List (String × Value) → List (String × Value)
  | []           => []
  | (k, v) :: fs =>
    (k, if isTextName k && v.isPerLanguage then str (v.resolve lang) else v.localizeWith lang known)
      :: localizeFields lang known fs

end

/-- The languages that are known when a value is localized for `lang`. -/
def knownLanguages (lang : String) (languages : List String) : List String :=
  languages.map Text.lower ++ Language.fallbacks ++ [Text.lower lang]

/-- Replace every localized text in a value by what it says in a language. -/
def localize (lang : String) (languages : List String) (v : Value) : Value :=
  v.localizeWith lang (knownLanguages lang languages)

end ViewAssembly.Value
