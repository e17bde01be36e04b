import ViewAssembly.Text.LetterCase
import ViewAssembly.Value.Text

/-!
# Choosing by language

Columns may declare the languages that they support. A column is offered in a language that it
declares, or in every language when it declares none, and its header hints at another language to
offer instead of the one in use. Letter case never matters.
-/

namespace ViewAssembly.Language

def isDeclared (declared : List String) (lang : String) : Bool :=
  declared.any (Text.sameLetters · lang)

/-- Is something that declares these languages, or none, offered in a language? -/
def admits (declared : Option (List String)) (lang : String) : Bool :=
  match declared with
  | none    => true
  | some ls => isDeclared ls lang

/-- The languages that an object declares under `lang`, if it has a list there. -/
def declaredBy (v : Value) : Option (List String) :=
  ((v.get? "lang").bind Value.elems?).map fun vs => vs.map Value.text

/--
The language to hint at: another one than the language in use when that is declared, with `en` and
`dv` standing in for each other, and otherwise the declared one that comes first in the order `en`,
`dv`, all others.
-/
def hint? (declared : List String) (lang : String) : Option String :=
  let declared := (declared.map Text.lower).eraseDups
  let current := Text.lower lang
  let others := declared.filter (· ≠ current)
  if declared.contains current then
    if current == "en" && others.contains "dv" then some "dv"
    else if current == "dv" && others.contains "en" then some "en"
    else others.head?
  else (["en", "dv"].find? declared.contains).or declared.head?

end ViewAssembly.Language
