import ViewAssembly.Text.Blank
import ViewAssembly.Text.Digit

/-!
# Kinds of components

The kinds of interface components that a view block can ask for. A block names its components by
keys: the name of a kind, with a number behind it where a block has several of one kind.
-/

namespace ViewAssembly

/-- A kind of interface component. -/
inductive ComponentKind where
  | table
  | form
  | toolbar
  | filterSection
  | «meta»
deriving DecidableEq, Repr

namespace ComponentKind

def all : List ComponentKind := [table, form, toolbar, filterSection, «meta»]

def name : ComponentKind → String
  | table         => "table"
  | form          => "form"
  | toolbar       => "toolbar"
  | filterSection => "filterSection"
  | «meta»        => "meta"

def ofName? (name : String) : Option ComponentKind := all.find? (·.name == name)

end ComponentKind

/-- A component key without the number at its end. A single line end behind the number is kept. -/
def baseKey (key : String) : String :=
  let cs := key.toList
  if cs.getLast? == some '\n' then
    String.ofList (Text.dropEndWhile Text.isDigit cs.dropLast ++ ['\n'])
  else String.ofList (Text.dropEndWhile Text.isDigit cs)

def ComponentKind.ofKey? (key : String) : Option ComponentKind := ofName? (baseKey key)

end ViewAssembly
