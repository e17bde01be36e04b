import ViewAssembly.Value
import ViewAssembly.Text.Quoted

/-!
# Values as text

What a value reads as where text is wanted: a text is itself, numbers are in decimal notation, and
lists and objects are written out with the texts inside them in quotes.
-/

namespace ViewAssembly

def boolText (b : Bool) : String := if b then "True" else "False"

namespace Value

mutual

/-- A value as it is written inside a list or an object: texts stand in quotes. -/
def quoted : Value → String
  | null    => "None"
  | bool b  => boolText b
  | int n   => toString n
  | float x => x.text
  | str s   => Text.quoted s
  | arr vs  => "[" ++ ", ".intercalate (quotedElems vs) ++ "]"
  | obj fs  => "\x7b" ++ ", ".intercalate (quotedFields fs) ++ "\x7d"
  | shown form => form.quoted

def quotedElems : List Value → List String
  | []      => []
  | v :: vs => v.quoted :: quotedElems vs

def quotedFields : List (String × Value) → List String
  | []           => []
  | (k, v) :: fs => (Text.quoted k ++ ": " ++ v.quoted) :: quotedFields fs

end

def text : Value → String
  | str s          => s
  | shown (.str s) => s
  | v              => v.quoted

end Value

def quotedNames (names : List String) : String := (Value.arr (names.map .str)).quoted

end ViewAssembly
