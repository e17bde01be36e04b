import ViewAssembly.Text.Blank

/-!
# Pieces of a text

Cutting a text at a separator and putting the pieces together again, and the comma lists that
requests carry: `a, b,,c` names `a`, `b` and `c`.
-/

namespace ViewAssembly.Text

/-- Cut a list of characters at every character of a class. There is always one piece at least. -/
def cutAt (p : Char → Bool) : List Char → List (List Char)
  | []      => [[]]
  | c :: cs =>
    match cutAt p cs with
    | []            => [[]]
    | piece :: rest => if p c then [] :: piece :: rest else (c :: piece) :: rest

def pieces (separator : Char) (s : String) : List String :=
  (cutAt (· == separator) s.toList).map String.ofList

/-- What stands before and after the first occurrence of a character, if it occurs. -/
def splitFirst? (separator : Char) (s : String) : Option (String × String) :=
  match s.toList.span (· != separator) with
  | (_, [])              => none
  | (before, _ :: after) => some (String.ofList before, String.ofList after)

def holds (s : String) (c : Char) : Bool := s.toList.contains c

/-- The trimmed pieces of a comma list that are not blank. -/
def commaPieces (s : String) : List String := ((pieces ',' s).map trim).filter (· ≠ "")

/-- The names in a comma list. A list that names nothing counts as not given. -/
def commaList? (s : Option String) : Option (List String) :=
  match commaPieces (s.getD "") with
  | []    => none
  | names => some names

end ViewAssembly.Text
