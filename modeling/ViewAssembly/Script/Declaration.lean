import ViewAssembly.Script.Pattern

/-!
# Function declarations

The forms in which a script can declare a function of a given name: `function name(`, a function
or an arrow function that is assigned to the name or stands under it in an object, and a method.
-/

namespace ViewAssembly.Script

open Pattern

/-- The form of a declaration, as far as it decides where the body is. -/
inductive Form where
  /-- A parameter list, then the body. -/
  | function
  /-- A parameter list and an arrow, then the body or an expression. -/
  | arrow
  /-- One parameter without brackets and an arrow, then the body or an expression. -/
  | bareArrow
  /-- A parameter list, then the body, which is all that tells it from a call. -/
  | method
deriving DecidableEq, Repr

/-- A name that is assigned to, or stands in front of a colon. -/
def assignedTo (name : String) : Pattern :=
  sequence [notAfter (fun c => isNamePart c || c == '.'), exactly name, blanks,
    oneOf (fun c => c == ':' || c == '='), blanks,
    optionally (followedBy (exactly "async") someBlanks)]

/-- The word `function`, standing alone, with an asterisk behind it or none. -/
def functionWord : Pattern :=
  sequence [exactly "function", wordBoundary, blanks,
    optionally (followedBy (exactly "*") blanks)]

/-- The patterns of the declarations of a name, with their forms. -/
def declarationPatterns (name : String) : List (Form × Pattern) :=
  [(.function, sequence [wordBoundary, functionWord, exactly name, blanks, exactly "("]),
    (.function,
      sequence [assignedTo name, functionWord,
        optionally (sequence [oneOf isNamePart, many isNamePart, blanks]), exactly "("]),
    (.arrow, sequence [assignedTo name, exactly "("]),
    (.bareArrow,
      sequence [assignedTo name, oneOf isNameStart, many isNamePart, blanks, exactly "=>"]),
    (.method,
      sequence [lineStart, many (fun c => c == ' ' || c == '\t'),
        anyNumber (followedBy (either (exactly "async") (exactly "static")) someBlanks),
        exactly name, blanks, exactly "("])]

/-- A place that looks like a declaration. -/
structure Candidate where
  form : Form
  /-- Where the declaration starts. -/
  first : Cursor
  /-- Behind the opening bracket of the parameters, or behind the arrow. -/
  last : Cursor

/-- The places in a script that look like declarations of a name, in the order of the script. -/
def candidates (source name : String) : List Candidate :=
  let found := (declarationPatterns name).flatMap fun (form, pattern) =>
    (occurrences pattern source).map fun o => ⟨form, o.first, o.last⟩
  found.mergeSort fun a b => a.first.index ≤ b.first.index

end ViewAssembly.Script
