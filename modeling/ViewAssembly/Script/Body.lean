import ViewAssembly.Script.Declaration

/-!
# Function bodies

The body of a function in a script: what stands between the curly brackets of its declaration, or
the expression of an arrow function, without blanks at its ends. Places that merely look like a
declaration are passed over; the first that proves to be one decides.
-/

namespace ViewAssembly.Script

/-- Why a function's body cannot be taken out of a script. -/
inductive ExtractionFailure where
  | notFound
  | unbalanced
  | noFile
  /-- The name of the file is longer than any file can have. -/
  | nameTooLong
deriving DecidableEq, Repr

def ExtractionFailure.message : ExtractionFailure → String
  | notFound    => "function not found"
  | unbalanced  => "unbalanced braces"
  | noFile      => "file not found"
  | nameTooLong => "file name too long"

private def trimmed (cs : List Char) : String := String.ofList (Text.trimChars cs)

/-- The body in the curly brackets that open at the cursor. -/
def bracedBody (c : Cursor) : Except ExtractionFailure String :=
  match closing? braces c with
  | some last => .ok (trimmed ((c.advance 1).between last))
  | none      => .error .unbalanced

/-- The expression at the cursor: up to the first semicolon or line end. -/
def expression (c : Cursor) : String :=
  trimmed (c.after.takeWhile fun x => x != ';' && x != '\n')

/-- Where the parameter list of a candidate ends, if it does: behind its closing bracket. -/
def afterParameters? (k : Candidate) : Option Cursor :=
  match k.last.before with
  | opening :: before =>
    (closing? parentheses ⟨before, opening :: k.last.after⟩).map fun c => (c.advance 1).skipBlanks
  | [] => none

/-- Where the body of a candidate has to start, if the candidate can be a declaration at all. -/
def bodyStart? (k : Candidate) : Option Cursor :=
  match k.form with
  | .bareArrow => some k.last.skipBlanks
  | .arrow     => do
    let c ← afterParameters? k
    if c.isAt "=>" then some (c.advance 2).skipBlanks else none
  | .function | .method => afterParameters? k

/-- The body of a candidate, or nothing if the candidate is no declaration. -/
def candidateBody? (k : Candidate) : Option (Except ExtractionFailure String) := do
  let c ← bodyStart? k
  if c.after.head? == some '{' then return bracedBody c
  match k.form with
  | .arrow | .bareArrow => return .ok (expression c)
  | .function | .method => none

def bodyOf (source name : String) : Except ExtractionFailure String :=
  ((candidates source name).findSome? candidateBody?).getD (.error .notFound)

end ViewAssembly.Script
