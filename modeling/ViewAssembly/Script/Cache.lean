import ViewAssembly.Folder
import ViewAssembly.Script.Body
import ViewAssembly.Text.Pieces

/-!
# Scripts in a folder

View configs take functions from a folder of scripts. A file is asked for by a path, of which
only the last part counts, so that no reference leaves the folder. The text of a file is remembered
from its first reading on; that a file is missing is not.
-/

namespace ViewAssembly

/-- A function that could not be taken out of a file. -/
structure ExtractionError where
  file : String
  function : String
  failure : Script.ExtractionFailure
deriving DecidableEq, Repr

namespace ExtractionError

def message (e : ExtractionError) : String :=
  "Cannot extract '" ++ e.function ++ "' from '" ++ e.file ++ "': " ++ e.failure.message

end ExtractionError

namespace Script

/-- The last part of a path; parts that are empty or a single point do not count. -/
def baseName (path : String) : String :=
  (((Text.pieces '/' path).filter fun part => part ≠ "" && part ≠ ".").getLast?).getD ""

def fileText (folder : Folder) (path : String) : Except ExtractionFailure String :=
  let name := baseName path
  match folder.read? name with
  | some text => .ok (Folder.normalizeLines text)
  | none      => .error (if folder.isTooLong name then .nameTooLong else .noFile)

/-- The body of a function in a file, given the file's text or why there is none. -/
def resolveIn (text : Except ExtractionFailure String) (file function : String) :
    Except ExtractionError String :=
  (text.bind (bodyOf · function)).mapError fun failure => ⟨file, function, failure⟩

/-- The body of a function in a file of a folder. -/
def resolve (folder : Folder) (file function : String) : Except ExtractionError String :=
  resolveIn (fileText folder file) file function

end Script

/-- The texts of the files that were read, by their base names. -/
structure ScriptCache where
  texts : Entries String := []
deriving DecidableEq, Repr

namespace ScriptCache

/-- The text of the file that a path names, and the cache that remembers it. -/
def read (cache : ScriptCache) (folder : Folder) (path : String) :
    Except Script.ExtractionFailure String × ScriptCache :=
  let name := Script.baseName path
  match cache.texts.get? name with
  | some text => (.ok text, cache)
  | none      =>
    match Script.fileText folder path with
    | .ok text       => (.ok text, ⟨cache.texts.put name text⟩)
    | .error failure => (.error failure, cache)

/-- The body of a function in a file, and the cache that remembers the file. -/
def resolve (cache : ScriptCache) (folder : Folder) (file function : String) :
    Except ExtractionError String × ScriptCache :=
  let (text, cache) := cache.read folder file
  (Script.resolveIn text file function, cache)

def clear (_ : ScriptCache) : ScriptCache := {}

end ScriptCache

end ViewAssembly
