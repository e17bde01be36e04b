import ViewAssembly.Entries
import ViewAssembly.Text.Native
import ViewAssembly.Text.Pieces

/-!
# Folders

The folders from which definitions are loaded: files with their texts, by name. A folder may be
missing altogether. The texts are what the bytes of the files stand for: a file that nobody may read,
or whose bytes are no text, is in no folder here.
-/

namespace ViewAssembly

/-- A folder of text files, or the lack of one. -/
structure Folder where
  files : Option (Entries String) := some []
deriving DecidableEq, Repr

namespace Folder

def missing : Folder := ⟨none⟩

def ofFiles (files : Entries String) : Folder := ⟨some files⟩

def maxNameBytes : Nat := 255

def maxPathBytes : Nat := 4095

/--
The name of the file that a path names in a folder. The path starts in the folder; empty parts and
single points in it do not count, and what is left has to be the name of a file.
-/
def fileName? (path : String) : Option String :=
  if "/".isPrefixOf path then none
  else
    match (Text.pieces '/' path).filter fun part => part ≠ "" && part ≠ "." with
    | [name] =>
      if name ≠ ".." && (Text.nativeSize? name).any (· ≤ maxNameBytes) then some name else none
    | _ => none

/-- Write a file. There has to be a folder, and a name and bytes for the text. -/
def write? (f : Folder) (path text : String) : Option Folder := do
  let files ← f.files
  let name ← fileName? path
  if Text.hasHalf text then none else return ⟨some (files.put name text)⟩

/-- Delete a file, which there has to be. -/
def delete? (f : Folder) (path : String) : Option Folder := do
  let files ← f.files
  let name ← fileName? path
  if files.has name then return ⟨some (files.erase name)⟩ else none

/-- A folder with files that are written one after another. -/
def ofWritten? (files : Entries String) : Option Folder :=
  files.foldlM (fun f file => f.write? file.1 file.2) (ofFiles [])

def read? (f : Folder) (name : String) : Option String := f.files.bind (·.get? name)

/--
Is a name too long to be looked up? That a folder is missing is found before the length of a name,
unless it is the path that is too long.
-/
def isTooLong (f : Folder) (name : String) : Bool :=
  let limit := if f.files.isSome then maxNameBytes else maxPathBytes
  (Text.nativeSize? name).any (limit < ·)

/-- The characters of a text with every kind of line end written as a line feed. -/
private def withLineFeeds : List Char → List Char
  | []                 => []
  | '\r' :: '\n' :: cs => '\n' :: withLineFeeds cs
  | '\r' :: cs         => '\n' :: withLineFeeds cs
  | c :: cs            => c :: withLineFeeds cs

/-- A text with every kind of line end written as a line feed. -/
def normalizeLines (s : String) : String := String.ofList (withLineFeeds s.toList)

/-- A file name without its last extension; a point at either end of the name starts none. -/
def stem (name : String) : String :=
  let extension := (name.toList.reverse.takeWhile (· != '.')).length
  let whole := name.toList.length
  if 0 < extension && extension + 1 < whole then
    String.ofList (name.toList.take (whole - extension - 1))
  else name

/-- The files of an extension in the order of their names, by stem and with their texts. -/
def withExtension (f : Folder) (extension : String) : List (String × String) :=
  let files := (f.files.getD []).filter fun e => extension.toList.isSuffixOf e.1.toList
  (files.mergeSort fun a b => a.1 ≤ b.1).map fun (name, text) => (stem name, text)

end Folder

end ViewAssembly
