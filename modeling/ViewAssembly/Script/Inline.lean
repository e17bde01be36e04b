import ViewAssembly.Malformed
import ViewAssembly.Script.Cache
import ViewAssembly.Value.Text

/-!
# Inlining functions

Wherever a value has an object under the name `functions`, the references in it are replaced by the
functions themselves. A reference is a text, which is the function, or it names a file and a
function in it. What is no reference, and what cannot be found, is left out. Values that are shown,
maps with a name that is no text among them, are not searched.

Folders hold texts (`Folder`), so every file in them can be read. Then only a file name of a length
that no file can have stops the whole.
-/

namespace ViewAssembly

/-- How the body of a function in a file is found; without a folder of scripts there is no way. -/
abbrev FunctionSource := Option (String → String → Except ExtractionError String)

namespace FunctionSource

def ofFolder (folder : Folder) : FunctionSource := some (Script.resolve folder)

def body? (source : FunctionSource) (file function : String) : Option String :=
  source.bind fun resolve => (resolve file function).toOption

/-- Is the name of a file too long to be looked up? -/
def refuses (source : FunctionSource) (file function : String) : Bool :=
  source.any fun resolve =>
    match resolve file function with
    | .ok _    => false
    | .error e => e.failure = .nameTooLong

end FunctionSource

namespace Value

/-- The file and the function that a reference names, if it names them. -/
def reference? : Value → Option (String × String)
  | obj fs => do
    let file ← Entries.get? fs "file"
    let function ← Entries.get? fs "function"
    return (file.text, function.text)
  | _ => none

/-- The function that a reference stands for, if there is one. -/
def inlined? (source : FunctionSource) : Value → Option String
  | str s => some s
  | ref   => ref.reference?.bind fun (file, function) => source.body? file function

/-- The functions of an object of references. -/
def inlineReferences (source : FunctionSource) (refs : Entries Value) : Entries Value :=
  refs.filterMap fun (name, ref) => (inlined? source ref).map fun body => (name, .str body)

mutual

/-- Inline the functions in a value. -/
def inlineFunctions (source : FunctionSource) : Value → Value
  | arr vs => arr (inlineElems source vs)
  | obj fs => obj (inlineFields source fs)
  | v      => v

def inlineElems (source : FunctionSource) : List Value → List Value
  | []      => []
  | v :: vs => v.inlineFunctions source :: inlineElems source vs

def inlineFields (source : FunctionSource) : List (String × Value) → List (String × Value)
  | []                => []
  | (name, v) :: rest =>
    (name,
      match name, v with
      | "functions", obj refs => obj (inlineReferences source refs)
      | _, v                  => v.inlineFunctions source)
      :: inlineFields source rest

end

mutual

def references : Value → List (String × String)
  | arr vs => referencesElems vs
  | obj fs => referencesFields fs
  | _      => []

def referencesElems : List Value → List (String × String)
  | []      => []
  | v :: vs => v.references ++ referencesElems vs

def referencesFields : List (String × Value) → List (String × String)
  | []                => []
  | (name, v) :: rest =>
    (match name, v with
      | "functions", obj refs => refs.filterMap fun ref => ref.2.reference?
      | _, v                  => v.references)
      ++ referencesFields rest

end

/-- Inline the functions in a value, unless one is looked for in a file with too long a name. -/
def inline (source : FunctionSource) (v : Value) : Except Malformed Value :=
  match v.references.find? fun (file, function) => source.refuses file function with
  | some (file, _) => .error (.fileName file)
  | none           => .ok (v.inlineFunctions source)

end Value

end ViewAssembly
