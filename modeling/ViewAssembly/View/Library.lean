import ViewAssembly.Catalog
import ViewAssembly.Error
import ViewAssembly.Json.Document
import ViewAssembly.Schema.ModelName
import ViewAssembly.View.Block

/-!
# The library of view configs

All view configs that were loaded, by the normalized names of their models. They are kept as they
stand in their files; a block is read when it is asked for.
-/

namespace ViewAssembly

/-- View configs by the normalized names of their models, in the order in which they were loaded. -/
abbrev ViewLibrary := Entries (Entries Value)

namespace ViewLibrary

def add (library : ViewLibrary) (model : String) (document : Entries Value) : ViewLibrary :=
  library.put (ModelName.normalize model) document

/--
The view configs in a folder, each named after its file. Files that hold none are passed over.
-/
def ofFolder (folder : Folder) : ViewLibrary :=
  ((folder.withExtension ".json").filterMap fun (stem, text) =>
    ((Value.ofJson? text).bind Value.fields?).map (stem, ·)).foldl
    (fun library (stem, document) => library.add stem document) []

def find? (library : ViewLibrary) (model : String) : Option (Entries Value) :=
  Entries.get? library (ModelName.normalize model)

/-- The view config of a model, which must have one that is not empty. -/
def document (library : ViewLibrary) (model : String) : Except RequestError (Entries Value) :=
  match library.find? model with
  | some (entry :: rest) => .ok (entry :: rest)
  | _                    => .error (.noViewConfig model)

def block (library : ViewLibrary) (model name : String) : Except RequestError ViewBlock := do
  let document ← library.document model
  match document.get? name with
  | some (.obj fs) =>
    match ViewBlock.ofFields fs with
    | .ok block      => return block
    | .faulty fields => throw (.unreadableBlock name model fields)
  | _ => throw (.noBlock model name document.keys)

def models (library : ViewLibrary) : List String := library.keys.mergeSort fun a b => a ≤ b

/-- All view configs by the names of their models, sorted, with the names of their blocks. -/
def summaries (library : ViewLibrary) : List (String × List String) :=
  (library.mergeSort fun a b => a.1 ≤ b.1).map fun (model, document) =>
    (model, Entries.keys document)

/-! ### Questions -/

/-- What can be asked about view configs. -/
inductive Question where
  | find (model : String)
  | document (model : String)
  | block (model name : String)
  | models
  | summaries
  | count

/-- What a question about view configs is answered with. -/
inductive Reply where
  | found (document : Option (Entries Value))
  | document (document : Except RequestError (Entries Value))
  | block (block : Except RequestError ViewBlock)
  | models (names : List String)
  | summaries (blocks : List (String × List String))
  | count (n : Nat)

/-- The answer to a question about view configs. -/
def reply (library : ViewLibrary) : Question → Reply
  | .find model       => .found (library.find? model)
  | .document model   => .document (library.document model)
  | .block model name => .block (library.block model name)
  | .models           => .models library.models
  | .summaries        => .summaries library.summaries
  | .count            => .count library.length

/-- View configs as they are kept in a folder. -/
def collection : Collection (Entries Value) Question Reply where
  extension := ".json"
  entry? stem text := ((Value.ofJson? text).bind Value.fields?).map (ModelName.normalize stem, ·)
  concerns _ := true
  reply := reply
  reply_congr := nofun

end ViewLibrary

end ViewAssembly
