import ViewAssembly.Folder

/-!
# Catalogs of definitions

Definitions of one kind are kept in the files of a folder. A catalog loads them when they are first
needed and answers from what it has loaded; it looks at the folder again only when it is told to
load it again. A file that holds no definition is passed over.
-/

namespace ViewAssembly

/-- A kind of definitions: how files hold them, and what can be asked about them. -/
structure Collection (α Question Reply : Type) where
  /-- What the names of the files end in. -/
  extension : String
  /-- The definition in a file and the name that it is kept under, if the file holds one. -/
  entry? (stem text : String) : Option (String × α)
  /-- Is a question answered from the definitions at all? -/
  concerns : Question → Bool
  reply (definitions : Entries α) : Question → Reply
  reply_congr : ∀ q, concerns q = false → ∀ es fs, reply es q = reply fs q

/-- The definitions that were loaded, in the order in which their names first came. -/
structure Catalog (α : Type) where
  definitions : Entries α := []
  isLoaded : Bool := false

/-- What a catalog can be called for. -/
inductive Call (Question : Type) where
  | load
  | reload
  | ask (q : Question)

namespace Collection

variable {α Question Reply : Type} (k : Collection α Question Reply)

/-- Take in the definition that a file holds, in place of an earlier one of its name. -/
def takeIn (definitions : Entries α) (stem text : String) : Entries α :=
  match k.entry? stem text with
  | some (name, a) => definitions.put name a
  | none           => definitions

/-- Load the folder, unless that was done before. A folder that is missing counts as loaded. -/
def load (folder : Folder) (c : Catalog α) : Catalog α :=
  if c.isLoaded then c
  else if folder.files.isNone then { c with isLoaded := true }
  else
    { definitions := (folder.withExtension k.extension).foldl
        (fun definitions (stem, text) => k.takeIn definitions stem text) c.definitions
      isLoaded := true }

/-- Forget what was loaded, and load the folder. -/
def reload (folder : Folder) (c : Catalog α) : Catalog α :=
  k.load folder { c with definitions := [], isLoaded := false }

/-- Answer a question. Where the definitions are needed, the folder is loaded before. -/
def ask (folder : Folder) (c : Catalog α) (q : Question) : Reply × Catalog α :=
  let c := if k.concerns q then k.load folder c else c
  (k.reply c.definitions q, c)

/-- What a call comes back with, if it asks something, and the catalog that it leaves. -/
def call (folder : Folder) (c : Catalog α) : Call Question → Option Reply × Catalog α
  | .load   => (none, k.load folder c)
  | .reload => (none, k.reload folder c)
  | .ask q  => (some (k.ask folder c q).1, (k.ask folder c q).2)

end Collection

end ViewAssembly
