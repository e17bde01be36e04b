import ViewAssembly.Folder
import ViewAssembly.Value.Text
import ViewAssembly.Yaml.Node
import ViewAssembly.Yaml.Scalar

/-!
# The values of YAML documents

The value that a document denotes. Maps are objects; one that has a name which is no text is shown
as an object, with what that name is written like, and counts as no object (`Yaml.ofEntries`). A map
may take over the entries of others under the name `<<`; its own ones win.

The kinds that are covered are those of `Yaml.kindsByTag`, lists and maps. Sets, ordered maps, pairs
and binary data are not: a document with such a tag, or with any other that is not understood, has no
value. A moment is known by the text that it is written as, which need not be how a calendar would
print it. Whole numbers in other bases than ten have no limit to their digits.
-/

namespace ViewAssembly.Yaml

def kindsByTag : Entries ScalarKind := [
  (coreTag "null", .null), (coreTag "bool", .bool), (coreTag "int", .int),
  (coreTag "float", .float), (coreTag "timestamp", .moment), (coreTag "str", .text),
  (coreTag "merge", .merge), (coreTag "value", .value)]

/-- The kind of a scalar. A single exclamation mark asks for the kind that it is written like. -/
def scalarKind? (tag : Option String) (text : String) (plain : Bool) : Option ScalarKind :=
  match tag with
  | none     => some (if plain then kindOf text else .text)
  | some "!" => some (kindOf text)
  | some tag => kindsByTag.get? tag

/-- Does a collection have the tag of its kind, or none? -/
def isCollectionTag (kind : String) : Option String → Bool
  | none     => true
  | some tag => tag == "!" || tag == coreTag kind

/-! ### Objects -/

/-- The name of an entry as it is written. -/
def nameText : Value → String
  | .null       => "null"
  | .bool b     => if b then "true" else "false"
  | .shown form => form.text
  | v           => v.text

/-- Set an entry. Names are the same when they denote the same. -/
def setEntry (es : List (Value × Value)) (name v : Value) : List (Value × Value) :=
  if es.any (·.1.samePart name) then es.map fun e => if e.1.samePart name then (e.1, v) else e
  else es ++ [(name, v)]

/--
The value of a map with these entries. Names that are no texts would not fit an object, in which `1`
and `"1"` are one name, so a map that has any is a value of another kind.
-/
def ofEntries (es : List (Value × Value)) : Value :=
  let es := es.foldl (fun es e => setEntry es e.1 e.2) []
  let object := Value.obj (es.map fun e => (nameText e.1, e.2))
  if es.all (·.1.isStr) then object else .shown object

namespace Node

/-- The name that a node is, if it can be one. -/
def name? : Node → Option Value
  | scalar tag text plain => do
    match ← scalarKind? tag text plain with
    | .value => some (.str text)
    | kind   => kind.value? text
  | _ => none

/-- Does this name take over the entries of other maps? -/
def isMerge : Node → Bool
  | scalar tag text plain => scalarKind? tag text plain == some .merge
  | _                     => false

mutual

def value? : Node → Option Value
  | scalar tag text plain => (scalarKind? tag text plain).bind (·.value? text)
  | list tag elems        =>
    if isCollectionTag "seq" tag then (valueElems? elems).map .arr else none
  | map tag entries       =>
    if isCollectionTag "map" tag then (ownEntries? entries).map fun (merged, own) =>
      ofEntries (merged ++ own)
    else none

def valueElems? : List Node → Option (List Value)
  | []      => some []
  | n :: ns => do return (← n.value?) :: (← valueElems? ns)

/-- The entries that a map takes over from others, and its own ones. -/
def ownEntries? : List (Node × Node) → Option (List (Value × Value) × List (Value × Value))
  | []           => some ([], [])
  | (k, v) :: es => do
    if k.isMerge then
      let taken ← v.takenEntries?
      let (merged, own) ← ownEntries? es
      return (taken ++ merged, own)
    else
      let name ← k.name?
      let v ← v.value?
      let (merged, own) ← ownEntries? es
      return (merged, (name, v) :: own)

/-- The entries that a map, or the maps of a list, hand over. In a list the first one wins. -/
def takenEntries? : Node → Option (List (Value × Value))
  | map _ entries => (ownEntries? entries).map fun (merged, own) => merged ++ own
  | list _ elems  => takenElems? elems
  | scalar _ _ _  => none

/-- The entries that the maps of a list hand over, those of the last one first. -/
def takenElems? : List Node → Option (List (Value × Value))
  | []      => some []
  | n :: ns => do
    let taken ← n.takenEntry?
    return (← takenElems? ns) ++ taken

def takenEntry? : Node → Option (List (Value × Value))
  | map _ entries => (ownEntries? entries).map fun (merged, own) => merged ++ own
  | _             => none

end

end Node

end ViewAssembly.Yaml

namespace ViewAssembly

/--
The value that a YAML text denotes, if it can be read and every tag in it is covered. A text without
document is null.
-/
def Value.ofYaml? (s : String) : Option Value := do
  let tokens ← Yaml.tokens? (Folder.normalizeLines s).toList
  match ← Yaml.documentOf? tokens with
  | none      => some .null
  | some node => node.value?

end ViewAssembly
