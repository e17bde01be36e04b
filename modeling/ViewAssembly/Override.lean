import ViewAssembly.Merge
import ViewAssembly.Text.Blank
import ViewAssembly.Text.LetterCase

/-!
# Overrides

An override is an object that changes a section name by name. What it does at a name is decided by
the kind of its value there: the word `off` removes the entry, an object is applied to the entry
as an override of its own, a list of texts selects and reorders the elements of a list, a list
that holds objects adds to the elements or merges into those with the same key, and everything
else replaces the entry.
-/

namespace ViewAssembly

/-- Is this value the word `off`, whatever its letter case and the blanks around it? -/
def Value.saysOff (v : Value) : Bool := (v.str?.map fun s => Text.lower (Text.trim s)) == some "off"

/-- Is this value the word `on`, whatever its letter case and the blanks around it? -/
def Value.saysOn (v : Value) : Bool := (v.str?.map fun s => Text.lower (Text.trim s)) == some "on"

namespace Override

/-- What an override value does to the entry that it meets. -/
inductive Kind where
  | remove
  | scalar
  | stringList
  | objectList
  | mixedList
  | scalarList
  | object
deriving DecidableEq, Repr

def kind (v : Value) : Kind :=
  if v.saysOff then .remove
  else
    match v with
    | .obj _ => .object
    | .arr vs =>
      if vs.isEmpty then .scalarList
      else if vs.all Value.isStr then .stringList
      else if vs.all Value.isObj then .objectList
      else if vs.any Value.isObj then .mixedList
      else .scalarList
    | _ => .scalar

/-! ### Selecting elements by text -/

def selectorNames : List String := ["type", "key", "name", "label"]

/-- Is this text the wanted one, letter case aside? -/
def isWanted (wanted : String) (v : Value) : Bool :=
  (v.str?.map (Text.sameLetters wanted)).getD false

/--
Is an element asked for by a text? A text is if it is the same text, an object if one of its type,
key, name and label is, or a text in one of these.
-/
def selects (wanted : String) (element : Value) : Bool :=
  match element with
  | .str _  => isWanted wanted element
  | .obj fs =>
    selectorNames.any fun name =>
      match Entries.get? fs name with
      | some (.obj texts) => (Entries.values texts).any (isWanted wanted)
      | some v            => isWanted wanted v
      | none              => false
  | _ => false

/-- The elements that are asked for, in the order of the wanted texts, each at most once. -/
def select (draft : List Value) : List String → List Value
  | []      => []
  | w :: ws => draft.filter (selects w) ++ select (draft.filter (!selects w ·)) ws

/-! ### Adding and merging elements by key -/

/-- What identifies an element: its key or else its name, unless that is null. -/
def identity? (fs : Entries Value) : Option (String × Value) :=
  ["key", "name"].findSome? fun name => (Value.given? (.obj fs) name).map (name, ·)

/-- Has an element the given value under a name? -/
def hasSame (name : String) (v element : Value) : Bool :=
  ((element.get? name).map (·.same v)).getD false

/-- Merge an object into the first element that has the same value under a name, or add it. -/
def mergeInto (name : String) (v : Value) (patch : Entries Value) : List Value → List Value
  | []      => [.obj patch]
  | e :: es =>
    if hasSame name v e then e.merge .patch (.obj patch) :: es
    else e :: mergeInto name v patch es

/-- Bring one object into a list. One without key and name is added unless an equal one is there. -/
def upsertOne (draft : List Value) (patch : Entries Value) : List Value :=
  match identity? patch with
  | some (name, v) => mergeInto name v patch draft
  | none           => if draft.any (·.same (.obj patch)) then draft else draft ++ [.obj patch]

/-- Bring objects into a list, one after the other. -/
def upsert (draft : List Value) (patches : List (Entries Value)) : List Value :=
  patches.foldl upsertOne draft

/-! ### Applying an override -/

/-- The elements of the entry that a list meets; anything but a list counts as no elements. -/
def elemsOf (draft : Option Value) : List Value := (draft.bind Value.elems?).getD []

/-- The entries of the entry that an object meets; anything but an object counts as no entries. -/
def fieldsOf (draft : Option Value) : Entries Value := (draft.bind Value.fields?).getD []

/-- What a list makes of the entry that it meets. -/
def overrideList (draft : Option Value) (vs : List Value) : Value :=
  match kind (.arr vs) with
  | .stringList =>
    match draft with
    | some (.arr es) => .arr (select es (vs.filterMap Value.str?))
    | _              => .arr vs
  | .objectList | .mixedList => .arr (upsert (elemsOf draft) (vs.filterMap Value.fields?))
  | _ => .arr vs

mutual

/-- What an override value makes of the entry that it meets; `none` removes the entry. -/
def overrideValue (draft : Option Value) : Value → Option Value
  | .obj os => some (.obj (overrideFields (fieldsOf draft) os))
  | .arr vs => some (overrideList draft vs)
  | v       => if v.saysOff then none else some v

/-- Apply the entries of an override one after the other, all names being allowed. -/
def overrideFields (draft : Entries Value) : List (String × Value) → Entries Value
  | []           => draft
  | (k, o) :: os =>
    overrideFields
      (match overrideValue (draft.get? k) o with
        | some v => draft.put k v
        | none   => draft.erase k)
      os

end

/-- Apply one entry of an override. -/
def applyEntry (draft : Entries Value) (k : String) (o : Value) : Entries Value :=
  match overrideValue (draft.get? k) o with
  | some v => draft.put k v
  | none   => draft.erase k

/--
Apply an override to a section. Entries under names that are not allowed are passed over; inside
nested objects every name is allowed.
-/
def apply (allows : String → Bool) (draft overrides : Entries Value) : Entries Value :=
  overrides.foldl
    (fun current (k, o) => if allows k then applyEntry current k o else current) draft

/-- The test for allowed names when only the known ones are, or all are. -/
def allowing (known : Option (List String)) (allowUnknown : Bool) (name : String) : Bool :=
  match known with
  | none       => true
  | some names => allowUnknown || names.contains name

end Override

end ViewAssembly
