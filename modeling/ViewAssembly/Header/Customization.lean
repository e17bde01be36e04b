import ViewAssembly.Malformed
import ViewAssembly.Merge
import ViewAssembly.Schema.Basic

/-!
# Column customizations

A view block customizes columns for all its components, and a component on top of that for itself.
What the component says about a column is merged into what the block says.

A customization can also bring a column of its own, one that the schema does not know: it does
so by a label, or by naming the data that the column shows.
-/

namespace ViewAssembly

/-- Customizations of columns by their tokens: those of the block, and those of the component. -/
structure Customizations where
  block : Entries Value := []
  component : Entries Value := []

namespace Customizations

/-- The customizations that a value holds. One that says nothing holds none. -/
def entriesOf (v : Value) : Except Malformed (Entries Value) :=
  match v with
  | .obj fs => .ok fs
  | v       => if v.truthy then .error .customizations else .ok []

def ofValues (block component : Value) : Except Malformed Customizations := do
  return ⟨← entriesOf block, ← entriesOf component⟩

/-- The tokens that are customized, first those of the block. -/
def tokens (c : Customizations) : List String := c.block.keys ++ c.component.keys

/-- What is said about a token in one place, if it says something. -/
def said (es : Entries Value) (token : String) : Value :=
  ((es.get? token).filter Value.truthy).getD (.obj [])

def of (c : Customizations) (token : String) : Value :=
  (said c.block token).merge .patch (said c.component token)

/-! ### Columns that a customization brings -/

/-- Do the characters of one text stand side by side in another one? -/
def occursIn (part : List Char) : List Char → Bool
  | []      => part.isEmpty
  | c :: cs => part.isPrefixOf (c :: cs) || occursIn part cs

/--
Does a value mention a name: an object by an entry, a list by an element, a text by a part of it? A
number or a truth value mentions nothing, and asking it is an error.
-/
def mentions? (name : String) : Value → Option Bool
  | .obj fs => some (Entries.has fs name)
  | .arr vs => some (vs.any (·.same (.str name)))
  | .str s  => some (occursIn name.toList s.toList)
  | _       => none

/-- The names of which a customization mentions one when it brings a column. -/
def columnNames : List String := ["label", "columnData"]

/-- Does a customization bring a column, the schema having no column of this token? -/
def bringsColumn (token : String) (custom : Value) (known : Bool) : Except Malformed Bool :=
  if known then .ok false
  else
    match columnNames.mapM (mentions? · custom) with
    | some answers => .ok (answers.any id)
    | none         => .error (.customization token)

end Customizations

end ViewAssembly
