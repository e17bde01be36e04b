import ViewAssembly.Number.Reading
import ViewAssembly.Record.Checked
import ViewAssembly.Text.Surrogate
import ViewAssembly.Value

/-!
# Reading the fields of a record

A record is read from an object field by field. A field has a main name and may have a second one;
the main name wins when both are there. Each field has a reader, which says what values fit: a
truth value, for instance, may be written as `true`, as `1` or as `"yes"`.
-/

namespace ViewAssembly

/-- The names under which a field is looked up. -/
structure FieldName where
  main : String
  second : String
deriving DecidableEq, Repr

namespace FieldName

/-- A field that has one name only. -/
def single (name : String) : FieldName := ⟨name, name⟩

/-- The name under which the field is given, and its value. -/
def find? (name : FieldName) (fs : Entries Value) : Option (String × Value) :=
  match fs.get? name.main with
  | some v => some (name.main, v)
  | none   => (fs.get? name.second).map (name.second, ·)

/-- Read a field. A field that is not given is as `absent` says. -/
def read {α : Type} (name : FieldName) (fs : Entries Value) (absent : Checked α)
    (reader : Value → Option α) : Checked α :=
  match name.find? fs with
  | none            => absent
  | some (used, v) => .ofOption used (reader v)

/-- The entries of an object that no field has taken. -/
def unused (names : List FieldName) (fs : Entries Value) : Entries Value :=
  let used := names.filterMap fun name => (name.find? fs).map Prod.fst
  fs.restrict fun k => !used.contains k

end FieldName

/--
A record that keeps the entries which no field takes. Half of a surrogate pair in a name is a fault
of the record as a whole and hides all others.
-/
def Checked.ofWholeNames {α : Type} (fs : Entries Value) (record : Checked α) : Checked α :=
  if fs.keys.any Text.hasHalf then .faulty [""] else record

namespace Value

/-! ### Readers -/

/-- The words for a truth value, letter case aside. -/
def flagOfWord? (s : String) : Option Bool :=
  let word := String.ofList (s.toList.map Char.toLower)
  if ["1", "on", "t", "true", "y", "yes"].contains word then some true
  else if ["0", "off", "f", "false", "n", "no"].contains word then some false
  else none

/-- A number as a truth value: only zero and one are any. -/
def flagOfInt? (n : Int) : Option Bool :=
  if n = 0 then some false else if n = 1 then some true else none

/-- Read a truth value: one as such, a zero or one, or a word for one. -/
def readFlag? : Value → Option Bool
  | bool b  => some b
  | int n   => flagOfInt? n
  | float x => x.toInt?.bind flagOfInt?
  | str s   => flagOfWord? s
  | _       => none

/-- Read a whole number: one as such, a truth value, a number without fraction, or a text of one. -/
def readInt? : Value → Option Int
  | int n   => some n
  | bool b  => some (if b then 1 else 0)
  | float x => x.toInt?.filter fun n => n.natAbs < Nat.pow 2 63
  | str s   => Number.readLenientInt? s
  | _       => none

def readPositive? (v : Value) : Option Int := v.readInt?.filter (0 < ·)

def readNames? (v : Value) : Option (List String) := v.elems?.bind (·.mapM str?)

/-- Read an object whose values all fit a reader. -/
def readEntries? {α : Type} (reader : Value → Option α) (v : Value) : Option (Entries α) :=
  v.fields?.bind fun fs => fs.mapM fun e => (reader e.2).map (e.1, ·)

/-- Read a field that may be null. -/
def readOptional? {α : Type} (reader : Value → Option α) : Value → Option (Option α)
  | null => some none
  | v    => (reader v).map some

end Value

end ViewAssembly
