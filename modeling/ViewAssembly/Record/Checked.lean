/-!
# Checked records

Reading a record tries all its fields. The outcome is the record, or the names of all the fields
whose values do not fit.
-/

namespace ViewAssembly

universe u

/-- A record that was read, or the names of the fields that do not fit. -/
inductive Checked (α : Type u) where
  | ok (record : α)
  | faulty (fields : List String)
deriving DecidableEq, Repr

namespace Checked

/-- Apply a function that was read to an argument that was read; the faults of both add up. -/
protected def seq {α β : Type u} (f : Checked (α → β)) (x : Unit → Checked α) : Checked β :=
  match f, x () with
  | ok f, ok a         => ok (f a)
  | ok _, faulty q     => faulty q
  | faulty p, ok _     => faulty p
  | faulty p, faulty q => faulty (p ++ q)

instance : Applicative Checked where
  pure := ok
  seq  := Checked.seq

/-- The record, if every field fits. -/
def toOption {α : Type u} : Checked α → Option α
  | ok a     => some a
  | faulty _ => none

/-- A record whose fault would be that of one field. -/
def ofOption {α : Type u} (field : String) : Option α → Checked α
  | some a => ok a
  | none   => faulty [field]

end Checked

end ViewAssembly
