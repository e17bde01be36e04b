import ViewAssembly.Malformed
import ViewAssembly.Value

/-!
# The order of headers

A header may say at which place of its list it wants to stand, by a whole number under `order`. The
headers that do are put, smallest number first, into the list of those that do not; each goes to
its place, or to the end when the list is too short, but never before one that was put earlier.
The wish itself is taken off every header.
-/

namespace ViewAssembly

/-- A header of a list of columns. -/
abbrev Header := Entries Value

namespace Header

/-- The place at which a header wants to stand: a whole number that is not negative. -/
def place? (h : Header) : Option Nat :=
  match h.get? "order" with
  | some (.int n) => if 0 ≤ n then some n.toNat else none
  | _             => none

/-- The headers that want a place, with it, smallest place first and otherwise as they come. -/
def placed (hs : List Header) : List (Nat × Header) :=
  (hs.filterMap fun h => h.place?.map (·, h)).mergeSort fun a b => a.1 ≤ b.1

/-- The headers that want no place. -/
def unplaced (hs : List Header) : List Header := hs.filter (·.place?.isNone)

def insertAt (place : Nat) (h : Header) (hs : List Header) : List Header :=
  hs.take place ++ h :: hs.drop place

/--
Put headers at their places, one after the other; `first` is the first place that is still free.
-/
def insertAll (first : Nat) (hs : List Header) : List (Nat × Header) → List Header
  | []           => hs
  | (n, h) :: ps =>
    let place := max (min n hs.length) first
    insertAll (place + 1) (insertAt place h hs) ps

/-- The headers in their final order, without their wishes. -/
def arrange (hs : List Header) : List Header :=
  (insertAll 0 (unplaced hs) (placed hs)).map (·.erase "order")

/-- Reorder a list of values, which must all be objects. -/
def arrangeElems (vs : List Value) : Except Malformed (List Value) :=
  match vs.mapM Value.fields? with
  | some hs => .ok ((arrange hs).map .obj)
  | none    => .error .header

/-- Is this a list in which some header says where it wants to stand? -/
def anyPlaced (v : Value) : Bool := (v.elems?.getD []).any fun h => (h.get? "order").isSome

end Header

end ViewAssembly
