import ViewAssembly.Value

/-!
# Merging two values

Two objects are merged entry by entry: the entries of the base keep their places, and names that
only the patch has follow in its order. Where the two sides meet in anything but two objects, one
side wins outright. A map with a name that is no text is no object here.
-/

namespace ViewAssembly

/-- The side that wins where two values cannot be merged. -/
inductive Side where
  | base
  | patch
deriving DecidableEq, Repr

namespace Value

mutual

/-- Merge a patch into a base value. -/
def merge (winner : Side) (base : Value) : Value → Value
  | obj ps =>
    match base, winner with
    | obj bs, _      => obj (mergeFields winner bs ps)
    | base, .base    => base
    | _, .patch      => obj ps
  | patch  =>
    match winner with
    | .base  => base
    | .patch => patch

/-- Merge the entries of a patch, one after the other, into those of a base. -/
def mergeFields (winner : Side) (bs : Entries Value) : List (String × Value) → Entries Value
  | []           => bs
  | (k, p) :: ps =>
    let merged := match bs.get? k with
      | some b => b.merge winner p
      | none   => p
    mergeFields winner (bs.put k merged) ps

end

end Value

end ViewAssembly
