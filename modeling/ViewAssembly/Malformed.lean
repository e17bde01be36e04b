/-!
# Malformed input

Column customizations, header lists and names of scripts may come from places that nobody has
checked. Where one of them has a shape that gives it no meaning, assembling stops.
-/

namespace ViewAssembly

/-- What has a shape that gives it no meaning. -/
inductive Malformed where
  /-- The customizations of all columns, which must be an object. -/
  | customizations
  /-- The customization of one column, which must be an object. -/
  | customization (token : String)
  /-- A header in a list that is to be ordered; all of them must be objects. -/
  | header
  /-- The name of a script, which is longer than that of any file can be. -/
  | fileName (name : String)
deriving DecidableEq, Repr

end ViewAssembly
