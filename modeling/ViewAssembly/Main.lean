import ViewAssembly.Command.Check
import ViewAssembly.Shipped.Schemas
import ViewAssembly.Shipped.Templates
import ViewAssembly.Shipped.Views

/-!
# The program

Checks the shipped view configs.
-/

open ViewAssembly

/-- Run the command on the shipped definitions. -/
def main (args : List String) : IO UInt32 := do
  let outcome := Command.run Shipped.schemas Shipped.templates Shipped.views args
  IO.print outcome.output
  IO.eprint outcome.complaint
  return outcome.exitCode.toUInt32
