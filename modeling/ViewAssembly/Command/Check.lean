import ViewAssembly.Command.Arguments
import ViewAssembly.Json.Printer
import ViewAssembly.View.Check
import ViewAssembly.View.Library

/-!
# The command

Checks view configs before they are put to use, and prints what is found, in lines or as JSON. The
command fails if there is an error, and under `--strict` also if there is a warning.
-/

namespace ViewAssembly.Command

/-- What a run of the command leaves behind. -/
structure Outcome where
  exitCode : Nat
  output : String := ""
  /-- What goes to the error stream. -/
  complaint : String := ""
deriving DecidableEq, Repr

def usage : String := "usage: check-views [-h] [--strict] [--json] [models ...]\n"

/-! ### Printing -/

def issueLine (mark : String) (i : Issue) : String :=
  "  " ++ mark ++ " " ++ i.path ++ " [" ++ i.rule ++ "] " ++ i.message

def reportLines (r : ModelReport) : List String :=
  (r.model ++ ": " ++ (if r.report.ok then "OK" else "FAILED")
      ++ " (" ++ toString r.report.errors.length ++ " errors, "
      ++ toString r.report.warnings.length ++ " warnings)")
    :: r.report.errors.map (issueLine "ERROR  ") ++ r.report.warnings.map (issueLine "WARNING")

def printed (asJson : Bool) (rs : List ModelReport) : String :=
  if asJson then (Value.arr (rs.map ModelReport.toValue)).toJsonLines "" ++ "\n"
  else String.join ((rs.flatMap reportLines).map (· ++ "\n"))

/-! ### Running -/

def fails (strict : Bool) (r : ModelReport) : Bool :=
  !r.report.ok || (strict && !r.report.warnings.isEmpty)

/-- The reports that are asked for. A model without view config counts as one with an empty one. -/
def reports (schemas : SchemaLibrary) (templates : TemplateLibrary) (views : ViewLibrary)
    (o : Options) : List ModelReport :=
  (if o.models.isEmpty then views.models else o.models).map fun model =>
    .ofDocument schemas templates model ((views.find? model).getD [])

def run (schemas : SchemaLibrary) (templates : TemplateLibrary) (views : ViewLibrary)
    (args : List String) : Outcome :=
  match Invocation.ofArguments args with
  | .unusable => { exitCode := 2, complaint := usage }
  | .help     => { exitCode := 0, output := usage }
  | .check o  =>
    let rs := reports schemas templates views o
    { exitCode := if rs.any (fails o.strict) then 1 else 0, output := printed o.asJson rs }

end ViewAssembly.Command
