import ViewAssembly.Value

/-!
# Reports

What is found when a view config is validated. An error makes a block unusable; a warning says
that the block can be assembled, but hardly as it was meant. A report is a list of errors beside a
list of warnings, and the reports of several rules are put one after the other.
-/

namespace ViewAssembly

/-- A finding: where it is, which rule found it, and what it says. -/
structure Issue where
  path : String
  rule : String
  message : String
deriving DecidableEq, Repr

def Issue.toValue (i : Issue) : Value :=
  .obj [("path", .str i.path), ("rule", .str i.rule), ("message", .str i.message)]

/-- Errors and warnings, each in the order in which they were found. -/
structure Report where
  errors : List Issue := []
  warnings : List Issue := []
deriving DecidableEq, Repr

namespace Report

def empty : Report := {}

def error (path rule message : String) : Report := ⟨[⟨path, rule, message⟩], []⟩

def warning (path rule message : String) : Report := ⟨[], [⟨path, rule, message⟩]⟩

instance : Append Report := ⟨fun r s => ⟨r.errors ++ s.errors, r.warnings ++ s.warnings⟩⟩

/-- Several reports, one after the other. -/
def concat (rs : List Report) : Report := rs.foldr (· ++ ·) empty

/-- Is the view config usable? -/
def ok (r : Report) : Bool := r.errors.isEmpty

@[simp] theorem errors_append (r s : Report) : (r ++ s).errors = r.errors ++ s.errors := rfl

@[simp] theorem warnings_append (r s : Report) : (r ++ s).warnings = r.warnings ++ s.warnings := rfl

theorem errors_concat (rs : List Report) : (concat rs).errors = rs.flatMap errors := by
  induction rs with
  | nil => rfl
  | cons r rs ih => rw [concat, List.foldr_cons, errors_append, List.flatMap_cons, ← ih, concat]

theorem warnings_concat (rs : List Report) : (concat rs).warnings = rs.flatMap warnings := by
  induction rs with
  | nil => rfl
  | cons r rs ih => rw [concat, List.foldr_cons, warnings_append, List.flatMap_cons, ← ih, concat]

end Report

/-- The report on the view config of a model. -/
structure ModelReport where
  model : String
  report : Report
deriving DecidableEq, Repr

def ModelReport.toValue (r : ModelReport) : Value :=
  .obj
    [("model", .str r.model),
      ("errors", .arr (r.report.errors.map Issue.toValue)),
      ("warnings", .arr (r.report.warnings.map Issue.toValue))]

end ViewAssembly
