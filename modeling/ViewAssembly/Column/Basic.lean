import ViewAssembly.Language.Choice
import ViewAssembly.Language.Localized
import ViewAssembly.Record.Reading

/-!
# Column definitions

A model's schema defines its columns: what kind of data they hold, how they are shown and edited, in
which languages they are offered, and how they can be filtered by. What a definition says beyond
that is kept as it is.

`Column.ofValue` reads a definition and `Column.toFields` writes it out in full.
-/

namespace ViewAssembly

/-- The type of the data in a column. -/
inductive DataType where
  | string | number | integer | boolean | date | datetime | json
deriving DecidableEq, Repr

namespace DataType

def all : List DataType := [string, number, integer, boolean, date, datetime, json]

def name : DataType → String
  | string   => "string"
  | number   => "number"
  | integer  => "integer"
  | boolean  => "boolean"
  | date     => "date"
  | datetime => "datetime"
  | json     => "json"

def ofName? (s : String) : Option DataType := all.find? (·.name == s)

end DataType

/-- How a column is shown. -/
inductive DisplayType where
  | text | chip | checkbox | date | select | custom | html
deriving DecidableEq, Repr

namespace DisplayType

def all : List DisplayType := [text, chip, checkbox, date, select, custom, html]

def name : DisplayType → String
  | text     => "text"
  | chip     => "chip"
  | checkbox => "checkbox"
  | date     => "date"
  | select   => "select"
  | custom   => "custom"
  | html     => "html"

def ofName? (s : String) : Option DisplayType := all.find? (·.name == s)

end DisplayType

/-- How a column is edited. -/
inductive InputType where
  | textField | textarea | numberField | datepicker | select | checkbox | switch | search | file
deriving DecidableEq, Repr

namespace InputType

def all : List InputType :=
  [textField, textarea, numberField, datepicker, select, checkbox, switch, search, file]

def name : InputType → String
  | textField   => "textField"
  | textarea    => "textarea"
  | numberField => "numberField"
  | datepicker  => "datepicker"
  | select      => "select"
  | checkbox    => "checkbox"
  | switch      => "switch"
  | search      => "search"
  | file        => "file"

def ofName? (s : String) : Option InputType := all.find? (·.name == s)

end InputType

/-- Whether, or how, a column can be filtered by. -/
inductive Filterable where
  | flag (allowed : Bool)
  | config (settings : Entries Value)

/-- One column of a model. -/
structure Column where
  /-- The name of the column's values; an empty one stands for the column's token. -/
  key : String := ""
  hidden : Bool := false
  label : Option LocalizedText := none
  type : DataType := .string
  displayType : Option DisplayType := none
  inputType : Option InputType := none
  formField : Bool := true
  sortable : Bool := false
  inlineEditable : Option Bool := none
  /-- The languages that the column is offered in; `none` stands for every language. -/
  lang : Option (List String) := none
  chip : Option (Entries Value) := none
  select : Option (Entries Value) := none
  filterable : Option Filterable := none
  displayProps : Option (Entries Value) := none
  /-- The label when the column is shown as a column of a related model. -/
  relationLabel : Option LocalizedText := none
  /-- What the definition says beyond the fields above. -/
  extras : Entries Value := []

namespace Column

/-- The name of the column's values, given the column's token. -/
def valueKey (column : Column) (token : String) : String :=
  if column.key = "" then token else column.key

/-- Is the column offered in a language? -/
def admits (column : Column) (lang : String) : Bool := Language.admits column.lang lang

/--
What the column is called, given its token: its label, if that says something, or its token's
title.
-/
def labelOr (column : Column) (fallback : String) : Value :=
  ((column.label.filter LocalizedText.nonempty).map LocalizedText.toValue).getD (.str fallback)

end Column

end ViewAssembly
