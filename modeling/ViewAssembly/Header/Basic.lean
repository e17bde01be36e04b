import ViewAssembly.Column.Token
import ViewAssembly.Header.Customization
import ViewAssembly.Header.Order

/-!
# Headers

The headers of a component that lists columns. A header is built from the definition of its
column, or from nothing for a column that a customization brings; the customization is merged into
it; and its texts are resolved for the language of the request at the very end, when the headers
stand in order.
-/

namespace ViewAssembly

open Customizations

/-- What headers are built from. -/
structure HeaderSource where
  snapshot : Snapshot
  lang : String
  customizations : Customizations := {}
  includeHidden : Bool := false

/--
The tokens of the columns to show: those that the component lists, or else those that the block
lists, or else those of the model itself. An empty list counts for a component, but not for a block.
-/
def columnsToShow (snapshot : Snapshot) (block component : Option (List Value)) : List String :=
  match component, block with
  | some tokens, _             => Token.ofValues tokens
  | none, some (token :: more) => Token.ofValues (token :: more)
  | none, _                    => snapshot.keys.filter (!Token.isRelated ·)

namespace Column

/-- The title of a column: its label, a relation's label before it, or the title of its token. -/
def title (column : Column) (token : String) : Value :=
  match column.relationLabel.filter fun l => Token.isRelated token && l.nonempty with
  | some l => l.toValue
  | none   => column.labelOr (Token.title token)

/-- An entry that is only there when something is set. -/
private def entry? (name : String) (v : Option Value) : Entries Value :=
  (v.map fun v => (name, v)).toList

/-- The header that a column has before it is customized. -/
def header (column : Column) (token lang : String) : Header :=
  [("key", .str token),
    ("title", column.title token),
    ("value", .str (column.valueKey token)),
    ("sortable", .bool column.sortable),
    ("hidden", .bool column.hidden),
    ("type", .str column.type.name)]
    ++ entry? "displayType" (column.displayType.map fun t => .str t.name)
    ++ entry? "displayProps" (column.displayProps.map .obj)
    ++ entry? "inlineEditable" (column.inlineEditable.map .bool)
    ++ entry? "chip" (column.chip.map .obj)
    ++ entry? "lang" ((column.lang.bind (Language.hint? · lang)).map .str)

end Column

namespace Header

/-- The header of a column that a customization brings, before it is customized. -/
def shell (token : String) (custom : Entries Value) : Header :=
  [("key", .str token),
    ("value", (custom.get? "columnData").getD (.str token)),
    ("sortable", .bool false),
    ("hidden", .bool false)]

/-! ### Settling a header

After the customization is merged in, three of its entries get their final form. -/

/-- Whether the column can be edited in place may be given under a second name. -/
def settleEditable (h : Header) : Header :=
  match h.get? "editable" with
  | some v => (h.erase "editable").put "inlineEditable" (.bool v.truthy)
  | none   => h

/-- A customized label is the title too, unless the customization gives a title of its own. -/
def settleTitle (custom : Entries Value) (h : Header) : Header :=
  let h := match custom.has "title", (Value.obj custom).given? "label" with
    | false, some label => h.put "title" label
    | _, _              => h
  h.putNew "title" ((h.get? "label").getD .null)

/-- A list of languages becomes the hint at one of them. -/
def settleLanguage (lang : String) (h : Header) : Header :=
  match h.get? "lang" with
  | some (.arr langs) =>
    match Language.hint? (langs.map Value.text) lang with
    | some hint => (h.erase "lang").put "lang" (.str hint)
    | none      => h.erase "lang"
  | _ => h

/-- The final form of a header into which a customization was merged. -/
def settle (lang : String) (custom : Entries Value) (h : Header) : Header :=
  settleLanguage lang (settleTitle custom (settleEditable h))

/-- Replace the title and the label, if there is one, by what they say in a language. -/
def resolveTexts (lang : String) (h : Header) : Header :=
  let h := h.put "title" (.str (((h.get? "title").getD .null).resolve lang))
  match h.get? "label" with
  | some label => h.put "label" (.str (label.resolve lang))
  | none       => h

end Header

namespace HeaderSource

/-- The merged customization as entries; only an object can be merged into a header. -/
def customEntries (token : String) (custom : Value) : Except Malformed (Entries Value) :=
  match custom with
  | .obj fs => .ok fs
  | _       => .error (.customization token)

/--
The header of a column of the schema, unless the column is hidden or not offered in the language.
-/
def schemaHeader (s : HeaderSource) (token : String) (column : Column) :
    Except Malformed (Option Header) :=
  if (column.hidden && !s.includeHidden) || !column.admits s.lang then .ok none
  else do
    let custom ← customEntries token (s.customizations.of token)
    let merged := Value.mergeFields .patch (column.header token s.lang) custom
    return some (Header.settle s.lang custom merged)

/-- The header of a column that a customization brings, unless it is not offered in the language. -/
def broughtHeader (s : HeaderSource) (token : String) : Except Malformed (Option Header) := do
  let custom := s.customizations.of token
  if !Language.admits (Language.declaredBy custom) s.lang then return none
  let custom ← customEntries token custom
  let custom := custom.putNew "label" (.str (Token.title token))
  let merged := Value.mergeFields .patch (Header.shell token custom) custom
  return some (Header.settle s.lang custom merged)

def header? (s : HeaderSource) (token : String) : Except Malformed (Option Header) := do
  match s.snapshot.get? token with
  | some column => s.schemaHeader token column
  | none        =>
    if ← bringsColumn token (s.customizations.of token) false then s.broughtHeader token
    else return none

/-- Add the customized tokens that bring a column and are not among the given ones. -/
def addBrought (s : HeaderSource) (tokens : List String) : Except Malformed (List String) :=
  s.customizations.tokens.foldlM (fun tokens token => do
    if tokens.contains token then return tokens
    let brought ← bringsColumn token (s.customizations.of token) (s.snapshot.has token)
    return if brought then tokens ++ [token] else tokens) tokens

/--
The headers of the given tokens and of the columns that customizations bring, in their final
order.
-/
def headers (s : HeaderSource) (tokens : List String) : Except Malformed (List Header) := do
  let tokens ← s.addBrought tokens
  let hs ← tokens.mapM s.header?
  return (Header.arrange (hs.filterMap id)).map (Header.resolveTexts s.lang)

end HeaderSource

end ViewAssembly
