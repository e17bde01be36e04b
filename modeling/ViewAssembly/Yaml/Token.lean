import ViewAssembly.Yaml.Block
import ViewAssembly.Yaml.Plain
import ViewAssembly.Yaml.Property
import ViewAssembly.Yaml.Quoted

/-!
# The tokens of a YAML text

A YAML text as a row of tokens. Blocks have no marks of their own: a block starts where a line is
indented further than the block around it, and it ends before the first line that is indented less.
Nothing marks a name either, before the colon behind it is reached. So wherever a name may start, a
note is taken; when the colon follows on the same line and not too far away, the note tells where
the marks of the name belong. They are put there after all tokens have been read.
-/

namespace ViewAssembly.Yaml

/-- A token of a YAML text. -/
inductive Token where
  | directive (d : Directive)
  | documentStart | documentEnd
  /-- The start and the end of a collection by indentation. -/
  | listStart | mapStart | blockEnd
  /-- The start and the end of a collection in brackets. -/
  | openList | closeList | openMap | closeMap
  | comma
  /-- The marks before an element, a name and a value. -/
  | entry | name | value
  | alias (anchor : String)
  | anchor (name : String)
  | tag (t : TagName)
  | scalar (text : String) (plain : Bool)
  /-- The end of the text. -/
  | finish
deriving DecidableEq, Repr

/-- A note that a name may have started. -/
structure NameStart where
  /-- The number of tokens before the name. -/
  tokens : Nat
  position : Position
  /-- Is there nothing but a name that could stand there? -/
  needed : Bool

/-- How far a text has been read, and what was read. -/
structure Reader where
  position : Position
  /-- The tokens that were read, last first, and their number. -/
  tokens : List Token := []
  count : Nat := 0
  /-- The marks that belong before the token of a number. -/
  marks : List (Nat × List Token) := []
  /-- The least column of lines inside the block; the block itself starts at the column before. -/
  margin : Nat := 0
  /-- The margins of the blocks around it. -/
  margins : List Nat := []
  /-- The notes of the open brackets, innermost first, and at last the one outside brackets. -/
  notes : List (Option NameStart) := [none]
  /-- May a name start here? -/
  nameAllowed : Bool := true

namespace Reader

/-! ### What stands around -/

def rest (r : Reader) : List Char := r.position.rest

/-- Is this place inside brackets? -/
def inFlow (r : Reader) : Bool := 1 < r.notes.length

def moveTo (r : Reader) (p : Position) : Reader := { r with position := p }

def push (r : Reader) (t : Token) : Reader :=
  { r with tokens := t :: r.tokens, count := r.count + 1 }

def take (r : Reader) (t : Token) (length : Nat) : Reader :=
  (r.moveTo (r.position.skip length)).push t

/-! ### Blocks -/

/-- End the blocks that start behind this column. -/
def closeBlocks (r : Reader) (margin : Nat) : Reader :=
  if r.inFlow then r
  else
    let ended := ((r.margin :: r.margins).takeWhile (margin < ·)).length
    let left := (r.margin :: r.margins).drop ended
    { Nat.repeat (·.push .blockEnd) ended r with margin := left.headD 0, margins := left.drop 1 }

def startsBlock (r : Reader) (column : Nat) : Bool := !r.inFlow && r.margin < column + 1

/-- Inside a block that starts at this column. -/
def openBlock (r : Reader) (column : Nat) : Reader :=
  { r with margin := column + 1, margins := r.margin :: r.margins }

/-- Start a block at this column, if one starts there. -/
def blockAt (r : Reader) (t : Token) : Reader :=
  if r.startsBlock r.position.column then (r.openBlock r.position.column).push t else r

/-! ### Notes of names -/

def setNote (r : Reader) (note : Option NameStart) : Reader :=
  { r with notes := note :: r.notes.drop 1 }

/-- The note of the innermost brackets. -/
def note? (r : Reader) : Option NameStart := r.notes.head?.join

/-- Is this note out of date? A name ends on its line and within 1024 characters. -/
def isStale (r : Reader) (s : NameStart) : Bool :=
  s.position.line ≠ r.position.line || 1024 < r.position.index - s.position.index

/-- Drop a note unless there had to be a name. -/
def dropNote? (r : Reader) : Option Reader :=
  if r.note?.any (·.needed) then none else some (r.setNote none)

/-- Drop the notes that are out of date. -/
def dropStale? (r : Reader) : Option Reader :=
  if r.notes.any fun note => note.any fun s => r.isStale s && s.needed then none
  else some { r with notes := r.notes.map fun note => note.filter (!r.isStale ·) }

/-- Note that a name may start here. -/
def noteName? (r : Reader) : Option Reader :=
  if !r.nameAllowed then some r
  else do
    let needed := !r.inFlow && r.margin = r.position.column + 1
    return (← r.dropNote?).setNote (some ⟨r.count, r.position, needed⟩)

/-! ### Single tokens -/

/-- Read a scalar, or something else that a name may start with. -/
def takeNamed? (r : Reader) (token : Reader → Option (Token × Position)) : Option Reader := do
  let r ← r.noteName?
  let (t, p) ← token r
  return { (r.moveTo p).push t with nameAllowed := false }

/-- Read an unquoted scalar. A name may start behind the end of its last line. -/
def takePlain? (r : Reader) : Option Reader := do
  let r ← r.noteName?
  let (text, p, passed) := readPlain r.inFlow r.margin r.position
  return { (r.moveTo p).push (.scalar text true) with nameAllowed := passed }

def takeBlock? (r : Reader) (folds : Bool) : Option Reader := do
  let (text, p) ← readBlock? folds r.margin r.position
  return { (← r.dropNote?).moveTo p with nameAllowed := true }.push (.scalar text false)

def takeOpening? (r : Reader) (t : Token) : Option Reader := do
  let r ← r.noteName?
  return { r.take t 1 with notes := none :: r.notes, nameAllowed := true }

def takeClosing? (r : Reader) (t : Token) : Option Reader := do
  let r ← r.dropNote?
  if r.inFlow then some { r.take t 1 with notes := r.notes.drop 1, nameAllowed := false } else none

def takeComma? (r : Reader) : Option Reader := do
  return { (← r.dropNote?).take .comma 1 with nameAllowed := true }

/-- Read the mark before an element of a list, or before a name that needs one. -/
def takeMark? (r : Reader) (block mark : Token) (inFlow : Bool) : Option Reader := do
  if !r.inFlow && !r.nameAllowed then none
  let r ← (r.blockAt block).dropNote?
  return { r.take mark 1 with nameAllowed := !r.inFlow || inFlow }

/-- Read the mark before a value, and settle where its name started. -/
def takeValue? (r : Reader) : Option Reader :=
  match r.note? with
  | some s =>
    let starts := r.startsBlock s.position.column
    let marks := if starts then [.mapStart, .name] else [.name]
    let r := if starts then r.openBlock s.position.column else r
    let r := { r.setNote none with marks := (s.tokens, marks) :: r.marks, nameAllowed := false }
    some (r.take .value 1)
  | none   => r.takeMark? .mapStart .value false

/-- Read something that ends all blocks: a directive or the mark of a document. -/
def takeOutside? (r : Reader) (token : Position → Option (Token × Position)) : Option Reader := do
  let r ← (r.closeBlocks 0).dropNote?
  let (t, p) ← token r.position
  return { (r.moveTo p).push t with nameAllowed := false }

/-! ### All tokens -/

def takeToken? (r : Reader) : Option Reader :=
  match r.rest with
  | []      => none
  | c :: cs =>
    let p := r.position
    if p.column = 0 && c == '%' then
      r.takeOutside? fun p => (readDirective? p).map fun (d, p) => (.directive d, p)
    else if p.column = 0 && atDocumentMark r.rest then
      r.takeOutside? fun p => some (if c == '-' then .documentStart else .documentEnd, p.skip 3)
    else if c == '[' then r.takeOpening? .openList
    else if c == '{' then r.takeOpening? .openMap
    else if c == ']' then r.takeClosing? .closeList
    else if c == '}' then r.takeClosing? .closeMap
    else if c == ',' then r.takeComma?
    else if c == '-' && atGap cs then r.takeMark? .listStart .entry true
    else if c == '?' && (r.inFlow || atGap cs) then r.takeMark? .mapStart .name false
    else if c == ':' && (r.inFlow || atGap cs) then r.takeValue?
    else if c == '*' then
      r.takeNamed? fun r => (readAnchor? r.position.next).map fun (a, p) => (.alias a, p)
    else if c == '&' then
      r.takeNamed? fun r => (readAnchor? r.position.next).map fun (a, p) => (.anchor a, p)
    else if c == '!' then
      r.takeNamed? fun r => (readTag? r.position).map fun (t, p) => (.tag t, p)
    else if (c == '|' || c == '>') && !r.inFlow then r.takeBlock? (c == '>')
    else if c == '\'' || c == '"' then
      r.takeNamed? fun r => (readQuoted? c r.position).map fun (s, p) => (.scalar s false, p)
    else if startsPlain r.inFlow r.rest then r.takePlain?
    else none

/-- Pass the gap before the next token. Outside brackets a name may start on each line. -/
def passGap (r : Reader) : Reader :=
  let p := r.position
  let marked := p.index = 0 && startsWith (· == '\ufeff') p.rest
  let p := if marked then p.next else p
  let (n, passed) := gapLength false p.rest
  { r.moveTo (p.skip n) with nameAllowed := r.nameAllowed || (passed && !r.inFlow) }

/-- Read to the end of the text. `limit` bounds the number of tokens. -/
def finish? : Nat → Reader → Option Reader
  | 0, _         => none
  | limit + 1, r => do
    let r ← r.passGap.dropStale?
    if r.rest.isEmpty then return (← (r.closeBlocks 0).dropNote?).push .finish
    else finish? limit (← (r.closeBlocks (r.position.column + 1)).takeToken?)

end Reader

/-- Put marks before the tokens of the given numbers; `number` is that of the first token. -/
def withMarks (marks : List (Nat × List Token)) (number : Nat) : List Token → List Token
  | []      => []
  | t :: ts =>
    match marks with
    | (n, new) :: more =>
      if n = number then new ++ t :: withMarks more (number + 1) ts
      else t :: withMarks marks (number + 1) ts
    | []               => t :: ts

def tokens? (cs : List Char) : Option (List Token) := do
  if !cs.all isText then none
  let r ← Reader.finish? (cs.length + 1) { position := { rest := cs } }
  return withMarks (r.marks.mergeSort fun a b => a.1 ≤ b.1) 0 r.tokens.reverse

end ViewAssembly.Yaml
