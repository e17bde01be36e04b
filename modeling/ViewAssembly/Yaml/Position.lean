import ViewAssembly.Number.Reading

/-!
# Positions in a YAML text

How far a text has been read: what is left of it, and the line and the column that were reached.
Columns tell how far the lines of a block are indented. Four characters end a line; two of them,
the line and the paragraph separator, stay what they are where a line end belongs to a scalar.
-/

namespace ViewAssembly.Yaml

/-! ### Classes of characters -/

/-- May this character stand in a YAML text? -/
def isText (c : Char) : Bool :=
  c == '\t' || c == '\n' || c == '\u0085' || (0x20 ≤ c.toNat && c.toNat ≤ 0x7e)
    || (0xa0 ≤ c.toNat && c.toNat ≤ 0xfffd) || 0x10000 ≤ c.toNat

def isLineEnd (c : Char) : Bool := c == '\n' || c == '\u0085' || c == '\u2028' || c == '\u2029'

def isBlankOrTab (c : Char) : Bool := c == ' ' || c == '\t'

def isGap (c : Char) : Bool := isBlankOrTab c || isLineEnd c

/-- Does nothing follow but a gap? -/
def atGap (cs : List Char) : Bool := cs.head?.all isGap

/-- Does nothing follow on this line but a blank? A tab is something. -/
def atBlank (cs : List Char) : Bool := cs.head?.all fun c => c == ' ' || isLineEnd c

def atLineEnd (cs : List Char) : Bool := cs.head?.all isLineEnd

/-- Is this a character of the class, and is there one? -/
def startsWith (p : Char → Bool) (cs : List Char) : Bool := cs.head?.any p

/-- Does this line mark the start or the end of a document? -/
def atDocumentMark (cs : List Char) : Bool :=
  (cs.take 3 == "---".toList || cs.take 3 == "...".toList) && atGap (cs.drop 3)

/-! ### Line ends inside scalars -/

def lineEndText (c : Char) : Char := if c == '\u0085' then '\n' else c

/--
What a line end and those after it amount to where lines are folded: a single line feed is a blank,
and of several the first one goes.
-/
def folded (first : Char) (more : List Char) : List Char :=
  if lineEndText first != '\n' then first :: more
  else if more.isEmpty then [' ']
  else more

/-! ### Positions -/

/-- How far a text has been read. -/
structure Position where
  /-- What is left to read. -/
  rest : List Char
  index : Nat := 0
  line : Nat := 0
  column : Nat := 0

namespace Position

/-- Behind the next character. A byte order mark takes no column. -/
def next (p : Position) : Position :=
  match p.rest with
  | []      => p
  | c :: cs =>
    if isLineEnd c then ⟨cs, p.index + 1, p.line + 1, 0⟩
    else ⟨cs, p.index + 1, p.line, if c == '\ufeff' then p.column else p.column + 1⟩

def skip (p : Position) : Nat → Position
  | 0     => p
  | n + 1 => p.next.skip n

def skipWhile (f : Char → Bool) (p : Position) : Position := p.skip (p.rest.takeWhile f).length

/-- Behind what is left of the line if it holds only blanks and a comment. -/
def skipComment? (p : Position) : Option Position :=
  let p := p.skipWhile (· == ' ')
  let p := if startsWith (· == '#') p.rest then p.skipWhile (!isLineEnd ·) else p
  if atLineEnd p.rest then some p.next else none

end Position

/--
The length of the gap at the front, comments included, and whether it passes a line end. Tabs
belong to no gap.
-/
def gapLength (inComment : Bool) : List Char → Nat × Bool
  | []      => (0, false)
  | c :: cs =>
    if isLineEnd c then ((gapLength false cs).1 + 1, true)
    else if inComment || c == ' ' || c == '#' then
      let (n, passed) := gapLength (inComment || c == '#') cs
      (n + 1, passed)
    else (0, false)

end ViewAssembly.Yaml
