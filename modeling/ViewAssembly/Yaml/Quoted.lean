import ViewAssembly.Text.Hexadecimal
import ViewAssembly.Text.Surrogate
import ViewAssembly.Yaml.Position

/-!
# Scalars in quotes

In single quotes only the quote itself is written in a special way, namely twice. In double quotes a
backslash starts an escape; before the end of a line it joins two lines. Other line ends are folded,
and the blanks around them are dropped.
-/

namespace ViewAssembly.Yaml

/-! ### Escapes -/

def escapes : List (Char × Char) :=
  [('0', '\x00'), ('a', '\x07'), ('b', '\x08'), ('t', '\t'), ('\t', '\t'), ('n', '\n'),
    ('v', '\x0b'), ('f', '\x0c'), ('r', '\r'), ('e', '\x1b'), (' ', ' '), ('"', '"'),
    ('\\', '\\'), ('/', '/'), ('N', '\u0085'), ('_', '\u00a0'), ('L', '\u2028'), ('P', '\u2029')]

def escapeDigits? : Char → Option Nat
  | 'x' => some 2
  | 'u' => some 4
  | 'U' => some 8
  | _   => none

def ofCode? (code : Nat) : Option Char :=
  if Text.isHalf code then some (Text.ofHalf code)
  else if code ≤ 0x10ffff then some (Char.ofNat code)
  else none

/-- The character that an escape stands for, and the length of the escape behind its backslash. -/
def readEscape? : List Char → Option (Char × Nat)
  | []      => none
  | c :: cs =>
    match escapeDigits? c with
    | none   => (escapes.find? (·.1 == c)).map fun e => (e.2, 1)
    | some n =>
      if cs.length < n then none
      else ((Text.hexValue? (cs.take n)).bind ofCode?).map fun x => (x, n + 1)

/-! ### Line ends -/

/--
The length of the gap at the front and the line ends in it. There is none if a line marks a
document.
-/
def quotedLineEnds? (atStart : Bool) : List Char → Option (Nat × List Char)
  | []      => some (0, [])
  | c :: cs =>
    if atStart && atDocumentMark (c :: cs) then none
    else if isBlankOrTab c then (quotedLineEnds? false cs).map fun (n, more) => (n + 1, more)
    else if isLineEnd c then
      (quotedLineEnds? true cs).map fun (n, more) => (n + 1, lineEndText c :: more)
    else some (0, [])

/-- Read a gap: what it amounts to, and the position behind it. -/
def readGap? (p : Position) : Option (List Char × Position) :=
  let blanks := p.rest.takeWhile isBlankOrTab
  let q := p.skip blanks.length
  match q.rest with
  | []      => none
  | c :: cs =>
    if isLineEnd c then
      (quotedLineEnds? true cs).map fun (n, more) => (folded c more, q.next.skip n)
    else some (blanks, q)

/-! ### Scalars -/

/--
Read the inside of a scalar up to its closing quote; `done` holds what was read, last first, and
`limit` bounds the number of steps.
-/
def readInside? (quote : Char) : Nat → List Char → Position → Option (String × Position)
  | 0, _, _              => none
  | limit + 1, done, p =>
    match p.rest with
    | []      => none
    | c :: cs =>
      if c == quote then
        if quote == '\'' && startsWith (· == '\'') cs then
          readInside? quote limit (c :: done) (p.skip 2)
        else some (String.ofList done.reverse, p.next)
      else if quote == '"' && c == '\\' then
        if startsWith isLineEnd cs then do
          let (n, more) ← quotedLineEnds? true (cs.drop 1)
          readInside? quote limit (more.reverse ++ done) (p.skip (n + 2))
        else do
          let (x, n) ← readEscape? cs
          readInside? quote limit (x :: done) (p.skip (n + 1))
      else if isGap c then do
        let (text, p) ← readGap? p
        readInside? quote limit (text.reverse ++ done) p
      else readInside? quote limit (c :: done) p.next

def readQuoted? (quote : Char) (p : Position) : Option (String × Position) :=
  readInside? quote p.rest.length [] p.next

end ViewAssembly.Yaml
