import ViewAssembly.Yaml.Position

/-!
# Scalars without quotes

An unquoted scalar consists of pieces with blanks and line ends between them. It ends before a
comment, before a colon that ends a name, before a tab, and before a line that is not indented far
enough; inside brackets also before the marks that structure them.
-/

namespace ViewAssembly.Yaml

def flowMarks : List Char := ",?[]\x7b\x7d".toList

def startsPlain (inFlow : Bool) : List Char → Bool
  | []      => false
  | c :: cs =>
    if c == '-' || (!inFlow && (c == '?' || c == ':')) then !atGap cs
    else !isGap c && !("?:,[]\x7b\x7d#&*!|>'\"%@\x60".toList.contains c)

def pieceLength (inFlow : Bool) : List Char → Nat
  | []      => 0
  | c :: cs =>
    let endsName :=
      c == ':' && (atGap cs || (inFlow && startsWith (",[]\x7b\x7d".toList.contains ·) cs))
    if isGap c || endsName || (inFlow && flowMarks.contains c) then 0
    else 1 + pieceLength inFlow cs

/--
The length of the blanks and line ends at the front, the line ends among them, and whether they
lead to the mark of a document.
-/
def lineEnds : List Char → Nat × List Char × Bool
  | []      => (0, [], false)
  | c :: cs =>
    if c == ' ' then
      let (n, more, marked) := lineEnds cs
      (n + 1, more, marked)
    else if isLineEnd c then
      if atDocumentMark cs then (1, [], true)
      else
        let (n, more, marked) := lineEnds cs
        (n + 1, lineEndText c :: more, marked)
    else (0, [], false)

/--
What separates a piece from the next one, the position behind it, and whether it passes a line end.
Before the mark of a document nothing separates.
-/
def separation (p : Position) : List Char × Position × Bool :=
  let blanks := p.rest.takeWhile (· == ' ')
  let q := p.skip blanks.length
  match q.rest with
  | []      => (blanks, q, false)
  | c :: cs =>
    if !isLineEnd c then (blanks, q, false)
    else if atDocumentMark cs then ([], q.next, true)
    else
      let (n, more, marked) := lineEnds cs
      (if marked then [] else folded c more, q.next.skip n, true)

/--
Read pieces, of which the first follows the given separation: their text, the position behind them,
and whether a line end was passed after the last one. `limit` bounds the number of pieces.
-/
def readPieces (inFlow : Bool) (margin : Nat) :
    Nat → List Char × Position × Bool → List Char × Position × Bool
  | 0, (_, p, passed)             => ([], p, passed)
  | limit + 1, (before, p, passed) =>
    let n := if startsWith (· == '#') p.rest then 0 else pieceLength inFlow p.rest
    if n = 0 then ([], p, passed)
    else
      let piece := before ++ p.rest.take n
      let (between, q, passed) := separation (p.skip n)
      if between.isEmpty || startsWith (· == '#') q.rest || (!inFlow && q.column < margin) then
        (piece, q, passed)
      else
        let (more, q, passed) := readPieces inFlow margin limit (between, q, passed)
        (piece ++ more, q, passed)

/--
Read an unquoted scalar whose lines are indented by `margin` at least: its text, the position behind
it, and whether a line end was passed after it.
-/
def readPlain (inFlow : Bool) (margin : Nat) (p : Position) : String × Position × Bool :=
  let (text, q, passed) := readPieces inFlow margin p.rest.length ([], p, false)
  (String.ofList text, q, passed)

end ViewAssembly.Yaml
