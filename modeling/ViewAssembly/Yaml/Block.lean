import ViewAssembly.Yaml.Position

/-!
# Scalars in blocks

A scalar of whole lines that are indented. Its header says whether its lines are kept or folded, how
far they are indented, and what becomes of the line ends behind the last one.
-/

namespace ViewAssembly.Yaml

/-- What becomes of the line ends behind a block. -/
inductive BlockEnding where
  /-- One is kept. -/
  | clip
  | strip
  | keep
deriving DecidableEq, Repr

/-- The header of a block. -/
structure BlockHeader where
  folds : Bool
  ending : BlockEnding := .clip
  /-- How much further than the collection around it the block is indented, if that is said. -/
  indentation : Option Nat := none
deriving DecidableEq, Repr

/-! ### Headers -/

/-- What a sign in a header says about the end. -/
def endingOf? : Char → Option BlockEnding
  | '+' => some .keep
  | '-' => some .strip
  | _   => none

/-- Read a header behind its mark: the position behind its line. -/
def readHeader? (folds : Bool) (p : Position) : Option (BlockHeader × Position) := do
  let sign? (p : Position) : Option BlockEnding := p.rest.head?.bind endingOf?
  let digit? (p : Position) : Option Nat := p.rest.head?.bind Number.asciiDigitValue?
  let early := sign? p
  let p := if early.isSome then p.next else p
  let indentation := digit? p
  let p := if indentation.isSome then p.next else p
  let late := if early.isSome || indentation.isNone then none else sign? p
  let p := if late.isSome then p.next else p
  if indentation == some 0 || !atBlank p.rest then none
  let p ← p.skipComment?
  return ({ folds, ending := (early.or late).getD .clip, indentation }, p)

/-! ### Lines -/

/--
The length of the gap at the front and the line ends in it, when lines are indented by `margin` and
`column` is the column here.
-/
def blockLineEnds (margin column : Nat) : List Char → Nat × List Char
  | []      => (0, [])
  | c :: cs =>
    if c == ' ' && column < margin then
      let (n, more) := blockLineEnds margin (column + 1) cs
      (n + 1, more)
    else if isLineEnd c then
      let (n, more) := blockLineEnds margin 0 cs
      (n + 1, lineEndText c :: more)
    else (0, [])

/--
The length of the gap at the front, the line ends in it, and the greatest column that its blanks
reach, when `column` is the column here.
-/
def leadingLines (column : Nat) : List Char → Nat × List Char × Nat
  | []      => (0, [], 0)
  | c :: cs =>
    if c == ' ' then
      let (n, more, widest) := leadingLines (column + 1) cs
      (n + 1, more, max (column + 1) widest)
    else if isLineEnd c then
      let (n, more, widest) := leadingLines 0 cs
      (n + 1, lineEndText c :: more, widest)
    else (0, [], 0)

/--
Read the lines of a block that are indented by `margin`, with the line ends before the first one
already read. `limit` bounds the number of lines.
-/
def readLines (h : BlockHeader) (margin : Nat) :
    Nat → List Char × Position → List Char × Position
  | 0, (_, p)             => ([], p)
  | limit + 1, (before, p) =>
    if p.column ≠ margin || p.rest.isEmpty then (if h.ending = .keep then before else [], p)
    else
      let content := p.rest.takeWhile (!isLineEnd ·)
      let q := p.skip content.length
      let lineEnd := (q.rest.take 1).map lineEndText
      let q := q.next
      let (n, more) := blockLineEnds margin q.column q.rest
      let r := q.skip n
      if r.column = margin && !r.rest.isEmpty then
        let joins := h.folds && lineEnd == ['\n'] && !startsWith isBlankOrTab p.rest
          && !startsWith isBlankOrTab r.rest
        let between := if !joins then lineEnd else if more.isEmpty then [' '] else []
        let (text, r) := readLines h margin limit (more, r)
        (before ++ content ++ between ++ text, r)
      else
        let tail := match h.ending with
          | .strip => []
          | .clip  => lineEnd
          | .keep  => lineEnd ++ more
        (before ++ content ++ tail, r)

/--
Read a block scalar whose mark is next; what stands around it needs lines to be indented by `margin`
at least. Without an indentation in the header the lines show it.
-/
def readBlock? (folds : Bool) (margin : Nat) (p : Position) : Option (String × Position) := do
  let (h, p) ← readHeader? folds p.next
  let least := max 1 margin
  let (margin, n, before) := match h.indentation with
    | some further =>
      let margin := least + further - 1
      (margin, blockLineEnds margin p.column p.rest)
    | none =>
      let (n, before, widest) := leadingLines p.column p.rest
      (max least widest, n, before)
  let (text, p) := readLines h margin (p.rest.length + 1) (before, p.skip n)
  return (String.ofList text, p)

end ViewAssembly.Yaml
