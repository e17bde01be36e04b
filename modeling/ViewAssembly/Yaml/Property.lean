import ViewAssembly.Text.Hexadecimal
import ViewAssembly.Text.Utf8
import ViewAssembly.Yaml.Position

/-!
# Anchors, tags and directives

What may stand before the content of a node, and the lines that may stand before a document.
-/

namespace ViewAssembly.Yaml

/-- A tag as it is written: with the handle of its namespace, or in full. -/
structure TagName where
  handle : Option String
  suffix : String
deriving DecidableEq, Repr

/-- What a line before a document says. -/
inductive Directive where
  /-- The version of the format, by its main number. -/
  | version (main : Nat)
  /-- What a handle of tags stands for. -/
  | handle (name expansion : String)
  | unknown
deriving DecidableEq, Repr

def isNameChar (c : Char) : Bool := c.isAlphanum || c == '-' || c == '_'

def nameAt (p : Position) : String := String.ofList (p.rest.takeWhile isNameChar)

/-! ### Anchors -/

def readAnchor? (p : Position) : Option (String × Position) :=
  let q := p.skipWhile isNameChar
  let ends := atGap q.rest || startsWith ("?:,]\x7d%@\x60".toList.contains ·) q.rest
  if q.index = p.index || !ends then none else some (nameAt p, q)

/-! ### Tags -/

def isTagChar (c : Char) : Bool :=
  c.isAlphanum || "-;/?:@&=+$,_.!~*'()[]".toList.contains c

/--
The bytes of the tag text at the front, and its length. A percent sign with two digits stands for a
byte.
-/
def tagBytes? : List Char → Option (List Nat × Nat)
  | '%' :: a :: b :: cs => do
    let byte ← Text.hexValue? [a, b]
    let (more, n) ← tagBytes? cs
    return (byte :: more, n + 3)
  | '%' :: _ => none
  | c :: cs  =>
    if isTagChar c then (tagBytes? cs).map fun (more, n) => (c.toNat :: more, n + 1)
    else some ([], 0)
  | []       => some ([], 0)

def readTagText? (p : Position) : Option (String × Position) := do
  let (bytes, n) ← tagBytes? p.rest
  if n = 0 then none
  let text ← Text.decodeUtf8? bytes
  return (text, p.skip n)

def readHandle? (p : Position) : Option (String × Position) :=
  let name := p.next.rest.takeWhile isNameChar
  let q := p.next.skip name.length
  if !startsWith (· == '!') p.rest then none
  else if startsWith (· == ' ') p.next.rest then some ("!", p.next)
  else if startsWith (· == '!') q.rest then some (String.ofList ('!' :: name ++ ['!']), q.next)
  else none

def readTag? (p : Position) : Option (TagName × Position) := do
  let cs := p.next.rest
  let (tag, q) ←
    if startsWith (· == '<') cs then do
      let (suffix, q) ← readTagText? (p.skip 2)
      if startsWith (· == '>') q.rest then pure (TagName.mk none suffix, q.next) else none
    else if atGap cs then pure (TagName.mk none "!", p.next)
    else if (cs.takeWhile fun c => !(c == ' ' || isLineEnd c)).contains '!' then do
      let (handle, q) ← readHandle? p
      let (suffix, q) ← readTagText? q
      pure (TagName.mk (some handle) suffix, q)
    else do
      let (suffix, q) ← readTagText? p.next
      pure (TagName.mk (some "!") suffix, q)
  if atBlank q.rest then some (tag, q) else none

/-! ### Directives -/

/-- Read the main number of a version such as `1.2`. -/
def readVersion? (p : Position) : Option (Nat × Position) :=
  let q := p.skipWhile Char.isDigit
  let r := q.next.skipWhile Char.isDigit
  let digits := (p.rest.takeWhile Char.isDigit).filterMap Number.asciiDigitValue?
  if q.index = p.index || !startsWith (· == '.') q.rest || r.index = q.index + 1 || !atBlank r.rest
  then none
  else some (Number.ofDigits digits, r)

/-- Read a directive whose percent sign is next, up to the end of its line. -/
def readDirective? (p : Position) : Option (Directive × Position) := do
  let name := nameAt p.next
  let q := p.next.skipWhile isNameChar
  if name.isEmpty || !atBlank q.rest then none
  let (directive, q) ←
    match name with
    | "YAML" => do
      let (main, q) ← readVersion? (q.skipWhile (· == ' '))
      pure (Directive.version main, q)
    | "TAG"  => do
      let (handle, q) ← readHandle? (q.skipWhile (· == ' '))
      if !startsWith (· == ' ') q.rest then none
      let (expansion, q) ← readTagText? (q.skipWhile (· == ' '))
      if !atBlank q.rest then none
      pure (Directive.handle handle expansion, q)
    | _      => pure (Directive.unknown, q.skipWhile (!isLineEnd ·))
  return (directive, ← q.skipComment?)

end ViewAssembly.Yaml
