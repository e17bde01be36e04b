/-!
# UTF-8

Reading the text that bytes encode. Bytes that encode nothing are read as replacement characters:
one for each start of a sequence that does not go on as it has to, and one for each byte that starts
none.
-/

namespace ViewAssembly.Text

def utf8Bytes (s : String) : List Nat := s.toUTF8.toList.map UInt8.toNat

/--
How a sequence goes on that starts with a byte: the bounds of the byte after it, the number of bytes
after that one, and the bits that the first byte gives.
-/
def sequenceStart? (b : Nat) : Option ((Nat × Nat) × Nat × Nat) :=
  if 0xc2 ≤ b && b ≤ 0xdf then some ((0x80, 0xbf), 0, b - 0xc0)
  else if b = 0xe0 then some ((0xa0, 0xbf), 1, 0)
  else if b = 0xed then some ((0x80, 0x9f), 1, 0xd)
  else if 0xe1 ≤ b && b ≤ 0xef then some ((0x80, 0xbf), 1, b - 0xe0)
  else if b = 0xf0 then some ((0x90, 0xbf), 2, 0)
  else if 0xf1 ≤ b && b ≤ 0xf3 then some ((0x80, 0xbf), 2, b - 0xf0)
  else if b = 0xf4 then some ((0x80, 0x8f), 2, 4)
  else none

/-- What a reader of bytes is in the middle of: what must follow and the bits it has. -/
structure Sequence where
  bounds : Nat × Nat
  more : Nat
  bits : Nat

/-- The character that stands for what encodes nothing. -/
def replacement : Char := '\ufffd'

/-- What the first byte of a sequence, or a character of its own, reads as. -/
def startByte (b : Nat) : List Char × Option Sequence :=
  if b < 0x80 then ([Char.ofNat b], none)
  else
    match sequenceStart? b with
    | some (bounds, more, bits) => ([], some ⟨bounds, more, bits⟩)
    | none                      => ([replacement], none)

/-- What the next byte reads as, and what is unfinished behind it. -/
def readByte (open? : Option Sequence) (b : Nat) : List Char × Option Sequence :=
  match open? with
  | none   => startByte b
  | some s =>
    if s.bounds.1 ≤ b && b ≤ s.bounds.2 then
      let bits := 64 * s.bits + (b - 0x80)
      match s.more with
      | 0        => ([Char.ofNat bits], none)
      | more + 1 => ([], some ⟨(0x80, 0xbf), more, bits⟩)
    else
      let (cs, open?) := startByte b
      (replacement :: cs, open?)

/-- The characters that bytes encode, behind an unfinished sequence. -/
def decodeFrom (open? : Option Sequence) : List Nat → List Char
  | []      => if open?.isSome then [replacement] else []
  | b :: bs =>
    let (cs, open?) := readByte open? b
    cs ++ decodeFrom open? bs

/-- The text that bytes encode, whatever they are. -/
def decodeUtf8 (bytes : List Nat) : String := String.ofList (decodeFrom none bytes)

/-- The text that bytes encode, if each of them belongs to a character. -/
def decodeUtf8? (bytes : List Nat) : Option String :=
  let s := decodeUtf8 bytes
  if utf8Bytes s == bytes then some s else none

end ViewAssembly.Text
