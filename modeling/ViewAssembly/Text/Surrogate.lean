/-!
# Halves of surrogate pairs

A code unit that is half of a surrogate pair denotes no character when it stands alone. Formats that
escape code units can write one nevertheless. A text keeps it as the private character of plane 15
whose code ends in the same digits, so that it can be told apart from every character of other planes
and written out again. The private characters from U+FD800 to U+FDFFF themselves are taken for such
halves: texts that hold one of them are outside of what is described here.
-/

namespace ViewAssembly.Text

def isHalf (unit : Nat) : Bool := 0xd800 ≤ unit && unit < 0xe000

/-- The character that stands for half of a pair. -/
def ofHalf (unit : Nat) : Char := Char.ofNat (0xf0000 + unit)

/-- The half of a pair that a character stands for. -/
def half? (c : Char) : Option Nat :=
  if 0xf0000 ≤ c.toNat && isHalf (c.toNat - 0xf0000) then some (c.toNat - 0xf0000) else none

/-- Does a text hold half of a pair, so that there are no bytes for it? -/
def hasHalf (s : String) : Bool := s.toList.any fun c => (half? c).isSome

end ViewAssembly.Text
