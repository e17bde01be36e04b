/-!
# Blanks

The characters that count as white space, and the trimming of text. Trimming takes blanks from both
ends and nothing else: what is left neither starts nor ends with a blank.
-/

namespace ViewAssembly.Text

/-- The blanks of Unicode 14, the four information separators of ASCII among them. -/
def blankRanges : List (Nat × Nat) :=
  [(0x9, 0xd), (0x1c, 0x20), (0x85, 0x85), (0xa0, 0xa0), (0x1680, 0x1680), (0x2000, 0x200a),
    (0x2028, 0x2029), (0x202f, 0x202f), (0x205f, 0x205f), (0x3000, 0x3000)]

/-- Is this character white space? -/
def isBlank (c : Char) : Bool := blankRanges.any fun r => r.1 ≤ c.toNat && c.toNat ≤ r.2

def dropEndWhile (p : Char → Bool) (cs : List Char) : List Char :=
  (cs.reverse.dropWhile p).reverse

def trimChars (cs : List Char) : List Char := dropEndWhile isBlank (cs.dropWhile isBlank)

def trim (s : String) : String := String.ofList (trimChars s.toList)

/-- Drop every leading and trailing occurrence of one character. -/
def trimOf (mark : Char) (s : String) : String :=
  String.ofList (dropEndWhile (· == mark) (s.toList.dropWhile (· == mark)))

end ViewAssembly.Text
