import ViewAssembly.Text.LetterCase.Table

/-!
# Letter case

Small, capital and title forms of text, with the full case mappings: one character may become
several. The only mapping that looks at its surroundings is that of capital sigma, which becomes
a final sigma at the end of a word.

ASCII letters never reach a table (`lowerChar_ascii`, `upperChar_ascii`).
-/

namespace ViewAssembly.Text

def isCased (c : Char) : Bool := casedRanges.contain c.toNat

/-- Is this character passed over when the cased neighbours of a sigma are looked for? -/
def isCaseIgnorable (c : Char) : Bool := caseIgnorableRanges.contain c.toNat

/-- The small form of a character, whatever stands around it. -/
def lowerChar (c : Char) : List Char :=
  if c.toNat < 128 then [c.toLower]
  else if c == 'İ' then ['i', '\u0307']
  else [(lowerRuns.image? c.toNat).getD c]

def upperChar (c : Char) : List Char :=
  if c.toNat < 128 then [c.toUpper]
  else (upperExpansions.image? c.toNat).getD [(upperRuns.image? c.toNat).getD c]

/-- The form of a character that starts a word in title case. -/
def titleChar (c : Char) : List Char :=
  if c.toNat < 128 then [c.toUpper]
  else
    match titleExpansions.image? c.toNat, titleRuns.image? c.toNat with
    | some cs, _      => cs
    | none, some c    => [c]
    | none, none      => upperChar c

/-- Is the first character that is not passed over a cased one? -/
def meetsCased (cs : List Char) : Bool :=
  match cs.dropWhile isCaseIgnorable with
  | []     => false
  | c :: _ => isCased c

/--
The small form of a character in its place: `before` holds what precedes it, nearest first, and
`after` what follows. A capital sigma is final when a letter precedes it and none follows.
-/
def lowerAt (before : List Char) (c : Char) (after : List Char) : List Char :=
  if c == 'Σ' then
    if meetsCased before && !meetsCased after then ['ς'] else ['σ']
  else lowerChar c

/-- The small form of the characters that follow `before`. -/
def lowerFrom (before : List Char) : List Char → List Char
  | []      => []
  | c :: cs => lowerAt before c cs ++ lowerFrom (c :: before) cs

/-- The title form of the characters that follow `before`: a letter after a letter is small. -/
def titleFrom (before : List Char) : List Char → List Char
  | []      => []
  | c :: cs =>
    (if (before.head?.map isCased).getD false then lowerAt before c cs else titleChar c)
      ++ titleFrom (c :: before) cs

def lower (s : String) : String := String.ofList (lowerFrom [] s.toList)

def upper (s : String) : String := String.ofList (s.toList.flatMap upperChar)

/-- The text with a capital at the start of each word and small letters after it. -/
def title (s : String) : String := String.ofList (titleFrom [] s.toList)

/-- The text with its first character in capitals and the rest as it is. -/
def capitalised (s : String) : String :=
  match s.toList with
  | []      => ""
  | c :: cs => String.ofList (upperChar c ++ cs)

/-- Do two texts differ in letter case only? -/
def sameLetters (s t : String) : Bool := lower s == lower t

theorem lowerChar_ascii {c : Char} (h : c.toNat < 128) : lowerChar c = [c.toLower] := by
  simp [lowerChar, h]

theorem upperChar_ascii {c : Char} (h : c.toNat < 128) : upperChar c = [c.toUpper] := by
  simp [upperChar, h]

end ViewAssembly.Text
