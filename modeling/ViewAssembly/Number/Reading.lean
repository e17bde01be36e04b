import ViewAssembly.Text.Blank
import ViewAssembly.Text.Digit

/-!
# Reading whole numbers

Two grammars for whole numbers in text. `readInt` is the one for settings: decimal digits of any
script, single underscores between them, a sign, and blanks around. `readLenientInt?` is the one
for fields of a document and for request parameters: ASCII digits, zeros and underscores in any
order before them, and a fraction that is zero may follow.

No number is read from more than `maxDigits` digits.
-/

namespace ViewAssembly.Number

open Text

/-- The values of digits, of which a single underscore may separate any two. -/
def digitValues? (value? : Char → Option Nat) : List Char → Option (List Nat)
  | []             => none
  | [c]            => (value? c).map ([·])
  | c :: '_' :: cs => do return (← value? c) :: (← digitValues? value? cs)
  | c :: cs        => do return (← value? c) :: (← digitValues? value? cs)

def ofDigits (digits : List Nat) : Nat := digits.foldl (fun n d => 10 * n + d) 0

/-- The greatest number of digits that a whole number in decimal notation is read from. -/
def maxDigits : Nat := 4300

/-- Take a sign off the front: is it a minus? -/
def splitSign : List Char → Bool × List Char
  | '-' :: cs => (true, cs)
  | '+' :: cs => (false, cs)
  | cs        => (false, cs)

def signed (negative : Bool) (n : Nat) : Int := if negative then -n else n

/--
The blanks that may surround a number: the information separators are not among them.
-/
def isOuterBlank (c : Char) : Bool := isBlank c && !(0x1c ≤ c.toNat && c.toNat ≤ 0x1f)

/-! ### Numbers in settings -/

/-- Why a text is not read as a whole number. -/
inductive ReadingError where
  | notANumber
  | tooManyDigits
deriving DecidableEq, Repr

/--
Read a whole number in decimal digits of any script. That there are too many digits is found before
what follows them.
-/
def readInt (s : String) : Except ReadingError Int :=
  let (negative, cs) := splitSign (s.toList.dropWhile isOuterBlank)
  let (numeral, rest) := cs.span fun c => isDigit c || c == '_'
  match digitValues? digitValue? numeral with
  | none        => .error .notANumber
  | some digits =>
    if maxDigits < digits.length then .error .tooManyDigits
    else if rest.all isOuterBlank then .ok (signed negative (ofDigits digits))
    else .error .notANumber

/-! ### Numbers in documents -/

def asciiDigitValue? (c : Char) : Option Nat :=
  if c.isDigit then some (c.toNat - '0'.toNat) else none

/-- Drop zeros at the start, and underscores among them. One character stays if no digit follows. -/
def withoutLeadingZeros (cs : List Char) : List Char :=
  let leading := cs.takeWhile fun c => c == '0' || c == '_'
  let rest := cs.drop leading.length
  if cs.head? != some '0' then cs
  else if rest.head?.any Char.isDigit then rest
  else leading.getLast?.toList ++ rest

/-- Is this a point with zeros behind it, or nothing? -/
def isZeroFraction : List Char → Bool
  | []      => true
  | c :: cs => c == '.' && !cs.isEmpty && cs.all (· == '0')

/-- Read a whole number in ASCII digits, with or without a fraction that is zero. -/
def readLenientInt? (s : String) : Option Int := do
  let cs := dropEndWhile isOuterBlank (s.toList.dropWhile isOuterBlank)
  let (negative, cs) := splitSign cs
  let (whole, fraction) := (withoutLeadingZeros cs).span (· != '.')
  let digits ← digitValues? asciiDigitValue? whole
  if isZeroFraction fraction && digits.length ≤ maxDigits then
    return signed negative (ofDigits digits)
  else none

end ViewAssembly.Number
