/-!
# Binary floating point numbers

Double precision numbers, held exactly: a finite one is a whole number of at most 53 bits times a
power of two. They are read from decimal notation by rounding to the nearest one (of two equally
near ones to the even), compared with whole numbers by value, and written with the fewest decimal
digits that read back as the same number.
-/

namespace ViewAssembly

/--
A double precision number. A finite one is `± mantissa * 2 ^ exponent` with a mantissa below `2 ^
53`; the exponent is the least possible one that is not below `-1074`, so each number has one
form.
-/
inductive Binary64 where
  | finite (negative : Bool) (mantissa : Nat) (exponent : Int)
  | infinite (negative : Bool)
  | notANumber
deriving DecidableEq, Repr

namespace Binary64

def zero (negative : Bool) : Binary64 := .finite negative 0 (-1074)

def nonzero : Binary64 → Bool
  | finite _ m _ => m != 0
  | _            => true

/-- A fraction scaled by a power of two. -/
def scaled (num den : Nat) (exponent : Int) : Nat × Nat :=
  if exponent < 0 then (num * Nat.pow 2 (-exponent).toNat, den)
  else (num, den * Nat.pow 2 exponent.toNat)

/--
The nearest number to a fraction with a positive denominator; a tie goes to the even mantissa.
-/
def ofFraction (negative : Bool) (num den : Nat) : Binary64 :=
  if num = 0 then zero negative
  else
    let low : Int := (num.log2 : Int) - den.log2 - 53
    let (n₀, d₀) := scaled num den low
    let exponent := max (-1074) (if n₀ / d₀ < Nat.pow 2 53 then low else low + 1)
    let (n, d) := scaled num den exponent
    let down := n / d
    let twice := 2 * (n % d)
    let mantissa := if twice > d || (twice = d && down % 2 = 1) then down + 1 else down
    let (mantissa, exponent) :=
      if mantissa = Nat.pow 2 53 then (Nat.pow 2 52, exponent + 1) else (mantissa, exponent)
    if exponent > 971 then .infinite negative
    else if mantissa = 0 then zero negative
    else .finite negative mantissa exponent

/-- The nearest number to `± digits * 10 ^ exponent`. -/
def ofDecimal (negative : Bool) (digits : Nat) (exponent : Int) : Binary64 :=
  let magnitude := ((Nat.toDigits 10 digits).length : Int) + exponent
  if digits = 0 || magnitude < -330 then zero negative
  else if magnitude > 400 then .infinite negative
  else if exponent < 0 then ofFraction negative digits (Nat.pow 10 (-exponent).toNat)
  else ofFraction negative (digits * Nat.pow 10 exponent.toNat) 1

def toInt? : Binary64 → Option Int
  | finite negative m e =>
    let sign : Int := if negative then -1 else 1
    if 0 ≤ e then some (sign * (m * Nat.pow 2 e.toNat : Nat))
    else if m % Nat.pow 2 (-e).toNat = 0 then some (sign * (m / Nat.pow 2 (-e).toNat : Nat))
    else none
  | _ => none

/-- Equality of values: the two zeros are equal, and what is not a number equals nothing. -/
def equal : Binary64 → Binary64 → Bool
  | finite s m e, finite s' m' e' => if m = 0 then m' = 0 else s = s' && m = m' && e = e'
  | infinite s, infinite s'       => s = s'
  | _, _                          => false

/-! ### Decimal notation -/

/-- The exponent of ten of a positive fraction's first decimal digit. -/
private def leadingExponent (num den : Nat) : Int :=
  let guess : Int := ((Nat.toDigits 10 num).length : Int) - (Nat.toDigits 10 den).length
  let reached :=
    if guess < 0 then den ≤ num * Nat.pow 10 (-guess).toNat
    else den * Nat.pow 10 guess.toNat ≤ num
  if reached then guess else guess - 1

/--
The decimal of a given number of digits that reads back as `± mantissa * 2 ^ exponent`, if there is
one: of the two neighbours on that decimal grid the nearer one that does.
-/
private def decimalOfLength? (mantissa : Nat) (exponent : Int) (length : Nat) :
    Option (Nat × Int) :=
  let (num, den) := scaled mantissa 1 (-exponent)
  let unit := leadingExponent num den - (length - 1 : Nat)
  let (n, d) :=
    if unit < 0 then (num * Nat.pow 10 (-unit).toNat, den)
    else (num, den * Nat.pow 10 unit.toNat)
  let down := n / d
  let twice := 2 * (n % d)
  let near :=
    if twice > d || (twice = d && down % 2 = 1) then [down + 1, down] else [down, down + 1]
  (near.find? fun g => ofDecimal false g unit == .finite false mantissa exponent).map (·, unit)

/-- The shortest decimal that reads back as a positive number: its digits and its power of ten. -/
def shortestDecimal (mantissa : Nat) (exponent : Int) : Nat × Int :=
  ((List.range 17).findSome? fun n => decimalOfLength? mantissa exponent (n + 1)).getD (0, 0)

/-- Digits with a point: `position` digits stand before it. -/
private def positional (digits : List Char) (position : Int) : List Char :=
  if position ≤ 0 then '0' :: '.' :: List.replicate (-position).toNat '0' ++ digits
  else
    let n := position.toNat
    if digits.length ≤ n then digits ++ List.replicate (n - digits.length) '0' ++ ['.', '0']
    else digits.take n ++ '.' :: digits.drop n

/-- Digits with an exponent of two digits at least. -/
private def exponential (digits : List Char) (exponent : Int) : List Char :=
  let mark := if exponent < 0 then ['e', '-'] else ['e', '+']
  let power := Nat.toDigits 10 exponent.natAbs
  let power := if power.length < 2 then '0' :: power else power
  match digits with
  | []      => []
  | [d]     => d :: mark ++ power
  | d :: ds => d :: '.' :: ds ++ mark ++ power

private def significantDigits (digits : Nat) : List Char :=
  ((Nat.toDigits 10 digits).reverse.dropWhile (· == '0')).reverse

/--
The number in decimal notation, with the fewest digits that read back. It is positional from `10 ^
-4` up to `10 ^ 16` and then always shows a point; otherwise it has an exponent.
-/
def text : Binary64 → String
  | notANumber         => "nan"
  | infinite negative  => if negative then "-inf" else "inf"
  | finite negative m e =>
    let sign := if negative then ['-'] else []
    let body :=
      if m = 0 then ['0', '.', '0']
      else
        let (digits, unit) := shortestDecimal m e
        let first := ((Nat.toDigits 10 digits).length : Int) - 1 + unit
        let shown := significantDigits digits
        if -4 ≤ first ∧ first < 16 then positional shown (first + 1) else exponential shown first
    String.ofList (sign ++ body)

end Binary64

end ViewAssembly
