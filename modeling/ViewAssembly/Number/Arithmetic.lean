import ViewAssembly.Number.Binary64

/-!
# Sums and multiples of floating point numbers

The exact sum of two numbers, and the exact multiple of one, rounded to the nearest number.
-/

namespace ViewAssembly.Binary64

/-- The nearest number to `n * 2 ^ exponent`. -/
def ofScaled (n : Int) (exponent : Int) : Binary64 :=
  if exponent < 0 then ofFraction (n < 0) n.natAbs (Nat.pow 2 (-exponent).toNat)
  else ofFraction (n < 0) (n.natAbs * Nat.pow 2 exponent.toNat) 1

/-- The whole number that a finite number is a power of two times. -/
private def signedMantissa (negative : Bool) (mantissa : Nat) : Int :=
  if negative then -(mantissa : Int) else mantissa

def add : Binary64 → Binary64 → Binary64
  | finite s m e, finite t n f =>
    let low := min e f
    let aligned (s : Bool) (m : Nat) (e : Int) := signedMantissa s (m * Nat.pow 2 (e - low).toNat)
    if m = 0 && n = 0 then zero (s && t) else ofScaled (aligned s m e + aligned t n f) low
  | notANumber, _            => notANumber
  | _, notANumber            => notANumber
  | infinite s, infinite t   => if s = t then infinite s else notANumber
  | infinite s, _            => infinite s
  | _, infinite t            => infinite t

def multiple (n : Nat) : Binary64 → Binary64
  | finite s m e => if m * n = 0 then zero s else ofScaled (signedMantissa s (m * n)) e
  | x            => if n = 0 then notANumber else x

def negated : Binary64 → Binary64
  | finite s m e => finite (!s) m e
  | infinite s   => infinite (!s)
  | notANumber   => notANumber

end ViewAssembly.Binary64
