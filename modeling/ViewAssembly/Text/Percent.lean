import ViewAssembly.Text.Hexadecimal
import ViewAssembly.Text.Utf8

/-!
# Percent encoding

In addresses a percent sign with two hexadecimal digits stands for a byte of UTF-8.
-/

namespace ViewAssembly.Text

/--
The bytes that an encoded text stands for. A percent sign without two digits stands for itself.
-/
def percentBytes : List Char → List Nat
  | '%' :: a :: b :: cs =>
    match hexDigitValue? a, hexDigitValue? b with
    | some high, some low => (16 * high + low) :: percentBytes cs
    | _, _                => '%'.toNat :: percentBytes (a :: b :: cs)
  | c :: cs => utf8Bytes c.toString ++ percentBytes cs
  | []      => []
termination_by cs => cs.length

/-- The text that an encoded text stands for. Bytes that encode nothing are replaced. -/
def percentDecoded (s : String) : String := decodeUtf8 (percentBytes s.toList)

/-- A byte as it is written in an encoded text: letters and digits stand for themselves. -/
def percentByte (b : Nat) : String :=
  let c := Char.ofNat b
  if c.isAlphanum then c.toString else "%" ++ hexPadded 2 b

/-- A text with everything encoded but letters and digits. -/
def percentEncoded (s : String) : String := String.join ((utf8Bytes s).map percentByte)

end ViewAssembly.Text
