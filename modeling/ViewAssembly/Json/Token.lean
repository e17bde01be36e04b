import ViewAssembly.Number.Reading
import ViewAssembly.Text.Hexadecimal
import ViewAssembly.Text.Surrogate
import ViewAssembly.Value

/-!
# JSON tokens

The tokens of a JSON text: brackets, separators, and scalars with the value they denote. A number
without fraction and exponent is a whole number, any other number a floating point one.
The words `NaN`, `Infinity` and `-Infinity` are numbers too.
-/

namespace ViewAssembly.Json

/-- A token of a JSON text. -/
inductive Token where
  | openObj | closeObj | openArr | closeArr | colon | comma
  | scalar (v : Value)

/-- The blanks between tokens. -/
def isGap (c : Char) : Bool := c == ' ' || c == '\t' || c == '\n' || c == '\r'

/-! ### Texts -/

def escapeChar? : Char → Option Char
  | '"'  => some '"'
  | '\\' => some '\\'
  | '/'  => some '/'
  | 'b'  => some '\x08'
  | 'f'  => some '\x0c'
  | 'n'  => some '\n'
  | 'r'  => some '\r'
  | 't'  => some '\t'
  | _    => none

/-- The character that a code unit stands for when it stands alone. -/
def ofUnit (u : Nat) : Char := if Text.isHalf u then Text.ofHalf u else Char.ofNat u

/--
The characters that code units stand for. The two halves of a pair form one character beyond the
first 65536.
-/
def ofUnits : List Nat → List Char
  | []           => []
  | [u]          => [ofUnit u]
  | u :: v :: us =>
    if 0xd800 ≤ u && u < 0xdc00 && 0xdc00 ≤ v && v < 0xe000 then
      Char.ofNat (0x10000 + (u - 0xd800) * 0x400 + (v - 0xdc00)) :: ofUnits us
    else ofUnit u :: ofUnits (v :: us)

/-- Read the inside of a text up to its closing quote: its code units and what follows. -/
def readUnits : List Char → Option (List Nat × List Char)
  | '"' :: cs => some ([], cs)
  | '\\' :: 'u' :: a :: b :: c :: d :: cs => do
    let u ← Text.hexValue? [a, b, c, d]
    let (us, rest) ← readUnits cs
    return (u :: us, rest)
  | '\\' :: c :: cs => do
    let x ← escapeChar? c
    let (us, rest) ← readUnits cs
    return (x.toNat :: us, rest)
  | c :: cs =>
    if c.toNat < 0x20 then none
    else do
      let (us, rest) ← readUnits cs
      return (c.toNat :: us, rest)
  | [] => none

theorem length_of_readUnits {cs : List Char} {us : List Nat} {rest : List Char}
    (h : readUnits cs = some (us, rest)) : rest.length < cs.length := by
  fun_induction readUnits cs generalizing us <;>
    simp_all [Option.bind_eq_some_iff] <;> grind

/-! ### Numbers -/

def splitDigits (cs : List Char) : List Char × List Char := cs.span Char.isDigit

/-- The exponent at the end of a number; none counts as zero. -/
def exponent? : List Char → Option Int
  | []      => some 0
  | e :: cs =>
    if e == 'e' || e == 'E' then
      let (negative, digits) := match cs with
        | '-' :: ds => (true, ds)
        | '+' :: ds => (false, ds)
        | ds        => (false, ds)
      if digits.isEmpty || !digits.all Char.isDigit then none
      else
        some (Number.signed negative (digits.foldl (fun n d => 10 * n + (d.toNat - 48)) 0))
    else none

def number? (cs : List Char) : Option Value :=
  let (negative, cs) := match cs with
    | '-' :: cs => (true, cs)
    | cs        => (false, cs)
  let (whole, rest) := splitDigits cs
  let value (ds : List Char) : Nat := ds.foldl (fun n d => 10 * n + (d.toNat - 48)) 0
  if whole.isEmpty || (whole.head? == some '0' && whole.length != 1) then none
  else
    match rest with
    | []         =>
      if Number.maxDigits < whole.length then none
      else some (.int (Number.signed negative (value whole)))
    | '.' :: rest =>
      let (fraction, rest) := splitDigits rest
      if fraction.isEmpty then none
      else do
        let e ← exponent? rest
        return .float (.ofDecimal negative (value (whole ++ fraction)) (e - fraction.length))
    | rest       => do
      let e ← exponent? rest
      return .float (.ofDecimal negative (value whole) e)

def word? (cs : List Char) : Option Value :=
  match String.ofList cs with
  | "null"      => some .null
  | "true"      => some (.bool true)
  | "false"     => some (.bool false)
  | "NaN"       => some (.float .notANumber)
  | "Infinity"  => some (.float (.infinite false))
  | "-Infinity" => some (.float (.infinite true))
  | _           => none

def isScalarChar (c : Char) : Bool := c.isAlphanum || c == '-' || c == '+' || c == '.'

/-! ### The tokens of a text -/

/-- Cut a text into tokens. -/
def tokens? : List Char → Option (List Token)
  | []      => some []
  | c :: cs =>
    if isGap c then tokens? cs
    else
      match c with
      | '{' => (tokens? cs).map (.openObj :: ·)
      | '}' => (tokens? cs).map (.closeObj :: ·)
      | '[' => (tokens? cs).map (.openArr :: ·)
      | ']' => (tokens? cs).map (.closeArr :: ·)
      | ':' => (tokens? cs).map (.colon :: ·)
      | ',' => (tokens? cs).map (.comma :: ·)
      | '"' =>
        match h : readUnits cs with
        | some (us, rest) =>
          have := length_of_readUnits h
          (tokens? rest).map (.scalar (.str (String.ofList (ofUnits us))) :: ·)
        | none => none
      | _ =>
        let chars := c :: cs.takeWhile isScalarChar
        match (word? chars).or (number? chars) with
        | some v =>
          have := (List.dropWhile_sublist isScalarChar (l := cs)).length_le
          (tokens? (cs.dropWhile isScalarChar)).map (.scalar v :: ·)
        | none   => none
termination_by cs => cs.length
decreasing_by all_goals simp only [List.length_cons]; omega

end ViewAssembly.Json
