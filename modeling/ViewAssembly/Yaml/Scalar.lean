import ViewAssembly.Number.Arithmetic
import ViewAssembly.Text.Hexadecimal
import ViewAssembly.Text.LetterCase
import ViewAssembly.Value
import ViewAssembly.Yaml.Moment
import ViewAssembly.Yaml.Position

/-!
# The kinds of YAML scalars

What a scalar denotes. An unquoted scalar is null, a truth value, a number or a moment when it is
written like one, and otherwise a text. A tag can ask for a kind whatever the scalar is written
like; then it has no value if the kind has none that is written so.
-/

namespace ViewAssembly.Yaml

/-- The kinds of scalars. -/
inductive ScalarKind where
  | null
  | bool
  | int
  | float
  | moment
  | text
  /-- The name that merges other maps into a map. -/
  | merge
  /-- The name of what a map stands for. It denotes something as a name only. -/
  | value
deriving DecidableEq, Repr

/-! ### Words -/

def nullWords : List String := ["", "~", "null", "Null", "NULL"]

def boolWords : List (String × Bool) :=
  [("yes", true), ("true", true), ("on", true), ("no", false), ("false", false), ("off", false)]

/-- Is this word written in small letters, in capitals, or with a capital at its start? -/
def isCasing (word s : String) : Bool :=
  s == word || s == Text.upper word || s == Text.capitalised word

def isInfinity (cs : List Char) : Bool :=
  [".inf", ".Inf", ".INF"].contains (String.ofList cs)

/-! ### Numbers -/

/-- A number without its sign: is it negative, and is there a sign? -/
def splitSign (cs : List Char) : Bool × Bool × List Char :=
  match cs with
  | '-' :: cs => (true, true, cs)
  | '+' :: cs => (false, true, cs)
  | cs        => (false, false, cs)

/-- Is this a run of characters of a class and underscores? -/
def isRun (p : Char → Bool) (cs : List Char) : Bool :=
  !cs.isEmpty && cs.all fun c => p c || c == '_'

/-- Is this a run of digits and underscores that starts with a digit? -/
def isDigits (cs : List Char) : Bool := startsWith Char.isDigit cs && isRun Char.isDigit cs

/-- A part of a number that is counted in sixties: one or two digits below sixty. -/
def isSixtieth (cs : List Char) : Bool :=
  match cs with
  | [d]    => d.isDigit
  | [t, d] => '0' ≤ t && t ≤ '5' && d.isDigit
  | _      => false

/-- Is this written like a whole number without sign? -/
def isWhole (cs : List Char) : Bool :=
  let isHex (c : Char) := (Text.hexDigitValue? c).isSome
  match cs with
  | '0' :: 'b' :: b => isRun (fun c => c == '0' || c == '1') b
  | '0' :: 'x' :: h => isRun isHex h
  | '0' :: o        => o.isEmpty || isRun (fun c => '0' ≤ c && c ≤ '7') o
  | cs              =>
    match Text.cutAt (· == ':') cs with
    | []            => false
    | first :: more => isDigits first && more.all isSixtieth

/-- Is this an exponent with a sign, or nothing? -/
def isSignedExponent : List Char → Bool
  | []              => true
  | e :: sign :: ds =>
    (e == 'e' || e == 'E') && (sign == '+' || sign == '-') && !ds.isEmpty && ds.all Char.isDigit
  | _               => false

/-- Is this written like a number with a point, without sign? -/
def isReal (signed : Bool) (cs : List Char) : Bool :=
  match cs.span (· != '.') with
  | (_, [])             => false
  | (whole, _ :: after) =>
    let (fraction, tail) := after.span fun c => c.isDigit || c == '_'
    match Text.cutAt (· == ':') whole with
    | [[]]     => !signed && startsWith Char.isDigit fraction && isSignedExponent tail
    | [digits] => isDigits digits && isSignedExponent tail
    | first :: more => isDigits first && more.all isSixtieth && tail.isEmpty
    | []       => false

/-! ### Kinds -/

/-- The kind that an unquoted scalar is written like. -/
def kindOf (s : String) : ScalarKind :=
  let (_, signed, cs) := splitSign s.toList
  if nullWords.contains s then .null
  else if boolWords.any fun word => isCasing word.1 s then .bool
  else if isReal signed cs || isInfinity cs || [".nan", ".NaN", ".NAN"].contains s then .float
  else if isWhole cs then .int
  else if s == "<<" then .merge
  else if s == "=" then .value
  else if (momentText? s.toList).isSome then .moment
  else .text

/-! ### Values -/

/-- The number that digits of a base denote, of which there is one at least. -/
def natural? (base : Nat) (cs : List Char) : Option Nat :=
  if cs.isEmpty then none
  else do
    let digits ← cs.mapM Text.hexDigitValue?
    if digits.any (base ≤ ·) || (base = 10 && Number.maxDigits < digits.length) then none
    return digits.foldl (fun n d => base * n + d) 0

/-- The whole number that characters without sign and underscores denote. -/
def whole? (cs : List Char) : Option Nat :=
  match cs with
  | ['0']           => some 0
  | '0' :: 'b' :: b => natural? 2 b
  | '0' :: 'x' :: h => natural? 16 h
  | '0' :: o        => natural? 8 o
  | cs              => do
    let parts ← (Text.cutAt (· == ':') cs).mapM (natural? 10)
    return parts.foldl (fun n part => 60 * n + part) 0

def exponent? (cs : List Char) : Option Int := do
  let (negative, _, ds) := splitSign cs
  return Number.signed negative (← natural? 10 ds)

/-- The number that characters with or without a point and an exponent denote. -/
def decimal? (cs : List Char) : Option Binary64 := do
  let (digits, tail) := cs.span fun c => c != 'e'
  let (whole, fraction) := digits.span (· != '.')
  let fraction := fraction.drop 1
  let exponent ← match tail with
    | []      => some 0
    | _ :: cs => exponent? cs
  if whole.isEmpty && fraction.isEmpty || !(whole ++ fraction).all Char.isDigit then none
  return .ofDecimal false (numeral (whole ++ fraction)) (exponent - fraction.length)

/-- The number that parts counted in sixties denote, given the last one first. -/
def ofSixtieths (unit : Nat) : List Binary64 → Binary64 → Binary64
  | [], sum      => sum
  | x :: xs, sum => ofSixtieths (60 * unit) xs (sum.add (x.multiple unit))

/-- The number that characters in small letters without sign and underscores denote. -/
def real? (cs : List Char) : Option Binary64 :=
  if isInfinity cs then some (.infinite false)
  else if String.ofList cs == ".nan" then some .notANumber
  else do
    let parts ← (Text.cutAt (· == ':') cs).mapM decimal?
    return match parts with
      | [x]   => x
      | parts => ofSixtieths 1 parts.reverse (.zero false)

def ScalarKind.value? (kind : ScalarKind) (s : String) : Option Value :=
  let (negative, _, cs) := splitSign (s.toList.filter (· != '_'))
  match kind with
  | null          => some .null
  | bool          => (boolWords.lookup (Text.lower s)).map .bool
  | int           => (whole? cs).map fun n => .int (Number.signed negative n)
  | float         =>
    (real? (cs.map Char.toLower)).map fun x => .float (if negative then x.negated else x)
  | text          => some (.str s)
  | moment        =>
    (momentText? s.toList).bind fun t => if t.isValid then some (.shown (.str s)) else none
  | merge | value => none

end ViewAssembly.Yaml
