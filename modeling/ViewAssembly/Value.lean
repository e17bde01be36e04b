import ViewAssembly.Entries
import ViewAssembly.Number.Binary64

/-!
# Values

The values that documents are made of. View configs, column definitions, component templates and the
assembled payloads all consist of them. A whole number and a floating point number are different
values even when they denote the same number, and objects keep the order of their entries.

Some formats have values of other kinds, such as dates. Such a value is only known by the form in
which it is shown; it is no text, no object and nothing else that has a name here. A map with a name
that is no text is such a value too. What is done to objects leaves it as it is: it is not localized,
merged or searched for functions, but taken over or given up as a whole.

`Value.same` is the coarser equality by which elements of a list are matched: it compares numbers by
what they denote, counts a truth value as zero or one, and disregards the order of entries. What is
not a number is the same as nothing, but as a part of lists and objects it does not tell them apart.
-/

namespace ViewAssembly

/-- A value of a document. -/
inductive Value where
  | null
  | bool (b : Bool)
  | int (n : Int)
  | float (x : Binary64)
  | str (s : String)
  | arr (elems : List Value)
  | obj (fields : List (String × Value))
  /-- A value of another kind, shown in this form. -/
  | shown (form : Value)

instance : Inhabited Value := ⟨.null⟩

namespace Value

/-! ### Shape -/

def fields? : Value → Option (Entries Value)
  | obj fs => some fs
  | _      => none

def elems? : Value → Option (List Value)
  | arr vs => some vs
  | _      => none

def str? : Value → Option String
  | str s => some s
  | _     => none

/-- The entries of an object, or of what is shown as one: some of its names may be no texts. -/
def record? : Value → Option (Entries Value)
  | shown form => form.fields?
  | v          => v.fields?

def isObj (v : Value) : Bool := v.fields?.isSome

def isStr (v : Value) : Bool := v.str?.isSome

def isNull : Value → Bool
  | null => true
  | _    => false

/-- The value under a name of an object; anything else has no entries. -/
def get? (v : Value) (name : String) : Option Value := v.fields?.bind (·.get? name)

/-- The value under a name of an object, unless it is null. -/
def given? (v : Value) (name : String) : Option Value := (v.get? name).filter (!·.isNull)

/-- Does the value say something: is it neither null, nor false, nor zero, nor empty? -/
def truthy : Value → Bool
  | null    => false
  | bool b  => b
  | int n   => n != 0
  | float x => x.nonzero
  | str s   => s != ""
  | arr vs  => !vs.isEmpty
  | obj fs  => !fs.isEmpty
  | shown _ => true

/-- The value under a name of an object, if it says something. -/
def filled? (v : Value) (name : String) : Option Value := (v.get? name).filter truthy

/-! ### Equality of what is denoted -/

/-- A number that a value denotes: truth values count as zero and one. -/
private inductive Number where
  | whole (n : Int)
  | real (x : Binary64)

private def number? : Value → Option Number
  | bool b  => some (.whole (if b then 1 else 0))
  | int n   => some (.whole n)
  | float x => some (.real x)
  | _       => none

/-- Are both values no numbers, although they are of the kind of numbers? -/
private def areNaN : Value → Value → Bool
  | float .notANumber, float .notANumber => true
  | _, _                                 => false

private def Number.same : Number → Number → Bool
  | whole m, whole n => m == n
  | whole m, real x  => x.toInt? == some m
  | real x, whole n  => x.toInt? == some n
  | real x, real y   => x.equal y

mutual

/-- Do two values denote the same? -/
def same : Value → Value → Bool
  | null, null     => true
  | str s, str t   => s == t
  | arr vs, arr ws => sameElems vs ws
  | obj es, obj fs => es.length == fs.length && sameFields es fs
  | shown v, shown w => same v w
  | v, w           =>
    match number? v, number? w with
    | some m, some n => m.same n
    | _, _           => false

def sameElems : List Value → List Value → Bool
  | [], []           => true
  | v :: vs, w :: ws => (areNaN v w || same v w) && sameElems vs ws
  | _, _             => false

/-- Does every entry of the first list have a counterpart of its name in the second? -/
def sameFields : List (String × Value) → List (String × Value) → Bool
  | [], _            => true
  | (k, v) :: es, fs =>
    (match Entries.get? fs k with
      | some w => areNaN v w || same v w
      | none   => false)
    && sameFields es fs

end

/-- Do two values denote the same as parts of something, or as names in it? -/
def samePart (v w : Value) : Bool := areNaN v w || same v w

/-! ### Names inside a value -/

mutual

/-- Every name in a value, in the order in which it is written down. -/
def names : Value → List String
  | arr vs => namesElems vs
  | obj fs => namesFields fs
  | shown form => form.names
  | _      => []

def namesElems : List Value → List String
  | []      => []
  | v :: vs => v.names ++ namesElems vs

/-- Every name in the entries of an object, each before those of its value. -/
def namesFields : List (String × Value) → List String
  | []           => []
  | (k, v) :: fs => k :: v.names ++ namesFields fs

end

end Value

end ViewAssembly
