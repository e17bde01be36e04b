import ViewAssembly.Text.Surrogate

/-!
# Texts for the operating system

Names of files, and names and values of the variables in an environment, are bytes none of which is
zero. A text has such bytes unless it holds the character zero or half of a surrogate pair; some
halves, however, stand for single bytes that belong to no character.
-/

namespace ViewAssembly.Text

/-- Does this half of a pair stand for a byte that belongs to no character? -/
def isStrayByte (unit : Nat) : Bool := 0xdc80 ≤ unit && unit ≤ 0xdcff

def nativeSizeOf? (c : Char) : Option Nat :=
  match half? c with
  | some unit => if isStrayByte unit then some 1 else none
  | none      => if c == '\x00' then none else some c.utf8Size

def nativeSize? (s : String) : Option Nat :=
  (s.toList.mapM nativeSizeOf?).map fun sizes => sizes.foldl (· + ·) 0

/-- Are there bytes for a text? -/
def isNative (s : String) : Bool := (nativeSize? s).isSome

end ViewAssembly.Text
