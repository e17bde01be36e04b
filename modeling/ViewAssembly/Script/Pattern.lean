import ViewAssembly.Script.Delimiter

/-!
# Patterns in a script

A pattern says where it can end when it is tried at a position: at none, one or several places, the
preferred one first. Patterns are put together one after the other, as alternatives, and by
repetition; a repetition prefers to go on.
-/

namespace ViewAssembly.Script

open Text

/-- The places where a pattern can end when it is tried at a cursor, the preferred one first. -/
abbrev Pattern := Cursor → List Cursor

namespace Pattern

def exactly (s : String) : Pattern := fun c => if c.isAt s then [c.advance s.length] else []

def oneOf (p : Char → Bool) : Pattern := fun c =>
  match c.after with
  | x :: _ => if p x then [c.advance 1] else []
  | []     => []

def followedBy (m n : Pattern) : Pattern := fun c => (m c).flatMap n

def sequence : List Pattern → Pattern
  | []      => fun c => [c]
  | m :: ms => followedBy m (sequence ms)

/-- The first pattern, or else the second. -/
def either (m n : Pattern) : Pattern := fun c => m c ++ n c

/-- The pattern if it fits, or nothing. -/
def optionally (m : Pattern) : Pattern := fun c => m c ++ [c]

/--
The places behind the characters of a class at the front, the last one first, in front of those
already found.
-/
def manyBefore (p : Char → Bool) (found : List Cursor) (before : List Char) :
    List Char → List Cursor
  | []      => ⟨before, []⟩ :: found
  | x :: xs =>
    if p x then manyBefore p (⟨before, x :: xs⟩ :: found) (x :: before) xs
    else ⟨before, x :: xs⟩ :: found

theorem manyBefore_append (p : Char → Bool) (found before xs) :
    manyBefore p found before xs = manyBefore p [] before xs ++ found := by
  induction xs generalizing found before with
  | nil => rfl
  | cons x xs ih =>
    simp only [manyBefore]
    split
    · rw [ih, ih [_], List.append_assoc]; rfl
    · rfl

/-- Any number of characters of a class, as many as possible first. -/
def many (p : Char → Bool) : Pattern := fun c => manyBefore p [] c.before c.after

def blanks : Pattern := many isBlank

def someBlanks : Pattern := followedBy (oneOf isBlank) blanks

/--
The places where a pattern can end when it is repeated, at most `limit` times, in front of those
already found.
-/
def repeatedBefore (m : Pattern) : Nat → Cursor → List Cursor → List Cursor
  | 0, c, found         => c :: found
  | limit + 1, c, found => (m c).foldr (repeatedBefore m limit) (c :: found)

theorem repeatedBefore_append (m : Pattern) (limit c found) :
    repeatedBefore m limit c found = repeatedBefore m limit c [] ++ found := by
  induction limit generalizing c found with
  | zero => rfl
  | succ limit ih =>
    simp only [repeatedBefore]
    induction m c with
    | nil => rfl
    | cons d ds hds =>
      simp only [List.foldr_cons]
      rw [ih, ih d (List.foldr _ _ _), hds, List.append_assoc]

/-- The pattern any number of times; each time takes one character at least. -/
def anyNumber (m : Pattern) : Pattern := fun c => repeatedBefore m c.after.length c []

/-- The place between a character of a word and one that belongs to none. -/
def wordBoundary : Pattern := fun c =>
  let inWord (next : Option Char) := (next.map isWord).getD false
  if inWord c.before.head? != inWord c.after.head? then [c] else []

/-- A place that follows no character of a class. -/
def notAfter (p : Char → Bool) : Pattern := fun c =>
  if (c.before.head?.map p).getD false then [] else [c]

def lineStart : Pattern := fun c => if c.before.head?.all (· == '\n') then [c] else []

/-- An occurrence of a pattern: where it starts and where it ends. -/
structure Occurrence where
  first : Cursor
  last : Cursor

/--
The occurrences from a position on, none overlapping an earlier one; `skip` characters are passed
over.
-/
def occurrencesFrom (m : Pattern) (skip : Nat) (before : List Char) : List Char → List Occurrence
  | []      => []
  | c :: cs =>
    match skip with
    | k + 1 => occurrencesFrom m k (c :: before) cs
    | 0     =>
      let here : Cursor := ⟨before, c :: cs⟩
      match (m here).head? with
      | some last =>
        ⟨here, last⟩ :: occurrencesFrom m (last.index - here.index - 1) (c :: before) cs
      | none => occurrencesFrom m 0 (c :: before) cs

/-- The occurrences of a pattern in a script, none overlapping an earlier one. -/
def occurrences (m : Pattern) (source : String) : List Occurrence :=
  occurrencesFrom m 0 [] source.toList

end Pattern

end ViewAssembly.Script
