import ViewAssembly.Script.Literal

/-!
# Matching delimiters

A position in a script is a cursor: what precedes it, nearest character first, and what follows.
From a cursor at an opening bracket the search for the closing one counts nested brackets and
passes over literals and comments.
-/

namespace ViewAssembly.Script

/-- A position in a script. -/
structure Cursor where
  before : List Char := []
  after : List Char
deriving DecidableEq, Repr

namespace Cursor

def start (source : String) : Cursor := ⟨[], source.toList⟩

/-- The number of characters before the cursor. -/
def index (c : Cursor) : Nat := c.before.length

def advance (c : Cursor) : Nat → Cursor
  | 0     => c
  | n + 1 =>
    match c with
    | ⟨before, x :: after⟩ => advance ⟨x :: before, after⟩ n
    | ⟨before, []⟩         => ⟨before, []⟩

def skipWhile (p : Char → Bool) (c : Cursor) : Cursor := c.advance (c.after.takeWhile p).length

def skipBlanks (c : Cursor) : Cursor := c.skipWhile Text.isBlank

def isAt (c : Cursor) (s : String) : Bool := s.toList.isPrefixOf c.after

def between (first last : Cursor) : List Char :=
  (last.before.take (last.before.length - first.before.length)).reverse

end Cursor

/-- A pair of brackets. -/
structure Delimiters where
  opening : Char
  closing : Char

def braces : Delimiters := ⟨'{', '}'⟩

def parentheses : Delimiters := ⟨'(', ')'⟩

/--
Search for the bracket that closes `depth` open ones. The first `skip` characters belong to a
literal and are passed over.
-/
def closingFrom (d : Delimiters) (skip depth : Nat) (before : List Char) : List Char → Option Cursor
  | []      => none
  | c :: cs =>
    match skip with
    | k + 1 => closingFrom d k depth (c :: before) cs
    | 0     =>
      match literalLength before (c :: cs) with
      | k + 1 => closingFrom d k depth (c :: before) cs
      | 0     =>
        if c == d.opening then closingFrom d 0 (depth + 1) (c :: before) cs
        else if c == d.closing then
          if depth == 1 then some ⟨before, c :: cs⟩
          else closingFrom d 0 (depth - 1) (c :: before) cs
        else closingFrom d 0 depth (c :: before) cs

/-- The bracket that closes the one at the cursor, if the brackets balance. -/
def closing? (d : Delimiters) (c : Cursor) : Option Cursor := closingFrom d 0 0 c.before c.after

end ViewAssembly.Script
