import ViewAssembly.Text.Alphanumeric
import ViewAssembly.Text.Blank

/-!
# Literals in a script

Whoever counts brackets in a script has to pass over the places where brackets mean nothing:
strings in single, double or back quotes, comments, and regular expressions. Every function here
gives the number of characters that such a place takes.

A slash opens a regular expression rather than dividing where no operand precedes it: at the start
of the script, after an operator or an opening bracket, and after certain keywords.
-/

namespace ViewAssembly.Script

open Text

def isQuote (c : Char) : Bool := c == '"' || c == '\'' || c == '\x60'

/-- Up to the end of a string that is open: its closing quote, or the end of the script. -/
def stringLength (quote : Char) : List Char → Nat
  | []              => 0
  | ['\\']          => 1
  | '\\' :: _ :: cs => 2 + stringLength quote cs
  | c :: cs         => if c == quote then 1 else 1 + stringLength quote cs

/-- Up to the end of the line, its end included. -/
def lineLength : List Char → Nat
  | []      => 0
  | c :: cs => if c == '\n' then 1 else 1 + lineLength cs

/-- Up to the end of a comment that is open: the mark that closes it, or the end of the script. -/
def commentLength : List Char → Nat
  | []              => 0
  | '*' :: '/' :: _ => 2
  | _ :: cs         => 1 + commentLength cs

/-! ### Regular expressions -/

def regexPreceders : List Char := "(,=:[!&|?\x7b\x7d;+-*%<>~^".toList

def regexKeywords : List String :=
  ["return", "typeof", "case", "do", "else", "in", "of", "void", "yield", "delete", "throw", "new"]

def isNameStart (c : Char) : Bool := c.isAlpha || c == '_' || c == '$'

def isNamePart (c : Char) : Bool := isWord c || c == '$'

/--
The name that ends where `before` starts, nearest character first; digits at its front are cut
off.
-/
def trailingName (before : List Char) : String :=
  String.ofList ((before.takeWhile isNamePart).reverse.dropWhile (!isNameStart ·))

/-- Does a slash open a regular expression, given what precedes it, nearest character first? -/
def opensRegex (before : List Char) : Bool :=
  match before.dropWhile isBlank with
  | []      => true
  | c :: cs => regexPreceders.contains c || regexKeywords.contains (trailingName (c :: cs))

def flagsLength (cs : List Char) : Nat :=
  (cs.takeWhile fun c => isAlphanumeric c || c == '_' || c == '$').length

/--
Up to the end of a regular expression that is open, its flags included. It has to end on its line; a
slash inside square brackets does not end it.
-/
def regexLength? (inBrackets : Bool) : List Char → Option Nat
  | []              => none
  | ['\\']          => none
  | '\\' :: _ :: cs => (regexLength? inBrackets cs).map (2 + ·)
  | c :: cs         =>
    if c == '\n' then none
    else if inBrackets then (regexLength? (c != ']') cs).map (1 + ·)
    else if c == '/' then some (1 + flagsLength cs)
    else (regexLength? (c == '[') cs).map (1 + ·)

/-! ### Any literal -/

/-- The length of the literal or comment that starts here, zero if none does. -/
def literalLength (before : List Char) : List Char → Nat
  | '/' :: '/' :: cs => 2 + lineLength cs
  | '/' :: '*' :: cs => 2 + commentLength cs
  | '/' :: cs        =>
    if opensRegex before then ((regexLength? false cs).map (1 + ·)).getD 0 else 0
  | c :: cs          => if isQuote c then 1 + stringLength c cs else 0
  | []               => 0

end ViewAssembly.Script
