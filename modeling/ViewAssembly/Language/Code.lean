import ViewAssembly.Text.Pieces

/-!
# Language codes

What a language code looks like: two or three letters, then any number of subtags of two to eight
letters and digits, each after a hyphen or an underscore. `en`, `dv`, `zh-Hans` and `en_US` are
codes. A single line end after a code is passed over.
-/

namespace ViewAssembly.Language

open Text

/--
The letters of a code: those of ASCII and the four others that have one of them as other case.
-/
def isCodeLetter (c : Char) : Bool := c.isAlpha || c == 'İ' || c == 'ı' || c == 'ſ' || c == '\u212a'

def isCode (s : String) : Bool :=
  let cs := s.toList
  let cs := if cs.getLast? == some '\n' then cs.dropLast else cs
  match cutAt (fun c => c == '-' || c == '_') cs with
  | []              => false
  | main :: subtags =>
    main.all isCodeLetter && 2 ≤ main.length && main.length ≤ 3
      && subtags.all fun tag =>
        tag.all (fun c => isCodeLetter c || c.isDigit) && 2 ≤ tag.length && tag.length ≤ 8

/--
The languages that every text is expected to have, in the order in which they stand in for others.
-/
def fallbacks : List String := ["dv", "en"]

end ViewAssembly.Language
