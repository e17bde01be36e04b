import ViewAssembly.Language.Code
import ViewAssembly.Text.LetterCase
import ViewAssembly.Value.Text

/-!
# Localized text

A localized text is a plain text, or an object from language codes to texts. Which objects count as
text is decided by their names and values alone: all names look like language codes, all values are
texts, and one of the languages is a known one.

A text for a language is looked up under the code as it was asked for, under the code in small
letters, and then under the fallback languages; failing all, the first text there is.
-/

namespace ViewAssembly.Value

open ViewAssembly.Language

/-- Is this an object from language codes to texts that has at least one entry? -/
def isPerLanguage : Value → Bool
  | obj fs => !fs.isEmpty && fs.all fun e => isCode e.1 && e.2.isStr
  | _      => false

/-- Is this an object that stands for a text, one of its languages being among `languages`? -/
def isTextFor (languages : List String) (v : Value) : Bool :=
  v.isPerLanguage
    && ((v.fields?.getD []).any fun e => (languages.map Text.lower).contains (Text.lower e.1))

/-- The codes under which a text for a language is looked up, the preferred one first. -/
def lookupCodes (lang : String) : List String := lang :: Text.lower lang :: fallbacks

def textIn (fs : Entries Value) (lang : String) : String :=
  match (lookupCodes lang).findSome? fun code => (fs.get? code).filter (!·.isNull) with
  | some v => v.text
  | none   => ((fs.values.find? (!·.isNull)).map text).getD ""

/-- What a localized text says in a language. Null and the empty object say nothing. -/
def resolve (lang : String) : Value → String
  | null   => ""
  | str s  => s
  | obj fs => textIn fs lang
  | v      => v.text

end ViewAssembly.Value

namespace ViewAssembly

/-- A text that may differ from language to language, as a column definition declares it. -/
inductive LocalizedText where
  | plain (s : String)
  | perLanguage (texts : Entries String)
deriving DecidableEq, Repr

namespace LocalizedText

def toValue : LocalizedText → Value
  | plain s          => .str s
  | perLanguage texts => .obj (texts.mapValues fun _ s => .str s)

/-- Does the text say something at all? -/
def nonempty : LocalizedText → Bool
  | plain s          => s != ""
  | perLanguage texts => !texts.isEmpty

end LocalizedText

end ViewAssembly
