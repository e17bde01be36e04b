import ViewAssembly.Text.Hexadecimal
import ViewAssembly.Text.Printable
import ViewAssembly.Text.Surrogate

/-!
# Quoted text

Text inside quotes, for messages that show a value. Single quotes stand around it, or double ones
when the text holds a single quote and no double one. The quote in use, the backslash, and what
cannot be printed are escaped; half of a surrogate pair has the code of its unit.
-/

namespace ViewAssembly.Text

def escapedChar (quote c : Char) : String :=
  if c == quote || c == '\\' then String.ofList ['\\', c]
  else if c == '\t' then "\\t"
  else if c == '\n' then "\\n"
  else if c == '\r' then "\\r"
  else if let some unit := half? c then "\\u" ++ hexPadded 4 unit
  else if isPrintable c then c.toString
  else if c.toNat < 0x100 then "\\x" ++ hexPadded 2 c.toNat
  else if c.toNat < 0x10000 then "\\u" ++ hexPadded 4 c.toNat
  else "\\U" ++ hexPadded 8 c.toNat

def quoteFor (s : String) : Char :=
  if s.toList.contains '\'' && !s.toList.contains '"' then '"' else '\''

def quoted (s : String) : String :=
  let quote := quoteFor s
  quote.toString ++ String.join (s.toList.map (escapedChar quote)) ++ quote.toString

end ViewAssembly.Text
