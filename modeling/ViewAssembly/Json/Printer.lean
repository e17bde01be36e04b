import ViewAssembly.Value
import ViewAssembly.Text.Quoted

/-!
# Writing JSON

A value as JSON text, on one line or indented. Characters beyond ASCII are written as they are.
-/

namespace ViewAssembly.Json

def escapedChar (c : Char) : String :=
  if c == '"' then "\\\""
  else if c == '\\' then "\\\\"
  else if c == '\n' then "\\n"
  else if c == '\r' then "\\r"
  else if c == '\t' then "\\t"
  else if c == '\x0c' then "\\f"
  else if c == '\x08' then "\\b"
  else if c.toNat < 0x20 then "\\u" ++ Text.hexPadded 4 c.toNat
  else c.toString

def textJson (s : String) : String := "\"" ++ String.join (s.toList.map escapedChar) ++ "\""

def floatJson (x : Binary64) : String :=
  match x with
  | .notANumber     => "NaN"
  | .infinite false => "Infinity"
  | .infinite true  => "-Infinity"
  | x               => x.text

end ViewAssembly.Json

namespace ViewAssembly.Value

open Json

mutual

def toJson : Value → String
  | null    => "null"
  | bool b  => if b then "true" else "false"
  | int n   => toString n
  | float x => floatJson x
  | str s   => textJson s
  | arr vs  => "[" ++ ", ".intercalate (toJsonElems vs) ++ "]"
  | obj fs  => "\x7b" ++ ", ".intercalate (toJsonFields fs) ++ "\x7d"
  | shown form => form.toJson

def toJsonElems : List Value → List String
  | []      => []
  | v :: vs => v.toJson :: toJsonElems vs

def toJsonFields : List (String × Value) → List String
  | []           => []
  | (k, v) :: fs => (textJson k ++ ": " ++ v.toJson) :: toJsonFields fs

end

/-- The lines of a container between its brackets; an empty one has no lines. -/
private def block (opening closing margin : String) (lines : List String) : String :=
  match lines with
  | [] => opening ++ closing
  | _  =>
    opening ++ "\n" ++ ",\n".intercalate (lines.map (margin ++ "  " ++ ·)) ++ "\n" ++ margin
      ++ closing

mutual

/-- A value as JSON with one element or entry a line, each level two blanks further in. -/
def toJsonLines (margin : String) : Value → String
  | arr vs => block "[" "]" margin (toJsonLinesElems (margin ++ "  ") vs)
  | obj fs => block "\x7b" "\x7d" margin (toJsonLinesFields (margin ++ "  ") fs)
  | shown form => form.toJsonLines margin
  | v      => v.toJson

def toJsonLinesElems (margin : String) : List Value → List String
  | []      => []
  | v :: vs => v.toJsonLines margin :: toJsonLinesElems margin vs

def toJsonLinesFields (margin : String) : List (String × Value) → List String
  | []           => []
  | (k, v) :: fs => (textJson k ++ ": " ++ v.toJsonLines margin) :: toJsonLinesFields margin fs

end

end ViewAssembly.Value
