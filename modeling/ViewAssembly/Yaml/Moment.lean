import ViewAssembly.Number.Reading
import ViewAssembly.Text.Pieces

/-!
# Dates and times

Moments as they are written in a YAML text: a date, or a date with a time and maybe the distance
from universal time. The numbers have to denote a day of the calendar and a time of the day.
-/

namespace ViewAssembly.Yaml

/-- The parts of a moment as they are written. -/
structure MomentText where
  year : List Char
  month : List Char
  day : List Char
  /-- Hour, minute and second. -/
  time : Option (List Char × List Char × List Char) := none
  /-- The hours and minutes by which the time differs from universal time. -/
  zone : Option (List Char × List Char) := none

/-- Is this a run of digits of a length between the bounds? -/
def isNumeral (least most : Nat) (cs : List Char) : Bool :=
  cs.all Char.isDigit && least ≤ cs.length && cs.length ≤ most

def numeral (cs : List Char) : Nat :=
  Number.ofDigits (cs.filterMap Number.asciiDigitValue?)

/-! ### The form of a moment -/

/-- Read the distance from universal time behind its sign. -/
def zoneText? (cs : List Char) : Option (List Char × List Char) :=
  match Text.cutAt (· == ':') cs with
  | [h]    => if isNumeral 1 2 h then some (h, []) else none
  | [h, m] => if isNumeral 1 2 h && isNumeral 2 2 m then some (h, m) else none
  | _      => none

/-- Read what may follow the seconds: a fraction and the distance from universal time. -/
def afterSeconds? (cs : List Char) : Option (Option (List Char × List Char)) :=
  let cs := match cs with
    | '.' :: cs => cs.dropWhile Char.isDigit
    | cs        => cs
  match cs.dropWhile fun c => c == ' ' || c == '\t' with
  | []      => if cs.isEmpty then some none else none
  | ['Z']   => some none
  | c :: cs => if c == '+' || c == '-' then (zoneText? cs).map some else none

/-- Read a time. -/
def timeText? (cs : List Char) :
    Option ((List Char × List Char × List Char) × Option (List Char × List Char)) :=
  match cs.span Char.isDigit with
  | (h, ':' :: m₁ :: m₂ :: ':' :: s₁ :: s₂ :: rest) =>
    if isNumeral 1 2 h && isNumeral 4 4 [m₁, m₂, s₁, s₂] then
      (afterSeconds? rest).map fun zone => ((h, [m₁, m₂], [s₁, s₂]), zone)
    else none
  | _ => none

/-- The parts of a text that is written like a moment. A date alone has two digits for each part. -/
def momentText? (cs : List Char) : Option MomentText :=
  match cs.span (· != '-') with
  | (year, _ :: cs) =>
    match cs.span (· != '-') with
    | (month, _ :: cs) =>
      let (day, cs) := cs.span Char.isDigit
      if !(isNumeral 4 4 year && isNumeral 1 2 month && isNumeral 1 2 day) then none
      else
        match cs with
        | []      =>
          if month.length = 2 && day.length = 2 then some { year, month, day } else none
        | c :: cs => do
          let cs ←
            if c == 'T' || c == 't' then some cs
            else if c == ' ' || c == '\t' then some (cs.dropWhile fun c => c == ' ' || c == '\t')
            else none
          let (time, zone) ← timeText? cs
          return { year, month, day, time, zone }
    | _ => none
  | _ => none

/-! ### The calendar -/

def daysOf (year month : Nat) : Nat :=
  if month = 2 then
    if year % 4 = 0 && (year % 100 ≠ 0 || year % 400 = 0) then 29 else 28
  else if [4, 6, 9, 11].contains month then 30
  else 31

/-- Do the parts denote a day of the calendar and a time of the day? -/
def MomentText.isValid (t : MomentText) : Bool :=
  let year := numeral t.year
  let month := numeral t.month
  let day := numeral t.day
  1 ≤ year && 1 ≤ month && month ≤ 12 && 1 ≤ day && day ≤ daysOf year month
    && (t.time.all fun (h, m, s) => numeral h < 24 && numeral m < 60 && numeral s < 60)
    && t.zone.all fun (h, m) => 60 * numeral h + numeral m < 24 * 60

end ViewAssembly.Yaml
