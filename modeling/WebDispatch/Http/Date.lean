import WebDispatch.Text.Split

/-!
# Dates of the web

Instants are counted in seconds from the beginning of 1970. They are written in one form and
read in three: `Sun, 06 Nov 1994 08:49:37 GMT`, `Sunday, 06-Nov-94 08:49:37 GMT` and
`Sun Nov  6 08:49:37 1994`. A date is read only if it exists and names its weekday.

* `Instant.text` — the first form;
* `Instant.read?` — any of the three.
-/

namespace WebDispatch.Http

structure Calendar where
  year : Nat
  /-- 1 to 12. -/
  month : Nat
  day : Nat
  hour : Nat
  minute : Nat
  second : Nat
deriving DecidableEq, Repr

namespace Calendar

def monthNames : List String :=
  ["Jan", "Feb", "Mar", "Apr", "May", "Jun", "Jul", "Aug", "Sep", "Oct", "Nov", "Dec"]

/-- The weekdays, from the one that 1970 began with. -/
def dayNames : List String :=
  ["Thursday", "Friday", "Saturday", "Sunday", "Monday", "Tuesday", "Wednesday"]

def short (name : String) : String := String.ofList (name.toList.take 3)

def isLeap (year : Nat) : Bool := year % 4 = 0 && (year % 100 ≠ 0 || year % 400 = 0)

def monthDays (year month : Nat) : Nat :=
  if month = 2 then (if isLeap year then 29 else 28)
  else if [4, 6, 9, 11].contains month then 30 else 31

/-- The days between the beginnings of 1970 and of a year. -/
def daysBefore (year : Nat) : Nat :=
  let leaps (y : Nat) : Nat := y / 4 - y / 100 + y / 400
  (year - 1970) * 365 + (leaps (year - 1) - leaps 1969)

/-- The days from the beginning of 1970 to a date. -/
def dayNumber (c : Calendar) : Nat :=
  daysBefore c.year
    + (List.range (c.month - 1)).foldl (fun days m => days + monthDays c.year (m + 1)) 0
    + (c.day - 1)

def seconds (c : Calendar) : Nat :=
  c.dayNumber * 86400 + c.hour * 3600 + c.minute * 60 + c.second

def exists? (c : Calendar) : Bool :=
  c.second < 60 && c.minute < 60 && c.hour < 24 && 1 ≤ c.month && c.month ≤ 12
    && 1 ≤ c.day && c.day ≤ monthDays c.year c.month && 1970 ≤ c.year && c.year ≤ 9999

def dayName (day : Nat) : String := (dayNames[day % 7]?).getD ""

/-- The month that a day of the year lies in, counted from `month` on, and the day of that month,
from zero. -/
def monthOf (year : Nat) : Nat → Nat → Nat → Nat × Nat
  | 0, month, day => (month, day)
  | fuel + 1, month, day =>
    let days := monthDays year month
    if day < days then (month, day) else monthOf year fuel (month + 1) (day - days)

/-- The year that a day lies in: the last one that begins no later. -/
def yearOf (day : Nat) : Nat :=
  let guess := 1970 + day / 366
  let rec go : Nat → Nat → Nat
    | 0, y => y
    | fuel + 1, y => if daysBefore (y + 1) ≤ day then go fuel (y + 1) else y
  go (day / 366 / 365 + 2) guess

def ofSeconds (t : Nat) : Calendar :=
  let day := t / 86400
  let year := yearOf day
  let (month, rest) := monthOf year 11 1 (day - daysBefore year)
  ⟨year, month, rest + 1, t % 86400 / 3600, t % 3600 / 60, t % 60⟩

end Calendar

namespace Instant

open Calendar

def padNumber (width n : Nat) : String :=
  let ds := Nat.toDigits 10 n
  String.ofList (List.replicate (width - ds.length) '0' ++ ds)

def text (t : Nat) : String :=
  let c := ofSeconds t
  short (dayName (t / 86400)) ++ ", " ++ padNumber 2 c.day ++ " "
    ++ (monthNames[c.month - 1]?).getD "" ++ " " ++ padNumber 4 c.year ++ " "
    ++ padNumber 2 c.hour ++ ":" ++ padNumber 2 c.minute ++ ":" ++ padNumber 2 c.second ++ " GMT"

/-- A number of decimal digits only. -/
def number? (cs : List Char) : Option Nat :=
  if cs.isEmpty || !cs.all Char.isDigit then none
  else some (cs.foldl (fun n c => 10 * n + (c.toNat - '0'.toNat)) 0)

def slice (cs : List Char) (start length : Nat) : List Char := (cs.drop start).take length

def month? (cs : List Char) : Option Nat :=
  (monthNames.findIdx? (· = String.ofList cs)).map (· + 1)

/-- A time of day written `hh:mm:ss`. -/
def timeOfDay? (cs : List Char) : Option (Nat × Nat × Nat) := do
  if cs.length ≠ 8 || slice cs 2 1 ≠ [':'] || slice cs 5 1 ≠ [':'] then none
  return (← number? (slice cs 0 2), ← number? (slice cs 3 2), ← number? (slice cs 6 2))

def check (c : Calendar) (weekday : String → Bool) : Option Nat :=
  if c.exists? && weekday (dayName c.dayNumber) then some c.seconds else none

/-- Reads `Sun, 06 Nov 1994 08:49:37 GMT`. -/
def fixed? (cs : List Char) : Option Nat := do
  if cs.length ≠ 29 || cs.drop 25 ≠ " GMT".toList || slice cs 16 1 ≠ [' ']
      || slice cs 3 2 ≠ ", ".toList || slice cs 7 1 ≠ [' '] || slice cs 11 1 ≠ [' '] then none
  let (hour, minute, second) ← timeOfDay? (slice cs 17 8)
  let day ← number? (slice cs 5 2)
  let month ← month? (slice cs 8 3)
  let year ← number? (slice cs 12 4)
  check ⟨year, month, day, hour, minute, second⟩ fun n => short n = String.ofList (cs.take 3)

/-- Reads `Sunday, 06-Nov-94 08:49:37 GMT`; years before 70 lie in this century. -/
def dashed? (cs : List Char) : Option Nat := do
  let name := cs.takeWhile (· ≠ ',')
  let rest := cs.drop (name.length + 2)
  if slice cs name.length 2 ≠ ", ".toList || !dayNames.contains (String.ofList name)
      || rest.length ≠ 22 || rest.drop 18 ≠ " GMT".toList
      || slice rest 2 1 ≠ ['-'] || slice rest 6 1 ≠ ['-'] then none
  let (hour, minute, second) ← timeOfDay? (slice rest 10 8)
  let day ← number? (slice rest 0 2)
  let month ← month? (slice rest 3 3)
  let year ← number? (slice rest 7 2)
  let year := if year < 70 then year + 2000 else year + 1900
  check ⟨year, month, day, hour, minute, second⟩ (· = String.ofList name)

/-- Reads `Sun Nov  6 08:49:37 1994`. -/
def plain? (cs : List Char) : Option Nat := do
  if cs.length ≠ 24 || slice cs 3 1 ≠ [' '] || slice cs 7 1 ≠ [' '] || slice cs 10 1 ≠ [' ']
      || slice cs 19 1 ≠ [' '] then none
  let (hour, minute, second) ← timeOfDay? (slice cs 11 8)
  let day ← number? (if slice cs 8 1 = [' '] then slice cs 9 1 else slice cs 8 2)
  let month ← month? (slice cs 4 3)
  let year ← number? (slice cs 20 4)
  check ⟨year, month, day, hour, minute, second⟩ fun n => short n = String.ofList (cs.take 3)

def read? (s : String) : Option Nat :=
  let cs := (Text.trim s).toList
  if s.toList.any (fun c => 0x80 ≤ c.toNat) then none
  else
    -- the form is chosen by the letters and digits alone; a date that does not exist ends the search
    fixed? cs <|> dashed? cs <|> plain? cs

end Instant

end WebDispatch.Http
