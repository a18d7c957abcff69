import Rowscript.Toml.Number

/-!
# Toml/Date — dates and times

A date, a time, or both with an optional distance from Greenwich.  The value is kept as its usual
text: a `T` between date and time, a fraction of at most nine digits without zeros at its end.
-/

namespace Rowscript.Toml

/-- Exactly `n` digits and their value, which lies within bounds. -/
def fixedDigits (n low high : Nat) : Reader (List Char × Nat) := fun cs =>
  let ds := cs.take n
  let value := valueOf 10 ds
  if ds.length == n && ds.all Char.isDigit && low ≤ value && value ≤ high then
    some ((ds, value), cs.drop n)
  else none

def isLeapYear (year : Nat) : Bool := year % 4 == 0 && (year % 100 != 0 || year % 400 == 0)

def daysIn (year month : Nat) : Nat :=
  if month == 2 then if isLeapYear year then 29 else 28
  else if [4, 6, 9, 11].contains month then 30
  else 31

/-- Year, month and day. -/
def fullDate : Reader (List Char) := do
  let (year, y) ← fixedDigits 4 0 9999
  Reader.word ['-']
  let (month, m) ← fixedDigits 2 1 12
  Reader.word ['-']
  let (day, _) ← fixedDigits 2 1 (daysIn y m)
  return year ++ ['-'] ++ month ++ ['-'] ++ day

/-- The fraction of a second. -/
def secondFraction : Reader (List Char)
  | '.' :: cs =>
    match cs.takeWhile Char.isDigit with
    | [] => none
    | ds =>
      let ds := ((ds.take 9).reverse.dropWhile (· == '0')).reverse
      some (if ds.isEmpty then [] else '.' :: ds, cs.dropWhile Char.isDigit)
  | cs => some ([], cs)

/-- Hour, minute and second, which may be a leap second. -/
def timeOfDay : Reader (List Char) := do
  let (hour, _) ← fixedDigits 2 0 23
  Reader.word [':']
  let (minute, _) ← fixedDigits 2 0 59
  Reader.word [':']
  let (second, _) ← fixedDigits 2 0 60
  let part ← secondFraction
  return hour ++ [':'] ++ minute ++ [':'] ++ second ++ part

/-- The distance from Greenwich; nothing where none comes next. -/
def offset : Reader (List Char)
  | c :: cs =>
    if c == 'Z' || c == 'z' then some (['Z'], cs)
    else if c == '+' || c == '-' then
      (do
        let (hour, h) ← fixedDigits 2 0 23
        Reader.word [':']
        let (minute, m) ← fixedDigits 2 0 59
        let mark := if h == 0 && m == 0 then '+' else c
        return mark :: hour ++ [':'] ++ minute : Reader (List Char)) cs
    else some ([], c :: cs)
  | [] => some ([], [])

/-- A time behind a date, and its mark. -/
def timeBehindDate : Reader (List Char) := do
  let _ ← Reader.one fun c => c == 'T' || c == 't' || c == ' '
  let time ← timeOfDay
  let place ← offset
  return 'T' :: time ++ place

/-- **A date, a time or both.** -/
def date : Reader String :=
  (do
    let day ← fullDate
    let time ← Reader.optionally timeBehindDate
    return String.ofList (day ++ time.getD [])) <|>
  (do return String.ofList (← timeOfDay))

end Rowscript.Toml
