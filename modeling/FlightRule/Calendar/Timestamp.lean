import FlightRule.Calendar.Date
import FlightRule.Text.Basic

/-!
# Points in time

A date with a time of day, without a time zone, to the nanosecond.  The written form is
`YYYY-MM-DDTHH:MM:SS` with an optional fraction of a second.
-/

namespace FlightRule

/-- A date and a time of day; a minute may have a sixty-first second. -/
structure Timestamp where
  date : Date
  hour : Fin 24
  minute : Fin 60
  second : Fin 61
  nanosecond : Fin 1000000000
deriving DecidableEq, Repr

namespace Timestamp

/-- The weekday of the date. -/
def weekday (time : Timestamp) : Weekday := time.date.weekday

/-! ### Written form -/

/-- The digits of a number, with zeros in front up to the given width. -/
def padded (width number : Nat) : List Char :=
  let digits := Nat.toDigits 10 number
  List.replicate (width - digits.length) '0' ++ digits

/-- The year with at least four digits, with a sign unless it is one of 0 to 9999. -/
def yearChars (year : Int) : List Char :=
  if year < 0 then '-' :: padded 4 year.natAbs
  else if 9999 < year then '+' :: padded 4 year.natAbs
  else padded 4 year.natAbs

/-- The fraction of a second with the fewest digits of none, three, six and nine that are exact. -/
def fractionChars (nanosecond : Nat) : List Char :=
  if nanosecond = 0 then []
  else if nanosecond % 1000000 = 0 then '.' :: padded 3 (nanosecond / 1000000)
  else if nanosecond % 1000 = 0 then '.' :: padded 6 (nanosecond / 1000)
  else '.' :: padded 9 nanosecond

/-- The written form. -/
def text (time : Timestamp) : String :=
  String.ofList (yearChars time.date.year ++
    '-' :: padded 2 time.date.month ++ '-' :: padded 2 time.date.day ++
    'T' :: padded 2 time.hour ++ ':' :: padded 2 time.minute ++ ':' :: padded 2 time.second ++
    fractionChars time.nanosecond)

/-! ### Reading -/

/-- Reading from the start of a text. -/
abbrev Scanner (α : Type) := StateT (List Char) Option α

/-- Pass over blank characters. -/
def skipBlanks : Scanner Unit := fun text => some ((), Text.dropBlanks text)

/-- Pass over blank characters and then the given character. -/
def expect (c : Char) : Scanner Unit := fun text =>
  match Text.dropBlanks text with
  | first :: rest => if first = c then some ((), rest) else none
  | [] => none

/-- The digits at the start of the text, at least one and at most `limit` where there is a limit. -/
def digits (limit : Option Nat) : Scanner (List Char) := fun text =>
  let run := text.takeWhile Char.isDigit
  let found := (limit.map run.take).getD run
  if found.isEmpty then none else some (found, text.drop found.length)

/-- A number of one or two digits behind blank characters. -/
def shortNumber : Scanner Nat := do
  skipBlanks
  return Nat.ofDigitChars 10 (← digits (some 2)) 0

/-- A year behind blank characters: up to four digits, or a sign and any number of digits. -/
def yearNumber : Scanner Int := do
  skipBlanks
  match (← get) with
  | '-' :: rest =>
    set rest
    return -(Nat.ofDigitChars 10 (← digits none) 0 : Int)
  | '+' :: rest =>
    set rest
    return (Nat.ofDigitChars 10 (← digits none) 0 : Int)
  | _ => return (Nat.ofDigitChars 10 (← digits (some 4)) 0 : Int)

/-- The nanoseconds of an optional fraction; digits behind the ninth count for nothing. -/
def fraction : Scanner Nat := do
  match (← get) with
  | '.' :: rest =>
    set rest
    let found := (← digits none).take 9
    return Nat.ofDigitChars 10 found 0 * Nat.pow 10 (9 - found.length)
  | _ => return 0

/-- The bounded number with the given value. -/
def bounded? (bound value : Nat) : Option (Fin bound) :=
  if valid : value < bound then some ⟨value, valid⟩ else none

/-- The written form with optional blanks around each of its parts. -/
def scanner : Scanner Timestamp := do
  let year ← yearNumber
  expect '-'
  let month ← shortNumber
  expect '-'
  let day ← shortNumber
  expect 'T'
  let hour ← shortNumber
  expect ':'
  let minute ← shortNumber
  expect ':'
  let second ← shortNumber
  let nanosecond ← fraction
  skipBlanks
  return {
    date := ← Date.ofParts? year month day
    hour := ← bounded? 24 hour
    minute := ← bounded? 60 minute
    second := ← bounded? 61 second
    nanosecond := ← bounded? 1000000000 nanosecond }

/-- The point in time that a text denotes. -/
def ofText? (text : String) : Option Timestamp :=
  match scanner.run text.toList with
  | some (time, []) => some time
  | _ => none

end Timestamp

end FlightRule
