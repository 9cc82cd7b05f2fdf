import ShareCheck.Text.Blank

set_option autoImplicit false

namespace ShareCheck

structure Date where
  year : Int
  month : Nat
  day : Nat
deriving DecidableEq, Repr

namespace Date

def years : Int × Int := (-262143, 262142)

def isLeapYear (year : Int) : Bool := year % 4 == 0 && (year % 100 != 0 || year % 400 == 0)

def daysIn (year : Int) (month : Nat) : Nat :=
  if month == 2 then if isLeapYear year then 29 else 28
  else if [4, 6, 9, 11].contains month then 30
  else 31

def isValid (d : Date) : Bool :=
  years.1 ≤ d.year && d.year ≤ years.2 && 1 ≤ d.month && d.month ≤ 12 &&
    1 ≤ d.day && d.day ≤ daysIn d.year d.month

def previous (d : Date) : Date :=
  if 1 < d.day then { d with day := d.day - 1 }
  else if 1 < d.month then ⟨d.year, d.month - 1, daysIn d.year (d.month - 1)⟩
  else ⟨d.year - 1, 12, 31⟩

def next (d : Date) : Date :=
  if d.day < daysIn d.year d.month then { d with day := d.day + 1 }
  else if d.month < 12 then ⟨d.year, d.month + 1, 1⟩
  else ⟨d.year + 1, 1, 1⟩

end Date

inductive TimeError
  | tooShort
  | tooLong
  | invalid
  | outOfRange
deriving DecidableEq, Repr

def TimeError.message : TimeError → String
  | tooShort => "premature end of input"
  | tooLong => "trailing input"
  | invalid => "input contains invalid characters"
  | outOfRange => "input is out of range"

structure Timestamp where
  date : Date
  /-- Counted from midnight. -/
  second : Nat
  isLeap : Bool
deriving DecidableEq, Repr

namespace Timestamp

def secondsPerDay : Nat := 86400

def toUtc (t : Timestamp) (ahead : Int) : Timestamp :=
  let second := t.second - ahead
  if second < 0 then ⟨t.date.previous, (second + secondsPerDay).toNat, t.isLeap⟩
  else if secondsPerDay ≤ second then ⟨t.date.next, (second - secondsPerDay).toNat, t.isLeap⟩
  else ⟨t.date, second.toNat, t.isLeap⟩

def digits (cs : List Char) : Nat := cs.foldl (fun n c => 10 * n + (c.toNat - '0'.toNat)) 0

abbrev Parse := StateT (List Char) (Except TimeError)

namespace Parse

def digitsUpTo (width : Nat) : Parse Nat := do
  let s ← get
  let taken := (s.take width).takeWhile Char.isDigit
  if s.isEmpty then throw .tooShort
  if taken.isEmpty then throw .invalid
  if 0x8000000000000000 ≤ digits taken then throw .outOfRange
  set (s.drop taken.length)
  return digits taken

def blanks : Parse Unit := modify Text.trimStart

def number (width : Nat) : Parse Nat := do
  blanks
  digitsUpTo width

def next (accept : Char → Bool) : Parse Char := do
  match ← get with
  | [] => throw .tooShort
  | c :: rest =>
    if !accept c then throw .invalid
    set rest
    return c

def mark (c : Char) : Parse Unit := do
  blanks
  let _ ← next (· == c)

def year : Parse Int := do
  -- A year with a sign may have any number of digits.
  blanks
  match ← get with
  | '-' :: rest =>
    set rest
    return -((← digitsUpTo rest.length : Nat) : Int)
  | '+' :: rest =>
    set rest
    return (← digitsUpTo rest.length : Nat)
  | _ => return (← digitsUpTo 4 : Nat)

def inRange (first last n : Nat) : Parse Unit :=
  if first ≤ n && n ≤ last then pure () else throw .outOfRange

def date : Parse Date := do
  let year ← year
  mark '-'
  let month ← number 2
  inRange 1 12 month
  mark '-'
  let day ← number 2
  inRange 1 31 day
  return ⟨year, month, day⟩

def fraction : Parse Unit := do
  -- Digits after a point are dropped; there has to be one.
  match ← get with
  | '.' :: rest =>
    set rest
    let _ ← digitsUpTo 9
    modify (·.dropWhile Char.isDigit)
  | _ => pure ()

def clock : Parse (Nat × Bool) := do
  let hour ← number 2
  inRange 0 23 hour
  mark ':'
  let minute ← number 2
  inRange 0 59 minute
  mark ':'
  let second ← number 2
  inRange 0 60 second
  fraction
  return (3600 * hour + 60 * minute + min second 59, second == 60)

def twoDigits : Parse Nat := do
  match ← get with
  | a :: b :: rest =>
    if !(a.isDigit && b.isDigit) then throw .invalid
    set rest
    return digits [a, b]
  | _ => throw .tooShort

def distance : Parse Nat := do
  let hours ← twoDigits
  modify (·.dropWhile fun c => c == ':' || Text.isBlank c)
  let minutes ← twoDigits
  inRange 0 59 minutes
  return 3600 * hours + 60 * minutes

def zone : Parse Int := do
  let s ← get
  let begins (name : String) := name.toList.isPrefixOf (s.map Char.toLower)
  if begins "utc" then
    set (s.drop 3)
    return 0
  else if begins "z" then
    set (s.drop 1)
    return 0
  else
    let sign ← next ['+', '-', '−'].contains
    let ahead ← distance
    return if sign == '+' then (ahead : Int) else -(ahead : Int)

def timestamp : Parse Timestamp := do
  -- Whether there is such a day is looked at last.
  let date ← date
  let _ ← next ['T', 't', ' '].contains
  let (second, isLeap) ← clock
  blanks
  let ahead ← zone
  blanks
  if !(← get).isEmpty then throw .tooLong
  let t := toUtc ⟨date, second, isLeap⟩ ahead
  if ahead.natAbs < secondsPerDay && date.isValid && t.date.isValid then return t
  else throw .outOfRange

end Parse

def parse (text : String) : Except TimeError Timestamp :=
  (Parse.timestamp.run text.toList).map (·.1)

def isBefore (t u : Timestamp) : Bool :=
  if t.date.year != u.date.year then t.date.year < u.date.year
  else if t.date.month != u.date.month then t.date.month < u.date.month
  else if t.date.day != u.date.day then t.date.day < u.date.day
  else t.second < u.second

def padded (width n : Nat) : String :=
  let digits := (toString n).toList
  String.ofList (List.replicate (width - digits.length) '0' ++ digits)

def yearText (year : Int) : String :=
  -- A year of more than four digits, or before the year 0, has a sign.
  if 0 ≤ year ∧ year ≤ 9999 then padded 4 year.toNat
  else (if year < 0 then "-" else "+") ++ padded 4 year.natAbs

def text (t : Timestamp) : String :=
  let second := t.second % 60 + if t.isLeap then 1 else 0
  yearText t.date.year ++ "-" ++ padded 2 t.date.month ++ "-" ++ padded 2 t.date.day ++ "T" ++
    padded 2 (t.second / 3600) ++ ":" ++ padded 2 (t.second / 60 % 60) ++ ":" ++ padded 2 second ++
    "Z"

end Timestamp

end ShareCheck
