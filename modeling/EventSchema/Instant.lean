import EventSchema.Text.Blank

/-!
Points in time, as dates of the proleptic Gregorian calendar in universal time. They are written in
one way and read more freely: fields may be short, blanks may stand before each of them, and an
offset is taken off. A second 60 stays as it is.
-/

set_option autoImplicit false

namespace EventSchema

structure Instant where
  year : Int
  month : Nat
  day : Nat
  hour : Nat
  minute : Nat
  second : Nat
  nano : Nat
deriving DecidableEq, Repr

namespace Instant

def minYear : Int := -262143

def maxYear : Int := 262142

def isLeapYear (year : Int) : Bool :=
  year % 4 == 0 && (year % 100 != 0 || year % 400 == 0)

def daysIn (year : Int) (month : Nat) : Nat :=
  if month = 2 then (if isLeapYear year then 29 else 28)
  else if month = 4 ∨ month = 6 ∨ month = 9 ∨ month = 11 then 30
  else 31

def isValid (t : Instant) : Bool :=
  decide (minYear ≤ t.year) && decide (t.year ≤ maxYear) && decide (1 ≤ t.month) &&
    decide (t.month ≤ 12) && decide (1 ≤ t.day) && decide (t.day ≤ daysIn t.year t.month) &&
    decide (t.hour ≤ 23) && decide (t.minute ≤ 59) && decide (t.second ≤ 60) &&
    decide (t.nano < 1000000000)

def nextDay (t : Instant) : Instant :=
  if t.day < daysIn t.year t.month then { t with day := t.day + 1 }
  else if t.month < 12 then { t with month := t.month + 1, day := 1 }
  else { t with year := t.year + 1, month := 1, day := 1 }

def previousDay (t : Instant) : Instant :=
  if 1 < t.day then { t with day := t.day - 1 }
  else if 1 < t.month then { t with month := t.month - 1, day := daysIn t.year (t.month - 1) }
  else { t with year := t.year - 1, month := 12, day := 31 }

def minutesPerDay : Nat := 1440

/-- The same moment without an offset of less than a day. -/
def withoutOffset (t : Instant) (offset : Int) : Instant :=
  let total : Int := (t.hour * 60 + t.minute : Nat) - offset
  let moved := if total < 0 then t.previousDay
    else if total < minutesPerDay then t else t.nextDay
  let minutes := (total % minutesPerDay).toNat
  { moved with hour := minutes / 60, minute := minutes % 60 }

def padded (width n : Nat) : List Char :=
  let digits := Nat.toDigits 10 n
  List.replicate (width - digits.length) '0' ++ digits

/-- Years of more than four digits and negative ones have a sign. -/
def yearText (year : Int) : List Char :=
  if 0 ≤ year ∧ year ≤ 9999 then padded 4 year.natAbs
  else (if year < 0 then '-' else '+') :: padded 4 year.natAbs

/-- Nothing, or three, six or nine digits. -/
def fractionText (nano : Nat) : List Char :=
  if nano = 0 then []
  else if nano % 1000000 = 0 then '.' :: padded 3 (nano / 1000000)
  else if nano % 1000 = 0 then '.' :: padded 6 (nano / 1000)
  else '.' :: padded 9 nano

def text (t : Instant) : String :=
  String.ofList (yearText t.year ++ '-' :: padded 2 t.month ++ '-' :: padded 2 t.day ++
    'T' :: padded 2 t.hour ++ ':' :: padded 2 t.minute ++ ':' :: padded 2 t.second ++
    fractionText t.nano ++ ['Z'])

def digitValue (c : Char) : Nat := c.toNat - '0'.toNat

def decimal (digits : List Char) : Nat :=
  digits.foldl (fun n c => n * 10 + digitValue c) 0

def readNumber? (cs : List Char) : Option (Nat × List Char) :=
  let digits := cs.takeWhile Char.isDigit
  if digits.isEmpty then none else some (decimal digits, cs.dropWhile Char.isDigit)

def readShort? (most : Nat) (cs : List Char) : Option (Nat × List Char) :=
  let digits := (cs.take most).takeWhile Char.isDigit
  if digits.isEmpty then none else some (decimal digits, cs.drop digits.length)

/-- Four digits at most, or as many as there are after a sign. -/
def readYear? (cs : List Char) : Option (Int × List Char) :=
  match Text.trimStart cs with
  | '-' :: rest => (readNumber? rest).map fun (n, rest) => (-(n : Int), rest)
  | '+' :: rest => (readNumber? rest).map fun (n, rest) => ((n : Int), rest)
  | rest => (readShort? 4 rest).map fun (n, rest) => ((n : Int), rest)

def readField? (cs : List Char) : Option (Nat × List Char) :=
  readShort? 2 (Text.trimStart cs)

def readMark? (mark : Char) (cs : List Char) : Option (List Char) :=
  match Text.trimStart cs with
  | c :: rest => if c = mark then some rest else none
  | [] => none

/-- Digits after a point, in units of a billionth; those after the ninth are dropped. -/
def readFraction? : List Char → Option (Nat × List Char)
  | '.' :: rest => do
    let (n, more) ← readShort? 9 rest
    some (n * Nat.pow 10 (9 - (rest.length - more.length)), more.dropWhile Char.isDigit)
  | rest => some (0, rest)

def readTwoDigits? : List Char → Option (Nat × List Char)
  | a :: b :: rest =>
    if a.isDigit && b.isDigit then some (digitValue a * 10 + digitValue b, rest) else none
  | _ => none

def readOffsetSize? (cs : List Char) : Option (Nat × List Char) := do
  let (hours, rest) ← readTwoDigits? cs
  let (minutes, rest) ← readTwoDigits? (rest.dropWhile fun c => c == ':' || Text.isBlank c)
  if minutes < 60 && hours < 24 then some (hours * 60 + minutes, rest) else none

def readOffset? : List Char → Option (Int × List Char)
  | 'Z' :: rest => some (0, rest)
  | 'z' :: rest => some (0, rest)
  | '+' :: rest => (readOffsetSize? rest).map fun (n, rest) => ((n : Int), rest)
  | '-' :: rest => (readOffsetSize? rest).map fun (n, rest) => (-(n : Int), rest)
  | '−' :: rest => (readOffsetSize? rest).map fun (n, rest) => (-(n : Int), rest)
  | a :: b :: c :: rest =>
    if [a, b, c].map Char.toUpper = ['U', 'T', 'C'] then some (0, rest) else none
  | _ => none

def isSeparator (c : Char) : Bool := c == 'T' || c == 't' || c == ' '

def readLocal? (cs : List Char) : Option (Instant × List Char) := do
  let (year, rest) ← readYear? cs
  let (month, rest) ← readField? (← readMark? '-' rest)
  let (day, rest) ← readField? (← readMark? '-' rest)
  match rest with
  | [] => none
  | c :: rest =>
    if !isSeparator c then none
    else
      let (hour, rest) ← readField? rest
      let (minute, rest) ← readField? (← readMark? ':' rest)
      let (second, rest) ← readField? (← readMark? ':' rest)
      let (nano, rest) ← readFraction? rest
      some (⟨year, month, day, hour, minute, second, nano⟩, rest)

def ofChars? (cs : List Char) : Option Instant := do
  let (t, rest) ← readLocal? cs
  let (offset, rest) ← readOffset? (Text.trimStart rest)
  let moved := t.withoutOffset offset
  if t.isValid && moved.isValid && (Text.trimStart rest).isEmpty then some moved else none

def ofText? (s : String) : Option Instant :=
  ofChars? s.toList

end Instant

end EventSchema
