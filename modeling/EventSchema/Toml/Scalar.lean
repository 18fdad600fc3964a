import EventSchema.Text.Ranges
import EventSchema.Toml.Value

set_option autoImplicit false

namespace EventSchema.Toml

/-- Digits at the start of a text, without the underscores between them. -/
def digitRun (isDigit : Char → Bool) : List Char → List Char × List Char
  | [] => ([], [])
  | c :: rest =>
    if isDigit c then
      let (digits, after) := digitRun isDigit rest
      (c :: digits, after)
    else if c == '_' && rest.head?.any isDigit then digitRun isDigit rest
    else ([], c :: rest)

def digits? (isDigit : Char → Bool) (cs : List Char) : Option (List Char × List Char) :=
  if cs.head?.any isDigit then some (digitRun isDigit cs) else none

def valueOf (base : Nat) (digits : List Char) : Nat :=
  digits.foldl (fun n c => base * n + (Text.hexValue c).getD 0) 0

def takeSign : List Char → Bool × List Char
  | '-' :: rest => (true, rest)
  | '+' :: rest => (false, rest)
  | cs => (false, cs)

def integer? (negative : Bool) (magnitude : Nat) : Option Value :=
  if magnitude < Nat.pow 2 63 ∨ (negative ∧ magnitude = Nat.pow 2 63) then
    some (.integer (if negative then -(magnitude : Int) else magnitude))
  else none

def based? : List Char → Option (Value × List Char)
  | mark :: rest => do
    let (base, isDigit) ← match mark with
      | 'x' => some (16, fun c => (Text.hexValue c).isSome)
      | 'o' => some (8, fun c => decide ('0' ≤ c ∧ c ≤ '7'))
      | 'b' => some (2, fun c => c == '0' || c == '1')
      | _ => none
    let (digits, rest) ← digits? isDigit rest
    some (← integer? false (valueOf base digits), rest)
  | [] => none

/-- Digits before a point; a zero stands alone. -/
def whole? : List Char → Option (List Char × List Char)
  | '0' :: rest => some (['0'], rest)
  | cs => digits? Char.isDigit cs

def fraction? : List Char → Option (List Char × List Char)
  | '.' :: rest => digits? Char.isDigit rest
  | _ => none

def exponent? : List Char → Option (Int × List Char)
  | c :: rest =>
    if c = 'e' ∨ c = 'E' then do
      let (negative, rest) := takeSign rest
      let (digits, rest) ← digits? Char.isDigit rest
      let magnitude : Int := valueOf 10 digits
      some (if negative then -magnitude else magnitude, rest)
    else none
  | [] => none

/-- Whether `value * 10 ^ power` is at least the number from which on binary numbers of 64 bits
are infinite. -/
def isTooLarge (digits : List Char) (power : Int) : Bool :=
  let digits := digits.dropWhile (· == '0')
  let value := valueOf 10 digits
  let bound := Nat.pow 2 1024 - Nat.pow 2 970
  let length := (digits.length : Int) + power
  if digits.isEmpty ∨ length < 300 then false
  else if 320 < length then true
  else if 0 ≤ power then decide (bound ≤ value * Nat.pow 10 power.toNat)
  else decide (bound * Nat.pow 10 (-power).toNat ≤ value)

def spelling (cs rest : List Char) : String :=
  String.ofList (cs.take (cs.length - rest.length))

def float? (cs : List Char) (negative : Bool) (digits : List Char) (power : Int)
    (rest : List Char) : Option (Value × List Char) :=
  if !negative && isTooLarge digits power then none else some (.float (spelling cs rest), rest)

def decimal? (cs : List Char) : Option (Value × List Char) := do
  let (negative, unsigned) := takeSign cs
  let (whole, rest) ← whole? unsigned
  match fraction? rest with
  | some (fraction, rest) =>
    let (power, rest) := (exponent? rest).getD (0, rest)
    float? cs negative (whole ++ fraction) (power - fraction.length) rest
  | none =>
    match exponent? rest with
    | some (power, rest) => float? cs negative whole power rest
    | none => some (← integer? negative (valueOf 10 whole), rest)

def special? (cs : List Char) : Option (Value × List Char) :=
  match (takeSign cs).2 with
  | 'i' :: 'n' :: 'f' :: rest => some (.float (spelling cs rest), rest)
  | 'n' :: 'a' :: 'n' :: rest => some (.float (spelling cs rest), rest)
  | _ => none

def number? (cs : List Char) : Option (Value × List Char) :=
  match cs with
  | '0' :: rest => (based? rest).or (decimal? cs)
  | _ => (decimal? cs).or (special? cs)

def field? (width low high : Nat) (cs : List Char) : Option (Nat × List Char) :=
  let digits := cs.take width
  let value := valueOf 10 digits
  if digits.length = width ∧ digits.all Char.isDigit ∧ low ≤ value ∧ value ≤ high then
    some (value, cs.drop width)
  else none

def mark? (mark : Char) : List Char → Option (List Char)
  | c :: rest => if c = mark then some rest else none
  | [] => none

def daysOfMonth (year month : Nat) : Nat :=
  if month = 2 then
    if year % 4 = 0 ∧ (year % 100 ≠ 0 ∨ year % 400 = 0) then 29 else 28
  else if month = 4 ∨ month = 6 ∨ month = 9 ∨ month = 11 then 30
  else 31

def date? (cs : List Char) : Option (List Char) := do
  let (year, rest) ← field? 4 0 9999 cs
  let (month, rest) ← field? 2 1 12 (← mark? '-' rest)
  let (_, rest) ← field? 2 1 (daysOfMonth year month) (← mark? '-' rest)
  some rest

/-- Gives what follows a time of day, which may have a leap second. -/
def time? (cs : List Char) : Option (List Char) := do
  let (_, rest) ← field? 2 0 23 cs
  let (_, rest) ← field? 2 0 59 (← mark? ':' rest)
  let (_, rest) ← field? 2 0 60 (← mark? ':' rest)
  match rest with
  | '.' :: c :: after =>
    if c.isDigit then some (after.dropWhile Char.isDigit) else some rest
  | _ => some rest

def skipOffset (cs : List Char) : List Char :=
  let offset? (rest : List Char) : Option (List Char) := do
    let (_, rest) ← field? 2 0 23 rest
    let (_, rest) ← field? 2 0 59 (← mark? ':' rest)
    some rest
  match cs with
  | 'Z' :: rest => rest
  | 'z' :: rest => rest
  | '+' :: rest => (offset? rest).getD cs
  | '-' :: rest => (offset? rest).getD cs
  | _ => cs

def skipTime (cs : List Char) : List Char :=
  match cs with
  | c :: rest =>
    if c = 'T' ∨ c = 't' ∨ c = ' ' then ((time? rest).map skipOffset).getD cs else cs
  | [] => []

def moment? (cs : List Char) : Option (Value × List Char) :=
  (((date? cs).map skipTime).or (time? cs)).map fun rest => (.moment (spelling cs rest), rest)

def scalar? (cs : List Char) : Option (Value × List Char) :=
  match cs with
  | 't' :: 'r' :: 'u' :: 'e' :: rest => some (.boolean true, rest)
  | 'f' :: 'a' :: 'l' :: 's' :: 'e' :: rest => some (.boolean false, rest)
  | _ => (moment? cs).or (number? cs)

end EventSchema.Toml
