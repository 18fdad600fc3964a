import EventSchema.Json.Value

set_option autoImplicit false

namespace EventSchema.Json

def hexDigit (n : Nat) : Char := Nat.digitChar (n % 16)

def escapeChar (c : Char) : List Char :=
  if c = '"' then ['\\', '"']
  else if c = '\\' then ['\\', '\\']
  else if c = '\x08' then ['\\', 'b']
  else if c = '\x0c' then ['\\', 'f']
  else if c = '\n' then ['\\', 'n']
  else if c = '\r' then ['\\', 'r']
  else if c = '\t' then ['\\', 't']
  else if c.toNat < 0x20 then ['\\', 'u', '0', '0', hexDigit (c.toNat / 16), hexDigit c.toNat]
  else [c]

def quote (s : String) : String :=
  "\"" ++ String.ofList (s.toList.flatMap escapeChar) ++ "\""

def decimalDigits (n : Nat) : List Char := Nat.toDigits 10 n

/-- Which powers of ten are written positionally: the first digit's exponent from `low` to
`high`. -/
structure RealFormat where
  low : Int
  high : Int

/-- Positional from 0.00001 up to, but without, 10 ^ 16. -/
def realFormat : RealFormat := ⟨-5, 15⟩

def zeros (n : Nat) : List Char := List.replicate n '0'

/-- Digits with the point after the first `whole` of them, padded with zeros on both sides. -/
def positional (digits : List Char) (whole : Int) : List Char :=
  if whole ≤ 0 then '0' :: '.' :: (zeros (-whole).toNat ++ digits)
  else
    let n := whole.toNat
    if digits.length ≤ n then digits ++ zeros (n - digits.length) ++ ['.', '0']
    else digits.take n ++ '.' :: digits.drop n

def exponential (digits : List Char) (exponent : Int) : List Char :=
  let mantissa := match digits with
    | d :: e :: rest => d :: '.' :: e :: rest
    | ds => ds
  mantissa ++ 'e' :: (if exponent < 0 then '-' else '+') :: decimalDigits exponent.natAbs

def realText (x : Binary64) : List Char :=
  let sign := if x.negative then ['-'] else []
  if x.isZero then sign ++ ['0', '.', '0']
  else
    let d := x.shortest
    let digits := decimalDigits d.digits
    let first := d.exponent + digits.length - 1
    if realFormat.low ≤ first ∧ first ≤ realFormat.high then sign ++ positional digits (first + 1)
    else sign ++ exponential digits first

def numberText : Number → String
  | .natural n => String.ofList (decimalDigits n)
  | .negative n => String.ofList ('-' :: decimalDigits n)
  | .real x => String.ofList (realText x)

mutual

def compact : Json → String
  | .null => "null"
  | .bool true => "true"
  | .bool false => "false"
  | .num n => numberText n
  | .str s => quote s
  | .arr items => "[" ++ compactItems items ++ "]"
  | .obj members => "\x7b" ++ compactMembers members ++ "\x7d"

def compactItems : List Json → String
  | [] => ""
  | [item] => compact item
  | item :: next :: items => compact item ++ "," ++ compactItems (next :: items)

def compactMembers : List (String × Json) → String
  | [] => ""
  | [(key, value)] => quote key ++ ":" ++ compact value
  | (key, value) :: next :: members =>
    quote key ++ ":" ++ compact value ++ "," ++ compactMembers (next :: members)

end

def indentation (depth : Nat) : String :=
  String.ofList (List.replicate (2 * depth) ' ')

mutual

/-- One item or member a line, two blanks a level; empty arrays and objects stay together. -/
def pretty (depth : Nat) : Json → String
  | .arr [] => "[]"
  | .arr (item :: items) =>
    "[\n" ++ prettyItems (depth + 1) (item :: items) ++ "\n" ++ indentation depth ++ "]"
  | .obj [] => "\x7b\x7d"
  | .obj (member :: members) =>
    "\x7b\n" ++ prettyMembers (depth + 1) (member :: members) ++ "\n" ++ indentation depth ++ "\x7d"
  | .null => "null"
  | .bool true => "true"
  | .bool false => "false"
  | .num n => numberText n
  | .str s => quote s

def prettyItems (depth : Nat) : List Json → String
  | [] => ""
  | [item] => indentation depth ++ pretty depth item
  | item :: next :: items =>
    indentation depth ++ pretty depth item ++ ",\n" ++ prettyItems depth (next :: items)

def prettyMembers (depth : Nat) : List (String × Json) → String
  | [] => ""
  | [(key, value)] => indentation depth ++ quote key ++ ": " ++ pretty depth value
  | (key, value) :: next :: members =>
    indentation depth ++ quote key ++ ": " ++ pretty depth value ++ ",\n" ++
      prettyMembers depth (next :: members)

end

end EventSchema.Json
