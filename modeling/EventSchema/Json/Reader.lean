import EventSchema.Json.Numeral
import EventSchema.Text.Ranges

/-!
Reading JSON text. The grammar is strict: no comments, no trailing commas, no text after the value,
no raw controls in strings. Reading goes in two steps: `Tree.ofText?` knows the grammar only, and
`Tree.value?` asks in addition that numbers are in range, that strings hold no lone surrogates and
that the nesting is not too deep. A member that its reader passes over is held to the grammar only.
-/

set_option autoImplicit false

namespace EventSchema.Json

/-- A text that follows the grammar. A string with a lone surrogate has no content. -/
inductive Tree where
  | null
  | bool (b : Bool)
  | num (n : Numeral)
  | str (s : Option String)
  | arr (items : List Tree)
  | obj (members : List (Option String × Tree))
deriving Repr

def isSpace (c : Char) : Bool :=
  c == ' ' || c == '\n' || c == '\t' || c == '\r'

def skipSpace (cs : List Char) : List Char :=
  cs.dropWhile isSpace

def readUnit? : List Char → Option (Nat × List Char)
  | a :: b :: c :: d :: rest => do
    let a ← Text.hexValue a
    let b ← Text.hexValue b
    let c ← Text.hexValue c
    let d ← Text.hexValue d
    some (((a * 16 + b) * 16 + c) * 16 + d, rest)
  | _ => none

def isHighSurrogate (n : Nat) : Bool := decide (0xd800 ≤ n) && decide (n < 0xdc00)

def isLowSurrogate (n : Nat) : Bool := decide (0xdc00 ≤ n) && decide (n < 0xe000)

def pairChar (high low : Nat) : Char :=
  Char.ofNat (0x10000 + (high - 0xd800) * 0x400 + (low - 0xdc00))

def shortEscape? : Char → Option Char
  | '"' => some '"'
  | '\\' => some '\\'
  | '/' => some '/'
  | 'b' => some '\x08'
  | 'f' => some '\x0c'
  | 'n' => some '\n'
  | 'r' => some '\r'
  | 't' => some '\t'
  | _ => none

/-- Reads up to the closing quote. `content` holds the characters so far, last first, or nothing
once a surrogate stood alone; `fuel` bounds the number of characters and escapes. -/
def readString? : Nat → Option (List Char) → List Char → Option (Option String × List Char)
  | 0, _, _ => none
  | _ + 1, _, [] => none
  | _ + 1, content, '"' :: rest => some (content.map fun cs => String.ofList cs.reverse, rest)
  | fuel + 1, content, '\\' :: 'u' :: rest => do
    let (unit, rest) ← readUnit? rest
    if isHighSurrogate unit then
      match rest with
      | '\\' :: 'u' :: after =>
        let (low, after) ← readUnit? after
        if isLowSurrogate low then
          readString? fuel (content.map (pairChar unit low :: ·)) after
        else readString? fuel none after
      | _ => readString? fuel none rest
    else if isLowSurrogate unit then readString? fuel none rest
    else readString? fuel (content.map (Char.ofNat unit :: ·)) rest
  | fuel + 1, content, '\\' :: c :: rest => do
    let c ← shortEscape? c
    readString? fuel (content.map (c :: ·)) rest
  | fuel + 1, content, c :: rest =>
    if c = '\\' ∨ c.toNat < 0x20 then none else readString? fuel (content.map (c :: ·)) rest

def takeDigits (cs : List Char) : List Char × List Char :=
  cs.span Char.isDigit

def readWhole? (cs : List Char) : Option (List Char × List Char) :=
  match takeDigits cs with
  | ([], _) => none
  | ('0' :: _ :: _, _) => none
  | (digits, rest) => some (digits, rest)

/-- The outer option is failure, the inner one absence. -/
def readFraction? : List Char → Option (Option (List Char) × List Char)
  | '.' :: rest =>
    match takeDigits rest with
    | ([], _) => none
    | (digits, rest) => some (some digits, rest)
  | cs => some (none, cs)

def readExponentDigits? (negative : Bool) (cs : List Char) :
    Option (Option Exponent × List Char) :=
  match takeDigits cs with
  | ([], _) => none
  | (digits, rest) => some (some ⟨negative, digits⟩, rest)

def readExponent? : List Char → Option (Option Exponent × List Char)
  | c :: rest =>
    if c = 'e' ∨ c = 'E' then
      match rest with
      | '+' :: digits => readExponentDigits? false digits
      | '-' :: digits => readExponentDigits? true digits
      | digits => readExponentDigits? false digits
    else some (none, c :: rest)
  | [] => some (none, [])

def readNumeral? (negative : Bool) (cs : List Char) : Option (Numeral × List Char) := do
  let (whole, cs) ← readWhole? cs
  let (fraction, cs) ← readFraction? cs
  let (exponent, cs) ← readExponent? cs
  some (⟨negative, whole, fraction, exponent⟩, cs)

namespace Tree

mutual

def read? : Nat → List Char → Option (Tree × List Char)
  | 0, _ => none
  | fuel + 1, cs =>
    match skipSpace cs with
    | 'n' :: 'u' :: 'l' :: 'l' :: rest => some (.null, rest)
    | 't' :: 'r' :: 'u' :: 'e' :: rest => some (.bool true, rest)
    | 'f' :: 'a' :: 'l' :: 's' :: 'e' :: rest => some (.bool false, rest)
    | '"' :: rest => do
      let (s, rest) ← readString? (rest.length + 1) (some []) rest
      some (.str s, rest)
    | '[' :: rest =>
      match skipSpace rest with
      | ']' :: rest => some (.arr [], rest)
      | rest => do
        let (items, rest) ← readItems? fuel rest
        some (.arr items, rest)
    | '\x7b' :: rest =>
      match skipSpace rest with
      | '\x7d' :: rest => some (.obj [], rest)
      | rest => do
        let (members, rest) ← readMembers? fuel rest
        some (.obj members, rest)
    | '-' :: rest => do
      let (n, rest) ← readNumeral? true rest
      some (.num n, rest)
    | rest => do
      let (n, rest) ← readNumeral? false rest
      some (.num n, rest)

def readItems? : Nat → List Char → Option (List Tree × List Char)
  | 0, _ => none
  | fuel + 1, cs => do
    let (item, rest) ← read? fuel cs
    match skipSpace rest with
    | ',' :: rest =>
      let (items, rest) ← readItems? fuel rest
      some (item :: items, rest)
    | ']' :: rest => some ([item], rest)
    | _ => none

def readMembers? : Nat → List Char → Option (List (Option String × Tree) × List Char)
  | 0, _ => none
  | fuel + 1, cs =>
    match skipSpace cs with
    | '"' :: rest => do
      let (key, rest) ← readString? (rest.length + 1) (some []) rest
      match skipSpace rest with
      | ':' :: rest =>
        let (value, rest) ← read? fuel rest
        match skipSpace rest with
        | ',' :: rest =>
          let (members, rest) ← readMembers? fuel rest
          some ((key, value) :: members, rest)
        | '\x7d' :: rest => some ([(key, value)], rest)
        | _ => none
      | _ => none
    | _ => none

end

def ofChars? (cs : List Char) : Option Tree := do
  let (tree, rest) ← read? (2 * cs.length + 2) cs
  if (skipSpace rest).isEmpty then some tree else none

def ofText? (text : String) : Option Tree :=
  ofChars? text.toList

mutual

def value? : Nat → Tree → Option Json
  | _, .null => some .null
  | _, .bool b => some (.bool b)
  | _, .num n => n.number?.map .num
  | _, .str s => s.map .str
  | 0, .arr _ => none
  | depth + 1, .arr items => (itemValues? depth items).map .arr
  | 0, .obj _ => none
  | depth + 1, .obj members => (memberValues? depth members).map .obj

def itemValues? : Nat → List Tree → Option (List Json)
  | _, [] => some []
  | depth, item :: items => do
    let value ← value? depth item
    let values ← itemValues? depth items
    some (value :: values)

def memberValues? : Nat → List (Option String × Tree) → Option (List (String × Json))
  | _, [] => some []
  | depth, (key, tree) :: members => do
    let key ← key
    let value ← value? depth tree
    let values ← memberValues? depth members
    some ((key, value) :: values)

end

end Tree

def maxDepth : Nat := 127

def ofText? (text : String) : Option Json := do
  let tree ← Tree.ofText? text
  tree.value? maxDepth

end EventSchema.Json
