import EventSchema.Json.Value

/-!
Number literals of JSON: their grammar as a structure, and the number that a literal denotes.
Whole literals that fit 64 bits are exact. For all others the leading digits that fit an unsigned
word of 64 bits are scaled by one power of ten; a literal beyond the greatest binary number
denotes nothing.
-/

set_option autoImplicit false

namespace EventSchema.Json

structure Exponent where
  negative : Bool
  digits : List Char
deriving DecidableEq, Repr

structure Numeral where
  negative : Bool
  whole : List Char
  fraction : Option (List Char)
  exponent : Option Exponent
deriving DecidableEq, Repr

def wordLimit : Nat := Nat.pow 2 64

def digitValue (c : Char) : Nat := c.toNat - 48

def digitsValue (cs : List Char) : Nat :=
  cs.foldl (fun n c => 10 * n + digitValue c) 0

/-- The digits that were taken into the significand, and the power of ten that is left over. -/
structure Significand where
  value : Nat
  exponent : Int

/-- Takes whole digits as long as they fit a word; each further one only counts. -/
def takeWhole : Nat → List Char → Significand
  | n, [] => ⟨n, 0⟩
  | n, c :: cs =>
    let next := 10 * n + digitValue c
    if next < wordLimit then takeWhole next cs else ⟨n, (c :: cs).length⟩

def takeFraction : Significand → List Char → Significand
  | s, [] => s
  | s, c :: cs =>
    let next := 10 * s.value + digitValue c
    if next < wordLimit then takeFraction ⟨next, s.exponent - 1⟩ cs else s

namespace Numeral

def significand (n : Numeral) : Significand :=
  takeFraction (takeWhole 0 n.whole) (n.fraction.getD [])

def power (n : Numeral) : Int :=
  match n.exponent with
  | none => 0
  | some e => if e.negative then -(digitsValue e.digits : Int) else digitsValue e.digits

/-- Exponents from this size on are not added up: they give zero or nothing. -/
def exponentLimit : Nat := Nat.pow 2 31

def real? (n : Numeral) : Option Binary64 :=
  let s := n.significand
  if exponentLimit ≤ n.power.natAbs then
    if s.value = 0 ∨ n.power < 0 then some (.zero n.negative) else none
  else do
    let x ← Binary64.ofNat? n.negative s.value
    x.scaleByTen? (s.exponent + n.power)

def number? (n : Numeral) : Option Number :=
  let value := digitsValue n.whole
  if n.fraction.isNone && n.exponent.isNone then
    if !n.negative && decide (value < wordLimit) then some (.natural value)
    else if n.negative && decide (0 < value) && decide (value ≤ Nat.pow 2 63) then
      some (.negative value)
    else n.real?.map .real
  else n.real?.map .real

end Numeral

end EventSchema.Json
