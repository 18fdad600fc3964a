/-!
Finite binary numbers of 64 bits, as a sign, a whole mantissa and a power of two. All arithmetic
here is exact on naturals, and one function does every rounding: a quotient of naturals goes to the
nearest number, a half to the even mantissa.
-/

set_option autoImplicit false

namespace EventSchema

/-- The number `± mantissa * 2 ^ scale`; the scale is the least that the mantissa's 53 bits allow,
and never below -1074. -/
structure Binary64 where
  negative : Bool
  mantissa : Nat
  scale : Int
deriving DecidableEq, Repr

namespace Binary64

def zero (negative : Bool) : Binary64 := ⟨negative, 0, -1074⟩

def isZero (x : Binary64) : Bool := x.mantissa == 0

def ratio (x : Binary64) : Nat × Nat :=
  if 0 ≤ x.scale then (x.mantissa * Nat.pow 2 x.scale.toNat, 1)
  else (x.mantissa, Nat.pow 2 (-x.scale).toNat)

/-- The quotient of two naturals as the nearest whole number, a half to the even one. -/
def roundQuotient (num den : Nat) : Nat :=
  let q := num / den
  let r := num % den
  if 2 * r < den then q
  else if den < 2 * r then q + 1
  else if q % 2 = 0 then q else q + 1

/-- `num / den` in units of `2 ^ scale`, as numerator and denominator. -/
def inUnits (num den : Nat) (scale : Int) : Nat × Nat :=
  if 0 ≤ scale then (num, den * Nat.pow 2 scale.toNat)
  else (num * Nat.pow 2 (-scale).toNat, den)

def ofRatio? (negative : Bool) (num den : Nat) : Option Binary64 :=
  if num = 0 then some (zero negative)
  else
    let guess : Int := max ((num.log2 : Int) - (den.log2 : Int) - 53) (-1074)
    let (n, d) := inUnits num den guess
    let scale := if Nat.pow 2 53 ≤ n / d then guess + 1 else guess
    let (n, d) := inUnits num den scale
    let m := roundQuotient n d
    let (m, scale) := if m = Nat.pow 2 53 then (Nat.pow 2 52, scale + 1) else (m, scale)
    if 971 < scale then none else some ⟨negative, m, scale⟩

def ofNat? (negative : Bool) (n : Nat) : Option Binary64 :=
  ofRatio? negative n 1

/-- The product with a power of ten that is itself a rounded number. -/
def mulPower? (x : Binary64) (exponent : Nat) : Option Binary64 := do
  let power ← ofNat? false (Nat.pow 10 exponent)
  let (n, d) := x.ratio
  let (pn, pd) := power.ratio
  ofRatio? x.negative (n * pn) (d * pd)

def divPower? (x : Binary64) (exponent : Nat) : Option Binary64 := do
  let power ← ofNat? false (Nat.pow 10 exponent)
  let (n, d) := x.ratio
  let (pn, pd) := power.ratio
  ofRatio? x.negative (n * pd) (d * pn)

def maxPower : Nat := 308

/-- Scales by a power of ten in one step where that power is a number; otherwise a negative
exponent is worked off in steps of the greatest power, and a positive one is too large. -/
def scaleByTen? (x : Binary64) (exponent : Int) : Option Binary64 :=
  if exponent.natAbs ≤ maxPower then
    if 0 ≤ exponent then x.mulPower? exponent.natAbs else x.divPower? exponent.natAbs
  else if x.isZero then some x
  else if _h : 0 ≤ exponent then none
  else do
    let y ← x.divPower? maxPower
    scaleByTen? y (exponent + maxPower)
termination_by exponent.natAbs
decreasing_by
  have : maxPower = 308 := rfl
  omega

end Binary64

end EventSchema
