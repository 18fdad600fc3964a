import EventSchema.Number.Binary64

/-!
The shortest decimal that reads back as a given number. Its digits are found by trying one digit,
two digits, and so on: the first decimal grid with a point in the interval of reals that round to
the number gives them, and of two such points the nearer one.
-/

set_option autoImplicit false

namespace EventSchema.Binary64

/-- `digits * 10 ^ exponent`. -/
structure Decimal where
  digits : Nat
  exponent : Int
deriving DecidableEq, Repr

/-- The number and the ends of its rounding interval, all over one denominator. -/
structure Interval where
  low : Nat
  value : Nat
  high : Nat
  denominator : Nat
  closed : Bool

def interval (x : Binary64) : Interval :=
  let low :=
    if x.mantissa = Nat.pow 2 52 ∧ -1074 < x.scale then 4 * x.mantissa - 1
    else 4 * x.mantissa - 2
  let scale := x.scale - 2
  let up := if 0 ≤ scale then Nat.pow 2 scale.toNat else 1
  let down := if 0 ≤ scale then 1 else Nat.pow 2 (-scale).toNat
  ⟨low * up, 4 * x.mantissa * up, (4 * x.mantissa + 2) * up, down, x.mantissa % 2 == 0⟩

def powerOfTen (exponent : Int) : Nat × Nat :=
  if 0 ≤ exponent then (Nat.pow 10 exponent.toNat, 1) else (1, Nat.pow 10 (-exponent).toNat)

def Interval.holds (i : Interval) (d : Decimal) : Bool :=
  let (pn, pd) := powerOfTen d.exponent
  let point := d.digits * pn * i.denominator
  if i.closed then decide (i.low * pd ≤ point) && decide (point ≤ i.high * pd)
  else decide (i.low * pd < point) && decide (point < i.high * pd)

def Interval.below (i : Interval) (exponent : Int) : Nat :=
  let (pn, pd) := powerOfTen exponent
  i.value * pd / (i.denominator * pn)

/-- Whether the upper of two neighbouring grid points is the nearer one; a tie goes to the even. -/
def Interval.upperNearer (i : Interval) (exponent : Int) (below : Nat) : Bool :=
  let (pn, pd) := powerOfTen exponent
  let twice := 2 * i.value * pd
  let middle := (2 * below + 1) * pn * i.denominator
  decide (middle < twice) || (middle == twice && below % 2 == 1)

def Interval.onGrid? (i : Interval) (exponent : Int) : Option Decimal :=
  let below := i.below exponent
  let lower : Decimal := ⟨below, exponent⟩
  let upper : Decimal := ⟨below + 1, exponent⟩
  match decide (below ≠ 0) && i.holds lower, i.holds upper with
  | true, true => some (if i.upperNearer exponent below then upper else lower)
  | true, false => some lower
  | false, true => some upper
  | false, false => none

def Interval.leading (i : Interval) : Int :=
  let guess : Int := ((i.value.log2 : Int) - (i.denominator.log2 : Int)) * 30103 / 100000
  if i.below (guess + 2) ≠ 0 then guess + 2
  else if i.below (guess + 1) ≠ 0 then guess + 1
  else if i.below guess ≠ 0 then guess
  else guess - 1

def Interval.firstHit (i : Interval) (leading : Int) : Nat → Nat → Decimal
  | 0, count => ⟨i.below (leading - count), leading - count⟩
  | tries + 1, count =>
    match i.onGrid? (leading - count) with
    | some d => d
    | none => i.firstHit leading tries (count + 1)

def Decimal.normalize (d : Decimal) : Decimal :=
  if h : d.digits ≠ 0 ∧ d.digits % 10 = 0 then
    Decimal.normalize ⟨d.digits / 10, d.exponent + 1⟩
  else d
termination_by d.digits
decreasing_by omega

def shortest (x : Binary64) : Decimal :=
  if x.isZero then ⟨0, 0⟩
  else
    let i := x.interval
    (i.firstHit i.leading 17 0).normalize

end EventSchema.Binary64
