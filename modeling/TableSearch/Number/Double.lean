import TableSearch.Text.Basic

/-! # Doubles

Binary floating-point numbers of 64 bits, held as what they denote: a sign, a significand and a
power of two.  Every operation forms the exact result and rounds it once, to the nearest double and
on a tie to the even significand (`Double.ofRatio`), so each result is a statement about integers.
-/

namespace TableSearch

/-- A double.  A finite one is `± significand · 2 ^ exponent`; `Double.ofRatio` makes only those
whose exponent is the least one that fits. -/
inductive Double where
  | nan
  | infinite (negative : Bool)
  | finite (negative : Bool) (significand : Nat) (exponent : Int)
deriving DecidableEq, Repr

namespace Double

/-- The quotient rounded to the nearest number, a half to the even neighbour. -/
def roundDiv (numerator denominator : Nat) : Nat :=
  let quotient := numerator / denominator
  let remainder := numerator % denominator
  if 2 * remainder < denominator then quotient
  else if denominator < 2 * remainder then quotient + 1
  else quotient + quotient % 2

/-- The exponent of the smallest positive double. -/
def leastExponent : Int := -1074

/-- Zero with the given sign. -/
def zero (negative : Bool) : Double :=
  .finite negative 0 leastExponent

/-- Whether `numerator / denominator < 2 ^ exponent`. -/
def belowPower (numerator denominator : Nat) : Int → Bool
  | .ofNat power => numerator < denominator * Nat.pow 2 power
  | .negSucc power => numerator * Nat.pow 2 (power + 1) < denominator

/-- `numerator / denominator` in units of `2 ^ exponent`, rounded. -/
def unitsOf (numerator denominator : Nat) : Int → Nat
  | .ofNat power => roundDiv numerator (denominator * Nat.pow 2 power)
  | .negSucc power => roundDiv (numerator * Nat.pow 2 (power + 1)) denominator

/-- The exponent of the last place of the doubles near a positive ratio. -/
def lastPlace (numerator denominator : Nat) : Int :=
  let estimate := (Nat.log2 numerator : Int) - (Nat.log2 denominator : Int)
  let leading := if belowPower numerator denominator estimate then estimate - 1 else estimate
  max (leading - 52) leastExponent

/-- The double of a significand of at most 53 bits, infinite past the range. -/
def pack (negative : Bool) (significand : Nat) (exponent : Int) : Double :=
  if significand = Nat.pow 2 53 then
    if exponent + 1 > 971 then .infinite negative else .finite negative (Nat.pow 2 52) (exponent + 1)
  else if exponent > 971 then .infinite negative
  else .finite negative significand exponent

/-- The double nearest to `± numerator / denominator`. -/
def ofRatio (negative : Bool) (numerator denominator : Nat) : Double :=
  if numerator = 0 then zero negative
  else
    let exponent := lastPlace numerator denominator
    pack negative (unitsOf numerator denominator exponent) exponent

/-- The double nearest to `± significand · 2 ^ exponent`. -/
def ofScaled (negative : Bool) (significand : Nat) : Int → Double
  | .ofNat power => ofRatio negative (significand * Nat.pow 2 power) 1
  | .negSucc power => ofRatio negative significand (Nat.pow 2 (power + 1))

/-- The double nearest to `± digits · 10 ^ exponent`.  Exponents far outside the range are
answered without forming the power. -/
def ofDecimal (negative : Bool) (digits : Nat) (exponent : Int) : Double :=
  if digits = 0 then zero negative
  else if exponent > 400 then .infinite negative
  else if exponent + (Nat.log2 digits / 3 + 1 : Nat) < -400 then zero negative
  else
    match exponent with
    | .ofNat power => ofRatio negative (digits * Nat.pow 10 power) 1
    | .negSucc power => ofRatio negative digits (Nat.pow 10 (power + 1))

/-- The double nearest to a natural number. -/
def ofNat (n : Nat) : Double :=
  ofRatio false n 1

/-- The double nearest to an integer. -/
def ofInt (n : Int) : Double :=
  ofRatio (decide (n < 0)) n.natAbs 1

/-- The double with the opposite sign. -/
def neg : Double → Double
  | .nan => .nan
  | .infinite negative => .infinite !negative
  | .finite negative significand exponent => .finite (!negative) significand exponent

/-- The signed number of units of `2 ^ place` in a finite double whose exponent is at least
`place`. -/
def unitsAt (negative : Bool) (significand : Nat) (exponent place : Int) : Int :=
  let units : Int := (significand * Nat.pow 2 (exponent - place).toNat : Nat)
  if negative then -units else units

/-- The rounded sum.  Opposite infinities have none; an exact zero is negative only when both
terms are. -/
def add : Double → Double → Double
  | .nan, _ => .nan
  | _, .nan => .nan
  | .infinite a, .infinite b => if a = b then .infinite a else .nan
  | .infinite a, .finite _ _ _ => .infinite a
  | .finite _ _ _, .infinite b => .infinite b
  | .finite a m e, .finite b n f =>
    let place := min e f
    let sum := unitsAt a m e place + unitsAt b n f place
    if sum = 0 then zero (a && b) else ofScaled (decide (sum < 0)) sum.natAbs place

/-- The rounded difference. -/
def sub (x y : Double) : Double :=
  add x (neg y)

/-- The rounded product. -/
def mul : Double → Double → Double
  | .nan, _ => .nan
  | _, .nan => .nan
  | .infinite a, .infinite b => .infinite (a != b)
  | .infinite a, .finite b n _ => if n = 0 then .nan else .infinite (a != b)
  | .finite a m _, .infinite b => if m = 0 then .nan else .infinite (a != b)
  | .finite a m e, .finite b n f => ofScaled (a != b) (m * n) (e + f)

/-- The rounded half. -/
def half : Double → Double
  | .finite negative significand exponent => ofScaled negative significand (exponent - 1)
  | x => x

/-- The order of two doubles that are numbers; none if one is not.  Both zeros are equal. -/
def order? : Double → Double → Option Ordering
  | .nan, _ => none
  | _, .nan => none
  | .infinite a, .infinite b =>
    some (if a = b then .eq else if a then .lt else .gt)
  | .infinite a, .finite _ _ _ => some (if a then .lt else .gt)
  | .finite _ _ _, .infinite b => some (if b then .gt else .lt)
  | .finite a m e, .finite b n f =>
    let place := min e f
    some (compare (unitsAt a m e place) (unitsAt b n f place))

/-- Whether both are numbers and the first is larger. -/
def isAbove (x y : Double) : Bool :=
  order? x y == some .gt

/-- Whether a double is not a number. -/
def isNaN : Double → Bool
  | .nan => true
  | _ => false

/-- The total order of doubles: what is not a number equals itself and stands above all numbers. -/
def order (x y : Double) : Ordering :=
  match order? x y with
  | some answer => answer
  | none => if x.isNaN then if y.isNaN then .eq else .gt else .lt

/-- The double without the sign of a zero. -/
def plain : Double → Double
  | .finite _ 0 exponent => .finite false 0 exponent
  | x => x

/-- The double above a finite positive one. -/
def next : Double → Double
  | .finite negative significand exponent => pack negative (significand + 1) exponent
  | x => x

/-- Ten to the given power: the nearest double, and for the powers 23 and 210 the one above. -/
def powerOfTen (power : Int) : Double :=
  if power = 23 || power = 210 then (ofDecimal false 1 power).next else ofDecimal false 1 power

end Double

end TableSearch
