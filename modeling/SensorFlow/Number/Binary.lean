/-!
# Binary floating-point numbers

Measured numbers (confidences, progress) are floating-point numbers with 53 significant bits. A
number is held as the rational that it is, so that order and equality are exact; only reading a
decimal, multiplying and rounding to places go through `nearest`.
-/
namespace SensorFlow.Number
set_option autoImplicit false

/-- The quotient rounded to the nearest integer, a half to the even neighbour. -/
def roundDiv (num den : Nat) : Nat :=
  let quotient := num / den
  let rest := 2 * (num % den)
  if rest < den || (rest == den && quotient % 2 == 0) then quotient else quotient + 1

/-- `num / den` in units of `base ^ exponent`, rounded to the nearest integer. -/
def roundScaled (base num den : Nat) (exponent : Int) : Nat :=
  if 0 ≤ exponent then roundDiv num (den * base.pow exponent.toNat)
  else roundDiv (num * base.pow (-exponent).toNat) den

/-- `n` times `base ^ exponent`. -/
def scale (base n : Nat) (exponent : Int) : Rat :=
  if 0 ≤ exponent then (n * base.pow exponent.toNat : Nat)
  else (n : Rat) / (base.pow (-exponent).toNat : Nat)

/-- The exponent of the last of 53 bits of `num / den`; it is never below that of the least
positive number. -/
def lastBit (num den : Nat) : Int :=
  let guess : Int := (num.log2 : Int) - den.log2 - 53
  let guess := if Nat.pow 2 53 ≤ roundScaledDown num den guess then guess + 1 else guess
  if guess ≤ -1074 then -1074 else guess
where
  roundScaledDown (num den : Nat) (exponent : Int) : Nat :=
    if 0 ≤ exponent then num / (den * Nat.pow 2 exponent.toNat)
    else num * Nat.pow 2 (-exponent).toNat / den

/-- The nearest floating-point number, of two the one with the even last bit. -/
def nearest (x : Rat) : Rat :=
  if x.num = 0 then 0
  else
    let exponent := lastBit x.num.natAbs x.den
    let magnitude := scale 2 (roundScaled 2 x.num.natAbs x.den exponent) exponent
    if x.num < 0 then -magnitude else magnitude

/-- `x` rounded to decimal places, a half to the even neighbour. -/
def roundPlaces (places : Nat) (x : Rat) : Rat :=
  let magnitude : Rat :=
    (roundDiv (x.num.natAbs * Nat.pow 10 places) x.den : Nat) / (Nat.pow 10 places : Nat)
  nearest (if x.num < 0 then -magnitude else magnitude)

def product (x y : Rat) : Rat := nearest (x * y)

/-- The number of decimal places before the leading digit of a positive `x`, minus one. -/
def leadingPlace (x : Rat) : Int :=
  let guess : Int := ((x.num.natAbs.log2 : Int) - x.den.log2) * 30103 / 100000 - 1
  (List.range 3).foldl (fun place _ => if scale 10 1 (place + 1) ≤ x then place + 1 else place)
    guess

/-- Digits of a positive number: `digits` times ten to the power of `place`. -/
structure Decimal where
  digits : Nat
  place : Int
  deriving Repr, DecidableEq

def Decimal.value (d : Decimal) : Rat := scale 10 d.digits d.place

/-- Of the two decimals around `x` whose last digit stands at `place`, the nearer one that reads
back as `x`. -/
def decimalAt? (x : Rat) (place : Int) : Option Decimal :=
  let below : Nat :=
    if 0 ≤ place then x.num.natAbs / (x.den * Nat.pow 10 place.toNat)
    else x.num.natAbs * Nat.pow 10 (-place).toNat / x.den
  let low : Decimal := ⟨below, place⟩
  let high : Decimal := ⟨below + 1, place⟩
  let near := roundScaled 10 x.num.natAbs x.den place
  let first := if near == below then low else high
  let second := if near == below then high else low
  [first, second].find? fun d => nearest d.value == x

/-- The shortest decimal that reads back as the positive floating-point number `x`. -/
def shortest (x : Rat) : Decimal :=
  let lead := leadingPlace x
  ((List.range 17).findSome? fun (size : Nat) => decimalAt? x (lead - size)).getD
    ⟨roundScaled 10 x.num.natAbs x.den (lead - 16), lead - 16⟩

end SensorFlow.Number
