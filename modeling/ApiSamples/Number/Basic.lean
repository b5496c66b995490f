import ApiSamples.Number.Numeral
import ApiSamples.Number.Shortest

namespace ApiSamples

inductive Number where
  | integer (n : Int) (fits : -(twoPow 63 : Int) ≤ n ∧ n < twoPow 64)
  | double (x : Double)
  deriving DecidableEq, Repr

namespace Number

def text : Number → String
  | integer n _ => toString n
  | double x => x.text

def ofInt? (n : Int) : Option Number :=
  if fits : -(twoPow 63 : Int) ≤ n ∧ n < twoPow 64 then some (integer n fits) else none

/-- Digits are taken up as long as the number stays below `2 ^ 64`; the rest is given back. -/
def takeFitting (n : Nat) : List Nat → Nat × List Nat
  | [] => (n, [])
  | d :: ds => if n * 10 + d < twoPow 64 then takeFitting (n * 10 + d) ds else (n, d :: ds)

/-- Division by `10 ^ 308` until the rest of the exponent is in reach or nothing is left. -/
def shrink : Nat → Double → Int → Option Double
  | 0, _, _ => none
  | fuel + 1, x, exponent =>
    if exponent.natAbs ≤ 308 then do
      let ten ← Double.ofNat? (tenPow exponent.natAbs)
      if 0 ≤ exponent then x.mul? ten else x.div? ten
    else if x.isZero then some x
    else if 0 ≤ exponent then none
    else do
      let ten ← Double.ofNat? (tenPow 308)
      shrink fuel (← x.div? ten) (exponent + 308)

/-- Nothing if the number is too large. Two divisions by `10 ^ 308` leave nothing of any
significand, so the third step is the last. -/
def scaled? (negative : Bool) (significand : Nat) (exponent : Int) : Option Double := do
  let x ← shrink 3 (← Double.ofNat? significand) exponent
  some (if negative then x.neg else x)

/-- The double that a numeral is read as. Digits of the whole part that do not fit count as zeros,
and such digits of the fraction are left out. -/
def double? (n : Numeral) : Option Double :=
  let (whole, overflow) := takeFitting 0 n.whole
  let fraction := n.fraction.getD []
  let (significand, left) := takeFitting whole fraction
  let shift : Int := overflow.length - (fraction.length - left.length : Nat)
  match n.exponent with
  | none => scaled? n.negative significand shift
  | some (negative, ds) =>
    if Numeral.value ds < twoPow 31 then scaled? n.negative significand (shift + n.power)
    else if significand ≠ 0 ∧ !negative then none
    else some (.zero n.negative)

def ofNumeral? (n : Numeral) : Option Number :=
  let int := if n.negative then -(Numeral.value n.whole : Int) else Numeral.value n.whole
  if n.isInteger ∧ !(n.negative ∧ int = 0) then
    match ofInt? int with
    | some i => some i
    | none => (double? n).map double
  else (double? n).map double

end Number

end ApiSamples
