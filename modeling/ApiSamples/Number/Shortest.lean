import ApiSamples.Number.Double

namespace ApiSamples.Double

/-- Twice the lower midpoint, in units of `2 ^ -1074`. -/
def lowerTwice (rank : Nat) : Nat := units (rank - 1) + units rank

def upperTwice (rank : Nat) : Nat := units rank + units (rank + 1)

structure Decimal where
  digits : Nat
  power : Int
  deriving DecidableEq, Repr

namespace Decimal

def quotient (d : Decimal) : Nat × Nat :=
  if 0 ≤ d.power then (d.digits * tenPow d.power.toNat, 1) else (d.digits, tenPow (-d.power).toNat)

def readsAs (rank : Nat) (d : Decimal) : Bool :=
  let (num, den) := d.quotient
  let point := num * twoPow 1075
  let low := lowerTwice rank * den
  let high := upperTwice rank * den
  if rank % 2 = 0 then low ≤ point && point ≤ high else low < point && point < high

def strip (d : Decimal) : Decimal := go d.digits d
where
  go : Nat → Decimal → Decimal
    | 0, d => d
    | fuel + 1, d =>
      if d.digits % 10 = 0 ∧ d.digits ≠ 0 then go fuel ⟨d.digits / 10, d.power + 1⟩ else d

end Decimal

/-- The exponent of the first digit of a magnitude that is not zero. -/
def decade (rank : Nat) : Int :=
  ((Nat.toDigits 10 (units rank * tenPow 400 / twoPow 1074)).length : Int) - 401

def ratio (rank : Nat) (power : Int) : Nat × Nat :=
  if 0 ≤ power then (units rank, twoPow 1074 * tenPow power.toNat)
  else (units rank * tenPow (-power).toNat, twoPow 1074)

/-- The best decimal with `count` digits, of the two around the magnitude. -/
def candidate? (rank count : Nat) : Option Decimal :=
  let power := decade rank + 1 - count
  let (num, den) := ratio rank power
  let below : Decimal := ⟨num / den, power⟩
  let above : Decimal := ⟨num / den + 1, power⟩
  match below.readsAs rank, above.readsAs rank with
  | true, true => some ⟨roundDiv num den, power⟩
  | true, false => some below
  | false, true => some above
  | false, false => none

/-- Seventeen digits always suffice. -/
def shortest (rank : Nat) : Decimal :=
  (((List.range 17).findSome? fun count => candidate? rank (count + 1)).getD ⟨0, 0⟩).strip

/-- Positional below `10 ^ 16` and from `10 ^ -5` on, always with a point; otherwise one digit
before the point and an exponent with its sign. -/
def decimalText (d : Decimal) : String :=
  let digits := Nat.toDigits 10 d.digits
  let exponent := d.power + digits.length - 1
  let zeros (n : Nat) := List.replicate n '0'
  String.ofList <|
    if 0 ≤ d.power ∧ exponent ≤ 15 then digits ++ zeros d.power.toNat ++ ['.', '0']
    else if 0 ≤ exponent ∧ exponent ≤ 15 then
      digits.take (exponent.toNat + 1) ++ '.' :: digits.drop (exponent.toNat + 1)
    else if -5 ≤ exponent ∧ exponent < 0 then
      '0' :: '.' :: zeros (-exponent - 1).toNat ++ digits
    else
      let fraction := if digits.length = 1 then [] else '.' :: digits.drop 1
      let sign := if exponent < 0 then '-' else '+'
      digits.take 1 ++ fraction ++ 'e' :: sign :: Nat.toDigits 10 exponent.natAbs

def text (x : Double) : String :=
  (if x.negative then "-" else "") ++ if x.isZero then "0.0" else decimalText (shortest x.rank)

end ApiSamples.Double
