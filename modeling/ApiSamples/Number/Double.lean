namespace ApiSamples

def twoPow (n : Nat) : Nat := Nat.pow 2 n

def tenPow (n : Nat) : Nat := Nat.pow 10 n

def Double.infinityRank : Nat := 2047 * twoPow 52

/-- A sign and the number of magnitudes below; the ranks follow the order of the magnitudes. -/
structure Double where
  negative : Bool
  rank : Nat
  rank_lt : rank < Double.infinityRank
  deriving DecidableEq, Repr

namespace Double

/-- The power of two that the magnitudes around a rank are spaced by, counted from `2 ^ -1074`. -/
def scale (rank : Nat) : Nat := rank / twoPow 52 - 1

def significand (rank : Nat) : Nat :=
  if rank < twoPow 52 then rank else rank % twoPow 52 + twoPow 52

/-- The magnitude of a rank in units of `2 ^ -1074`. -/
def units (rank : Nat) : Nat := significand rank * twoPow (scale rank)

def roundDiv (num den : Nat) : Nat :=
  let q := num / den
  let twice := 2 * (num % den)
  if twice < den then q
  else if den < twice then q + 1
  else if q % 2 = 0 then q else q + 1

def nearestRank (num den : Nat) : Nat :=
  let scaled := num * twoPow 1074
  let shift := (scaled / den).log2 - 52
  shift * twoPow 52 + roundDiv scaled (den * twoPow shift)

def ofQuotient? (negative : Bool) (num den : Nat) : Option Double :=
  if h : nearestRank num den < infinityRank then some ⟨negative, nearestRank num den, h⟩ else none

def zero (negative : Bool) : Double := ⟨negative, 0, by decide⟩

def isZero (x : Double) : Bool := x.rank == 0

def neg (x : Double) : Double := { x with negative := !x.negative }

def mul? (x y : Double) : Option Double :=
  ofQuotient? (x.negative != y.negative) (units x.rank * units y.rank) (twoPow 2148)

def div? (x y : Double) : Option Double :=
  ofQuotient? (x.negative != y.negative) (units x.rank) (units y.rank)

def ofNat? (n : Nat) : Option Double := ofQuotient? false n 1

end Double

end ApiSamples
