import ApiSamples.Number.Double

namespace ApiSamples

structure Numeral where
  negative : Bool
  whole : List Nat
  fraction : Option (List Nat)
  /-- The sign and the digits of the exponent. -/
  exponent : Option (Bool × List Nat)
  deriving DecidableEq, Repr

namespace Numeral

def digit? (c : Char) : Option Nat := if c.isDigit then some (c.toNat - 48) else none

def digits : List Char → List Nat × List Char
  | [] => ([], [])
  | c :: cs => match digit? c with
    | some d => let (ds, rest) := digits cs; (d :: ds, rest)
    | none => ([], c :: cs)

def value (ds : List Nat) : Nat := ds.foldl (fun n d => n * 10 + d) 0

def scanExponent : List Char → Option ((Bool × List Nat) × List Char)
  | cs =>
    let (negative, cs) := match cs with
      | '+' :: cs => (false, cs)
      | '-' :: cs => (true, cs)
      | cs => (false, cs)
    match digits cs with
    | ([], _) => none
    | (ds, rest) => some ((negative, ds), rest)

def scanExponent? : List Char → Option (Option (Bool × List Nat) × List Char)
  | 'e' :: cs | 'E' :: cs => (scanExponent cs).map fun (e, rest) => (some e, rest)
  | cs => some (none, cs)

/-- The part of a JSON numeral behind its sign: no needless zero in front, and digits on both
sides of a point. -/
def scanUnsigned (negative : Bool) (cs : List Char) : Option (Numeral × List Char) :=
  match digits cs with
  | ([], _) => none
  | (0 :: _ :: _, _) => none
  | (whole, rest) =>
    let fraction? := match rest with
      | '.' :: rest => match digits rest with
        | ([], _) => none
        | (ds, rest) => some (some ds, rest)
      | rest => some (none, rest)
    fraction?.bind fun (fraction, rest) =>
      (scanExponent? rest).map fun (exponent, rest) => (⟨negative, whole, fraction, exponent⟩, rest)

def scan : List Char → Option (Numeral × List Char)
  | '-' :: cs => scanUnsigned true cs
  | cs => scanUnsigned false cs

/-- A whole text: a sign, digits with an optional point and at least one digit, an optional
exponent. -/
def ofText? (cs : List Char) : Option Numeral :=
  let (negative, cs) := match cs with
    | '+' :: cs => (false, cs)
    | '-' :: cs => (true, cs)
    | cs => (false, cs)
  let (whole, rest) := digits cs
  let (fraction, rest) := match rest with
    | '.' :: rest => let (ds, rest) := digits rest; (some ds, rest)
    | rest => (none, rest)
  if whole.isEmpty && (fraction.getD []).isEmpty then none
  else match scanExponent? rest with
    | some (exponent, []) => some ⟨negative, whole, fraction, exponent⟩
    | _ => none

def isInteger (n : Numeral) : Bool := n.fraction.isNone && n.exponent.isNone

def power (n : Numeral) : Int :=
  match n.exponent with
  | none => 0
  | some (negative, ds) => if negative then -(value ds) else value ds

/-- All digits as one number, with the power of ten that it is to be taken with. -/
def scientific (n : Numeral) : Nat × Int :=
  let fraction := n.fraction.getD []
  (value (n.whole ++ fraction), n.power - fraction.length)

/-- The double nearest to the number, if it is finite. The decade of the number is looked at first,
so that no power of ten beyond the range of doubles is ever formed. -/
def nearest? (n : Numeral) : Option Double :=
  let (digits, power) := n.scientific
  let decade := power + (Nat.toDigits 10 digits).length
  if digits = 0 ∨ decade < -400 then some (.zero n.negative)
  else if 400 < decade then none
  else if 0 ≤ power then Double.ofQuotient? n.negative (digits * tenPow power.toNat) 1
  else Double.ofQuotient? n.negative digits (tenPow (-power).toNat)

end Numeral

end ApiSamples
