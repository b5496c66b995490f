import ApiSamples.Json.Address
import ApiSamples.Model.Operation

namespace ApiSamples

inductive Lookup where
  | direct
  | flattened (f : Flattening)
  deriving DecidableEq, Repr

namespace Lookup

def candidates (op : Operation) : List Lookup := direct :: op.flattenings.map flattened

/-- A recorded null is a value if it is found directly, and none inside another parameter. -/
def apply (parameter : Field) (e : Example) : Lookup → Option Json
  | direct => e.parameter? parameter.wireName
  | flattened f =>
    ((e.parameter? f.holder).bind fun value => value.select? parameter.wireName).filter
      fun value => !value.isNull

end Lookup

structure Resolved where
  value : Json
  lookup : Lookup

structure Argument where
  parameter : Field
  resolved : Resolved

namespace Operation

def resolve? (op : Operation) (e : Example) (parameter : Field) : Option Resolved :=
  (Lookup.candidates op).findSome? fun lookup =>
    (lookup.apply parameter e).map fun value => ⟨value, lookup⟩

/-- The arguments for the parameters of a list that have values, or the wire name of the first
required one that has none. -/
def argumentsFor (op : Operation) (e : Example) : List Field → Except String (List Argument)
  | [] => .ok []
  | parameter :: parameters =>
    match op.resolve? e parameter with
    | some resolved => do return ⟨parameter, resolved⟩ :: (← op.argumentsFor e parameters)
    | none =>
      if parameter.required then .error parameter.wireName else op.argumentsFor e parameters

def arguments (op : Operation) (e : Example) : Except String (List Argument) :=
  op.argumentsFor e op.parameters

end Operation

end ApiSamples
