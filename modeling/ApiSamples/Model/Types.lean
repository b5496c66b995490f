import ApiSamples.Model.Kind

namespace ApiSamples

inductive TypeExpr where
  | primitive (kind : Kind)
  | enum (name : String)
  | composite (name : String)
  | sequence (element : TypeExpr)
  | dictionary (value : TypeExpr)
  deriving DecidableEq, Repr

inductive Reference where
  | enum (name : String)
  | composite (name : String)
  deriving DecidableEq, Repr

namespace Reference

def name : Reference → String
  | enum name | composite name => name

end Reference

namespace TypeExpr

def reference? : TypeExpr → Option Reference
  | enum name => some (.enum name)
  | composite name => some (.composite name)
  | _ => none

def references : TypeExpr → List Reference
  | primitive _ => []
  | enum name => [.enum name]
  | composite name => [.composite name]
  | sequence element => references element
  | dictionary value => references value

end TypeExpr

/-- A property of a composite, or a parameter of an operation. The wire name says where its value
stands in recorded data. -/
structure Field where
  name : String
  wireName : String
  type : TypeExpr
  required : Bool
  deriving DecidableEq, Repr

namespace Field

def plain (name : String) (type : TypeExpr) (required : Bool) : Field :=
  ⟨name, name, type, required⟩

def withWireName (f : Field) (wireName : String) : Field := { f with wireName := wireName }

end Field

structure Composite where
  className : String
  properties : List Field := []
  deriving DecidableEq, Repr

namespace Composite

def shortName (c : Composite) : String :=
  String.ofList (c.className.toList.reverse.takeWhile (· != '.')).reverse

end Composite

/-- An extensible enumeration admits values that it does not declare. -/
structure Enumeration where
  className : String
  values : List String := []
  extensible : Bool := false
  deriving DecidableEq, Repr

end ApiSamples
