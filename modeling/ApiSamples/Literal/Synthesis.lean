import ApiSamples.Diagnostic
import ApiSamples.Json.Address
import ApiSamples.Literal.Layout
import ApiSamples.Literal.Scalar
import ApiSamples.Model.Basic

namespace ApiSamples

structure Scope where
  model : CodeModel
  /-- What enumerations are qualified with. -/
  modelsNamespace : String
  /-- A `SubResource` that has only an `id` is written as the id. -/
  inlineIds : Bool

namespace Scope

def ofModel (m : CodeModel) : Scope := ⟨m, m.namespacePrefix ++ "Models", false⟩

def isIdOnly (c : Composite) : Bool :=
  c.shortName == "SubResource" &&
    match c.properties with
    | [p] => p.wireName == "id"
    | _ => false

def objectLiteral (scope : Scope) (c : Composite) (value : Json)
    (entries : List (String × Literal)) : Literal :=
  if !entries.isEmpty && scope.inlineIds && isIdOnly c then
    match value.select? "id" with
    | some id => .scalar id.text
    | none => .object entries
  else .object entries

def declared? (e : Enumeration) : Json → Option String
  | .string s => e.values.find? fun declared => Scalar.equalsIgnoringCase declared s
  | _ => none

def enumLiteral (scope : Scope) (e : Enumeration) (value : Json) : Noted Literal := do
  let scalar ← match declared? e value with
    | some declared => pure (Json.string declared)
    | none => do
      if !e.extensible && !e.values.isEmpty then
        Noted.warn (.undeclaredEnumValue e.className value.text)
      pure value
  return .scalar
    ("<" ++ scope.modelsNamespace ++ "." ++ e.className ++ ">" ++ Scalar.literal .string scalar)

/-- The literal of a value of that type. A value that is null, or has not the shape that a
composite or a sequence needs, is written as absent. -/
def synthesize (scope : Scope) (type : TypeExpr) (value : Json) : Noted Literal :=
  if value.isNull then pure .absent
  else match type with
  | .primitive kind => pure (.scalar (Scalar.literal kind value))
  | .dictionary _ => pure (.scalar (Scalar.literal .object value))
  | .enum name =>
    match scope.model.enumeration? name with
    | some e => scope.enumLiteral e value
    | none => pure (.scalar (Scalar.literal .string value))
  | .sequence element =>
    match _shape : value with
    | .array items => do
      return .list (← items.attach.mapM fun item => scope.synthesize element item.1)
    | _ => pure .absent
  | .composite name =>
    match scope.model.composite? name with
    | none => pure (.scalar (Scalar.literal .object value))
    | some c =>
      if value.isObject then do
        let entries ← c.properties.mapM fun p =>
          match _selected : value.select? p.wireName with
          | some found => do return some (p.name, ← scope.synthesize p.type found)
          | none => do
            if p.required then Noted.report (.missingField c.className p.name)
            return none
        return scope.objectLiteral c value entries.reduceOption
      else pure .absent
termination_by value
decreasing_by
  · subst _shape
    have := List.sizeOf_lt_of_mem item.2
    simp only [Json.array.sizeOf_spec]
    omega
  · exact Json.sizeOf_lt_of_select? _selected

def synthesize? (scope : Scope) (type : TypeExpr) : Option Json → Noted Literal
  | none => pure .absent
  | some value => scope.synthesize type value

end Scope

end ApiSamples
