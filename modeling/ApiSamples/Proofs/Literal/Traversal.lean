import ApiSamples.Literal.Synthesis
import ApiSamples.Proofs.Model.Defects
import Mathlib.Logic.Relation

namespace ApiSamples

namespace CodeModel

def Resolves (m : CodeModel) (type : TypeExpr) : Prop := ∀ r, type.RefersTo r → m.Declares r

theorem composite?_mem {m : CodeModel} {name : String} {c : Composite} (h : m.composite? name = some c) :
    c ∈ m.composites :=
  List.mem_of_find?_eq_some h

variable {m : CodeModel} {name : String}

theorem Resolves.isSome_composite? (h : m.Resolves (.composite name)) : (m.composite? name).isSome = true :=
  defines_iff.mpr (h (.composite name) (.composite name))

theorem Resolves.isSome_enumeration? (h : m.Resolves (.enum name)) : (m.enumeration? name).isSome = true :=
  defines_iff.mpr (h (.enum name) (.enum name))

end CodeModel

namespace Scope

/-- A synthesis for the first type and value calls itself for the second ones. -/
inductive Leads (scope : Scope) : TypeExpr × Json → TypeExpr × Json → Prop
  | item {element : TypeExpr} {items : List Json} {item : Json} (hitem : item ∈ items) :
    Leads scope (.sequence element, .array items) (element, item)
  | property {name : String} {c : Composite} {value found : Json} {p : Field}
    (hc : scope.model.composite? name = some c) (hv : value.isObject = true) (hp : p ∈ c.properties)
    (hf : value.select? p.wireName = some found) :
    Leads scope (.composite name, value) (p.type, found)

def Reaches (scope : Scope) : TypeExpr × Json → TypeExpr × Json → Prop :=
  Relation.ReflTransGen scope.Leads

variable {scope : Scope} {x y : TypeExpr × Json}

theorem sizeOf_lt_of_leads (h : scope.Leads x y) : sizeOf y.2 < sizeOf x.2 := by
  cases h with
  | item hitem =>
    have hlt := List.sizeOf_lt_of_mem hitem
    simp only [Json.array.sizeOf_spec]
    omega
  | property hc hv hp hf => exact Json.sizeOf_lt_of_select? hf

theorem resolves_of_leads (hm : scope.model.Sound) (h : scope.Leads x y)
    (hx : scope.model.Resolves x.1) : scope.model.Resolves y.1 := by
  cases h with
  | item hitem => exact fun r hr => hx r (.sequence hr)
  | property hc hv hp hf => exact hm.property_types _ (CodeModel.composite?_mem hc) _ hp

theorem resolves_of_reaches (hm : scope.model.Sound) (h : scope.Reaches x y)
    (hx : scope.model.Resolves x.1) : scope.model.Resolves y.1 := by
  induction h with
  | refl => exact hx
  | tail _ hstep ih => exact resolves_of_leads hm hstep ih

/-- What stands for values of types that the model does not have. -/
def unknownLiteral : TypeExpr → Json → Noted Literal
  | .enum _, value => pure (.scalar (Scalar.literal .string value))
  | _, value => pure (.scalar (Scalar.literal .object value))

/-- A synthesis that leaves it open what stands for values of unknown types. -/
def synthesizeWith (scope : Scope) (unknown : TypeExpr → Json → Noted Literal) (type : TypeExpr)
    (value : Json) : Noted Literal :=
  if value.isNull then pure .absent
  else match type with
  | .primitive kind => pure (.scalar (Scalar.literal kind value))
  | .dictionary _ => pure (.scalar (Scalar.literal .object value))
  | .enum name =>
    match scope.model.enumeration? name with
    | some e => scope.enumLiteral e value
    | none => unknown (.enum name) value
  | .sequence element =>
    match _shape : value with
    | .array items => do
      return .list (← items.attach.mapM fun item => scope.synthesizeWith unknown element item.1)
    | _ => pure .absent
  | .composite name =>
    match scope.model.composite? name with
    | none => unknown (.composite name) value
    | some c =>
      if value.isObject then do
        let entries ← c.properties.mapM fun p =>
          match _selected : value.select? p.wireName with
          | some found => do return some (p.name, ← scope.synthesizeWith unknown p.type found)
          | none => do
            if p.required then Noted.report (.missingField c.className p.name)
            return none
        return scope.objectLiteral c value entries.reduceOption
      else pure .absent
termination_by value
decreasing_by
  · subst _shape
    have := List.sizeOf_lt_of_mem item.2
    simp only [Json.array.sizeOf_spec]
    omega
  · exact Json.sizeOf_lt_of_select? _selected

def writeProperty (write : TypeExpr → Json → Noted Literal) (c : Composite) (value : Json) (p : Field) :
    Noted (Option (String × Literal)) :=
  match value.select? p.wireName with
  | some found => do return some (p.name, ← write p.type found)
  | none => do
    if p.required then Noted.report (.missingField c.className p.name)
    return none

/-- The literal of an object, where `write` writes the values of its properties. -/
def writeObject (scope : Scope) (write : TypeExpr → Json → Noted Literal) (c : Composite) (value : Json) :
    Noted Literal := do
  let entries ← c.properties.mapM (writeProperty write c value)
  return scope.objectLiteral c value entries.reduceOption

theorem eq_writeObject (scope : Scope) (write : TypeExpr → Json → Noted Literal) (c : Composite)
    (value : Json) :
    (do
      let entries ← c.properties.mapM fun p => match _selected : value.select? p.wireName with
        | some found => do return some (p.name, ← write p.type found)
        | none => do
          if p.required then Noted.report (.missingField c.className p.name)
          return none
      return scope.objectLiteral c value entries.reduceOption) = scope.writeObject write c value := by
  rw [writeObject]
  refine congrArg (· >>= _) (Noted.mapM_congr fun p _ => ?_)
  rw [writeProperty]
  split
  · next found hf => simp only [hf]
  · next hnone => simp only [hnone]

/-- All that the synthesis asks of unknown types is asked where it comes to one. -/
theorem synthesizeWith_eq {unknown : TypeExpr → Json → Noted Literal} {type : TypeExpr} {value : Json}
    (h : ∀ y, scope.Reaches (type, value) y →
      scope.model.Resolves y.1 ∨ unknown y.1 y.2 = unknownLiteral y.1 y.2) :
    scope.synthesizeWith unknown type value = scope.synthesize type value := by
  have hhere := h _ .refl
  fun_induction scope.synthesize type value with
  | case1 type value hnull => rw [synthesizeWith.eq_def, if_pos hnull]
  | case2 value hnull kind => rw [synthesizeWith.eq_def, if_neg hnull]
  | case3 value hnull element => rw [synthesizeWith.eq_def, if_neg hnull]
  | case4 value hnull name e he =>
    rw [synthesizeWith.eq_def, if_neg hnull]
    simp only [he]
  | case5 value hnull name he =>
    rw [synthesizeWith.eq_def, if_neg hnull]
    simp only [he]
    refine hhere.resolve_left fun hknown => ?_
    have hsome := hknown.isSome_enumeration?
    rw [he] at hsome
    cases hsome
  | case6 element items hnull ih =>
    rw [synthesizeWith.eq_def, if_neg hnull]
    have hitems : ∀ item ∈ items.attach,
        scope.synthesizeWith unknown element item.1 = scope.synthesize element item.1 := by
      intro item _
      have hbelow : ∀ y, scope.Reaches (element, item.1) y →
          scope.model.Resolves y.1 ∨ unknown y.1 y.2 = unknownLiteral y.1 y.2 :=
        fun y hy => h y (.head (.item item.2) hy)
      exact ih item hbelow (hbelow _ .refl)
    dsimp only
    rw [Noted.mapM_congr hitems]
  | case7 value hnull element hshape =>
    rw [synthesizeWith.eq_def, if_neg hnull]
    cases value with
    | array items => exact absurd rfl (hshape items)
    | _ => rfl
  | case8 value hnull name hc =>
    rw [synthesizeWith.eq_def, if_neg hnull]
    simp only [hc]
    refine hhere.resolve_left fun hknown => ?_
    have hsome := hknown.isSome_composite?
    rw [hc] at hsome
    cases hsome
  | case9 value hnull name c hc hv ih =>
    have hproperties : ∀ p ∈ c.properties, writeProperty (scope.synthesizeWith unknown) c value p =
        writeProperty scope.synthesize c value p := by
      intro p hp
      cases hf : value.select? p.wireName with
      | none => simp only [writeProperty, hf]
      | some found =>
        have hbelow : ∀ y, scope.Reaches (p.type, found) y →
            scope.model.Resolves y.1 ∨ unknown y.1 y.2 = unknownLiteral y.1 y.2 :=
          fun y hy => h y (.head (.property hc hv hp hf) hy)
        simp only [writeProperty, hf, ih p found hf hbelow (hbelow _ .refl)]
    have hobject : scope.writeObject (scope.synthesizeWith unknown) c value =
        scope.writeObject scope.synthesize c value := by
      rw [writeObject, Noted.mapM_congr hproperties, writeObject]
    rw [synthesizeWith.eq_def, if_neg hnull]
    simp only [hc, if_pos hv]
    exact ((scope.eq_writeObject _ c value).trans hobject).trans (scope.eq_writeObject _ c value).symm
  | case10 value hnull name c hc hv =>
    rw [synthesizeWith.eq_def, if_neg hnull]
    simp only [hc, if_neg hv]

theorem synthesizeWith_unknownLiteral (scope : Scope) (type : TypeExpr) (value : Json) :
    scope.synthesizeWith unknownLiteral type value = scope.synthesize type value :=
  synthesizeWith_eq fun _ _ => .inr rfl

/-- In a sound model no synthesis for a declared type comes to an unknown one. -/
theorem synthesizeWith_of_sound (hm : scope.model.Sound) (unknown : TypeExpr → Json → Noted Literal)
    {type : TypeExpr} (htype : scope.model.Resolves type) (value : Json) :
    scope.synthesizeWith unknown type value = scope.synthesize type value :=
  synthesizeWith_eq fun _ hy => .inl (resolves_of_reaches hm hy htype)

end Scope

end ApiSamples
