import ApiSamples.Diagnostic.Sink
import ApiSamples.Proofs.Literal.Traversal

namespace ApiSamples

structure Visit where
  composite : Composite
  value : Json
  property : Field

namespace Visit

def missing? (v : Visit) : Option Diagnostic :=
  if v.property.required && (v.value.select? v.property.wireName).isNone then
    some (.missingField v.composite.className v.property.name)
  else none

end Visit

namespace CodeModel

/-- The properties on the way through a value: those of an object as they are declared, behind each of them
those of the value that is selected for it, and those of the items of an array one item after the other. -/
def visits (m : CodeModel) (type : TypeExpr) (value : Json) : List Visit :=
  match type with
  | .sequence element =>
    match _shape : value with
    | .array items => items.attach.flatMap fun item => m.visits element item.1
    | _ => []
  | .composite name =>
    match m.composite? name with
    | some c =>
      if value.isObject then
        c.properties.flatMap fun p =>
          ⟨c, value, p⟩ :: match _selected : value.select? p.wireName with
            | some found => m.visits p.type found
            | none => []
      else []
    | none => []
  | .primitive _ | .enum _ | .dictionary _ => []
termination_by value
decreasing_by
  · subst _shape
    have := List.sizeOf_lt_of_mem item.2
    simp only [Json.array.sizeOf_spec]
    omega
  · exact Json.sizeOf_lt_of_select? _selected

variable {m : CodeModel} {type : TypeExpr} {value : Json}

theorem visits_array (m : CodeModel) (element : TypeExpr) (items : List Json) :
    m.visits (.sequence element) (.array items) = items.flatMap (m.visits element) := by
  rw [visits]
  simp

theorem visits_object {name : String} {c : Composite} (hc : m.composite? name = some c)
    (hv : value.isObject = true) :
    m.visits (.composite name) value = c.properties.flatMap fun p =>
      ⟨c, value, p⟩ :: (value.select? p.wireName).toList.flatMap (m.visits p.type) := by
  rw [visits]
  simp only [hc, hv, if_true]
  refine List.flatMap_congr fun p _ => ?_
  split
  · next found hf => simp [hf]
  · next hf => simp [hf]

theorem visits_of_isNull (h : value.isNull = true) : m.visits type value = [] := by
  obtain rfl := Json.isNull_iff.mp h
  rw [visits.eq_def]
  cases type with
  | composite name =>
    dsimp only
    split <;> rfl
  | _ => rfl

end CodeModel

theorem diagnosticsOf_flatMap {α : Type} (f : α → List Note) (xs : List α) :
    diagnosticsOf (xs.flatMap f) = xs.flatMap fun x => diagnosticsOf (f x) := List.filterMap_flatMap

namespace Scope

variable {scope : Scope}

theorem diagnostics_enumLiteral (scope : Scope) (e : Enumeration) (value : Json) :
    diagnosticsOf (scope.enumLiteral e value).notes = [] := by
  unfold enumLiteral
  cases declared? e value with
  | some declared => rfl
  | none =>
    by_cases h : (!e.extensible && !e.values.isEmpty) = true
    · simp [h, diagnosticsOf, Note.diagnostic?]
    · simp [h, diagnosticsOf]

theorem diagnostics_writeProperty {write : TypeExpr → Json → Noted Literal} {c : Composite} {value : Json}
    {p : Field} {way : TypeExpr → Json → List Visit}
    (h : ∀ found, value.select? p.wireName = some found →
      diagnosticsOf (write p.type found).notes = (way p.type found).filterMap Visit.missing?) :
    diagnosticsOf (writeProperty write c value p).notes =
      (⟨c, value, p⟩ :: (value.select? p.wireName).toList.flatMap (way p.type)).filterMap
        Visit.missing? := by
  unfold writeProperty
  cases hf : value.select? p.wireName with
  | some found =>
    have hpresent : Visit.missing? ⟨c, value, p⟩ = none := by simp [Visit.missing?, hf]
    simp [List.filterMap_cons_none hpresent, h found hf]
  | none =>
    by_cases hrequired : p.required = true
    · simp [Visit.missing?, hf, hrequired, diagnosticsOf, Note.diagnostic?]
    · simp [Visit.missing?, hf, hrequired, diagnosticsOf]

/-- Each required property on the way for which nothing is selected is reported, and nothing else. -/
theorem diagnostics_synthesize (scope : Scope) (type : TypeExpr) (value : Json) :
    (scope.synthesize type value).diagnostics =
      (scope.model.visits type value).filterMap Visit.missing? := by
  rw [Noted.diagnostics]
  fun_induction scope.synthesize type value with
  | case1 type value hnull => rw [CodeModel.visits_of_isNull hnull]; rfl
  | case2 value hnull kind => rw [CodeModel.visits]; rfl
  | case3 value hnull element => rw [CodeModel.visits]; rfl
  | case4 value hnull name e he =>
    rw [CodeModel.visits, diagnostics_enumLiteral]
    rfl
  | case5 value hnull name he => rw [CodeModel.visits]; rfl
  | case6 element items hnull ih =>
    simp only [Noted.notes_bind, Noted.notes_mapM, Noted.notes_pure, List.append_nil,
      diagnosticsOf_flatMap, ih]
    rw [CodeModel.visits_array, List.filterMap_flatMap]
    simp
  | case7 value hnull element hshape =>
    cases value with
    | array items => exact absurd rfl (hshape items)
    | _ => rw [CodeModel.visits.eq_def]; rfl
  | case8 value hnull name hc =>
    rw [CodeModel.visits]
    simp only [hc]
    rfl
  | case9 value hnull name c hc hv ih =>
    have hobject : diagnosticsOf (scope.writeObject scope.synthesize c value).notes =
        (scope.model.visits (.composite name) value).filterMap Visit.missing? := by
      simp only [writeObject, Noted.notes_bind, Noted.notes_mapM, Noted.notes_pure, List.append_nil,
        diagnosticsOf_flatMap]
      rw [CodeModel.visits_object hc hv, List.filterMap_flatMap]
      exact List.flatMap_congr fun p _ => diagnostics_writeProperty (ih p)
    rw [← hobject]
    exact congrArg (fun noted => diagnosticsOf noted.notes) (scope.eq_writeObject scope.synthesize c value)
  | case10 value hnull name c hc hv =>
    rw [CodeModel.visits]
    simp only [hc, if_neg hv]
    rfl

/-- Where a visit belongs: an object that the synthesis comes to, and a property of its composite. -/
def Comes (scope : Scope) (start : TypeExpr × Json) (v : Visit) : Prop :=
  ∃ name, scope.Reaches start (.composite name, v.value) ∧
    scope.model.composite? name = some v.composite ∧ v.value.isObject = true ∧
    v.property ∈ v.composite.properties

theorem comes_of_leads {x y : TypeExpr × Json} {v : Visit} (h : scope.Leads x y) (hv : scope.Comes y v) :
    scope.Comes x v := by
  obtain ⟨name, hreach, hrest⟩ := hv
  exact ⟨name, hreach.head h, hrest⟩

theorem comes_of_mem_visits {type : TypeExpr} {value : Json} {v : Visit}
    (h : v ∈ scope.model.visits type value) : scope.Comes (type, value) v := by
  fun_induction CodeModel.visits scope.model type value with
  | case1 element items ih =>
    obtain ⟨item, -, hitem⟩ := List.mem_flatMap.mp h
    exact comes_of_leads (.item item.2) (ih item hitem)
  | case3 value name c hc hv ih =>
    obtain ⟨p, hp, hvisit⟩ := List.mem_flatMap.mp h
    rcases List.mem_cons.mp hvisit with rfl | hbelow
    · exact ⟨name, .refl, hc, hv, hp⟩
    · split at hbelow
      · next found hf => exact comes_of_leads (.property hc hv hp hf) (ih p found hf hbelow)
      · cases hbelow
  | _ => cases h

theorem mem_visits_of_comes {start : TypeExpr × Json} {v : Visit} (h : scope.Comes start v) :
    v ∈ scope.model.visits start.1 start.2 := by
  obtain ⟨name, hreach, hc, hv, hp⟩ := h
  induction hreach using Relation.ReflTransGen.head_induction_on with
  | refl =>
    rw [CodeModel.visits_object hc hv]
    exact List.mem_flatMap.mpr ⟨v.property, hp, List.mem_cons_self⟩
  | head hstep _ ih =>
    cases hstep with
    | item hitem =>
      rw [CodeModel.visits_array]
      exact List.mem_flatMap.mpr ⟨_, hitem, ih⟩
    | property hc hv hp hf =>
      rw [CodeModel.visits_object hc hv]
      refine List.mem_flatMap.mpr ⟨_, hp, List.mem_cons_of_mem _ ?_⟩
      rw [hf]
      simpa using ih

end Scope

theorem collected_foldl_record {κ : Type} [DecidableEq κ] (r : Received κ) (k : κ) (ds : List Diagnostic) :
    (ds.foldl (Sink.collector k).record r).collected k = r.collected k ++ ds := by
  induction ds generalizing r with
  | nil => simp
  | cons d ds ih =>
    have hfirst : ((Sink.collector k).record r d).collected k = r.collected k ++ [d] :=
      Received.collected_deliver_self r d k
    rw [List.foldl_cons, ih, hfirst, List.append_assoc, List.singleton_append]

/-- What a synthesis reports are the required properties without a value, one for each that its way comes
to, in the order of the way. Neither the names nor the options of the scope matter, nor what becomes of the
literal, and a collector keeps what it has before it. -/
theorem Scope.diagnostics_exact (scope : Scope) (type : TypeExpr) (value : Option Json) :
    (scope.synthesize? type value).diagnostics =
      (value.toList.flatMap (scope.model.visits type)).filterMap Visit.missing? ∧
    (∀ visit, visit ∈ value.toList.flatMap (scope.model.visits type) ↔
      ∃ start ∈ value, scope.Comes (type, start) visit) ∧
    (∀ other : Scope, other.model = scope.model →
      (other.synthesize? type value).diagnostics = (scope.synthesize? type value).diagnostics) ∧
    (∀ (κ : Type) [DecidableEq κ] (r : Received κ) (k : κ),
      ((scope.synthesize? type value).diagnostics.foldl (Sink.collector k).record r).collected k =
        r.collected k ++ (value.toList.flatMap (scope.model.visits type)).filterMap Visit.missing?) := by
  have hreported : ∀ scope : Scope, (scope.synthesize? type value).diagnostics =
      (value.toList.flatMap (scope.model.visits type)).filterMap Visit.missing? := by
    intro scope
    cases value with
    | none => rfl
    | some value =>
      rw [Option.toList_some, List.flatMap_singleton]
      exact scope.diagnostics_synthesize type value
  refine ⟨hreported scope, fun visit => ?_, fun other hmodel => ?_, fun κ _ r k => ?_⟩
  · cases value with
    | none => simp
    | some value =>
      have hvisit : visit ∈ scope.model.visits type value ↔ scope.Comes (type, value) visit :=
        ⟨comes_of_mem_visits, mem_visits_of_comes⟩
      simpa using hvisit
  · rw [hreported, hreported, hmodel]
  · rw [collected_foldl_record, hreported]

end ApiSamples
