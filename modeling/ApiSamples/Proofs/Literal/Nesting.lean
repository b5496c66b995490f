import ApiSamples.Proofs.Json.Parts
import ApiSamples.Proofs.Literal.Synthesis
import ApiSamples.Proofs.Literal.Traversal
import Mathlib.Logic.Function.Iterate

namespace ApiSamples

namespace Literal

mutual

def depth : Literal → Nat
  | absent => 0
  | scalar _ => 0
  | object entries => entriesDepth entries + 1
  | list items => itemsDepth items + 1

def entriesDepth : List (String × Literal) → Nat
  | [] => 0
  | (_, value) :: entries => max (depth value) (entriesDepth entries)

def itemsDepth : List Literal → Nat
  | [] => 0
  | item :: items => max (depth item) (itemsDepth items)

end

theorem depth_object_le_iff {entries : List (String × Literal)} {n : Nat} :
    (object entries).depth ≤ n + 1 ↔ ∀ e ∈ entries, e.2.depth ≤ n := by
  rw [depth, Nat.succ_le_succ_iff]
  induction entries with
  | nil => simp [entriesDepth]
  | cons e entries ih => rw [entriesDepth, Nat.max_le, ih, List.forall_mem_cons]

theorem depth_list_le_iff {items : List Literal} {n : Nat} :
    (list items).depth ≤ n + 1 ↔ ∀ item ∈ items, item.depth ≤ n := by
  rw [depth, Nat.succ_le_succ_iff]
  induction items with
  | nil => simp [itemsDepth]
  | cons item items ih => rw [itemsDepth, Nat.max_le, ih, List.forall_mem_cons]

end Literal

namespace Scope

/-- One call of the synthesis, where `write` answers the calls that it makes. -/
def synthesizeStep (scope : Scope) (write : TypeExpr → Json → Noted Literal) (type : TypeExpr)
    (value : Json) : Noted Literal :=
  if value.isNull then pure .absent
  else match type with
  | .primitive kind => pure (.scalar (Scalar.literal kind value))
  | .dictionary _ => pure (.scalar (Scalar.literal .object value))
  | .enum name =>
    match scope.model.enumeration? name with
    | some e => scope.enumLiteral e value
    | none => unknownLiteral (.enum name) value
  | .sequence element =>
    match value with
    | .array items => do return .list (← items.mapM (write element))
    | _ => pure .absent
  | .composite name =>
    match scope.model.composite? name with
    | none => unknownLiteral (.composite name) value
    | some c => if value.isObject then scope.writeObject write c value else pure .absent

variable {scope : Scope} {type : TypeExpr} {value : Json}

theorem synthesizeStep_synthesize (scope : Scope) (type : TypeExpr) (value : Json) :
    scope.synthesizeStep scope.synthesize type value = scope.synthesize type value := by
  rw [synthesize.eq_def]
  unfold synthesizeStep
  by_cases hnull : value.isNull = true
  · rw [if_pos hnull, if_pos hnull]
  · rw [if_neg hnull, if_neg hnull]
    cases type with
    | primitive kind => rfl
    | dictionary element => rfl
    | enum name => rfl
    | sequence element =>
      cases value with
      | array items => simp
      | _ => rfl
    | composite name =>
      dsimp only
      cases hc : scope.model.composite? name with
      | none => rfl
      | some c =>
        dsimp only
        by_cases hv : value.isObject = true
        · rw [if_pos hv, if_pos hv]
          exact (scope.eq_writeObject scope.synthesize c value).symm
        · rw [if_neg hv, if_neg hv]

theorem synthesizeStep_congr {write other : TypeExpr → Json → Noted Literal}
    (h : ∀ y, scope.Leads (type, value) y → write y.1 y.2 = other y.1 y.2) :
    scope.synthesizeStep write type value = scope.synthesizeStep other type value := by
  unfold synthesizeStep
  split
  · rfl
  · cases type with
    | primitive kind => rfl
    | dictionary element => rfl
    | enum name => rfl
    | sequence element =>
      cases value with
      | array items =>
        have hitems : ∀ item ∈ items, write element item = other element item :=
          fun item hi => h _ (.item hi)
        dsimp only
        rw [Noted.mapM_congr hitems]
      | _ => rfl
    | composite name =>
      dsimp only
      cases hc : scope.model.composite? name with
      | none => rfl
      | some c =>
        dsimp only
        by_cases hv : value.isObject = true
        · have hproperties : ∀ p ∈ c.properties,
              writeProperty write c value p = writeProperty other c value p := by
            intro p hp
            unfold writeProperty
            split
            · next found hf => rw [h _ (.property hc hv hp hf)]
            · rfl
          rw [if_pos hv, if_pos hv, writeObject, Noted.mapM_congr hproperties, writeObject]
        · rw [if_neg hv, if_neg hv]

theorem contains_of_leads {x y : TypeExpr × Json} (h : scope.Leads x y) : x.2.Contains y.2 := by
  cases h with
  | item hi => exact .single (.item hi)
  | property hc hv hp hf => exact Json.contains_of_select? hf

/-- With one call more than the value is deep, nothing is left to be answered. -/
theorem iterate_synthesizeStep (write : TypeExpr → Json → Noted Literal) {n : Nat}
    (h : value.depth < n) :
    ((scope.synthesizeStep)^[n] write) type value = scope.synthesize type value := by
  induction n generalizing type value with
  | zero => omega
  | succ n ih =>
    rw [Function.iterate_succ_apply', ← synthesizeStep_synthesize]
    apply synthesizeStep_congr
    intro y hy
    have hlt : y.2.depth < value.depth := (contains_of_leads hy).depth_lt
    apply ih
    omega

theorem depth_objectLiteral_le {c : Composite} {entries : List (String × Literal)} {n : Nat}
    (h : ∀ e ∈ entries, e.2.depth ≤ n) : (scope.objectLiteral c value entries).depth ≤ n + 1 := by
  unfold objectLiteral
  split
  · split
    · simp [Literal.depth]
    · exact Literal.depth_object_le_iff.mpr h
  · exact Literal.depth_object_le_iff.mpr h

theorem depth_writeObject_le {write : TypeExpr → Json → Noted Literal} {c : Composite} {n : Nat}
    (h : ∀ p ∈ c.properties, ∀ found, value.select? p.wireName = some found →
      (write p.type found).value.depth ≤ n) :
    (scope.writeObject write c value).value.depth ≤ n + 1 := by
  rw [writeObject, Noted.value_bind, Noted.value_pure, Noted.value_mapM]
  apply depth_objectLiteral_le
  intro e he
  rw [List.reduceOption_mem_iff] at he
  obtain ⟨p, hp, hentry⟩ := List.mem_map.mp he
  unfold writeProperty at hentry
  split at hentry
  · next found hf =>
    cases hentry
    exact h p hp found hf
  · split at hentry <;> cases hentry

/-- Each call adds one pair of brackets at most, and none where the value has no parts. -/
theorem depth_synthesizeStep_le {write : TypeExpr → Json → Noted Literal}
    (h : ∀ y, scope.Leads (type, value) y → (write y.1 y.2).value.depth ≤ y.2.depth) :
    (scope.synthesizeStep write type value).value.depth ≤ value.depth := by
  have hparts : ∀ n, value.depth = n + 1 → ∀ y, scope.Leads (type, value) y →
      (write y.1 y.2).value.depth ≤ n := by
    intro n hn y hy
    have hlt : y.2.depth < value.depth := (contains_of_leads hy).depth_lt
    have hle := h y hy
    omega
  unfold synthesizeStep
  split
  · exact Nat.zero_le _
  · cases type with
    | primitive kind => exact Nat.zero_le _
    | dictionary element => exact Nat.zero_le _
    | enum name =>
      dsimp only
      cases he : scope.model.enumeration? name with
      | none => exact Nat.zero_le _
      | some e =>
        obtain ⟨scalar, hs⟩ := scope.enumLiteral_eq e value
        dsimp only
        rw [hs]
        exact Nat.zero_le _
    | sequence element =>
      cases value with
      | array items =>
        dsimp only
        rw [Noted.value_bind, Noted.value_pure, Noted.value_mapM]
        apply Literal.depth_list_le_iff.mpr
        intro literal hl
        obtain ⟨item, hi, rfl⟩ := List.mem_map.mp hl
        exact hparts _ rfl _ (.item hi)
      | _ => exact Nat.zero_le _
    | composite name =>
      dsimp only
      cases hc : scope.model.composite? name with
      | none => exact Nat.zero_le _
      | some c =>
        dsimp only
        by_cases hv : value.isObject = true
        · cases value with
          | object fields =>
            rw [if_pos hv]
            apply depth_writeObject_le
            intro p hp found hf
            exact hparts _ rfl _ (.property hc hv hp hf)
          | _ => cases hv
        · rw [if_neg hv]
          exact Nat.zero_le _

theorem depth_synthesize_le (scope : Scope) (type : TypeExpr) (value : Json) :
    (scope.synthesize type value).value.depth ≤ value.depth := by
  induction hn : value.depth using Nat.strongRecOn generalizing type value with
  | _ n ih =>
    subst hn
    rw [← synthesizeStep_synthesize]
    apply depth_synthesizeStep_le
    intro y hy
    exact ih y.2.depth (contains_of_leads hy).depth_lt y.1 y.2 rfl

/-- The synthesis ends for every type and value: a path selects proper parts only, a call asks for the
literals of proper parts only, whatever answers a call that is nested deeper than the value is never
asked, and brackets are nested no deeper either. -/
theorem synthesis_ends (scope : Scope) (type : TypeExpr) (value : Json) :
    (∀ path found, value.select? path = some found → value.Contains found) ∧
    (∀ write, (∀ other part, value.Contains part → write other part = scope.synthesize other part) →
      scope.synthesizeStep write type value = scope.synthesize type value) ∧
    (∀ write n, value.depth < n →
      ((scope.synthesizeStep)^[n] write) type value = scope.synthesize type value) ∧
    (scope.synthesize type value).value.depth ≤ value.depth := by
  refine ⟨fun _ _ hf => Json.contains_of_select? hf, ?_, ?_, depth_synthesize_le scope type value⟩
  · intro write hwrite
    rw [← synthesizeStep_synthesize]
    apply synthesizeStep_congr
    intro y hy
    exact hwrite y.1 y.2 (contains_of_leads hy)
  · intro write n hn
    exact iterate_synthesizeStep write hn

/-- Links that refer to themselves, once by a name and once by a name without characters. -/
def links : Scope :=
  { model :=
      { name := "C"
        family := .typeScript
        composites := [{
          className := "Link"
          properties := [.plain "next" (.composite "Link") false, ⟨"self", "", .composite "Link", false⟩] }] }
    modelsNamespace := "CModels"
    inlineIds := false }

def chain : Json := .object [("", .object [("next", .object [])])]

theorem chain_ends :
    chain.depth < 4 ∧
    ((links.synthesizeStep)^[4] fun _ _ => pure .absent) (.composite "Link") chain =
      links.synthesize (.composite "Link") chain ∧
    (links.synthesize (.composite "Link") chain).value.depth ≤ 3 := by
  have hdepth : chain.depth = 3 := rfl
  obtain ⟨-, -, hcalls, hbrackets⟩ := synthesis_ends links (.composite "Link") chain
  have hless : chain.depth < 4 := by omega
  exact ⟨hless, hcalls _ 4 hless, hdepth ▸ hbrackets⟩

end Scope

end ApiSamples
