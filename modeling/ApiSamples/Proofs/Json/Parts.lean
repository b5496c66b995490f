import ApiSamples.Json.Address
import Mathlib.Logic.Relation

namespace ApiSamples.Json

inductive HasPart : Json → Json → Prop
  | item {items : List Json} {w : Json} (h : w ∈ items) : HasPart (.array items) w
  | field {fields : Fields} {key : String} {w : Json} (h : (key, w) ∈ fields) :
    HasPart (.object fields) w

/-- Parts, parts of parts and so on, but not the value itself. -/
def Contains (v w : Json) : Prop := Relation.TransGen HasPart v w

theorem itemsDepth_le_iff {items : List Json} {n : Nat} :
    itemsDepth items ≤ n ↔ ∀ item ∈ items, item.depth ≤ n := by
  induction items with
  | nil => simp [itemsDepth]
  | cons item items ih => rw [itemsDepth, Nat.max_le, ih, List.forall_mem_cons]

theorem fieldsDepth_le_iff {fields : Fields} {n : Nat} :
    fieldsDepth fields ≤ n ↔ ∀ field ∈ fields, field.2.depth ≤ n := by
  induction fields with
  | nil => simp [fieldsDepth]
  | cons field fields ih => rw [fieldsDepth, Nat.max_le, ih, List.forall_mem_cons]

variable {v w : Json}

theorem hasPart_array_iff {items : List Json} : HasPart (.array items) w ↔ w ∈ items := by
  refine ⟨fun h => ?_, .item⟩
  cases h with
  | item hw => exact hw

theorem hasPart_object_iff {fields : Fields} :
    HasPart (.object fields) w ↔ ∃ key, (key, w) ∈ fields := by
  refine ⟨fun h => ?_, fun ⟨_, hw⟩ => .field hw⟩
  cases h with
  | field hw => exact ⟨_, hw⟩

theorem contains_iff : v.Contains w ↔ ∃ u, HasPart v u ∧ (u = w ∨ u.Contains w) := by
  constructor
  · intro h
    obtain ⟨u, hu, hw⟩ := Relation.TransGen.head'_iff.mp h
    refine ⟨u, hu, ?_⟩
    exact (Relation.reflTransGen_iff_eq_or_transGen.mp hw).imp_left Eq.symm
  · rintro ⟨u, hu, rfl | hw⟩
    · exact .single hu
    · exact .head hu hw

theorem HasPart.depth_lt (h : HasPart v w) : w.depth < v.depth := by
  cases h with
  | item hw =>
    rw [depth, Nat.lt_succ_iff]
    exact itemsDepth_le_iff.mp (Nat.le_refl _) w hw
  | field hw =>
    rw [depth, Nat.lt_succ_iff]
    exact fieldsDepth_le_iff.mp (Nat.le_refl _) _ hw

theorem Contains.depth_lt (h : v.Contains w) : w.depth < v.depth := by
  induction h with
  | single h => exact h.depth_lt
  | tail _ h ih => exact Nat.lt_trans h.depth_lt ih

theorem hasPart_of_field? {key : String} (h : v.field? key = some w) : HasPart v w := by
  cases v with
  | object fields =>
    obtain ⟨⟨k, u⟩, hf, rfl⟩ := Option.map_eq_some_iff.mp h
    exact .field (List.mem_of_find?_eq_some hf)
  | _ => cases h

theorem hasPart_of_item? {i : Nat} (h : v.item? i = some w) : HasPart v w := by
  cases v with
  | array items => exact .item (List.mem_of_getElem? h)
  | _ => cases h

theorem hasPart_of_step? {step : Address.Step} (h : v.step? step = some w) : HasPart v w := by
  cases step with
  | key name => exact hasPart_of_field? h
  | index n => exact hasPart_of_item? h

theorem reaches_of_at? {steps : List Address.Step} (h : v.at? steps = some w) :
    Relation.ReflTransGen HasPart v w := by
  induction steps generalizing v with
  | nil =>
    cases h
    exact .refl
  | cons step steps ih =>
    obtain ⟨u, hu, hw⟩ := Option.bind_eq_some_iff.mp h
    exact (ih hw).head (hasPart_of_step? hu)

/-- A path may be no path at all, a key, or several keys and indices; it always leads down. -/
theorem contains_of_select? {path : String} (h : v.select? path = some w) : v.Contains w := by
  unfold select? at h
  split at h
  · next u hu =>
    cases h
    exact .single (hasPart_of_field? hu)
  · split at h
    · cases h
    · obtain ⟨u, hu, hw⟩ := Option.bind_eq_some_iff.mp h
      exact .head' (hasPart_of_step? hu) (reaches_of_at? hw)

end ApiSamples.Json
