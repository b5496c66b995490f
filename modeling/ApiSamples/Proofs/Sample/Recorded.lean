import ApiSamples.Sample.Resolution

namespace ApiSamples

/-- Under the wire name of the parameter, the holder has that value, and it is not null. -/
def Flattening.Holds (f : Flattening) (e : Example) (p : Field) (v : Json) : Prop :=
  ∃ holder, e.parameter? f.holder = some holder ∧ holder.select? p.wireName = some v ∧ v ≠ .null

def Flattening.FirstHolds (fs : List Flattening) (e : Example) (p : Field) (v : Json) : Prop :=
  ∃ before f after, fs = before ++ f :: after ∧ f.Holds e p v ∧ ∀ g ∈ before, ∀ w, ¬ g.Holds e p w

namespace Operation

def Records (op : Operation) (e : Example) (p : Field) (v : Json) : Prop :=
  e.parameter? p.wireName = some v ∨
    e.parameter? p.wireName = none ∧ Flattening.FirstHolds op.flattenings e p v

def Unrecorded (op : Operation) (e : Example) (p : Field) : Prop :=
  e.parameter? p.wireName = none ∧ ∀ f ∈ op.flattenings, ∀ v, ¬ f.Holds e p v

def value? (op : Operation) (e : Example) (p : Field) : Option Json := (op.resolve? e p).map Resolved.value

def withFlattenings (op : Operation) (fs : List Flattening) : Operation := { op with flattenings := fs }

end Operation

/-- Everything that the one example records, the other records with the same value. -/
def Example.Within (e larger : Example) : Prop :=
  ∀ wireName v, e.parameter? wireName = some v → larger.parameter? wireName = some v

namespace Flattening

def held? (e : Example) (p : Field) (f : Flattening) : Option Json := (Lookup.flattened f).apply p e

variable {e : Example} {p : Field} {f : Flattening} {fs : List Flattening} {v : Json}

theorem held?_eq_some_iff : f.held? e p = some v ↔ f.Holds e p v := by
  rw [held?, Lookup.apply, Option.filter_eq_some_iff, Option.bind_eq_some_iff, Bool.not_eq_true', ←
    Bool.not_eq_true, Json.isNull_iff]
  constructor
  · rintro ⟨⟨holder, hholder, hselected⟩, hvalue⟩
    exact ⟨holder, hholder, hselected, hvalue⟩
  · rintro ⟨holder, hholder, hselected, hvalue⟩
    exact ⟨⟨holder, hholder, hselected⟩, hvalue⟩

theorem held?_eq_none_iff : f.held? e p = none ↔ ∀ v, ¬ f.Holds e p v := by
  simp only [Option.eq_none_iff_forall_ne_some, ne_eq, held?_eq_some_iff]

theorem findSome?_held?_eq_some_iff : fs.findSome? (held? e p) = some v ↔ FirstHolds fs e p v := by
  simp only [List.findSome?_eq_some_iff, held?_eq_some_iff, held?_eq_none_iff, FirstHolds]

theorem findSome?_held?_eq_none_iff :
    fs.findSome? (held? e p) = none ↔ ∀ f ∈ fs, ∀ v, ¬ f.Holds e p v := by
  simp only [List.findSome?_eq_none_iff, held?_eq_none_iff]

theorem Holds.mono {larger : Example} (h : f.Holds e p v) (hwithin : e.Within larger) :
    f.Holds larger p v := by
  obtain ⟨holder, hholder, hvalue⟩ := h
  exact ⟨holder, hwithin _ _ hholder, hvalue⟩

end Flattening

namespace Operation

open Flattening

variable {op : Operation} {e : Example} {p : Field} {v : Json}

theorem value?_eq (op : Operation) (e : Example) (p : Field) :
    op.value? e p = (e.parameter? p.wireName).or (op.flattenings.findSome? (held? e p)) := by
  have happly : op.value? e p = (Lookup.candidates op).findSome? fun lookup => lookup.apply p e := by
    rw [value?, resolve?, List.map_findSome?]
    simp [Function.comp_def]
  have hdirect : Lookup.direct.apply p e = e.parameter? p.wireName := rfl
  rw [happly, Lookup.candidates, List.findSome?_cons, List.findSome?_map, hdirect]
  cases e.parameter? p.wireName with
  | some v => rfl
  | none => rfl

theorem value?_eq_some_iff : op.value? e p = some v ↔ op.Records e p v := by
  rw [value?_eq, Option.or_eq_some_iff, findSome?_held?_eq_some_iff, Records]

theorem resolve?_eq_none_iff : op.resolve? e p = none ↔ op.Unrecorded e p := by
  rw [← Option.map_eq_none_iff (f := Resolved.value), ← value?, value?_eq, Option.or_eq_none_iff,
    findSome?_held?_eq_none_iff, Unrecorded]

theorem records_of_resolve? {r : Resolved} (h : op.resolve? e p = some r) : op.Records e p r.value := by
  rw [← value?_eq_some_iff, value?, h, Option.map_some]

/-- What is recorded in more may be another value, but something is recorded there. -/
theorem Unrecorded.anti {larger : Example} (h : op.Unrecorded larger p) (hwithin : e.Within larger) :
    op.Unrecorded e p := by
  obtain ⟨hdirect, hholders⟩ := h
  refine ⟨?_, fun f hf v hv => hholders f hf v (hv.mono hwithin)⟩
  cases hrecorded : e.parameter? p.wireName with
  | none => rfl
  | some v =>
    rw [hwithin _ _ hrecorded] at hdirect
    cases hdirect

/-- Without one of its flattenings, whichever parameter that is for, an operation has the same value for a
parameter, unless it is this flattening that decides: nothing is recorded under the wire name and no holder
before it has a value. Then the value is the same exactly if the next holder that has one has the same. -/
theorem value?_withoutFlattening_iff (op : Operation) (e : Example) (p : Field) (before after : List Flattening)
    (f : Flattening) (h : op.flattenings = before ++ f :: after) :
    (op.withFlattenings (before ++ after)).value? e p = op.value? e p ↔
      ∀ v, e.parameter? p.wireName = none → (∀ g ∈ before, ∀ w, ¬ g.Holds e p w) → f.Holds e p v →
        FirstHolds after e p v := by
  have hwith : op.value? e p = (e.parameter? p.wireName).or
      ((before.findSome? (held? e p)).or ((f.held? e p).or (after.findSome? (held? e p)))) := by
    rw [value?_eq, h, List.findSome?_append, List.findSome?_cons]
    cases f.held? e p <;> rfl
  have hwithout : (op.withFlattenings (before ++ after)).value? e p = (e.parameter? p.wireName).or
      ((before.findSome? (held? e p)).or (after.findSome? (held? e p))) := by
    rw [value?_eq, withFlattenings, List.findSome?_append]
  rw [hwith, hwithout, ← findSome?_held?_eq_none_iff]
  simp only [← held?_eq_some_iff, ← findSome?_held?_eq_some_iff]
  cases e.parameter? p.wireName with
  | some direct => simp
  | none =>
    cases before.findSome? (held? e p) with
    | some earlier => simp
    | none => cases f.held? e p <;> simp

def size : Field := .plain "size" (.primitive .string) false

def resize : Operation := { name := "resize", parameters := [size], flattenings := [⟨"tags", "body"⟩] }

def resizeCopy : Operation := resize.withFlattenings [⟨"tags", "body"⟩, ⟨"size", "copy"⟩]

/-- The size is null in the body and a text in the copy of it. -/
def copied : Example :=
  { name := "e", parameters := [("body", .object [("size", .null)]), ("copy", .object [("size", .string "x")])] }

theorem value?_without_body :
    resizeCopy.flattenings = [] ++ ⟨"tags", "body"⟩ :: [⟨"size", "copy"⟩] ∧
    (resizeCopy.withFlattenings [⟨"size", "copy"⟩]).value? copied size = resizeCopy.value? copied size ∧
    resizeCopy.value? copied size = some (.string "x") := by
  have hnull : ∀ v, ¬ Flattening.Holds ⟨"tags", "body"⟩ copied size v := held?_eq_none_iff.mp rfl
  have hsame := value?_withoutFlattening_iff resizeCopy copied size [] [⟨"size", "copy"⟩] ⟨"tags", "body"⟩ rfl
  exact ⟨rfl, hsame.mpr fun v _ _ hv => absurd hv (hnull v), rfl⟩

/-- No flattening for another parameter takes part in the value of this one. -/
def OwnFlatteningsOnly (op : Operation) (e : Example) (p : Field) : Prop :=
  ∀ before f after, op.flattenings = before ++ f :: after → f.flattened ≠ p.wireName →
    (op.withFlattenings (before ++ after)).value? e p = op.value? e p

def bodyOnly : Example := { name := "e", parameters := [("body", .object [("size", .string "x")])] }

/-- The size comes from the body, though it is the tags that are flattened from there. -/
theorem not_ownFlatteningsOnly_size :
    resize.value? bodyOnly size = some (.string "x") ∧
    (resize.withFlattenings []).value? bodyOnly size = none ∧
    ¬ resize.OwnFlatteningsOnly bodyOnly size := by
  have hwith : resize.value? bodyOnly size = some (.string "x") := rfl
  have hwithout : (resize.withFlattenings []).value? bodyOnly size = none := rfl
  refine ⟨hwith, hwithout, fun hown => ?_⟩
  have hsame := hown [] ⟨"tags", "body"⟩ [] rfl (by decide)
  rw [List.append_nil, hwith, hwithout] at hsame
  cases hsame

end Operation

end ApiSamples
