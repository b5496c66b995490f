import ApiSamples.Proofs.Literal.Nesting
import ApiSamples.Proofs.Literal.Words

namespace ApiSamples

namespace Scope

def IsRaw (scope : Scope) : TypeExpr → Prop
  | .primitive kind => kind = .object
  | .dictionary _ => True
  | .composite name => scope.model.composite? name = none
  | .enum _ | .sequence _ => False

def IsScalar : TypeExpr → Prop
  | .primitive _ | .enum _ => True
  | .dictionary _ | .composite _ | .sequence _ => False

/-- Values without the shape that their type needs to be looked into. -/
def Misshapen (scope : Scope) (type : TypeExpr) (value : Json) : Prop :=
  match type with
  | .sequence _ => ∀ items, value ≠ .array items
  | .composite name => (scope.model.composite? name).isSome = true ∧ ¬ value.isObject = true
  | .primitive _ | .enum _ | .dictionary _ => False

def present (c : Composite) (value : Json) : List (Field × Json) :=
  c.properties.filterMap fun p => (value.select? p.wireName).map fun found => (p, found)

/-- The literal follows the value down its type, writes each null on the way as absent, and says null only in
compact JSON of values that are not looked into. The names of types in casts and the keys of entries are names and
say nothing. -/
inductive NullSafe (scope : Scope) : TypeExpr → Json → Literal → Prop
  | null {type : TypeExpr} : NullSafe scope type .null .absent
  | misshapen {type : TypeExpr} {value : Json} (h : scope.Misshapen type value) :
    NullSafe scope type value .absent
  | raw {type : TypeExpr} {value : Json} (hraw : scope.IsRaw type) (hnull : value ≠ .null) :
    NullSafe scope type value (.scalar value.text)
  | plain {type : TypeExpr} {value : Json} {s : String} (htype : IsScalar type) (hnull : value ≠ .null)
    (hs : ¬ SaysNull s.toList) : NullSafe scope type value (.scalar s)
  | cast {name : String} {value : Json} {e : Enumeration} {s : String}
    (he : scope.model.enumeration? name = some e) (hnull : value ≠ .null) (hs : ¬ SaysNull s.toList) :
    NullSafe scope (.enum name) value
      (.scalar ("<" ++ scope.modelsNamespace ++ "." ++ e.className ++ ">" ++ s))
  | list {element : TypeExpr} {items : List Json} {literals : List Literal}
    (hlength : literals.length = items.length)
    (h : ∀ x ∈ items.zip literals, NullSafe scope element x.1 x.2) :
    NullSafe scope (.sequence element) (.array items) (.list literals)
  | object {name : String} {c : Composite} {value : Json} {entries : List (String × Literal)}
    (hc : scope.model.composite? name = some c) (hv : value.isObject = true)
    (hnames : entries.map Prod.fst = (present c value).map fun x => x.1.name)
    (h : ∀ x ∈ (present c value).zip entries, NullSafe scope x.1.1.type x.1.2 x.2.2) :
    NullSafe scope (.composite name) value (.object entries)
  /-- What stands for the id of a resource stands for the resource. -/
  | inlined {name : String} {c : Composite} {value : Json} {p : Field} {id : Json}
    (hc : scope.model.composite? name = some c) (hp : c.properties = [p])
    (hid : value.select? p.wireName = some id) (hnull : id ≠ .null)
    (hs : scope.IsRaw p.type ∨ ¬ SaysNull id.text.toList) :
    NullSafe scope (.composite name) value (.scalar id.text)

/-- A resource that is written as its id, with the property that holds the id. -/
structure Inlines (scope : Scope) (x : TypeExpr × Json) (p : Field) (id : Json) : Prop where
  enabled : scope.inlineIds = true
  composite : ∃ name c, x.1 = .composite name ∧ scope.model.composite? name = some c ∧ isIdOnly c = true ∧
    c.properties = [p]
  object : x.2.isObject = true
  selected : x.2.select? "id" = some id

variable {scope : Scope} {type : TypeExpr} {value : Json}

/-- Nothing but absence stands for a null. -/
theorem NullSafe.text_eq {l : Literal} (h : NullSafe scope type .null l) (depth : Nat) :
    l.text depth = "undefined" := by
  cases h with
  | null => rfl
  | misshapen _ => rfl
  | raw _ hnull => exact absurd rfl hnull
  | plain _ hnull _ => exact absurd rfl hnull
  | cast _ hnull _ => exact absurd rfl hnull
  | object _ hv _ _ => cases hv
  | inlined _ _ hid _ _ =>
    obtain ⟨_, hpart, -⟩ := Json.contains_iff.mp (Json.contains_of_select? hid)
    cases hpart

theorem zip_map_self {α β : Type} (f : α → β) (xs : List α) :
    xs.zip (xs.map f) = xs.map fun x => (x, f x) := by
  have hzip : (xs.map id).zip (xs.map f) = xs.map fun x => (id x, f x) := List.zip_map'
  simpa using hzip

theorem entries_eq (scope : Scope) (c : Composite) (value : Json) :
    scope.entries c value =
      (present c value).map fun x => (x.1.name, (scope.synthesize x.1.type x.2).value) := by
  rw [entries, present, List.map_filterMap]
  simp only [Option.map_map, Function.comp_def]

theorem properties_of_isIdOnly {c : Composite} (h : isIdOnly c = true) :
    ∃ p, c.properties = [p] ∧ p.wireName = "id" := by
  unfold isIdOnly at h
  rw [Bool.and_eq_true] at h
  obtain ⟨-, h⟩ := h
  split at h
  · next p hp => exact ⟨p, hp, beq_iff_eq.mp h⟩
  · cases h

/-- The literal of an object has its entries, or it is the text of its id. -/
theorem synthesize_object_cases {name : String} {c : Composite} (hc : scope.model.composite? name = some c)
    (hv : value.isObject = true) :
    (scope.synthesize (.composite name) value).value = .object (scope.entries c value) ∨
      ∃ p id, scope.Inlines (.composite name, value) p id ∧
        (scope.synthesize (.composite name) value).value = .scalar id.text := by
  rw [synthesize_object hc hv, objectLiteral]
  split
  · next hinline =>
    simp only [Bool.and_eq_true] at hinline
    obtain ⟨⟨-, henabled⟩, hc'⟩ := hinline
    obtain ⟨p, hp, -⟩ := properties_of_isIdOnly hc'
    split
    · next id hid => exact .inr ⟨p, id, ⟨henabled, ⟨name, c, rfl, hc, hc', hp⟩, hv, hid⟩, rfl⟩
    · exact .inl rfl
  · exact .inl rfl

theorem synthesize_of_inlines {x : TypeExpr × Json} {p : Field} {id : Json} (h : scope.Inlines x p id) :
    (scope.synthesize x.1 x.2).value = .scalar id.text := by
  obtain ⟨type, value⟩ := x
  obtain ⟨henabled, ⟨name, c, rfl, hc, hc', hp⟩, hv, hid⟩ := h
  obtain ⟨q, hq, hwire⟩ := properties_of_isIdOnly hc'
  have hentries : (scope.entries c value).isEmpty = false := by
    rw [entries, hq, List.filterMap_cons, hwire, hid]
    rfl
  rw [synthesize_object hc hv, objectLiteral, hentries, henabled, hc', hid]
  rfl

/-- The way through a resource that is written as its id goes to the id only. -/
theorem Inlines.eq_of_leads {x y : TypeExpr × Json} {p : Field} {id : Json} (hi : scope.Inlines x p id)
    (h : scope.Leads x y) : y = (p.type, id) := by
  obtain ⟨-, ⟨name, c, hx, hc, hc', hp⟩, -, hid⟩ := hi
  obtain ⟨q, hq, hwire⟩ := properties_of_isIdOnly hc'
  obtain rfl : p = q := List.singleton_inj.mp (hp.symm.trans hq)
  cases h with
  | item _ => cases hx
  | property hother _ hr hf =>
    cases hx
    obtain rfl := Option.some.inj (hc.symm.trans hother)
    rw [hp] at hr
    obtain rfl := List.mem_singleton.mp hr
    rw [hwire, hid] at hf
    rw [Option.some.inj hf]

theorem Inlines.nullSafe_iff {x : TypeExpr × Json} {p : Field} {id : Json} (hi : scope.Inlines x p id) :
    NullSafe scope x.1 x.2 (.scalar id.text) ↔ id ≠ .null ∧ (scope.IsRaw p.type ∨ ¬ id.HoldsNull) := by
  obtain ⟨type, value⟩ := x
  obtain ⟨-, ⟨name, c, rfl, hc, hc', hp⟩, -, hid⟩ := hi
  obtain ⟨q, hq, hwire⟩ := properties_of_isIdOnly hc'
  obtain rfl : p = q := List.singleton_inj.mp (hp.symm.trans hq)
  rw [← Json.saysNull_text]
  constructor
  · intro h
    generalize id.text = s at h
    cases h with
    | raw hraw _ =>
      have hunknown : scope.model.composite? name = none := hraw
      rw [hc] at hunknown
      cases hunknown
    | plain htype _ _ => cases htype
    | inlined hother hproperties hselected hnull hs =>
      obtain rfl := Option.some.inj (hc.symm.trans hother)
      obtain rfl := List.singleton_inj.mp (hp.symm.trans hproperties)
      rw [hwire, hid] at hselected
      obtain rfl := Option.some.inj hselected
      exact ⟨hnull, hs⟩
  · rintro ⟨hnull, hs⟩
    exact .inlined hc hp (hwire ▸ hid) hnull hs

/-- What holds of every call on the way if the literal is safe: its literal is safe as well, or, behind an id that is
written as it is, there is no null left to come to. -/
def Settled (scope : Scope) (x : TypeExpr × Json) : Prop :=
  NullSafe scope x.1 x.2 (scope.synthesize x.1 x.2).value ∨ ¬ x.2.HoldsNull ∨ scope.IsRaw x.1

theorem not_isRaw_of_leads {x y : TypeExpr × Json} (h : scope.Leads x y) : ¬ scope.IsRaw x.1 := by
  cases h with
  | item _ => exact id
  | property hc _ _ _ =>
    intro hunknown
    rw [IsRaw, hc] at hunknown
    cases hunknown

theorem settled_of_leads {x y : TypeExpr × Json} (h : scope.Leads x y) (hx : scope.Settled x) :
    scope.Settled y := by
  rcases hx with hsafe | hheld | hraw
  · cases h with
    | @item element items item hitem =>
      rw [synthesize_array] at hsafe
      cases hsafe with
      | list _ hparts =>
        rw [zip_map_self] at hparts
        exact .inl (hparts _ (List.mem_map_of_mem hitem))
    | @property name c value found p hc hv hp hf =>
      rcases synthesize_object_cases hc hv with hobject | ⟨q, id, hi, hid⟩
      · dsimp only at hsafe
        rw [hobject, entries_eq] at hsafe
        cases hsafe with
        | object hother _ _ hparts =>
          obtain rfl := Option.some.inj (hc.symm.trans hother)
          rw [zip_map_self] at hparts
          have hpresent : (p, found) ∈ present c value :=
            List.mem_filterMap.mpr ⟨p, hp, by rw [hf]; rfl⟩
          exact .inl (hparts _ (List.mem_map_of_mem hpresent))
      · dsimp only at hsafe
        rw [hid] at hsafe
        obtain ⟨-, hs⟩ := hi.nullSafe_iff.mp hsafe
        rw [hi.eq_of_leads (.property hc hv hp hf)]
        exact .inr hs.symm
  · exact .inr (.inl fun hnull => hheld (.of_contains (contains_of_leads h) hnull))
  · exact absurd hraw (not_isRaw_of_leads h)

theorem settled_of_reaches {x y : TypeExpr × Json} (h : scope.Reaches x y) (hx : scope.Settled x) :
    scope.Settled y := by
  induction h with
  | refl => exact hx
  | tail _ hstep ih => exact settled_of_leads hstep ih

theorem Settled.of_inlines {x : TypeExpr × Json} {p : Field} {id : Json} (h : scope.Settled x)
    (hi : scope.Inlines x p id) : id ≠ .null ∧ (scope.IsRaw p.type ∨ ¬ id.HoldsNull) := by
  rcases h with hsafe | hheld | hraw
  · rw [synthesize_of_inlines hi] at hsafe
    exact hi.nullSafe_iff.mp hsafe
  · have hid : ¬ id.HoldsNull := fun hnull => hheld (.of_contains (Json.contains_of_select? hi.selected) hnull)
    exact ⟨fun heq => hid (.inl heq), .inr hid⟩
  · obtain ⟨-, ⟨name, c, hx, hc, -⟩, -⟩ := hi
    rw [hx, IsRaw, hc] at hraw
    cases hraw

theorem nullSafe_synthesize (scope : Scope) (type : TypeExpr) (value : Json)
    (h : ∀ y p id, scope.Reaches (type, value) y → scope.Inlines y p id →
      id ≠ .null ∧ (scope.IsRaw p.type ∨ ¬ id.HoldsNull)) :
    NullSafe scope type value (scope.synthesize type value).value := by
  -- each step of the way goes to a smaller value, and what is known of the ids holds of the rest of the way
  induction hsize : sizeOf value using Nat.strongRecOn generalizing type value with
  | _ n ih =>
    subst hsize
    have hbelow : ∀ y, scope.Leads (type, value) y →
        NullSafe scope y.1 y.2 (scope.synthesize y.1 y.2).value := by
      intro y hy
      exact ih _ (sizeOf_lt_of_leads hy) y.1 y.2 (fun z p id hz => h z p id (.head hy hz)) rfl
    by_cases hnull : value.isNull = true
    · obtain rfl := Json.isNull_iff.mp hnull
      rw [synthesize.eq_def, if_pos hnull]
      exact .null
    · have hvalue : value ≠ .null := fun heq => hnull (heq ▸ rfl)
      cases type with
      | primitive kind =>
        rw [synthesize.eq_def, if_neg hnull]
        by_cases hkind : kind = .object
        · subst hkind
          exact .raw rfl hvalue
        · exact .plain trivial hvalue (Scalar.not_saysNull_literal hkind value)
      | dictionary element =>
        rw [synthesize.eq_def, if_neg hnull]
        exact .raw trivial hvalue
      | enum name =>
        rw [synthesize.eq_def, if_neg hnull]
        have hkind : Kind.string ≠ .object := by decide
        cases he : scope.model.enumeration? name with
        | none =>
          simp only [he]
          exact .plain trivial hvalue (Scalar.not_saysNull_literal hkind value)
        | some e =>
          simp only [he]
          obtain ⟨scalar, hs⟩ := scope.enumLiteral_eq e value
          rw [hs]
          exact .cast he hvalue (Scalar.not_saysNull_literal hkind scalar)
      | sequence element =>
        cases value with
        | array items =>
          rw [synthesize_array]
          refine .list (List.length_map _) fun x hx => ?_
          rw [zip_map_self] at hx
          obtain ⟨item, hitem, rfl⟩ := List.mem_map.mp hx
          exact hbelow _ (.item hitem)
        | _ =>
          rw [synthesize.eq_def, if_neg hnull]
          exact .misshapen fun _ => Json.noConfusion
      | composite name =>
        cases hc : scope.model.composite? name with
        | none =>
          rw [synthesize.eq_def, if_neg hnull]
          simp only [hc]
          exact .raw hc hvalue
        | some c =>
          by_cases hv : value.isObject = true
          · rcases synthesize_object_cases hc hv with hobject | ⟨p, id, hi, hid⟩
            · rw [hobject, entries_eq]
              refine .object hc hv (by simp [Function.comp_def]) fun x hx => ?_
              rw [zip_map_self] at hx
              obtain ⟨⟨p, found⟩, hpresent, rfl⟩ := List.mem_map.mp hx
              obtain ⟨q, hq, hselected⟩ := List.mem_filterMap.mp hpresent
              obtain ⟨_, hf, heq⟩ := Option.map_eq_some_iff.mp hselected
              cases heq
              exact hbelow _ (.property hc hv hq hf)
            · rw [hid]
              exact hi.nullSafe_iff.mpr (h _ p id .refl hi)
          · rw [synthesize_of_not_isObject hc hv]
            exact .misshapen ⟨by rw [hc]; rfl, hv⟩

/-- Undefined stands for every null that the synthesis comes to, and null is said in compact JSON only, exactly if
no resource on the way is written as an id that is null, or that holds one where its type is looked into. -/
theorem nulls_undefined_iff (scope : Scope) (type : TypeExpr) (value : Json) :
    (∀ type l depth, NullSafe scope type .null l → l.text depth = "undefined") ∧
    (NullSafe scope type value (scope.synthesize type value).value ↔
      ∀ y p id, scope.Reaches (type, value) y → scope.Inlines y p id →
        id ≠ .null ∧ (scope.IsRaw p.type ∨ ¬ id.HoldsNull)) := by
  refine ⟨fun _ _ depth h => h.text_eq depth, fun h y p id hy hi => ?_, nullSafe_synthesize scope type value⟩
  exact (settled_of_reaches hy (.inl h)).of_inlines hi

def subResource : Composite :=
  { className := "SubResource", properties := [.plain "id" (.primitive .string) false] }

def references : Scope :=
  { model := { name := "C", family := .typeScript, composites := [subResource] }
    modelsNamespace := "CModels"
    inlineIds := true }

theorem not_nullSafe_id :
    (references.synthesize (.composite "SubResource") (.object [("id", .null)])).value = .scalar "null" ∧
    ¬ NullSafe references (.composite "SubResource") (.object [("id", .null)])
      (references.synthesize (.composite "SubResource") (.object [("id", .null)])).value := by
  have hc : references.model.composite? "SubResource" = some subResource := by decide +kernel
  have hi : references.Inlines (.composite "SubResource", .object [("id", .null)])
      (.plain "id" (.primitive .string) false) .null :=
    ⟨rfl, ⟨"SubResource", subResource, rfl, hc, by decide, rfl⟩, rfl, rfl⟩
  have hnull : (references.synthesize (.composite "SubResource") (.object [("id", .null)])).value =
      .scalar Json.null.text := synthesize_of_inlines hi
  refine ⟨hnull, ?_⟩
  rw [hnull]
  exact fun h => (hi.nullSafe_iff.mp h).1 rfl

end Scope

end ApiSamples
