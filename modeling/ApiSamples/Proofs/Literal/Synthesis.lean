import ApiSamples.Literal.Synthesis
import ApiSamples.Proofs.Literal.Layout
import ApiSamples.Proofs.Text.Basic
import Mathlib.Data.List.ReduceOption

namespace ApiSamples

open Scanner

/-- Besides the characters of bare keys, all characters beyond ASCII. -/
def isNameChar (c : Char) : Bool := Literal.isKeyChar c || 128 ≤ c.toNat

def isIdentifier : List Char → Bool
  | c :: cs => !c.isDigit && isNameChar c && cs.all isNameChar
  | [] => false

def isDotted (s : String) : Bool := (Text.pieces (· == '.') s.toList).all isIdentifier

theorem all_isNameChar {cs : List Char} (h : isIdentifier cs = true) : ∀ c ∈ cs, isNameChar c = true := by
  cases cs with
  | nil => cases h
  | cons c cs =>
    simp only [isIdentifier, Bool.and_eq_true, List.all_eq_true] at h
    exact List.forall_mem_cons.mpr ⟨h.1.2, h.2⟩

theorem sealed_of_isDotted {s : String} (h : isDotted s = true) : Sealed s.toList := by
  have hall : s.toList.all (fun c => c == '.' || isNameChar c) = true := by
    refine List.all_eq_true.mpr fun c hc => ?_
    rw [Bool.or_eq_true]
    rcases Text.separator_or_mem_pieces (· == '.') hc with hpoint | ⟨piece, hp, hc⟩
    · exact .inl hpoint
    · exact .inr (all_isNameChar (List.all_eq_true.mp h piece hp) c hc)
  exact sealed_of_all (by decide) hall

namespace Scope

variable {scope : Scope}

theorem synthesize_array (scope : Scope) (element : TypeExpr) (items : List Json) :
    (scope.synthesize (.sequence element) (.array items)).value =
      .list (items.map fun item => (scope.synthesize element item).value) := by
  rw [synthesize]
  simp [Json.isNull]

def entries (scope : Scope) (c : Composite) (value : Json) : List (String × Literal) :=
  c.properties.filterMap fun p =>
    (value.select? p.wireName).map fun found => (p.name, (scope.synthesize p.type found).value)

theorem synthesize_object {name : String} {c : Composite} {value : Json}
    (hc : scope.model.composite? name = some c) (hv : value.isObject = true) :
    (scope.synthesize (.composite name) value).value =
      scope.objectLiteral c value (scope.entries c value) := by
  have hnull : value.isNull = false := by
    cases value <;> first | rfl | cases hv
  rw [synthesize]
  simp only [hnull, Bool.false_eq_true, if_false, hc, hv, if_true, Noted.value_bind, Noted.value_mapM,
    Noted.value_pure, entries]
  rw [List.reduceOption, List.filterMap_map]
  congr 1
  refine List.filterMap_congr fun p _ => ?_
  rw [Function.comp_apply, id_eq]
  split
  · next found hfound => rw [hfound]; rfl
  · next hnone =>
    rw [hnone]
    split <;> rfl

theorem synthesize_of_not_isObject {name : String} {c : Composite} {value : Json}
    (hc : scope.model.composite? name = some c) (hv : ¬ value.isObject = true) :
    (scope.synthesize (.composite name) value).value = .absent := by
  rw [synthesize.eq_def]
  by_cases hnull : value.isNull = true
  · rw [if_pos hnull]
    rfl
  · rw [if_neg hnull]
    simp only [hc, if_neg hv]
    rfl

theorem enumLiteral_eq (scope : Scope) (e : Enumeration) (value : Json) :
    ∃ scalar, (scope.enumLiteral e value).value = .scalar
      ("<" ++ scope.modelsNamespace ++ "." ++ e.className ++ ">" ++ Scalar.literal .string scalar) := by
  unfold enumLiteral
  split
  · exact ⟨_, rfl⟩
  · dsimp only
    split <;> exact ⟨_, rfl⟩

theorem token_cast {qualifier className expression : String} (hq : isDotted qualifier = true)
    (hc : isDotted className = true) (he : Token expression.toList) :
    Token ("<" ++ qualifier ++ "." ++ className ++ ">" ++ expression).toList := by
  have hpoint : Sealed ".".toList := sealed_of_isPlain (by decide)
  have hname := ((sealed_of_isDotted hq).append hpoint).append (sealed_of_isDotted hc)
  have hcast : Token ('<' :: (qualifier.toList ++ ".".toList ++ className.toList) ++ ['>']) :=
    token_enclose hname.balanced (by decide) rfl (by decide) (by decide)
  have hopen : "<".toList = ['<'] := rfl
  have hclose : ">".toList = ['>'] := rfl
  simpa [hopen, hclose] using hcast.append sealed_nil he

/-- What qualifies the names of types in literals is made of identifiers. -/
structure WellNamed (scope : Scope) : Prop where
  modelsNamespace : isDotted scope.modelsNamespace = true
  enumerations : ∀ e ∈ scope.model.enumerations, isDotted e.className = true

section

variable {P : String → Prop}

theorem scalars_objectLiteral (hscalar : ∀ kind value, P (Scalar.literal kind value)) {c : Composite}
    {value : Json} {entries : List (String × Literal)} (h : ∀ e ∈ entries, e.2.Scalars P) :
    (scope.objectLiteral c value entries).Scalars P := by
  unfold objectLiteral
  split
  · split
    · next id _ => exact .scalar (hscalar .object id)
    · exact .object h
  · exact .object h

/-- What all scalar literals and all casts to enumerations have is had by every scalar in a literal. -/
theorem scalars_synthesize (hscalar : ∀ kind value, P (Scalar.literal kind value))
    (henum : ∀ e ∈ scope.model.enumerations, ∀ value,
      P ("<" ++ scope.modelsNamespace ++ "." ++ e.className ++ ">" ++ Scalar.literal .string value))
    (type : TypeExpr) (value : Json) : (scope.synthesize type value).value.Scalars P := by
  induction hsize : sizeOf value using Nat.strongRecOn generalizing type value with
  | _ n ih =>
    subst hsize
    by_cases hnull : value.isNull = true
    · rw [synthesize.eq_def, if_pos hnull]
      exact .absent
    · cases type with
      | primitive kind =>
        rw [synthesize.eq_def, if_neg hnull]
        exact .scalar (hscalar kind value)
      | dictionary element =>
        rw [synthesize.eq_def, if_neg hnull]
        exact .scalar (hscalar .object value)
      | enum name =>
        rw [synthesize.eq_def, if_neg hnull]
        cases he : scope.model.enumeration? name with
        | none =>
          simp only [he]
          exact .scalar (hscalar .string value)
        | some e =>
          simp only [he]
          obtain ⟨scalar, hs⟩ := scope.enumLiteral_eq e value
          rw [hs]
          exact .scalar (henum e (List.mem_of_find?_eq_some he) scalar)
      | sequence element =>
        cases value with
        | array items =>
          rw [synthesize_array]
          refine .list fun literal hl => ?_
          obtain ⟨item, hi, rfl⟩ := List.mem_map.mp hl
          have hlt := List.sizeOf_lt_of_mem hi
          exact ih (sizeOf item) (by simp only [Json.array.sizeOf_spec]; omega) element item rfl
        | _ =>
          rw [synthesize.eq_def, if_neg hnull]
          exact .absent
      | composite name =>
        cases hc : scope.model.composite? name with
        | none =>
          rw [synthesize.eq_def, if_neg hnull]
          simp only [hc]
          exact .scalar (hscalar .object value)
        | some c =>
          by_cases hv : value.isObject = true
          · rw [synthesize_object hc hv]
            refine scalars_objectLiteral hscalar fun e he => ?_
            obtain ⟨p, -, hp⟩ := List.mem_filterMap.mp he
            obtain ⟨found, hf, rfl⟩ := Option.map_eq_some_iff.mp hp
            exact ih (sizeOf found) (Json.sizeOf_lt_of_select? hf) p.type found rfl
          · rw [synthesize_of_not_isObject hc hv]
            exact .absent

end

theorem sound_synthesize (hn : scope.WellNamed) (type : TypeExpr) (value : Json) :
    (scope.synthesize type value).value.Sound := by
  refine (scalars_synthesize Scalar.token_literal (fun e he scalar => ?_) type value).sound
  exact token_cast hn.modelsNamespace (hn.enumerations e he) (Scalar.token_literal .string scalar)

theorem sound_entries (hn : scope.WellNamed) (c : Composite) (value : Json) :
    ∀ e ∈ scope.entries c value, e.2.Sound := by
  intro e he
  obtain ⟨p, -, hp⟩ := List.mem_filterMap.mp he
  obtain ⟨found, -, rfl⟩ := Option.map_eq_some_iff.mp hp
  exact sound_synthesize hn p.type found

theorem eq_entries_of_object {name : String} {c : Composite} {value : Json}
    {entries : List (String × Literal)} (hc : scope.model.composite? name = some c)
    (h : (scope.synthesize (.composite name) value).value = .object entries) :
    entries = scope.entries c value := by
  by_cases hv : value.isObject = true
  · rw [synthesize_object hc hv] at h
    unfold objectLiteral at h
    split at h
    · split at h
      · cases h
      · exact (Literal.object.inj h).symm
    · exact (Literal.object.inj h).symm
  · rw [synthesize_of_not_isObject hc hv] at h
    cases h

/-- The text of every literal is well formed. Read back, an object has one entry for each declared
property that the value has, and a list one for each item, in order and each with the text that its own
value has one level deeper. -/
theorem synthesize_faithful (scope : Scope) (hn : scope.WellNamed) :
    (∀ (type : TypeExpr) (value : Option Json) (depth : Nat),
      wellFormed ((scope.synthesize? type value).value.text depth) = true) ∧
    (∀ (name : String) (c : Composite) (value : Json) (entries : List (String × Literal)) (depth : Nat),
      scope.model.composite? name = some c →
      (scope.synthesize (.composite name) value).value = .object entries →
      (Literal.entriesOf ((scope.synthesize (.composite name) value).value.text depth)).map
          Literal.readEntry? =
        c.properties.filterMap fun p => (value.select? p.wireName).map fun found =>
          some (p.name, (scope.synthesize p.type found).value.text (depth + 1))) ∧
    (∀ (element : TypeExpr) (items : List Json) (depth : Nat),
      Literal.entriesOf ((scope.synthesize (.sequence element) (.array items)).value.text depth) =
        items.map fun item => (scope.synthesize element item).value.text (depth + 1)) := by
  refine ⟨?_, ?_, ?_⟩
  · intro type value depth
    have hsound : (scope.synthesize? type value).value.Sound := by
      cases value with
      | none => exact .absent
      | some value => exact sound_synthesize hn type value
    have hrun : run start _ = some start := (hsound.token depth).isSealed.balanced
    rw [wellFormed, hrun]
    decide
  · intro name c value entries depth hc hobject
    obtain rfl := eq_entries_of_object hc hobject
    rw [hobject, Literal.entriesOf_object (sound_entries hn c value), Scope.entries, List.map_filterMap]
    refine List.filterMap_congr fun p _ => ?_
    rw [Option.map_map]
    rfl
  · intro element items depth
    rw [synthesize_array, Literal.entriesOf_list, List.map_map]
    · rfl
    · intro literal hl
      obtain ⟨item, -, rfl⟩ := List.mem_map.mp hl
      exact sound_synthesize hn element item

def paint : Composite :=
  { className := "Paint"
    properties := [⟨"a,b", "tint", .enum "Color", true⟩, ⟨"c", "depth", .enum "Color", false⟩] }

def paintScope : Scope :=
  { model :=
      { name := "C", family := .typeScript, composites := [paint]
        enumerations := [{ className := "Color" }] }
    modelsNamespace := "CModels"
    inlineIds := false }

theorem synthesize_paint :
    (paintScope.synthesize (.composite "Paint") (.object [("tint", .string "\",<")])).value =
      .object [("a,b", .scalar "<CModels.Color>\"\\\",<\"")] := by
  have hc : paintScope.model.composite? "Paint" = some paint := by decide +kernel
  have he : paintScope.model.enumeration? "Color" = some { className := "Color" } := by decide +kernel
  have htint : Json.select? (.object [("tint", .string "\",<")]) "tint" = some (.string "\",<") := rfl
  have hdepth : Json.select? (.object [("tint", .string "\",<")]) "depth" = none := rfl
  have hcolor : (paintScope.synthesize (.enum "Color") (.string "\",<")).value =
      .scalar "<CModels.Color>\"\\\",<\"" := by
    rw [synthesize]
    simp only [Json.isNull, he]
    rfl
  have hentries : paintScope.entries paint (.object [("tint", .string "\",<")]) =
      [("a,b", .scalar "<CModels.Color>\"\\\",<\"")] := by
    simp only [entries, paint, List.filterMap_cons, List.filterMap_nil, htint, hdepth, hcolor,
      Option.map_some, Option.map_none]
  rw [synthesize_object hc rfl, hentries]
  rfl

theorem paint_read_back :
    paintScope.WellNamed ∧
    wellFormed ((paintScope.synthesize? (.composite "Paint")
      (some (.object [("tint", .string "\",<")]))).value.text 0) = true ∧
    (Literal.entriesOf ((paintScope.synthesize (.composite "Paint")
      (.object [("tint", .string "\",<")])).value.text 0)).map Literal.readEntry? =
      paint.properties.filterMap fun p =>
        (Json.select? (.object [("tint", .string "\",<")]) p.wireName).map fun found =>
          some (p.name, (paintScope.synthesize p.type found).value.text 1) := by
  have hn : paintScope.WellNamed := ⟨by decide, by decide⟩
  have hc : paintScope.model.composite? "Paint" = some paint := by decide +kernel
  obtain ⟨hwell, hobject, -⟩ := synthesize_faithful paintScope hn
  exact ⟨hn, hwell _ _ _, hobject "Paint" paint _ _ 0 hc synthesize_paint⟩

end Scope

end ApiSamples
