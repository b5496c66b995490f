import ApiSamples.Sample.Names
import Mathlib.Data.List.Nodup

namespace ApiSamples.Sample

def extended (name : String) : Nat → String
  | 0 => name
  | n + 1 => extended name n ++ "Result"

theorem extended_append (name : String) (n : Nat) :
    extended (name ++ "Result") n = extended name (n + 1) := by
  induction n with
  | zero => rfl
  | succ n ih =>
    rw [extended, ih]
    rfl

theorem length_extended (name : String) (n : Nat) : (extended name n).length = name.length + 6 * n := by
  have hsuffix : "Result".length = 6 := rfl
  induction n with
  | zero => rfl
  | succ n ih =>
    rw [extended, String.length_append, ih, hsuffix]
    omega

theorem extended_injective (name : String) : Function.Injective (extended name) := by
  intro i j h
  have hlength := congrArg String.length h
  rw [length_extended, length_extended] at hlength
  omega

theorem suffix_toList_append (s t : String) : t.toList <:+ (s ++ t).toList := by
  rw [String.toList_append]
  exact List.suffix_append _ _

theorem extended_succ_not_reserved (name : String) (n : Nat) :
    extended name (n + 1) ∉ reservedNames := by
  have hreserved : ∀ r ∈ reservedNames, ¬ "Result".toList <:+ r.toList := by decide
  intro h
  exact hreserved _ h (suffix_toList_append _ _)

/-- The search goes on as long as names are taken, and no further than it is allowed to. -/
theorem freeName_eq (arguments : List String) (tries : Nat) (name : String) :
    ∃ n ≤ tries, freeName arguments tries name = extended name n ∧
      (∀ i < n, isTaken arguments (extended name i) = true) ∧
      (n < tries → isTaken arguments (extended name n) = false) := by
  induction tries generalizing name with
  | zero =>
    have hnone : ∀ i < 0, isTaken arguments (extended name i) = true :=
      fun i hi => absurd hi (Nat.not_lt_zero i)
    exact ⟨0, Nat.le_refl 0, rfl, hnone, fun h => absurd h (Nat.lt_irrefl 0)⟩
  | succ tries ih =>
    cases htaken : isTaken arguments name with
    | false =>
      refine ⟨0, Nat.zero_le _, ?_, fun i hi => absurd hi (Nat.not_lt_zero i), fun _ => htaken⟩
      rw [freeName, htaken]
      rfl
    | true =>
      obtain ⟨n, hn, hname, hbefore, hfree⟩ := ih (name ++ "Result")
      simp only [extended_append] at hname hbefore hfree
      refine ⟨n + 1, Nat.succ_le_succ hn, ?_, ?_, fun h => hfree (Nat.lt_of_succ_lt_succ h)⟩
      · rw [freeName, htaken, if_pos rfl, hname]
      · intro i hi
        cases i with
        | zero => exact htaken
        | succ i => exact hbefore i (Nat.lt_of_succ_lt_succ hi)

/-- Behind the first name, only arguments are in the way, and each of them once. -/
theorem le_of_taken {arguments : List String} {name : String} {n : Nat}
    (h : ∀ i < n, isTaken arguments (extended name i) = true) : n ≤ arguments.length + 1 := by
  have hsubset : (List.range (n - 1)).map (fun i => extended name (i + 1)) ⊆ arguments := by
    intro other ho
    obtain ⟨i, hi, rfl⟩ := List.mem_map.mp ho
    have htaken := h (i + 1) (by have := List.mem_range.mp hi; omega)
    rw [isTaken, Bool.or_eq_true, List.contains_iff_mem, List.contains_iff_mem] at htaken
    exact htaken.resolve_left (extended_succ_not_reserved name i)
  have hnodup : ((List.range (n - 1)).map fun i => extended name (i + 1)).Nodup := by
    refine List.nodup_range.map fun i j hij => ?_
    exact Nat.succ.inj (extended_injective name hij)
  have hlength := hnodup.length_le_of_subset hsubset
  rw [List.length_map, List.length_range] at hlength
  omega

theorem resultBinding_eq (op : Operation) (arguments : List String) :
    ∃ n ≤ arguments.length + 1, resultBinding op arguments = extended (bindingBase op) n ∧
      (∀ i < n, isTaken arguments (extended (bindingBase op) i) = true) ∧
      isTaken arguments (extended (bindingBase op) n) = false := by
  obtain ⟨n, -, hname, hbefore, hfree⟩ :=
    freeName_eq arguments (arguments.length + reservedNames.length + 1) (bindingBase op)
  have hn := le_of_taken hbefore
  have hreserved : reservedNames.length = 3 := rfl
  exact ⟨n, hn, hname, hbefore, hfree (by omega)⟩

theorem resultBinding_free (op : Operation) (arguments : List String) :
    resultBinding op arguments ∉ reservedNames ∧ resultBinding op arguments ∉ arguments := by
  obtain ⟨n, -, hname, -, hfree⟩ := resultBinding_eq op arguments
  rw [← hname, isTaken, Bool.or_eq_false_iff] at hfree
  simpa using hfree

theorem argumentVariable_of_mem {name : String} (h : name ∈ reservedNames) :
    argumentVariable name = name ++ "Arg" := by
  rw [argumentVariable, if_pos (List.contains_iff_mem.mpr h)]

theorem argumentVariable_of_not_mem {name : String} (h : name ∉ reservedNames) :
    argumentVariable name = name := by
  rw [argumentVariable, if_neg (by simpa using h)]

theorem renamed_not_reserved (name : String) : name ++ "Arg" ∉ reservedNames := by
  have hreserved : ∀ r ∈ reservedNames, ¬ "Arg".toList <:+ r.toList := by decide
  intro h
  exact hreserved _ h (suffix_toList_append _ _)

theorem argumentVariable_not_reserved (name : String) : argumentVariable name ∉ reservedNames := by
  by_cases h : name ∈ reservedNames
  · rw [argumentVariable_of_mem h]
    exact renamed_not_reserved name
  · rw [argumentVariable_of_not_mem h]
    exact h

/-- Different names share a variable only if one is reserved and the other is what it is renamed to. -/
theorem argumentVariable_eq_iff {name other : String} :
    argumentVariable name = argumentVariable other ↔ name = other ∨
      (name ∈ reservedNames ∧ other = name ++ "Arg") ∨
      (other ∈ reservedNames ∧ name = other ++ "Arg") := by
  by_cases hn : name ∈ reservedNames <;> by_cases ho : other ∈ reservedNames
  · have hne : other ≠ name ++ "Arg" := fun h => renamed_not_reserved name (h ▸ ho)
    have hne' : name ≠ other ++ "Arg" := fun h => renamed_not_reserved other (h ▸ hn)
    simp [argumentVariable_of_mem hn, argumentVariable_of_mem ho, hne, hne']
  · have hne : name ≠ other := fun h => ho (h ▸ hn)
    simp [argumentVariable_of_mem hn, argumentVariable_of_not_mem ho, hn, ho, hne, eq_comm]
  · have hne : name ≠ other := fun h => hn (h ▸ ho)
    simp [argumentVariable_of_not_mem hn, argumentVariable_of_mem ho, hn, ho, hne]
  · simp [argumentVariable_of_not_mem hn, argumentVariable_of_not_mem ho, hn, ho]

/-- Names that differ give variables that differ unless a reserved one meets what it is renamed to. -/
theorem nodup_map_argumentVariable {names : List String} (h : names.Nodup) :
    (names.map argumentVariable).Nodup ↔
      ∀ name ∈ reservedNames, name ∈ names → name ++ "Arg" ∉ names := by
  rw [List.nodup_map_iff_inj_on h]
  constructor
  · intro hinj name hr hn ho
    have hsame := hinj name hn (name ++ "Arg") ho (argumentVariable_eq_iff.mpr (.inr (.inl ⟨hr, rfl⟩)))
    exact renamed_not_reserved name (hsame ▸ hr)
  · intro hclear name hn other ho hsame
    rcases argumentVariable_eq_iff.mp hsame with heq | ⟨hr, rfl⟩ | ⟨hr, rfl⟩
    · exact heq
    · exact absurd ho (hclear name hr hn)
    · exact absurd hn (hclear other hr ho)

end ApiSamples.Sample
