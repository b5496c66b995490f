import ApiSamples.Proofs.Sample.Script

namespace ApiSamples

/-- Results that stand where what they come from stands: nothing is left out before them. -/
theorem getElem?_filterMap_iff {α β : Type} (f : α → Option β) (xs : List α) :
    (∀ (i : Nat) (y : β), (xs.filterMap f)[i]? = some y → ∃ x, xs[i]? = some x ∧ f x = some y) ↔
      xs.Pairwise fun x later => (f later).isSome = true → (f x).isSome = true := by
  induction xs with
  | nil => simp
  | cons x xs ih =>
    cases hx : f x with
    | some y =>
      have hlater : ∀ z ∈ xs, (f z).isSome = true → (f x).isSome = true := by
        intro z _ _
        rw [hx]
        rfl
      rw [List.filterMap_cons_some hx, List.pairwise_cons, ← ih]
      constructor
      · intro h
        refine ⟨hlater, fun i z hz => ?_⟩
        exact h (i + 1) z hz
      · rintro ⟨-, h⟩ i z hz
        cases i with
        | zero => exact ⟨x, rfl, hx.trans hz⟩
        | succ i => exact h i z hz
    | none =>
      rw [List.filterMap_cons_none hx, List.pairwise_cons]
      constructor
      · intro h
        -- A first result would have to come from `x`.
        have hempty : xs.filterMap f = [] := by
          cases hys : xs.filterMap f with
          | nil => rfl
          | cons y ys =>
            obtain ⟨z, hz, hy⟩ := h 0 y (by rw [hys]; rfl)
            obtain rfl := Option.some.inj hz
            rw [hx] at hy
            cases hy
        have hnone : ∀ z ∈ xs, f z = none := List.filterMap_eq_nil_iff.mp hempty
        refine ⟨fun z hz hsome => ?_, List.pairwise_of_forall_mem_list fun y _ z hz hsome => ?_⟩
        · rw [hnone z hz] at hsome
          cases hsome
        · rw [hnone z hz] at hsome
          cases hsome
      · rintro ⟨h, -⟩ i y hy
        have hnone : ∀ z ∈ xs, f z = none := by
          intro z hz
          cases hfz : f z with
          | none => rfl
          | some w =>
            have hsome := h z hz (by rw [hfz]; rfl)
            rw [hx] at hsome
            cases hsome
        rw [List.filterMap_eq_nil_iff.mpr hnone] at hy
        cases hy

namespace Assembler

/-- Every argument of the call is the variable that is declared with the value of the parameter in its
place. -/
def InPlace (a : Assembler) (op : Operation) (e : Example) (s : Script) : Prop :=
  ∀ (i : Nat) (name : String), s.arguments[i]? = some name → ∃ p v, op.parameters[i]? = some p ∧
    a.variableFor? op e p = some v ∧ s.declared[i]? = some v ∧ v.name = name

variable {a : Assembler} {op : Operation} {g : Group} {e : Example} {s : Script}

theorem declared_of_script? (h : a.script? op g e = some s) :
    s.declared = op.parameters.filterMap (a.variableFor? op e) := by
  rw [script?_eq] at h
  split at h
  · cases h
  · obtain rfl := Option.some.inj h
    rw [script, List.map_filterMap]
    rfl

theorem arguments_of_script? (h : a.script? op g e = some s) :
    s.arguments = s.declared.map Variable.name := by
  obtain ⟨args, -, rfl⟩ := Option.map_eq_some_iff.mp h
  rw [script, List.map_map]
  rfl

theorem isSome_variableFor? (a : Assembler) (op : Operation) (e : Example) (p : Field) :
    (a.variableFor? op e p).isSome = (op.resolve? e p).isSome := by
  rw [variableFor?, Operation.argument?, Option.isSome_map, Option.isSome_map]

theorem inPlace_iff (h : a.script? op g e = some s) :
    a.InPlace op e s ↔ op.parameters.Pairwise fun p later =>
      (op.resolve? e later).isSome = true → (op.resolve? e p).isSome = true := by
  have hdeclared := declared_of_script? h
  have harguments := arguments_of_script? h
  have hplaces := getElem?_filterMap_iff (a.variableFor? op e) op.parameters
  simp only [isSome_variableFor?] at hplaces
  rw [← hplaces, ← hdeclared]
  constructor
  · intro hin i v hv
    have hname : s.arguments[i]? = some v.name := by
      rw [harguments, List.getElem?_map, hv]
      rfl
    obtain ⟨p, w, hp, hw, hi, -⟩ := hin i v.name hname
    rw [hv] at hi
    exact ⟨p, hp, hw.trans hi.symm⟩
  · intro hin i name hname
    rw [harguments, List.getElem?_map] at hname
    obtain ⟨v, hv, rfl⟩ := Option.map_eq_some_iff.mp hname
    obtain ⟨p, hp, hw⟩ := hin i v hv
    exact ⟨p, v, hp, hw, hv, rfl⟩

/-- A sample declares the parameters that have values, in their order, and passes what it declares. Its
arguments stand in the places of their parameters exactly if no parameter without a value stands before
one that has one. -/
theorem call_in_place_iff (a : Assembler) (op : Operation) (g : Group) (e : Example) (text : String)
    (h : (a.core op g e).value = some text) :
    ∃ s, a.script? op g e = some s ∧ text = s.text ∧
      s.declared = op.parameters.filterMap (a.variableFor? op e) ∧
      s.arguments = s.declared.map Variable.name ∧
      (a.InPlace op e s ↔ op.parameters.Pairwise fun p later =>
        (op.resolve? e later).isSome = true → (op.resolve? e p).isSome = true) := by
  rw [core_eq_script] at h
  obtain ⟨s, hs, rfl⟩ := Option.map_eq_some_iff.mp h
  exact ⟨s, hs, rfl, declared_of_script? hs, arguments_of_script? hs, inPlace_iff hs⟩

def plain : Assembler := ofModel { name := "C", family := .typeScript } {}

def listing : Operation :=
  { name := "list"
    parameters := [.plain "filter" (.primitive .string) false, .plain "sort" (.primitive .string) false] }

def recordedWith (wireName : String) : Example :=
  { name := "e", parameters := [(wireName, .string "x")] }

theorem listing_complete (wireName : String) :
    listing.parameters.any (listing.lacks (recordedWith wireName)) = false := by
  simp [listing, Operation.lacks, Field.plain]

theorem listing_filter_in_place : ∃ s, plain.script? listing {} (recordedWith "filter") = some s ∧
    (plain.core listing {} (recordedWith "filter")).value = some s.text ∧
    plain.InPlace listing (recordedWith "filter") s := by
  have hcore := core_eq_script plain listing {} (recordedWith "filter")
  rw [script?_of_complete (listing_complete "filter")] at hcore
  obtain ⟨s, hs, htext, -, -, hplaces⟩ := call_in_place_iff plain listing {} (recordedWith "filter") _ hcore
  refine ⟨s, hs, htext ▸ hcore, hplaces.mpr ?_⟩
  decide

theorem listing_sort_not_in_place : ∃ s, plain.script? listing {} (recordedWith "sort") = some s ∧
    s.arguments = ["sort"] ∧ ¬ plain.InPlace listing (recordedWith "sort") s := by
  have hscript := script?_of_complete (listing_complete "sort") plain {}
  refine ⟨_, hscript, rfl, ?_⟩
  rw [inPlace_iff hscript]
  decide

end Assembler

end ApiSamples
