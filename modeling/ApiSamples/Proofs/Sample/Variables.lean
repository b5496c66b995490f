import ApiSamples.Proofs.Sample.Arguments
import ApiSamples.Proofs.Sample.Names

namespace ApiSamples

def Operation.resolvedNames (op : Operation) (e : Example) : List String :=
  (op.parameters.filter fun p => (op.resolve? e p).isSome).map Field.name

namespace Assembler

variable {a : Assembler} {op : Operation} {g : Group} {e : Example} {s : Script}

theorem map_name_variableFor? (a : Assembler) (op : Operation) (e : Example) (ps : List Field) :
    (ps.filterMap (a.variableFor? op e)).map Variable.name =
      ((ps.filter fun p => (op.resolve? e p).isSome).map Field.name).map Sample.argumentVariable := by
  induction ps with
  | nil => rfl
  | cons p ps ih =>
    cases hp : op.resolve? e p with
    | none =>
      have hnone : a.variableFor? op e p = none := by simp [variableFor?, Operation.argument?, hp]
      rw [List.filterMap_cons_none hnone, ih, List.filter_cons_of_neg (by simp [hp])]
    | some r =>
      have hsome : a.variableFor? op e p = some (a.variableOf ⟨p, r⟩) := by
        simp [variableFor?, Operation.argument?, hp]
      rw [List.filterMap_cons_some hsome, List.filter_cons_of_pos (by simp [hp]), List.map_cons, ih]
      rfl

theorem arguments_eq_resolvedNames (h : a.script? op g e = some s) :
    s.arguments = (op.resolvedNames e).map Sample.argumentVariable := by
  rw [arguments_of_script? h, declared_of_script? h, map_name_variableFor?]
  rfl

theorem identifiers_of_script? (h : a.script? op g e = some s) :
    s.identifiers = s.arguments ++ [s.binding] := by
  rw [Script.identifiers, arguments_of_script? h]

theorem binding_of_script? (h : a.script? op g e = some s) :
    s.binding = Sample.resultBinding op s.arguments := by
  obtain ⟨args, -, rfl⟩ := Option.map_eq_some_iff.mp h
  rfl

theorem identifiers_not_reserved (h : a.script? op g e = some s) :
    ∀ name ∈ s.identifiers, name ∉ Sample.reservedNames := by
  intro name hname
  rw [identifiers_of_script? h, List.mem_append, List.mem_singleton] at hname
  rcases hname with hname | rfl
  · rw [arguments_eq_resolvedNames h] at hname
    obtain ⟨parameter, -, rfl⟩ := List.mem_map.mp hname
    exact Sample.argumentVariable_not_reserved parameter
  · rw [binding_of_script? h]
    exact (Sample.resultBinding_free op s.arguments).1

theorem binding_not_mem_arguments (h : a.script? op g e = some s) : s.binding ∉ s.arguments := by
  rw [binding_of_script? h]
  exact (Sample.resultBinding_free op s.arguments).2

theorem nodup_identifiers_iff (hnames : (op.parameters.map Field.name).Nodup)
    (h : a.script? op g e = some s) :
    s.identifiers.Nodup ↔ ∀ name ∈ Sample.reservedNames, name ∈ op.resolvedNames e →
      name ++ "Arg" ∉ op.resolvedNames e := by
  have hresolved : (op.resolvedNames e).Nodup :=
    hnames.sublist (List.filter_sublist.map Field.name)
  have hbinding := binding_not_mem_arguments h
  rw [← Sample.nodup_map_argumentVariable hresolved, ← arguments_eq_resolvedNames h,
    identifiers_of_script? h, ← List.concat_eq_append, List.nodup_concat]
  exact and_iff_right hbinding

/-- No name of a sample is reserved, and the result is bound to none of the arguments. The names are
distinct exactly if no reserved name is that of a parameter with a value while the name it is changed to
is that of another. -/
theorem identifiers_distinct_iff (a : Assembler) (op : Operation) (g : Group) (e : Example)
    (text : String) (hnames : (op.parameters.map Field.name).Nodup)
    (h : (a.core op g e).value = some text) :
    ∃ s, a.script? op g e = some s ∧ text = s.text ∧
      (∀ name ∈ s.identifiers, name ∉ Sample.reservedNames) ∧ s.binding ∉ s.arguments ∧
      (s.identifiers.Nodup ↔ ∀ name ∈ Sample.reservedNames, name ∈ op.resolvedNames e →
        name ++ "Arg" ∉ op.resolvedNames e) := by
  rw [core_eq_script] at h
  obtain ⟨s, hs, rfl⟩ := Option.map_eq_some_iff.mp h
  exact ⟨s, hs, rfl, identifiers_not_reserved hs, binding_not_mem_arguments hs,
    nodup_identifiers_iff hnames hs⟩

def requiring (names : List String) : Operation :=
  { name := "get", parameters := names.map fun name => .plain name (.primitive .string) true }

def giving (names : List String) : Example :=
  { name := "e", parameters := names.map fun name => (name, .string "x") }

theorem identifiers_client_filter :
    ((requiring ["client", "filter"]).parameters.map Field.name).Nodup ∧
    ∃ s, plain.script? (requiring ["client", "filter"]) {} (giving ["client", "filter"]) = some s ∧
      (plain.core (requiring ["client", "filter"]) {} (giving ["client", "filter"])).value =
        some s.text ∧
      s.identifiers.Nodup := by
  have hnames : ((requiring ["client", "filter"]).parameters.map Field.name).Nodup := by decide
  have hcomplete : (requiring ["client", "filter"]).parameters.any
      ((requiring ["client", "filter"]).lacks (giving ["client", "filter"])) = false := by decide
  have hcore := core_eq_script plain (requiring ["client", "filter"]) {} (giving ["client", "filter"])
  rw [script?_of_complete hcomplete] at hcore
  obtain ⟨s, hs, htext, -, -, hdistinct⟩ := identifiers_distinct_iff plain
    (requiring ["client", "filter"]) {} (giving ["client", "filter"]) _ hnames hcore
  refine ⟨hnames, s, hs, htext ▸ hcore, hdistinct.mpr ?_⟩
  decide

/-- The variable of `client` gets the name that the other parameter has already. -/
theorem identifiers_client_clientArg :
    ((requiring ["client", "clientArg"]).parameters.map Field.name).Nodup ∧
    ∃ s, plain.script? (requiring ["client", "clientArg"]) {} (giving ["client", "clientArg"]) = some s ∧
      s.identifiers = ["clientArg", "clientArg", "getResult"] ∧ ¬ s.identifiers.Nodup := by
  have hcomplete : (requiring ["client", "clientArg"]).parameters.any
      ((requiring ["client", "clientArg"]).lacks (giving ["client", "clientArg"])) = false := by decide
  have hidentifiers : (plain.script (requiring ["client", "clientArg"]) {}
      ((requiring ["client", "clientArg"]).parameters.filterMap
        ((requiring ["client", "clientArg"]).argument? (giving ["client", "clientArg"])))).identifiers =
      ["clientArg", "clientArg", "getResult"] := rfl
  refine ⟨by decide, _, script?_of_complete hcomplete plain {}, hidentifiers, ?_⟩
  rw [hidentifiers]
  decide

end Assembler

end ApiSamples
