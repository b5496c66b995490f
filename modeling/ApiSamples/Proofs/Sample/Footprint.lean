import ApiSamples.Proofs.Sample.Arguments
import Mathlib.Data.List.Basic

namespace ApiSamples

namespace Lookup

def entry (p : Field) : Lookup → String
  | direct => p.wireName
  | flattened f => f.holder

theorem apply_congr {lookup : Lookup} {p : Field} {e other : Example}
    (h : e.parameter? (lookup.entry p) = other.parameter? (lookup.entry p)) :
    lookup.apply p e = lookup.apply p other := by
  cases lookup with
  | direct => exact h
  | flattened f =>
    change e.parameter? f.holder = other.parameter? f.holder at h
    rw [apply, apply, h]

end Lookup

/-- Under each of the names, both examples record the same value or both record none. -/
def Example.AgreeOn (names : List String) (e other : Example) : Prop :=
  ∀ name ∈ names, e.parameter? name = other.parameter? name

namespace Operation

def entries (op : Operation) : List String :=
  op.parameters.map Field.wireName ++ op.flattenings.map Flattening.holder

variable {op : Operation} {e other : Example} {p : Field}

theorem entry_mem_entries {lookup : Lookup} (hp : p ∈ op.parameters) (h : lookup ∈ Lookup.candidates op) :
    lookup.entry p ∈ op.entries := by
  rw [Lookup.candidates, List.mem_cons, List.mem_map] at h
  rw [entries, List.mem_append]
  obtain rfl | ⟨f, hf, rfl⟩ := h
  · exact .inl (List.mem_map_of_mem hp)
  · exact .inr (List.mem_map_of_mem hf)

theorem resolve?_congr (h : Example.AgreeOn op.entries e other) (hp : p ∈ op.parameters) :
    op.resolve? e p = op.resolve? other p := by
  have hfound : ∀ lookup ∈ Lookup.candidates op,
      (lookup.apply p e).map (fun value => Resolved.mk value lookup) =
        (lookup.apply p other).map fun value => ⟨value, lookup⟩ := by
    intro lookup hlookup
    rw [Lookup.apply_congr (h _ (entry_mem_entries hp hlookup))]
  rw [resolve?, resolve?, ← List.head?_filterMap, List.filterMap_congr hfound, List.head?_filterMap]

theorem argumentsFor_congr {ps : List Field} (h : ∀ p ∈ ps, op.resolve? e p = op.resolve? other p) :
    op.argumentsFor e ps = op.argumentsFor other ps := by
  induction ps with
  | nil => rfl
  | cons p ps ih =>
    rw [List.forall_mem_cons] at h
    rw [argumentsFor, argumentsFor, h.1, ih h.2]

theorem arguments_congr (h : Example.AgreeOn op.entries e other) : op.arguments e = op.arguments other :=
  argumentsFor_congr fun _ hp => resolve?_congr h hp

end Operation

namespace Assembler

variable {a : Assembler} {op : Operation} {g : Group} {e other : Example}

/-- Of the example itself the statements have its arguments only. Its name is in the log of suppressed
samples, which is no report. -/
theorem core_congr (a : Assembler) (g : Group) (h : op.arguments e = op.arguments other) :
    (a.core op g e).value = (a.core op g other).value ∧
    (a.core op g e).diagnostics = (a.core op g other).diagnostics := by
  unfold core
  rw [h]
  cases op.arguments other with
  | error missing => exact ⟨rfl, rfl⟩
  | ok args => exact ⟨rfl, rfl⟩

/-- Two calls of an operation that have the same entries under the wire names of the parameters and the names
of the holders give the same statements, or none both, and report the same. No other entry counts, and
neither do name, title and description. -/
theorem core_reads_entries (a : Assembler) (op : Operation) (g : Group) (e other : Example)
    (h : Example.AgreeOn op.entries e other) :
    (a.core op g e).value = (a.core op g other).value ∧
    (a.core op g e).diagnostics = (a.core op g other).diagnostics :=
  core_congr a g (Operation.arguments_congr h)

/-- A size whose wire name looks like an address. -/
def dottedSize : Field := .withWireName (.plain "size" (.primitive .string) true) "properties.size"

def measureDotted : Operation := { name := "measure", parameters := [dottedSize] }

def flatSize : Example := { name := "flat", parameters := [("properties.size", .string "x")] }

def bothSizes : Example :=
  { name := "both"
    title := some "Both"
    parameters := [("properties", .object [("size", .string "y")]), ("properties.size", .string "x")] }

def nestedSize : Example :=
  { name := "nested", parameters := [("properties", .object [("size", .string "y")])] }

theorem measure_reads_flat_size :
    Example.AgreeOn measureDotted.entries flatSize bothSizes ∧
    (plain.core measureDotted {} bothSizes).value = (plain.core measureDotted {} flatSize).value ∧
    (plain.core measureDotted {} flatSize).value.isSome = true ∧
    Example.AgreeOn measureDotted.entries nestedSize { name := "empty" } ∧
    (plain.core measureDotted {} nestedSize).value = none ∧
    (plain.core measureDotted {} nestedSize).diagnostics = [.missingParameter "measure" "properties.size"] := by
  have hboth : Example.AgreeOn measureDotted.entries flatSize bothSizes := by
    intro name hname
    obtain rfl := List.mem_singleton.mp hname
    rfl
  have hnested : Example.AgreeOn measureDotted.entries nestedSize { name := "empty" } := by
    intro name hname
    obtain rfl := List.mem_singleton.mp hname
    rfl
  have hflat := core_reads_entries plain measureDotted {} flatSize bothSizes hboth
  obtain ⟨hvalue, hdiagnostics⟩ := core_reads_entries plain measureDotted {} nestedSize _ hnested
  refine ⟨hboth, hflat.1.symm, ?_, hnested, hvalue, hdiagnostics⟩
  rw [core_eq_script, script?_of_complete rfl]
  rfl

end Assembler

end ApiSamples
