import ApiSamples.Proofs.Sample.Arguments
import ApiSamples.Proofs.Sample.Recorded
import ApiSamples.Proofs.Sample.Reports

namespace ApiSamples

namespace Operation

/-- The parameter is required, and nothing is recorded for it. -/
def Missing (op : Operation) (e : Example) (p : Field) : Prop := p.required = true ∧ op.Unrecorded e p

variable {op : Operation} {e : Example} {p : Field}

theorem lacks_iff : op.lacks e p = true ↔ op.Missing e p := by
  rw [lacks, Bool.and_eq_true, Option.isNone_iff_eq_none, resolve?_eq_none_iff, Missing]

theorem exists_first_missing (h : ∃ p ∈ op.parameters, op.Missing e p) :
    ∃ p, op.parameters.find? (op.lacks e) = some p := by
  obtain ⟨p, hp, hmissing⟩ := h
  rw [← Option.isSome_iff_exists, List.find?_isSome]
  exact ⟨p, hp, lacks_iff.mpr hmissing⟩

theorem first_missing_of_find? (h : op.parameters.find? (op.lacks e) = some p) :
    ∃ before after, op.parameters = before ++ p :: after ∧ op.Missing e p ∧
      ∀ q ∈ before, ¬ op.Missing e q := by
  obtain ⟨hp, before, after, hps, hbefore⟩ := List.find?_eq_some_iff_append.mp h
  refine ⟨before, after, hps, lacks_iff.mp hp, fun q hq => ?_⟩
  rw [← lacks_iff, Bool.not_eq_true, ← Bool.not_eq_true']
  exact hbefore q hq

end Operation

namespace Assembler

/-- The variables that are declared for parameters: one for each that something is recorded for, with what is
recorded, in the order of the parameters. -/
inductive Declares (a : Assembler) (op : Operation) (e : Example) : List Field → List Variable → Prop
  | nil : Declares a op e [] []
  | recorded {arg : Argument} {ps : List Field} {vs : List Variable}
      (h : op.Records e arg.parameter arg.resolved.value) (rest : Declares a op e ps vs) :
      Declares a op e (arg.parameter :: ps) (a.variableOf arg :: vs)
  | unrecorded {p : Field} {ps : List Field} {vs : List Variable} (h : op.Unrecorded e p)
      (rest : Declares a op e ps vs) : Declares a op e (p :: ps) vs

variable {a : Assembler} {op : Operation} {g : Group} {e : Example} {p : Field}

theorem declares_variables (a : Assembler) (op : Operation) (e : Example) (ps : List Field) :
    a.Declares op e ps (ps.filterMap (a.variableFor? op e)) := by
  induction ps with
  | nil => exact .nil
  | cons p ps ih =>
    cases hr : op.resolve? e p with
    | none =>
      have hv : a.variableFor? op e p = none := by simp [variableFor?, Operation.argument?, hr]
      rw [List.filterMap_cons_none hv]
      exact .unrecorded (Operation.resolve?_eq_none_iff.mp hr) ih
    | some r =>
      have hv : a.variableFor? op e p = some (a.variableOf ⟨p, r⟩) := by
        simp [variableFor?, Operation.argument?, hr]
      rw [List.filterMap_cons_some hv]
      exact @Declares.recorded a op e ⟨p, r⟩ _ _ (Operation.records_of_resolve? hr) ih

theorem core_eq_none_iff : (a.core op g e).value = none ↔ ∃ p ∈ op.parameters, op.Missing e p := by
  rw [core_eq_script, Option.map_eq_none_iff, script?_eq]
  simp only [ite_eq_left_iff, reduceCtorEq, imp_false, not_not, List.any_eq_true, Operation.lacks_iff]

theorem diagnostics_core_of_missing (a : Assembler) (g : Group)
    (h : op.parameters.find? (op.lacks e) = some p) :
    (a.core op g e).diagnostics = [.missingParameter op.name p.wireName] := by
  rw [Noted.diagnostics, core, Operation.arguments, Operation.argumentsFor_eq, h]
  rfl

theorem diagnostics_assemble (a : Assembler) (mode : Mode) (op : Operation) (g : Group) (e : Example) :
    (a.assemble mode op g e).diagnostics = (a.core op g e).diagnostics := by
  rw [Noted.diagnostics, notes_assemble, reports, Noted.diagnostics]

theorem missingParameters_core_of_value (h : (a.core op g e).value ≠ none) :
    missingParameters (a.core op g e).diagnostics = 0 := by
  have hcount := a.missingParameters_reports ⟨op, g, e⟩
  rwa [survives, coreOf, if_pos (Option.isSome_iff_ne_none.mpr h)] at hcount

/-- In every mode a call gives no sample exactly if a required parameter is missing. Then the first of them is
reported and nothing else. Otherwise no parameter is reported, and the sample declares what is recorded for the
parameters in their order. -/
theorem suppression_exact (a : Assembler) (mode : Mode) (op : Operation) (g : Group) (e : Example) :
    ((a.assemble mode op g e).value = none ↔ ∃ p ∈ op.parameters, op.Missing e p) ∧
    ((a.assemble mode op g e).value = none →
      ∃ before p after, op.parameters = before ++ p :: after ∧ op.Missing e p ∧
        (∀ q ∈ before, ¬ op.Missing e q) ∧
        (a.assemble mode op g e).diagnostics = [.missingParameter op.name p.wireName]) ∧
    ((∀ p ∈ op.parameters, ¬ op.Missing e p) →
      missingParameters (a.assemble mode op g e).diagnostics = 0 ∧
      ∃ s, a.script? op g e = some s ∧
        (a.assemble mode op g e).value = some (a.surround op g e s.text mode) ∧
        a.Declares op e op.parameters s.declared) := by
  rw [diagnostics_assemble]
  have hnone : (a.assemble mode op g e).value = none ↔ ∃ p ∈ op.parameters, op.Missing e p := by
    rw [assemble_value, Option.map_eq_none_iff, core_eq_none_iff]
  refine ⟨hnone, fun hsuppressed => ?_, fun hcomplete => ?_⟩
  · obtain ⟨p, hfind⟩ := Operation.exists_first_missing (hnone.mp hsuppressed)
    obtain ⟨before, after, hps, hp, hbefore⟩ := Operation.first_missing_of_find? hfind
    exact ⟨before, p, after, hps, hp, hbefore, diagnostics_core_of_missing a g hfind⟩
  · have hcore : (a.core op g e).value ≠ none := by
      rw [ne_eq, core_eq_none_iff]
      rintro ⟨p, hp, hmissing⟩
      exact hcomplete p hp hmissing
    refine ⟨missingParameters_core_of_value hcore, ?_⟩
    rw [core_eq_script, ne_eq, Option.map_eq_none_iff] at hcore
    obtain ⟨s, hs⟩ := Option.ne_none_iff_exists'.mp hcore
    refine ⟨s, hs, ?_, ?_⟩
    · rw [assemble_value, core_eq_script, hs, Option.map_some, Option.map_some]
    · rw [declared_of_script? hs]
      exact a.declares_variables op e op.parameters

/-- With more recorded, every parameter that has a value still has one, though maybe another, and every call that
gives a sample still gives one. -/
theorem more_recorded_keeps_sample (a : Assembler) (op : Operation) (g : Group) (e larger : Example)
    (hwithin : e.Within larger) :
    (∀ p ∈ op.parameters, (op.resolve? e p).isSome = true → (op.resolve? larger p).isSome = true) ∧
    ((a.core op g e).value.isSome = true → (a.core op g larger).value.isSome = true) := by
  simp only [Option.isSome_iff_ne_none, ne_eq, core_eq_none_iff, Operation.resolve?_eq_none_iff]
  constructor
  · intro p _ hrecorded hunrecorded
    exact hrecorded (hunrecorded.anti hwithin)
  · rintro hcomplete ⟨p, hp, hrequired, hunrecorded⟩
    exact hcomplete ⟨p, hp, hrequired, hunrecorded.anti hwithin⟩

def requiredSize : Field := .plain "size" (.primitive .string) true

def measure : Operation :=
  { name := "measure", parameters := [requiredSize], flattenings := [⟨"size", "body"⟩] }

def bodyAndNull : Example :=
  { name := "e", parameters := [("body", .object [("size", .string "x")]), ("size", .null)] }

theorem measure_keeps_sample : Operation.bodyOnly.Within bodyAndNull ∧
    measure.value? Operation.bodyOnly requiredSize = some (.string "x") ∧
    measure.value? bodyAndNull requiredSize = some .null ∧
    (plain.core measure {} bodyAndNull).value.isSome = true := by
  have hwithin : Operation.bodyOnly.Within bodyAndNull := by
    intro wireName v h
    rw [Example.parameter?, Operation.bodyOnly, Json.get?_cons] at h
    rw [Example.parameter?, bodyAndNull, Json.get?_cons]
    split at h
    · next hname => rw [if_pos hname, h]
    · cases h
  have hcore : (plain.core measure {} Operation.bodyOnly).value.isSome = true := by
    rw [core_eq_script, script?_of_complete rfl]
    rfl
  have hkept := more_recorded_keeps_sample plain measure {} Operation.bodyOnly bodyAndNull hwithin
  exact ⟨hwithin, rfl, rfl, hkept.2 hcore⟩

end Assembler

end ApiSamples
