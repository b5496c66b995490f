import ApiSamples.Output.Generation
import ApiSamples.Proofs.Model.Defects

namespace ApiSamples

namespace CodeModel

variable {m : CodeModel} {e : RunError}

theorem validated_of_refused {α : Type} (h : m.validate.value = .error e) (next : Noted α) :
    (m.validated next).value = .error e ∧ (m.validated next).diagnostics = [] := by
  have hnotes := m.diagnostics_validate
  rw [Noted.diagnostics] at hnotes
  simp [validated, h, Noted.diagnostics, hnotes]

theorem renderSamples_of_refused (h : m.validate.value = .error e) (s : Settings) :
    (m.renderSamples s).value = (do s.check; .error e) ∧ (m.renderSamples s).diagnostics = [] := by
  unfold renderSamples
  cases s.check with
  | error flaw => exact ⟨rfl, rfl⟩
  | ok => exact validated_of_refused h _

theorem generateSamples_of_refused (h : m.validate.value = .error e) (s : Settings) (d : Destination)
    (w : World) :
    (m.generateSamples s d w).value = (w, do s.check; .error e) ∧
      (m.generateSamples s d w).diagnostics = [] := by
  obtain ⟨hvalue, hnotes⟩ := renderSamples_of_refused h s
  rw [Noted.diagnostics] at hnotes
  have hfails : ∃ failure, (m.renderSamples s).value = .error failure ∧
      (do s.check; .error e : Except RunError Summary) = .error failure := by
    rw [hvalue]
    cases s.check with
    | error flaw => exact ⟨flaw, rfl, rfl⟩
    | ok => exact ⟨e, rfl, rfl⟩
  obtain ⟨failure, hrendered, hcheck⟩ := hfails
  rw [hcheck]
  simp [generateSamples, hrendered, Noted.diagnostics, hnotes]

theorem generateFragments_of_refused (h : m.validate.value = .error e) (s : Settings) (d : Destination)
    (w : World) :
    (m.generateFragments s d w).value = (w, .error e) ∧ (m.generateFragments s d w).diagnostics = [] := by
  obtain ⟨hvalue, hnotes⟩ : (m.renderFragments s).value = .error e ∧
      (m.renderFragments s).diagnostics = [] := validated_of_refused h _
  rw [Noted.diagnostics] at hnotes
  simp [generateFragments, hvalue, Noted.diagnostics, hnotes]

/-- A model passes its checks exactly if it is sound, and otherwise fails by the first of its defects. A
run on a model that fails leaves everything as it is and reports nothing; only flawed settings of a run
for samples go before that defect. -/
theorem validation_exact (m : CodeModel) :
    (m.validate.value = .ok () ↔ m.Sound) ∧
    (∀ e, m.validate.value = .error e ↔ m.defects.head? = some e) ∧
    ∀ e, m.validate.value = .error e → ∀ (s : Settings) (d : Destination) (w : World),
      (m.generateSamples s d w).value = (w, do s.check; .error e) ∧
      (m.generateSamples s d w).diagnostics = [] ∧
      (m.generateFragments s d w).value = (w, .error e) ∧
      (m.generateFragments s d w).diagnostics = [] := by
  refine ⟨sound_iff_validate, fun e => ?_, fun e h s d w => ?_⟩
  · rw [validate_eq, failFirst_eq_error_iff]
  · obtain ⟨hsamples, hquiet⟩ := generateSamples_of_refused h s d w
    obtain ⟨hfragments, hsilent⟩ := generateFragments_of_refused h s d w
    exact ⟨hsamples, hquiet, hfragments, hsilent⟩

def tangled : CodeModel :=
  { name := "C"
    family := .typeScript
    composites := [{
      className := "Box"
      properties := [.plain "size" (.primitive .int) true,
        .plain "size" (.sequence (.composite "Gadget")) false] }]
    groups := [
      { operations := [{ name := "put" }] },
      { name := "client//.", operations := [
          { name := "put", parameters := [.plain "shade" (.dictionary (.enum "Shade")) true] }] }] }

/-- The repeated name decides, though the same property has an unresolved type and operations clash. -/
theorem tangled_refused :
    tangled.defects = [.duplicateProperty "Box" "size", .unresolvedType "Box" "Gadget",
      .duplicatePath ⟨"client//./put.ts"⟩ "put" "client//..put", .unresolvedType "put" "Shade"] ∧
    tangled.validate.value = .error (.duplicateProperty "Box" "size") ∧
    ∀ (s : Settings) (d : Destination) (w : World),
      (tangled.generateSamples s d w).value =
        (w, do s.check; .error (.duplicateProperty "Box" "size")) ∧
      (tangled.generateFragments s d w).value = (w, .error (.duplicateProperty "Box" "size")) := by
  have hdefects : tangled.defects = [.duplicateProperty "Box" "size", .unresolvedType "Box" "Gadget",
      .duplicatePath ⟨"client//./put.ts"⟩ "put" "client//..put", .unresolvedType "put" "Shade"] := by
    decide +kernel
  obtain ⟨-, hfirst, hrefused⟩ := validation_exact tangled
  have herror : tangled.validate.value = .error (.duplicateProperty "Box" "size") :=
    (hfirst _).mpr (by rw [hdefects]; rfl)
  refine ⟨hdefects, herror, fun s d w => ?_⟩
  obtain ⟨hsamples, -, hfragments, -⟩ := hrefused _ herror s d w
  exact ⟨hsamples, hfragments⟩

end CodeModel

end ApiSamples
