import ApiSamples.Proofs.Model.Defects
import ApiSamples.Proofs.Output.Programs
import ApiSamples.Proofs.Sample.Reports

namespace ApiSamples

namespace Program

theorem finish_batch_eq_none_iff (a : Assembler) (calls : List Call) :
    (batch a calls).finish = none ↔ calls.countP a.survives = 0 := by
  rw [finish, blocks_batch]
  simp

end Program

namespace Assembler

theorem renderOperations_notes (a : Assembler) (ops : List (Group × Operation)) :
    (a.renderOperations ops).notes = (callsOf ops).flatMap a.reports := by
  induction ops with
  | nil => rfl
  | cons entry ops ih =>
    obtain ⟨g, op⟩ := entry
    simp only [renderOperations, renderOperation, Noted.notes_bind, Noted.notes_pure, List.append_nil,
      Program.notes_pushAll, ih, callsOf, Operation.calls, List.flatMap_cons, List.flatMap_append,
      List.flatMap_map]

/-- Operations without a program have no samples that a file would count. -/
theorem sum_samples (a : Assembler) (ops : List (Group × Operation)) :
    ((ops.filterMap a.file?).map SampleFile.samples).sum = (callsOf ops).countP a.survives := by
  induction ops with
  | nil => rfl
  | cons entry ops ih =>
    rw [callsOf, List.flatMap_cons, List.countP_append, ← callsOf, ← ih]
    cases hprogram : (a.program entry.2 entry.1).value with
    | none =>
      have hfile : a.file? entry = none := by simp [file?, hprogram]
      rw [program_eq, Program.finish_batch_eq_none_iff] at hprogram
      rw [List.filterMap_cons_none hfile, hprogram, Nat.zero_add]
    | some content =>
      have hfile : a.file? entry = some ⟨samplePath entry.1 entry.2, content,
          (entry.2.calls entry.1).countP a.survives⟩ := by simp [file?, hprogram]
      rw [List.filterMap_cons_some hfile, List.map_cons, List.sum_cons]

theorem samples_pos {a : Assembler} {entry : Group × Operation} {file : SampleFile}
    (h : a.file? entry = some file) : 1 ≤ file.samples := by
  obtain ⟨content, hprogram, rfl⟩ := Option.map_eq_some_iff.mp h
  rw [program_eq] at hprogram
  have hsome : (Program.batch a (entry.2.calls entry.1)).finish ≠ none := by
    rw [hprogram]
    exact Option.some_ne_none content
  rw [Ne, Program.finish_batch_eq_none_iff] at hsome
  exact Nat.pos_of_ne_zero hsome

theorem path_of_file? {a : Assembler} {entry : Group × Operation} {file : SampleFile}
    (h : a.file? entry = some file) : file.path = samplePath entry.1 entry.2 := by
  obtain ⟨content, -, rfl⟩ := Option.map_eq_some_iff.mp h
  rfl

theorem missingParameters_calls (a : Assembler) (calls : List Call) :
    missingParameters (diagnosticsOf (calls.flatMap a.reports)) =
      calls.countP fun c => !a.survives c := by
  rw [missingParameters_flatMap]
  induction calls with
  | nil => rfl
  | cons c calls ih =>
    rw [List.map_cons, List.sum_cons, ih, missingParameters_reports, List.countP_cons]
    cases a.survives c <;> simp [Nat.add_comm]

end Assembler

open Assembler

namespace CodeModel

def examples (m : CodeModel) : List Example := m.operations.flatMap fun entry => entry.2.examples

theorem length_callsOf (m : CodeModel) : (callsOf m.operations).length = m.examples.length := by
  simp [callsOf, examples, Operation.calls, List.length_flatMap]

variable {m : CodeModel} {s : Settings}

theorem renderSamples_notes (hm : m.validate.value = .ok ()) (hs : s.check = .ok ()) :
    (m.renderSamples s).notes = m.validate.notes ++ (callsOf m.operations).flatMap (ofModel m s).reports := by
  simp only [renderSamples, hs, validated, Noted.notes_bind, hm, Noted.notes_pure, List.append_nil,
    renderOperations_notes]

theorem pairwise_files (hm : m.Sound) (a : Assembler) :
    (m.operations.filterMap a.file?).Pairwise fun f g => f.path.components ≠ g.path.components := by
  refine hm.paths_distinct.filterMap a.file? fun first second hne f hf g hg => ?_
  rw [path_of_file? hf, path_of_file? hg]
  exact hne

/-- The files of a run are the programs of the operations that have one, in order and at paths that all
differ. Each counts at least one sample. Together with the suppressed examples, the samples are all
examples of the model, and there is a report of a missing parameter for each suppressed one. -/
theorem samples_accounted (m : CodeModel) (s : Settings) (hm : m.validate.value = .ok ())
    (hs : s.check = .ok ()) :
    ∃ rendered, (m.renderSamples s).value = .ok rendered ∧
      rendered.files.map (fun f => (f.path, f.content)) = m.operations.filterMap (fun (g, op) =>
        ((ofModel m s).program op g).value.map fun content => (samplePath g op, content)) ∧
      (∀ f ∈ rendered.files, 1 ≤ f.samples) ∧
      (rendered.files.map SampleFile.samples).sum + rendered.suppressed = m.examples.length ∧
      missingParameters (m.renderSamples s).diagnostics = rendered.suppressed ∧
      rendered.files.Pairwise fun f g => f.path.components ≠ g.path.components := by
  refine ⟨_, renderSamples_value hm hs, renderOperations_eq _ _, ?_⟩
  rw [renderOperations_value]
  refine ⟨?_, ?_, ?_, pairwise_files (sound_iff_validate.mp hm) _⟩
  · intro f hf
    obtain ⟨entry, -, hfile⟩ := List.mem_filterMap.mp hf
    exact samples_pos hfile
  · rw [sum_samples, ← length_callsOf, List.length_eq_countP_add_countP (ofModel m s).survives]
    simp
  · have hquiet : diagnosticsOf m.validate.notes = [] := m.diagnostics_validate
    rw [Noted.diagnostics, renderSamples_notes hm hs, diagnosticsOf_append, hquiet, List.nil_append,
      missingParameters_calls]

def partlyRecorded : CodeModel :=
  { name := "C"
    family := .typeScript
    groups := [{ operations := [
      { name := "get"
        parameters := [.plain "id" (.primitive .string) true]
        examples := [{ name := "blank" }, { name := "full", parameters := [("id", .string "x")] }] },
      { name := "list", examples := [{ name := "all" }] }] }] }

theorem samples_accounted_partlyRecorded :
    partlyRecorded.validate.value = .ok () ∧ ({} : Settings).check = .ok () ∧
    ∃ rendered, (partlyRecorded.renderSamples {}).value = .ok rendered ∧
      (rendered.files.map SampleFile.samples).sum + rendered.suppressed = 3 ∧
      missingParameters (partlyRecorded.renderSamples {}).diagnostics = rendered.suppressed := by
  have hm : partlyRecorded.validate.value = .ok () := by decide +kernel
  have hs : ({} : Settings).check = .ok () := by decide +kernel
  obtain ⟨rendered, hvalue, -, -, htotal, hmissing, -⟩ := samples_accounted partlyRecorded {} hm hs
  exact ⟨hm, hs, rendered, hvalue, htotal, hmissing⟩

end CodeModel

end ApiSamples
