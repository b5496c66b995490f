import ApiSamples.Proofs.Output.Accounting
import ApiSamples.Proofs.Output.Fragments
import Mathlib.Algebra.Order.BigOperators.Group.List

namespace ApiSamples

open Assembler

namespace Program

/-- The calls that give a block when they are pushed one after the other. -/
def pushed (a : Assembler) (calls : List Call) : List Call :=
  ((calls.zip (answers a calls)).filter Prod.snd).map Prod.fst

theorem pushed_eq (a : Assembler) (calls : List Call) : pushed a calls = calls.filter a.survives := by
  rw [pushed, answers_eq]
  induction calls with
  | nil => rfl
  | cons c calls ih =>
    rw [List.map_cons, List.zip_cons_cons]
    cases h : a.survives c with
    | true => rw [List.filter_cons_of_pos rfl, List.map_cons, ih, List.filter_cons_of_pos h]
    | false =>
      rw [List.filter_cons_of_neg Bool.false_ne_true, ih, List.filter_cons_of_neg (by simp [h])]

/-- A program is made of the calls that give a block, and the others might as well be missing. -/
theorem batch_pushed (a : Assembler) (calls : List Call) : batch a (pushed a calls) = batch a calls := by
  have hsome : ∀ c, a.coreOf c = if a.survives c = true then a.coreOf c else none := by
    intro c
    rw [survives]
    cases a.coreOf c <;> rfl
  rw [batch_eq, batch_eq, pushed_eq, List.filterMap_filter, ← funext hsome]

end Program

namespace Assembler

theorem assembled_isSome (a : Assembler) (mode : Mode) (c : Call) :
    (a.assembled mode c).isSome = a.survives c := by
  rw [assembled_eq, Option.isSome_map, survives]

theorem map_assembled_filter (a : Assembler) (mode : Mode) (calls : List Call) :
    (calls.filter a.survives).map (a.assembled mode) = (calls.filterMap (a.assembled mode)).map some := by
  induction calls with
  | nil => rfl
  | cons c calls ih =>
    rw [List.filter_cons, ← a.assembled_isSome mode c, List.filterMap_cons]
    cases h : a.assembled mode c with
    | none => simpa [h] using ih
    | some text => simpa [h] using ih

theorem length_filterMap_assembled (a : Assembler) (mode : Mode) (calls : List Call) :
    (calls.filterMap (a.assembled mode)).length = calls.countP a.survives := by
  rw [List.length_filterMap_eq_countP]
  simp only [assembled_isSome]

theorem joined_eq (texts : List String) :
    joined texts = if texts = [] then none else some ("\n".intercalate texts) := by
  cases texts <;> rfl

theorem file?_eq (a : Assembler) (entry : Group × Operation) :
    a.file? entry =
      (Program.batch a (Program.pushed a (entry.2.calls entry.1))).finish.map fun content =>
        ⟨samplePath entry.1 entry.2, content, (Program.pushed a (entry.2.calls entry.1)).length⟩ := by
  rw [file?, program_eq, Program.batch_pushed, Program.pushed_eq, List.countP_eq_length_filter]

theorem files_eq_nil_iff (a : Assembler) (ops : List (Group × Operation)) :
    ops.filterMap a.file? = [] ↔ ((ops.filterMap a.file?).map SampleFile.samples).sum = 0 := by
  constructor
  · intro h
    rw [h]
    rfl
  · intro h
    refine List.eq_nil_iff_forall_not_mem.mpr fun file hfile => ?_
    have hle : file.samples ≤ ((ops.filterMap a.file?).map SampleFile.samples).sum :=
      List.le_sum_of_mem (List.mem_map_of_mem hfile)
    obtain ⟨entry, -, hentry⟩ := List.mem_filterMap.mp hfile
    have hpos := samples_pos hentry
    omega

theorem emitted_eq (a : Assembler) (op : Operation) (g : Group) :
    a.emitted op g = (op.calls g).filterMap (a.assembled .inline) := by
  rw [emitted, Operation.calls, List.filterMap_map]
  rfl

end Assembler

namespace CodeModel

variable {m : CodeModel} {s : Settings}

theorem emittedFragments_eq (m : CodeModel) (s : Settings) :
    m.emittedFragments s = (callsOf m.operations).filterMap ((ofModel m s).assembled .inline) := by
  simp only [emittedFragments, emitted_eq, callsOf, List.filterMap_flatMap]
  rfl

theorem renderFragments_notes (hm : m.validate.value = .ok ()) :
    (m.renderFragments s).notes =
      m.validate.notes ++ (callsOf m.operations).flatMap (ofModel m s).reports := by
  simp only [renderFragments, validated, Noted.notes_bind, hm, Noted.notes_pure, List.append_nil,
    Noted.notes_mapM, notes_fragments, callsOf, List.flatMap_assoc]

/-- Both runs report the same. The files of one are made of the calls that gave a block, and the text of
the other joins the fragments of the same calls in the same order, so that it has a fragment for each
counted sample and is missing if there is no file. -/
theorem runs_agree (m : CodeModel) (s : Settings) (hm : m.validate.value = .ok ())
    (hs : s.check = .ok ()) :
    ∃ rendered fragments, (m.renderSamples s).value = .ok rendered ∧
      (m.renderFragments s).value =
        .ok (if fragments = [] then none else some ("\n".intercalate fragments)) ∧
      (m.renderFragments s).diagnostics = (m.renderSamples s).diagnostics ∧
      rendered.files = m.operations.filterMap (fun (g, op) =>
        (Program.batch (ofModel m s) (Program.pushed (ofModel m s) (op.calls g))).finish.map fun content =>
          ⟨samplePath g op, content, (Program.pushed (ofModel m s) (op.calls g)).length⟩) ∧
      fragments.map some = (m.operations.flatMap fun (g, op) =>
        Program.pushed (ofModel m s) (op.calls g)).map ((ofModel m s).assembled .inline) ∧
      fragments.length = (rendered.files.map SampleFile.samples).sum ∧
      (fragments = [] ↔ rendered.files = []) := by
  have hlength : (m.emittedFragments s).length =
      ((m.operations.filterMap (ofModel m s).file?).map SampleFile.samples).sum := by
    rw [emittedFragments_eq, length_filterMap_assembled, sum_samples]
  refine ⟨_, m.emittedFragments s, renderSamples_value hm hs, ?_, ?_, ?_, ?_, ?_, ?_⟩
  · rw [renderFragments_of_accepted hm, fragmentsText_eq, joined_eq]
  · rw [Noted.diagnostics, Noted.diagnostics, renderFragments_notes hm, renderSamples_notes hm hs]
  · rw [renderOperations_value]
    exact List.filterMap_congr fun entry _ => (ofModel m s).file?_eq entry
  · rw [emittedFragments_eq, ← map_assembled_filter, callsOf, List.filter_flatMap]
    simp only [Program.pushed_eq]
  · rw [hlength, renderOperations_value]
  · rw [renderOperations_value, files_eq_nil_iff, ← hlength, List.length_eq_zero_iff]

theorem runs_agree_partlyRecorded :
    partlyRecorded.validate.value = .ok () ∧ ({} : Settings).check = .ok () ∧
    ∃ rendered fragments, (partlyRecorded.renderSamples {}).value = .ok rendered ∧
      (partlyRecorded.renderFragments {}).value =
        .ok (if fragments = [] then none else some ("\n".intercalate fragments)) ∧
      (partlyRecorded.renderFragments {}).diagnostics = (partlyRecorded.renderSamples {}).diagnostics ∧
      fragments.length = (rendered.files.map SampleFile.samples).sum := by
  have hm : partlyRecorded.validate.value = .ok () := by decide +kernel
  have hs : ({} : Settings).check = .ok () := by decide +kernel
  obtain ⟨rendered, fragments, hsamples, hfragments, hreports, -, -, hlength, -⟩ :=
    runs_agree partlyRecorded {} hm hs
  exact ⟨hm, hs, rendered, fragments, hsamples, hfragments, hreports, hlength⟩

end CodeModel

end ApiSamples
