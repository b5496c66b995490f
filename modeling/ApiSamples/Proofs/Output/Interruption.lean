import ApiSamples.Proofs.Files.Interruption
import ApiSamples.Proofs.Output.Confinement

namespace ApiSamples

open FilePath FileSystem

namespace CodeModel

def fragmentSteps (m : CodeModel) (s : Settings) (directory : FilePath) : List Step :=
  (m.fragmentsText s).toList.flatMap fun content => replaceSteps (directory.join fragmentsPath) content

variable {m : CodeModel} {s : Settings} {d : Destination}

theorem generateFragments_eq_performAll (hm : m.validate.value = .ok ()) (hd : d.dryRun = false)
    (w : World) :
    (m.generateFragments s d w).value.1.files =
      (w.files.performAll (m.fragmentSteps s d.directory)).1 := by
  simp only [generateFragments, Noted.value_bind, renderFragments_of_accepted hm, fragmentSteps]
  cases m.fragmentsText s with
  | none => rfl
  | some content =>
    simp only [World.emit, hd, Bool.false_eq_true, if_false, Option.toList_some, List.flatMap_cons,
      List.flatMap_nil, List.append_nil, replace]
    rcases w.files.performAll (replaceSteps (d.directory.join fragmentsPath) content) with ⟨now, _ | failed⟩ <;>
      rfl

theorem keepsScripts_sampleSteps {directory : FilePath} {fs now : FileSystem}
    (h : fs.Interrupted (m.sampleSteps s directory) now) :
    KeepsScripts ((m.programs s).map fun e => (directory.join e.1, e.2)) fs now := by
  apply keepsScripts_of_interrupted
  · intro target ht
    obtain ⟨e, he, rfl⟩ := List.mem_map.mp ht
    exact (isScript_of_mem_programs he).join directory
  · rwa [List.flatMap_map]

theorem keepsScripts_fragmentSteps {directory : FilePath} {fs now : FileSystem}
    (h : fs.Interrupted (m.fragmentSteps s directory) now) :
    KeepsScripts ((m.fragmentsText s).toList.map fun content => (directory.join fragmentsPath, content))
      fs now := by
  apply keepsScripts_of_interrupted
  · intro target ht
    obtain ⟨content, -, rfl⟩ := List.mem_map.mp ht
    exact isScript_fragmentsPath.join directory
  · rwa [List.flatMap_map]

theorem samplesRun_of_flawed (hs : s.check ≠ .ok ()) (w : World) : (m.samplesRun s d w).1 = w := by
  cases hflaw : s.check with
  | ok => exact absurd hflaw hs
  | error e =>
    have hrefused : m.renderSamples s = pure (.error e) := by simp only [renderSamples, hflaw]
    rw [samplesRun, generateSamples, hrefused]
    rfl

/-- A run performs its steps, and in each state in which they can be cut off, every script is what it was before
or the whole of a text that the run renders and puts there. Flawed settings keep a run for samples from taking
any step; a run for fragments does not look at them. -/
theorem scripts_whole (m : CodeModel) (s : Settings) (hm : m.validate.value = .ok ()) :
    (s.check = .ok () → ∃ rendered, (m.renderSamples s).value = .ok rendered ∧
      ∀ (d : Destination) (w : World), d.dryRun = false →
        (m.samplesRun s d w).1.files = (w.files.performAll (m.sampleSteps s d.directory)).1 ∧
        ∀ now, w.files.Interrupted (m.sampleSteps s d.directory) now →
          KeepsScripts (rendered.files.map fun file => (d.directory.join file.path, file.content))
            w.files now) ∧
    (s.check ≠ .ok () → ∀ (d : Destination) (w : World), (m.samplesRun s d w).1 = w) ∧
    ∃ fragments, (m.renderFragments s).value = .ok fragments ∧
      ∀ (d : Destination) (w : World), d.dryRun = false →
        (m.generateFragments s d w).value.1.files =
          (w.files.performAll (m.fragmentSteps s d.directory)).1 ∧
        ∀ now, w.files.Interrupted (m.fragmentSteps s d.directory) now →
          KeepsScripts (fragments.toList.map fun content => (d.directory.join fragmentsPath, content))
            w.files now := by
  refine ⟨fun hs => ?_, fun hs d w => samplesRun_of_flawed hs w, ?_⟩
  · obtain ⟨rendered, hr, hfiles⟩ := renderSamples_of_accepted hm hs
    refine ⟨rendered, hr, fun d w hd => ⟨samplesRun_eq_performAll hm hs hd w, fun now hnow => ?_⟩⟩
    have hkept := keepsScripts_sampleSteps hnow
    rw [← hfiles, List.map_map] at hkept
    exact hkept
  · refine ⟨m.fragmentsText s, renderFragments_of_accepted hm, fun d w hd => ?_⟩
    exact ⟨generateFragments_eq_performAll hm hd w, fun now hnow => keepsScripts_fragmentSteps hnow⟩

/-- Older files stand where the runs put theirs. No package name is needed for the fragments. -/
theorem scripts_whole_ofCalls :
    (ofCalls [("g", "x")]).validate.value = .ok () ∧
    (({} : Settings).check = .ok () ∧
      ∃ rendered, ((ofCalls [("g", "x")]).renderSamples {}).value = .ok rendered ∧
        ∀ now, ((FileSystem.empty ["work", "out", "g"]).put ["work", "out", "g", "x.ts"]
            (.file "old")).Interrupted ((ofCalls [("g", "x")]).sampleSteps {} ⟨"/work/out"⟩) now →
          now.node? ["work", "out", "g", "x.ts"] = some (.file "old") ∨
          ∃ file ∈ rendered.files, now.node? ["work", "out", "g", "x.ts"] = some (.file file.content)) ∧
    (({ packageName := "" } : Settings).check ≠ .ok () ∧
      ∃ fragments, ((ofCalls [("g", "x")]).renderFragments { packageName := "" }).value = .ok fragments ∧
        ∀ now, ((FileSystem.empty ["work", "out"]).put ["work", "out", "fragments.ts"]
            (.file "old")).Interrupted
              ((ofCalls [("g", "x")]).fragmentSteps { packageName := "" } ⟨"/work/out"⟩) now →
          now.node? ["work", "out", "fragments.ts"] = some (.file "old") ∨
          ∃ content ∈ fragments, now.node? ["work", "out", "fragments.ts"] = some (.file content)) := by
  have hm : (ofCalls [("g", "x")]).validate.value = .ok () := by decide +kernel
  have hs : ({} : Settings).check = .ok () := by decide +kernel
  have hflawed : ({ packageName := "" } : Settings).check ≠ .ok () := by decide +kernel
  obtain ⟨hsamples, -, -⟩ := scripts_whole (ofCalls [("g", "x")]) {} hm
  obtain ⟨-, -, fragments, hf, hfragments⟩ := scripts_whole (ofCalls [("g", "x")]) { packageName := "" } hm
  obtain ⟨rendered, hr, hruns⟩ := hsamples hs
  refine ⟨hm, ⟨hs, rendered, hr, fun now hnow => ?_⟩, hflawed, fragments, hf, fun now hnow => ?_⟩
  · obtain ⟨-, hkept⟩ := hruns ⟨⟨"/work/out"⟩, false⟩ ⟨_, []⟩ rfl
    have hscript : IsScriptPlace ["work", "out", "g", "x.ts"] := ⟨["work", "out", "g"], "x", rfl⟩
    have hold : ((FileSystem.empty ["work", "out", "g"]).put ["work", "out", "g", "x.ts"] (.file "old")).node?
        ["work", "out", "g", "x.ts"] = some (.file "old") := by decide
    rcases (hkept now hnow).of_file hscript hold with hsame | ⟨e, he, hnew⟩
    · exact .inl hsame
    · obtain ⟨file, hmem, rfl⟩ := List.mem_map.mp he
      exact .inr ⟨file, hmem, hnew⟩
  · obtain ⟨-, hkept⟩ := hfragments ⟨⟨"/work/out"⟩, false⟩ ⟨_, []⟩ rfl
    have hscript : IsScriptPlace ["work", "out", "fragments.ts"] := ⟨["work", "out"], "fragments", rfl⟩
    have hold : ((FileSystem.empty ["work", "out"]).put ["work", "out", "fragments.ts"] (.file "old")).node?
        ["work", "out", "fragments.ts"] = some (.file "old") := by decide
    rcases (hkept now hnow).of_file hscript hold with hsame | ⟨e, he, hnew⟩
    · exact .inl hsame
    · obtain ⟨content, hmem, rfl⟩ := List.mem_map.mp he
      exact .inr ⟨content, Option.mem_toList.mp hmem, hnew⟩

end CodeModel

end ApiSamples
