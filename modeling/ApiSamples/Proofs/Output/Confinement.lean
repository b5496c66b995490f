import ApiSamples.Proofs.Files.Descent
import ApiSamples.Proofs.Output.Retention

namespace ApiSamples

open FilePath FileSystem

theorem FileSystem.replaceAll_eq_performAll (fs : FileSystem) (files : List (FilePath × String)) :
    (fs.replaceAll files).1 = (fs.performAll (files.flatMap fun e => replaceSteps e.1 e.2)).1 := by
  induction files generalizing fs with
  | nil => rfl
  | cons e files ih =>
    obtain ⟨p, content⟩ := e
    simp only [replaceAll, replace, List.flatMap_cons, performAll_append]
    rcases fs.performAll (replaceSteps p content) with ⟨now, _ | failed⟩
    · exact ih now
    · rfl

namespace CodeModel

def sampleSteps (m : CodeModel) (s : Settings) (directory : FilePath) : List Step :=
  (m.programs s).flatMap fun e => replaceSteps (directory.join e.1) e.2

/-- The paths of all samples lead down, the temporary ones too. -/
def Descending (m : CodeModel) (s : Settings) : Prop :=
  ∀ e ∈ m.programs s, e.1.descends = true ∧ e.1.temporary.descends = true

variable {m : CodeModel} {s : Settings}

theorem sampleSteps_stayIn_iff :
    (∀ (directory : FilePath) (origin : Place), ∀ step ∈ m.sampleSteps s directory,
      step.StaysIn directory origin) ↔ m.Descending s := by
  have hfile : ∀ e ∈ m.programs s, e.1.NamesFile := fun e he => (isScript_of_mem_programs he).namesFile
  constructor
  · intro h e he
    refine (replaceSteps_stayIn_iff (hfile e he) e.2).mp fun directory origin step hs => ?_
    exact h directory origin step (List.mem_flatMap.mpr ⟨e, he, hs⟩)
  · intro h directory origin step hs
    obtain ⟨e, he, hstep⟩ := List.mem_flatMap.mp hs
    exact (replaceSteps_stayIn_iff (hfile e he) e.2).mpr (h e he) directory origin step hstep

theorem samplesRun_eq_performAll {d : Destination} (hm : m.validate.value = .ok ())
    (hs : s.check = .ok ()) (hd : d.dryRun = false) (w : World) :
    (m.samplesRun s d w).1.files = (w.files.performAll (m.sampleSteps s d.directory)).1 := by
  rw [(samplesRun_spec hm hs hd).1, replaceAll_eq_performAll, Destination.targets, List.flatMap_map]
  rfl

/-- Steps that stay in a directory change nothing outside it but folders on the way to it. -/
theorem node?_performAll_of_staysIn {fs : FileSystem} {steps : List Step} {directory : FilePath}
    (h : ∀ step ∈ steps, step.StaysIn directory fs.origin) {q : Place}
    (hway : q ∉ directory.route fs.origin) (hout : ¬ directory.place fs.origin <+: q) :
    (fs.performAll steps).1.node? q = fs.node? q := by
  refine (sameBut_performAll fs steps).node?_eq q fun hq => ?_
  obtain ⟨step, hs, htouched⟩ := List.mem_flatMap.mp hq
  rcases (h step hs).of_mem_touched htouched with hr | hp
  · exact hway hr
  · exact hout hp

/-- The steps of a run stay in the output directory, whatever directory that is, exactly if the paths of
the samples descend; then a run changes nothing outside, on any file system. -/
theorem samples_stay_in_iff (m : CodeModel) (s : Settings) (hm : m.validate.value = .ok ())
    (hs : s.check = .ok ()) :
    ((∀ (directory : FilePath) (origin : Place), ∀ step ∈ m.sampleSteps s directory,
      step.StaysIn directory origin) ↔ m.Descending s) ∧
    ∀ (d : Destination) (w : World), d.dryRun = false →
      (m.samplesRun s d w).1.files = (w.files.performAll (m.sampleSteps s d.directory)).1 ∧
      (m.Descending s → ∀ q, q ∉ d.directory.route w.files.origin →
        ¬ d.directory.place w.files.origin <+: q →
        (m.samplesRun s d w).1.files.node? q = w.files.node? q) := by
  refine ⟨sampleSteps_stayIn_iff, fun d w hd => ?_⟩
  have hrun := samplesRun_eq_performAll hm hs hd w
  refine ⟨hrun, fun hdown q hway hout => ?_⟩
  rw [hrun]
  exact node?_performAll_of_staysIn (sampleSteps_stayIn_iff.mpr hdown d.directory _) hway hout

theorem sampleSteps_stayIn_ofCalls :
    (ofCalls [("g", "x")]).validate.value = .ok () ∧ ({} : Settings).check = .ok () ∧
    ∀ (directory : FilePath) (origin : Place),
      ∀ step ∈ (ofCalls [("g", "x")]).sampleSteps {} directory, step.StaysIn directory origin := by
  have hm : (ofCalls [("g", "x")]).validate.value = .ok () := by decide +kernel
  have hs : ({} : Settings).check = .ok () := by decide +kernel
  refine ⟨hm, hs, (samples_stay_in_iff _ {} hm hs).1.mpr ?_⟩
  unfold Descending
  decide +kernel

/-- A group that is named by two points passes the checks, and its sample stands beside the output
directory. -/
theorem sample_beside_directory :
    (ofCalls [("..", "x")]).validate.value = .ok () ∧ ({} : Settings).check = .ok () ∧
    (∃ content, ((ofCalls [("..", "x")]).samplesRun {} ⟨⟨"out"⟩, false⟩
      ⟨.empty ["work"], []⟩).1.files.node? ["work", "x.ts"] = some (.file content)) ∧
    (FileSystem.empty ["work"]).node? ["work", "x.ts"] = none ∧
    ¬ place ["work"] ⟨"out"⟩ <+: ["work", "x.ts"] := by
  refine ⟨by decide +kernel, by decide +kernel, ?_, by decide, by decide⟩
  have hsome : (((ofCalls [("..", "x")]).samplesRun {} ⟨⟨"out"⟩, false⟩
      ⟨.empty ["work"], []⟩).1.files.read? ⟨"x.ts"⟩).isSome = true := by decide +kernel
  obtain ⟨content, hread⟩ := Option.isSome_iff_exists.mp hsome
  refine ⟨content, ?_⟩
  have hnode := (locate_of_read? hread).2
  have horigin : ((ofCalls [("..", "x")]).samplesRun {} ⟨⟨"out"⟩, false⟩
      ⟨.empty ["work"], []⟩).1.files.origin = ["work"] := by decide +kernel
  have hplace : place ["work"] ⟨"x.ts"⟩ = ["work", "x.ts"] := by decide
  rwa [horigin, hplace] at hnode

end CodeModel

end ApiSamples
