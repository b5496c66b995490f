import ApiSamples.Proofs.Files.Frame
import ApiSamples.Proofs.Output.Programs

namespace ApiSamples

open FilePath FileSystem

def Destination.targets (d : Destination) (files : List (FilePath × String)) : List (FilePath × String) :=
  files.map fun e => (d.directory.join e.1, e.2)

theorem World.emitFiles_of_written {d : Destination} (hd : d.dryRun = false) (w : World)
    (summary : Summary) (files : List SampleFile) :
    (w.emitFiles d summary files).1.files =
      (w.files.replaceAll (d.targets (files.map fun f => (f.path, f.content)))).1 ∧
    ((∃ total, (w.emitFiles d summary files).2 = .ok total ∧
        total.files = summary.files ++ files.map (·.path)) ↔
      (w.files.replaceAll (d.targets (files.map fun f => (f.path, f.content)))).2 = none) := by
  induction files generalizing w summary with
  | nil => simp [emitFiles, Destination.targets, replaceAll]
  | cons file files ih =>
    simp only [emitFiles, emit, hd, Bool.false_eq_true, if_false, Destination.targets, List.map_cons,
      replaceAll]
    rcases h : w.files.replace (d.directory.join file.path) file.content with ⟨now, _ | failed⟩
    · obtain ⟨hfiles, hresult⟩ := ih { w with files := now } (summary.add file)
      refine ⟨hfiles, ?_⟩
      rw [← Destination.targets, ← hresult]
      simp [Summary.add]
    · simp

namespace FileSystem

theorem locate_of_read? {fs : FileSystem} {p : FilePath} {content : String}
    (h : fs.read? p = some content) :
    fs.locate p = some (p.place fs.origin) ∧ fs.node? (p.place fs.origin) = some (.file content) := by
  obtain ⟨q, hq, hc⟩ := Option.bind_eq_some_iff.mp h
  have hplace := place_of_filePlace? hq
  obtain ⟨place, hl, -⟩ := Option.bind_eq_some_iff.mp hq
  rw [place_of_locate hl] at hl
  refine ⟨hl, ?_⟩
  rw [← hplace]
  split at hc
  · next text hn => rw [hn, Option.some.inj hc]
  · cases hc

end FileSystem

namespace CodeModel

def samplesRun (m : CodeModel) (s : Settings) (d : Destination) (w : World) :
    World × Except RunError Summary := (m.generateSamples s d w).value

/-- The fragments are generated behind the samples. -/
def fragmentsRun (m : CodeModel) (s : Settings) (d : Destination) (w : World) :
    World × Except RunError (Option FilePath) := (m.generateFragments s d (m.samplesRun s d w).1).value

def written (m : CodeModel) (s : Settings) (d : Destination) (w : World) : FileSystem :=
  (m.fragmentsRun s d w).1.files

/-- Both runs succeed, and in the end each program and the fragments can be read at their own paths. -/
structure NothingLost (m : CodeModel) (s : Settings) (d : Destination) (w : World) : Prop where
  samples_done : ∃ summary, (m.samplesRun s d w).2 = .ok summary ∧
    summary.files = (m.programs s).map Prod.fst
  fragments_done : ∃ path, (m.fragmentsRun s d w).2 = .ok path
  programs_kept : ∀ e ∈ m.programs s, (m.written s d w).read? (d.directory.join e.1) = some e.2
  files_distinct :
    ((m.programs s).map fun e => (m.written s d w).locate (d.directory.join e.1)).Nodup
  fragments_kept : ∀ content ∈ m.fragmentsText s,
    (m.written s d w).read? (d.directory.join fragmentsPath) = some content

variable {m : CodeModel} {s : Settings} {d : Destination} {w : World} {origin : Place}

theorem samplesRun_spec (hm : m.validate.value = .ok ()) (hs : s.check = .ok ())
    (hd : d.dryRun = false) :
    (m.samplesRun s d w).1.files = (w.files.replaceAll (d.targets (m.programs s))).1 ∧
    ((∃ summary, (m.samplesRun s d w).2 = .ok summary ∧
        summary.files = (m.programs s).map Prod.fst) ↔
      (w.files.replaceAll (d.targets (m.programs s))).2 = none) := by
  obtain ⟨rendered, hr, hfiles⟩ := renderSamples_of_accepted hm hs
  have hspec := w.emitFiles_of_written hd ⟨[], 0, rendered.suppressed⟩ rendered.files
  have hpaths : rendered.files.map (·.path) = (m.programs s).map Prod.fst := by
    rw [← hfiles, List.map_map]
    rfl
  rw [hfiles, hpaths, List.nil_append] at hspec
  simpa only [samplesRun, generateSamples, Noted.value_bind, hr, Noted.value_pure] using hspec

theorem fragmentsRun_spec (hm : m.validate.value = .ok ()) (hd : d.dryRun = false) :
    (m.written s d w) = ((m.samplesRun s d w).1.files.replaceAll (d.targets
      ((m.fragmentsText s).map fun content => (fragmentsPath, content)).toList)).1 ∧
    ((∃ path, (m.fragmentsRun s d w).2 = .ok path) ↔
      ((m.samplesRun s d w).1.files.replaceAll (d.targets
        ((m.fragmentsText s).map fun content => (fragmentsPath, content)).toList)).2 = none) := by
  simp only [written, fragmentsRun, generateFragments, Noted.value_bind,
    renderFragments_of_accepted hm]
  cases m.fragmentsText s with
  | none => simp [Destination.targets, replaceAll]
  | some content =>
    simp only [World.emit, hd, Bool.false_eq_true, if_false, Option.map_some, Option.toList_some,
      Destination.targets, List.map_cons, List.map_nil, replaceAll_singleton]
    rcases h : (m.samplesRun s d w).1.files.replace (d.directory.join fragmentsPath) content
      with ⟨now, _ | failed⟩ <;> simp [Except.map]

theorem runs_spec (hm : m.validate.value = .ok ()) (hs : s.check = .ok ()) (hd : d.dryRun = false) :
    ((∃ summary, (m.samplesRun s d w).2 = .ok summary ∧
        summary.files = (m.programs s).map Prod.fst) ∧ (∃ path, (m.fragmentsRun s d w).2 = .ok path) ↔
      (w.files.replaceAll (d.targets (m.outputs s))).2 = none) ∧
    ((w.files.replaceAll (d.targets (m.outputs s))).2 = none →
      m.written s d w = (w.files.replaceAll (d.targets (m.outputs s))).1) := by
  obtain ⟨hfiles, hdone⟩ := samplesRun_spec (w := w) hm hs hd
  obtain ⟨hwritten, hfragments⟩ := fragmentsRun_spec (s := s) (w := w) hm hd
  have happend : d.targets (m.outputs s) = d.targets (m.programs s) ++ d.targets
      ((m.fragmentsText s).map fun content => (fragmentsPath, content)).toList := List.map_append
  rw [hdone, hfragments, hwritten, hfiles, happend, replaceAll_append]
  rcases h : w.files.replaceAll (d.targets (m.programs s)) with ⟨now, _ | failed⟩ <;> simp

theorem isScript_of_mem_targets {e : FilePath × String} (he : e ∈ d.targets (m.outputs s)) :
    e.1.IsScript := by
  obtain ⟨o, ho, rfl⟩ := List.mem_map.mp he
  exact (isScript_of_mem_outputs ho).join _

theorem map_fst_targets (d : Destination) (files : List (FilePath × String)) :
    (d.targets files).map Prod.fst = files.map fun e => d.directory.join e.1 := by
  simp [Destination.targets]

theorem map_place_targets (d : Destination) (files : List (FilePath × String)) (origin : Place) :
    ((d.targets files).map fun e => e.1.place origin) =
      files.map fun e => (d.directory.join e.1).place origin := by
  simp only [Destination.targets, List.map_map, Function.comp_def]

theorem NothingLost.nodup (h : m.NothingLost s d w) (ho : (m.written s d w).origin = origin) :
    ((d.targets (m.outputs s)).map fun e => e.1.place origin).Nodup := by
  have hlocate : (m.programs s).map (fun e => (m.written s d w).locate (d.directory.join e.1)) =
      ((m.programs s).map fun e => (d.directory.join e.1).place origin).map some := by
    rw [List.map_map]
    refine List.map_congr_left fun e he => ?_
    have hread := (locate_of_read? (h.programs_kept e he)).1
    rw [ho] at hread
    exact hread
  have hprograms : ((m.programs s).map fun e => (d.directory.join e.1).place origin).Nodup :=
    List.Nodup.of_map some (hlocate ▸ h.files_distinct)
  rw [map_place_targets, outputs, List.map_append, List.nodup_append]
  refine ⟨hprograms, ?_, ?_⟩
  · cases m.fragmentsText s <;> simp
  · intro q hq r hr heq
    obtain ⟨e, he, hplace⟩ := List.mem_map.mp hq
    obtain ⟨f, hf, hsame⟩ := List.mem_map.mp hr
    rw [Option.mem_toList] at hf
    obtain ⟨content, hc, rfl⟩ := Option.map_eq_some_iff.mp hf
    -- One file would hold both texts, and a program is never the text of the fragments.
    have hone : (d.directory.join e.1).place origin = (d.directory.join fragmentsPath).place origin := by
      rw [hplace, hsame, heq]
    have hprogram := (locate_of_read? (h.programs_kept e he)).2
    have hfragments := (locate_of_read? (h.fragments_kept content hc)).2
    rw [ho, hone] at hprogram
    rw [ho, hprogram] at hfragments
    exact content_ne_fragmentsText he hc (Node.file.inj (Option.some.inj hfragments))

theorem nothingLost_of_holds
    (hsamples : ∃ summary, (m.samplesRun s d w).2 = .ok summary ∧
      summary.files = (m.programs s).map Prod.fst)
    (hfragments : ∃ path, (m.fragmentsRun s d w).2 = .ok path)
    (hholds : w.files.Holds origin (d.targets (m.outputs s)) (m.written s d w))
    (hnodup : ((d.targets (m.outputs s)).map fun e => e.1.place origin).Nodup) :
    m.NothingLost s d w := by
  have hmem : ∀ e ∈ m.outputs s, (d.directory.join e.1, e.2) ∈ d.targets (m.outputs s) :=
    fun e he => List.mem_map_of_mem he
  have hfile : ∀ e ∈ m.outputs s, (d.directory.join e.1).NamesFile :=
    fun e he => ((isScript_of_mem_outputs he).join _).namesFile
  have hread : ∀ e ∈ m.outputs s, (m.written s d w).read? (d.directory.join e.1) = some e.2 := by
    intro e he
    have hkept := hholds.read? (hmem e he) (hfile e he)
    exact hkept
  refine ⟨hsamples, hfragments, ?_, ?_, ?_⟩
  · intro e he
    exact hread e (by simp [outputs, he])
  · have hplaces : (m.programs s).map (fun e => (m.written s d w).locate (d.directory.join e.1)) =
        ((m.programs s).map fun e => (d.directory.join e.1).place origin).map some := by
      rw [List.map_map]
      refine List.map_congr_left fun e he => ?_
      have ho : e ∈ m.outputs s := by simp [outputs, he]
      have hplace := hholds.locate (hmem e ho) (hfile e ho)
      exact hplace
    rw [map_place_targets, outputs, List.map_append] at hnodup
    have hprograms := (List.nodup_append.mp hnodup).1
    rw [hplaces]
    exact List.Nodup.map (fun _ _ => Option.some.inj) hprograms
  · intro content hc
    refine hread (fragmentsPath, content) ?_
    rw [Option.mem_def] at hc
    simp [outputs, hc]

/-- On a file system without limits, an accepted model keeps every program, each in a file of its own,
and the fragments exactly if the paths of all of them are clear of each other. -/
theorem nothingLost_iff_separate (m : CodeModel) (s : Settings) (d : Destination) (w : World)
    (origin : Place) (hm : m.validate.value = .ok ()) (hs : s.check = .ok ()) (hd : d.dryRun = false)
    (hu : w.files.Unlimited origin) :
    m.NothingLost s d w ↔
      w.files.Separate origin ((m.outputs s).map fun e => d.directory.join e.1) := by
  obtain ⟨hdone, hwritten⟩ := runs_spec (w := w) hm hs hd
  have hscripts : ∀ e ∈ d.targets (m.outputs s), e.1.IsScript := fun e he => isScript_of_mem_targets he
  rw [← map_fst_targets, ← replaceAll_succeeds_iff hu hscripts]
  constructor
  · intro h
    have hall := hdone.mp ⟨h.samples_done, h.fragments_done⟩
    refine ⟨hall, h.nodup ?_⟩
    rw [hwritten hall, (sameBut_replaceAll w.files _).origin_eq, hu.origin_eq]
  · intro hall
    have hseparate := (replaceAll_succeeds_iff hu hscripts).mp hall
    obtain ⟨-, hholds⟩ := replaceAll_of_separate hu hscripts hseparate
    rw [← hwritten hall.1] at hholds
    obtain ⟨hsamples, hfragments⟩ := hdone.mpr hall.1
    exact nothingLost_of_holds hsamples hfragments hholds hall.2

theorem unlimited_empty : (FileSystem.empty ["work"]).Unlimited ["work"] :=
  ⟨rfl, rfl, by decide⟩

theorem nothingLost_ofCalls :
    (ofCalls [("g", "x")]).validate.value = .ok () ∧ ({} : Settings).check = .ok () ∧
    (FileSystem.empty ["work"]).Unlimited ["work"] ∧
    (ofCalls [("g", "x")]).NothingLost {} ⟨⟨"out"⟩, false⟩ ⟨.empty ["work"], []⟩ := by
  have hm : (ofCalls [("g", "x")]).validate.value = .ok () := by decide +kernel
  have hs : ({} : Settings).check = .ok () := by decide +kernel
  have hpaths : ((ofCalls [("g", "x")]).outputs {}).map (fun e => join ⟨"out"⟩ e.1) =
      [⟨"out/g/x.ts"⟩, ⟨"out/fragments.ts"⟩] := by decide +kernel
  have hscripts : ∀ e ∈ [((⟨"out/g/x.ts"⟩ : FilePath), ""), (⟨"out/fragments.ts"⟩, "")],
      e.1.IsScript := by
    simpa using ⟨isScript_mk "out/g/x", isScript_mk "out/fragments"⟩
  have hseparate := (replaceAll_succeeds_iff unlimited_empty hscripts).mp
    ⟨by decide +kernel, by decide +kernel⟩
  refine ⟨hm, hs, unlimited_empty, ?_⟩
  refine (nothingLost_iff_separate _ {} ⟨⟨"out"⟩, false⟩ ⟨.empty ["work"], []⟩ ["work"] hm hs rfl
    unlimited_empty).mpr ?_
  rw [hpaths]
  exact hseparate

/-- A group may be spelled so that its directory is that of the client. This passes the checks, and two
programs are put into one file. -/
theorem not_nothingLost_ofCalls :
    (ofCalls [("", "x"), ("./client", "x")]).validate.value = .ok () ∧ ({} : Settings).check = .ok () ∧
    (FileSystem.empty ["work"]).Unlimited ["work"] ∧
    ¬ (ofCalls [("", "x"), ("./client", "x")]).NothingLost {} ⟨⟨"out"⟩, false⟩ ⟨.empty ["work"], []⟩ := by
  refine ⟨by decide +kernel, by decide +kernel, unlimited_empty, fun h => ?_⟩
  have hdistinct := h.files_distinct
  revert hdistinct
  decide +kernel

end CodeModel

end ApiSamples
