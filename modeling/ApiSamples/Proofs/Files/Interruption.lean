import ApiSamples.Proofs.Files.Outcome

namespace ApiSamples

open FilePath

namespace FileSystem

/-- What a step leaves that is cut off or fails. -/
inductive Step.Leaves (fs : FileSystem) : Step → FileSystem → Prop
  | nothing (step : Step) : Leaves fs step fs
  | someFolders {p : FilePath} {cs : List Component} (h : cs <+: p.components) :
    Leaves fs (.makeFolders p) (fs.makeWay fs.origin cs).1
  | beginning {p : FilePath} {content written : String} (h : written.toList <+: content.toList) :
    Leaves fs (.write p content) (fs.perform (.write p written)).1
  | whole (step : Step) : Leaves fs step (fs.perform step).1

/-- The states in which steps that are performed one after the other can be cut off. The last one is
among them. -/
inductive Interrupted : FileSystem → List Step → FileSystem → Prop
  | during {fs now : FileSystem} {step : Step} {steps : List Step} (h : step.Leaves fs now) :
    Interrupted fs (step :: steps) now
  | done (fs : FileSystem) : Interrupted fs [] fs
  | later {fs next now : FileSystem} {step : Step} {steps : List Step}
    (hs : fs.perform step = (next, true)) (h : Interrupted next steps now) :
    Interrupted fs (step :: steps) now

variable {fs now made : FileSystem} {p : FilePath} {content : String} {q : Place}

/-- The state that the steps end in, be it by a failure, is one of those. -/
theorem interrupted_performAll (fs : FileSystem) (steps : List Step) :
    fs.Interrupted steps (fs.performAll steps).1 := by
  induction steps generalizing fs with
  | nil => exact .done fs
  | cons step steps ih =>
    rcases h : fs.perform step with ⟨next, _ | _⟩
    · have hlast : (fs.performAll (step :: steps)).1 = (fs.perform step).1 := by simp [performAll, h]
      rw [hlast]
      exact .during (.whole step)
    · have hlast : (fs.performAll (step :: steps)).1 = (next.performAll steps).1 := by
        simp [performAll, h]
      rw [hlast]
      exact .later h (ih next)

theorem Interrupted.append {steps rest : List Step} (h : fs.Interrupted (steps ++ rest) now) :
    fs.Interrupted steps now ∨
      ∃ made, fs.performAll steps = (made, none) ∧ made.Interrupted rest now := by
  induction steps generalizing fs with
  | nil => exact .inr ⟨fs, rfl, h⟩
  | cons step steps ih =>
    cases h with
    | during hleaves => exact .inl (.during hleaves)
    | later hs hrest =>
      rcases ih hrest with hfirst | ⟨made, hmade, hlast⟩
      · exact .inl (.later hs hfirst)
      · refine .inr ⟨made, ?_, hlast⟩
        simp only [performAll, hs, hmade]

theorem grown_of_interrupted_folderSteps (h : fs.Interrupted (folderSteps p) now) : Grown fs now := by
  have hleaves : ∀ parent : FilePath, (Step.makeFolders parent).Leaves fs now → Grown fs now := by
    intro parent hl
    cases hl with
    | nothing => exact .refl fs
    | someFolders => exact grown_makeWay fs fs.origin _
    | whole => exact grown_makeFolders fs parent
  unfold folderSteps at h
  split at h
  · next parent _ =>
    by_cases he : parent.text.isEmpty = true
    · rw [if_pos he] at h
      cases h
      exact .refl fs
    · rw [if_neg he] at h
      cases h with
      | during hl => exact hleaves parent hl
      | later hs hrest =>
        cases hrest
        have hmade := grown_makeFolders fs parent
        rw [perform] at hs
        rwa [hs] at hmade
  · cases h
    exact .refl fs

def IsScriptPlace (q : Place) : Prop := ∃ before name, q = before ++ [name ++ ".ts"]

theorem not_isScriptPlace_temporary (hp : p.IsScript) (hn : p.temporary.endsInFolder = false)
    (origin : Place) : ¬ IsScriptPlace (p.temporary.place origin) := by
  rintro ⟨before, name, hplace⟩
  obtain ⟨others, other, htemporary⟩ := hp.exists_temporary_place hn origin
  rw [hplace] at htemporary
  obtain ⟨-, hname⟩ := List.append_inj' htemporary rfl
  have hlast := congrArg (fun s => s.toList.getLast?) (List.cons.inj hname).1
  have htmp : ".tmp".toList = ['.', 't', 'm', 'p'] := rfl
  have hts : ".ts".toList = ['.', 't', 's'] := rfl
  simp [htmp, hts] at hlast

/-- Whatever is written under the temporary name of a script, no script is touched by it. -/
theorem node?_write_temporary (hp : p.IsScript) (hq : IsScriptPlace q) (fs : FileSystem)
    (content : String) : (fs.perform (.write p.temporary content)).1.node? q = fs.node? q := by
  simp only [perform]
  split
  · next source hs =>
    obtain ⟨rfl, hfile, -⟩ := filePlace?_spec hs
    have hne : q ≠ p.temporary.place fs.origin := by
      rintro rfl
      exact not_isScriptPlace_temporary hp hfile fs.origin hq
    exact node?_put_of_ne fs hne _
  · rfl

theorem written_temporary (h : fs.perform (.write p.temporary content) = (now, true)) :
    now.node? (p.temporary.place now.origin) = some (.file content) ∧ now.origin = fs.origin := by
  simp only [perform] at h
  split at h
  · next source hs =>
    obtain ⟨rfl, -, hfolder⟩ := filePlace?_spec hs
    cases h
    exact ⟨node?_put_self fs (ne_root_of_not_isFolder hfolder) _, rfl⟩
  · cases h

/-- The temporary file of a script takes the place of the script, or nothing happens to any script. -/
theorem node?_rename_temporary (hp : p.IsScript) (hq : IsScriptPlace q)
    (hs : fs.node? (p.temporary.place fs.origin) = some (.file content)) :
    (fs.perform (.rename p.temporary p)).1.node? q = fs.node? q ∨
      p.place fs.origin = q ∧
        (fs.perform (.rename p.temporary p)).1.node? q = some (.file content) := by
  simp only [perform]
  split
  · next source target hsource htarget =>
    obtain ⟨rfl, hfile, -⟩ := filePlace?_spec hsource
    obtain ⟨rfl, -, hfolder⟩ := filePlace?_spec htarget
    have hne : q ≠ p.temporary.place fs.origin := by
      rintro rfl
      exact not_isScriptPlace_temporary hp hfile fs.origin hq
    rw [hs]
    by_cases hqt : q = p.place fs.origin
    · subst hqt
      exact .inr ⟨rfl, node?_put_self _ (ne_root_of_not_isFolder hfolder) _⟩
    · left
      rw [node?_put_of_ne _ hqt, node?_remove_of_ne _ hne]
  · exact .inl rfl

/-- Where a script may stand there is what stood there, or the whole of a file that belongs there, or a
folder where nothing stood. -/
def KeepsScripts (files : List (FilePath × String)) (fs now : FileSystem) : Prop :=
  ∀ q, IsScriptPlace q → now.node? q = fs.node? q ∨
    (∃ e ∈ files, e.1.place fs.origin = q ∧ now.node? q = some (.file e.2)) ∨
    (fs.node? q = none ∧ now.node? q = some .folder)

variable {files : List (FilePath × String)}

theorem Grown.keepsScripts (h : Grown fs now) : KeepsScripts files fs now := by
  intro q _
  exact (h.node?_cases q).imp_right .inr

theorem KeepsScripts.mono {more : List (FilePath × String)} (h : KeepsScripts files fs now)
    (hm : ∀ e ∈ files, e ∈ more) : KeepsScripts more fs now := by
  intro q hq
  exact (h q hq).imp_right (.imp_left fun ⟨e, he, hfile⟩ => ⟨e, hm e he, hfile⟩)

theorem KeepsScripts.of_file {old : String} (h : KeepsScripts files fs now) (hq : IsScriptPlace q)
    (hold : fs.node? q = some (.file old)) :
    now.node? q = some (.file old) ∨ ∃ e ∈ files, now.node? q = some (.file e.2) := by
  rcases h q hq with hsame | ⟨e, he, -, hfile⟩ | ⟨hnone, -⟩
  · exact .inl (hsame.trans hold)
  · exact .inr ⟨e, he, hfile⟩
  · rw [hold] at hnone
    cases hnone

theorem KeepsScripts.trans {more : List (FilePath × String)} (ho : made.origin = fs.origin)
    (h : KeepsScripts files fs made) (hm : KeepsScripts more made now) :
    KeepsScripts (files ++ more) fs now := by
  intro q hq
  rcases hm q hq with hsame | ⟨e, he, hplace, hfile⟩ | ⟨hnone, hfolder⟩
  · rw [hsame]
    exact h.mono (fun e he => List.mem_append_left _ he) q hq
  · rw [ho] at hplace
    exact .inr (.inl ⟨e, List.mem_append_right _ he, hplace, hfile⟩)
  · rcases h q hq with hsame | ⟨e, -, -, hfile⟩ | ⟨-, hmade⟩
    · exact .inr (.inr ⟨hsame ▸ hnone, hfolder⟩)
    · rw [hnone] at hfile
      cases hfile
    · rw [hnone] at hmade
      cases hmade

/-- One replacement: scripts are not touched until the file is complete. -/
theorem keepsScripts_of_interrupted_replaceSteps (hp : p.IsScript)
    (h : fs.Interrupted (replaceSteps p content) now) : KeepsScripts [(p, content)] fs now := by
  rw [replaceSteps_eq] at h
  rcases h.append with hfolders | ⟨made, hmade, hrest⟩
  · exact (grown_of_interrupted_folderSteps hfolders).keepsScripts
  have hgrown := grown_folderSteps fs p
  rw [hmade] at hgrown
  have hbefore : KeepsScripts [] fs made := hgrown.keepsScripts
  refine hbefore.trans hgrown.origin_eq ?_
  intro q hq
  cases hrest with
  | during hwrite =>
    left
    cases hwrite with
    | nothing => rfl
    | beginning => exact node?_write_temporary hp hq made _
    | whole => exact node?_write_temporary hp hq made content
  | later hwritten hrename =>
    have hkept := node?_write_temporary hp hq made content
    rw [hwritten] at hkept
    obtain ⟨hold, horigin⟩ := written_temporary hwritten
    rw [← hkept, ← horigin]
    cases hrename with
    | during hleaves =>
      cases hleaves with
      | nothing => exact .inl rfl
      | whole => simpa using (node?_rename_temporary hp hq hold).imp_right .inl
    | later hrenamed hdone =>
      cases hdone
      have hlast := node?_rename_temporary hp hq hold
      rw [hrenamed] at hlast
      simpa using hlast.imp_right .inl

theorem keepsScripts_of_interrupted (hscripts : ∀ e ∈ files, e.1.IsScript)
    (h : fs.Interrupted (files.flatMap fun e => replaceSteps e.1 e.2) now) :
    KeepsScripts files fs now := by
  induction files generalizing fs with
  | nil =>
    cases h
    exact (Grown.refl now).keepsScripts
  | cons e files ih =>
    rw [List.flatMap_cons] at h
    have hp : e.1.IsScript := hscripts e List.mem_cons_self
    rcases h.append with hfirst | ⟨made, hmade, hrest⟩
    · exact (keepsScripts_of_interrupted_replaceSteps hp hfirst).mono (by simp)
    · have hlast := interrupted_performAll fs (replaceSteps e.1 e.2)
      have horigin := (sameBut_performAll fs (replaceSteps e.1 e.2)).origin_eq
      rw [hmade] at hlast horigin
      have hfirst := keepsScripts_of_interrupted_replaceSteps hp hlast
      have hothers := ih (fun f hf => hscripts f (List.mem_cons_of_mem e hf)) hrest
      exact hfirst.trans horigin hothers

end FileSystem

end ApiSamples
