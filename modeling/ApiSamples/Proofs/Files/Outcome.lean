import ApiSamples.Proofs.Files.Frame

namespace ApiSamples

open FilePath

namespace FileSystem

/-- Folders have been made where nothing was, and nothing else has changed. -/
structure Grown (fs now : FileSystem) : Prop where
  origin_eq : now.origin = fs.origin
  limits_eq : now.limits = fs.limits
  node?_cases : ∀ q, now.node? q = fs.node? q ∨ fs.node? q = none ∧ now.node? q = some .folder

variable {fs now last : FileSystem} {p q : FilePath} {place : Place}

theorem Grown.refl (fs : FileSystem) : Grown fs fs := ⟨rfl, rfl, fun _ => .inl rfl⟩

theorem Grown.trans (h : Grown fs now) (hl : Grown now last) : Grown fs last := by
  refine ⟨hl.origin_eq.trans h.origin_eq, hl.limits_eq.trans h.limits_eq, ?_⟩
  intro q
  rcases hl.node?_cases q with hsame | ⟨hnone, hfolder⟩
  · rw [hsame]
    exact h.node?_cases q
  · rcases h.node?_cases q with hq | ⟨-, hq⟩
    · exact .inr ⟨hq ▸ hnone, hfolder⟩
    · rw [hnone] at hq
      cases hq

theorem Grown.file_iff (h : Grown fs now) {q : Place} {content : String} :
    now.node? q = some (.file content) ↔ fs.node? q = some (.file content) := by
  rcases h.node?_cases q with hq | ⟨hnone, hfolder⟩
  · rw [hq]
  · simp [hnone, hfolder]

theorem grown_put_folder (h : fs.node? place = none) : Grown fs (fs.put place .folder) := by
  refine ⟨rfl, rfl, ?_⟩
  intro q
  by_cases hq : q = place
  · subst hq
    exact .inr ⟨h, node?_put_self fs (ne_root_of_node?_eq_none h) _⟩
  · exact .inl (node?_put_of_ne fs hq _)

theorem grown_makeWay (fs : FileSystem) (place : Place) (cs : List Component) :
    Grown fs (fs.makeWay place cs).1 := by
  induction cs generalizing fs place with
  | nil => exact .refl fs
  | cons c cs ih =>
    simp only [makeWay]
    split
    · exact .refl fs
    · split
      · next hn => exact (grown_put_folder hn).trans (ih _ _)
      · exact ih fs _
      · exact .refl fs

theorem grown_makeFolders (fs : FileSystem) (p : FilePath) : Grown fs (fs.makeFolders p).1 := by
  unfold makeFolders
  split
  · exact .refl fs
  · split
    · exact grown_makeWay fs _ _
    · exact grown_makeWay fs _ _

theorem grown_folderSteps (fs : FileSystem) (p : FilePath) :
    Grown fs (fs.performAll (folderSteps p)).1 := by
  unfold folderSteps
  split
  · next parent _ =>
    by_cases he : parent.text.isEmpty = true
    · rw [if_pos he]
      exact .refl fs
    · have hmade := grown_makeFolders fs parent
      rw [if_neg he]
      simp only [performAll, perform]
      split <;> next heq => rwa [heq] at hmade
  · exact .refl fs

/-- Which files stand where has no part in where paths lead. -/
theorem filePlace?_congr (ho : now.origin = fs.origin) (hl : now.limits = fs.limits)
    (hf : ∀ w, now.isFolder w = fs.isFolder w) (q : FilePath) : now.filePlace? q = fs.filePlace? q := by
  have hwalk : now.walk = fs.walk := by
    funext w c
    cases c <;> simp [walk, hf, admitsName, hl]
  have hfolder : now.isFolder = fs.isFolder := funext hf
  rw [filePlace?, filePlace?, locate, locate, admits, admits, hl, ho, hwalk, hfolder]

theorem filePlace?_put_file (h : fs.isFolder place = false) (content : String) (q : FilePath) :
    (fs.put place (.file content)).filePlace? q = fs.filePlace? q := by
  apply filePlace?_congr
  · rfl
  · rfl
  · exact isFolder_put_file h content

theorem filePlace?_put_remove {source target : Place} (hs : fs.isFolder source = false)
    (ht : fs.isFolder target = false) (content : String) (q : FilePath) :
    (((fs.put source (.file content)).remove source).put target (.file content)).filePlace? q =
      fs.filePlace? q := by
  apply filePlace?_congr
  · rfl
  · rfl
  · intro w
    have hw := node?_put_remove fs (ne_root_of_not_isFolder hs) (ne_root_of_not_isFolder ht) content w
    unfold isFolder
    rw [hw]
    by_cases hwt : w = target
    · subst hwt
      simpa [isFolder] using ht.symm
    · by_cases hws : w = source
      · subst hws
        simpa [isFolder, hwt] using hs.symm
      · simp [hwt, hws]

theorem filePlace?_spec (h : fs.filePlace? q = some place) :
    place = q.place fs.origin ∧ q.endsInFolder = false ∧ fs.isFolder place = false := by
  have hplace := place_of_filePlace? h
  obtain ⟨found, -, hq⟩ := Option.bind_eq_some_iff.mp h
  split at hq
  · cases hq
  · next hno =>
    obtain rfl := Option.some.inj hq
    rw [Bool.or_eq_true, not_or, Bool.not_eq_true, Bool.not_eq_true] at hno
    exact ⟨hplace, hno⟩

inductive Outcome (fs : FileSystem) (p : FilePath) (content : String) :
    FileSystem × Option FilePath → Prop
  | unmade {now : FileSystem} {failed : FilePath} (hg : Grown fs now)
    (hm : (fs.performAll (folderSteps p)).2 ≠ none) : Outcome fs p content (now, some failed)
  | unwritten {made : FileSystem} (hg : Grown fs made)
    (hm : fs.performAll (folderSteps p) = (made, none)) (hs : made.filePlace? p.temporary = none) :
    Outcome fs p content (made, some p.temporary)
  | leftBehind {made : FileSystem} {source : Place} (hg : Grown fs made)
    (hm : fs.performAll (folderSteps p) = (made, none)) (hs : made.filePlace? p.temporary = some source)
    (ht : made.filePlace? p = none) :
    Outcome fs p content (made.put source (.file content), some p)
  | replaced {made : FileSystem} {source target : Place} (hg : Grown fs made)
    (hm : fs.performAll (folderSteps p) = (made, none)) (hs : made.filePlace? p.temporary = some source)
    (ht : made.filePlace? p = some target) :
    Outcome fs p content
      (((made.put source (.file content)).remove source).put target (.file content), none)

theorem outcome_replace (fs : FileSystem) (p : FilePath) (content : String) :
    fs.Outcome p content (fs.replace p content) := by
  have hg := grown_folderSteps fs p
  unfold replace
  rw [replaceSteps_eq, performAll_append]
  rcases hm : fs.performAll (folderSteps p) with ⟨made, _ | failed⟩
  · rw [hm] at hg
    cases hs : made.filePlace? p.temporary with
    | none =>
      simp only [performAll, perform, hs]
      exact .unwritten hg hm hs
    | some source =>
      obtain ⟨-, -, hfolder⟩ := filePlace?_spec hs
      have hsource := (filePlace?_put_file hfolder content p.temporary).trans hs
      have hnode := node?_put_self made (ne_root_of_not_isFolder hfolder) (.file content)
      cases ht : made.filePlace? p with
      | none =>
        have htarget := (filePlace?_put_file hfolder content p).trans ht
        simp only [performAll, perform, hs, hsource, htarget]
        exact .leftBehind hg hm hs ht
      | some target =>
        have htarget := (filePlace?_put_file hfolder content p).trans ht
        simp only [performAll, perform, hs, hsource, htarget, hnode]
        exact .replaced hg hm hs ht
  · rw [hm] at hg
    refine .unmade hg ?_
    rw [hm]
    exact Option.some_ne_none failed

end FileSystem

end ApiSamples
