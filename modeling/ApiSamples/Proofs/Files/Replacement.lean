import ApiSamples.Proofs.Files.Resolution

namespace ApiSamples

open FilePath

namespace FileSystem

variable {fs : FileSystem} {origin : Place} {p : FilePath}

theorem makeWay_components (hu : fs.Unlimited origin) (q : FilePath) :
    fs.makeWay origin q.components = fs.makeWay (q.start origin) q.moves := by
  rw [components_eq, start]
  by_cases ha : q.isAbsolute = true
  · simp [ha, head?_parts_of_isAbsolute ha, makeWay, walk, node?]
  · by_cases hh : q.parts.head? = some "."
    · simp [ha, hh, makeWay, walk, hu.folder, isFolder_iff.mp hu.folder]
    · simp [ha, hh]

theorem makeFolders_eq (hu : fs.Unlimited origin) {q : FilePath}
    (hq : q.endsInPoint = true → q = ⟨"."⟩) :
    fs.makeFolders q = fs.makeWay (q.start origin) q.moves := by
  unfold makeFolders
  rw [admits_of_unlimited hu.limits_eq, hu.origin_eq]
  by_cases he : q.endsInPoint = true
  · obtain rfl := hq he
    have hparent : (parent? ⟨"."⟩).map components = some [] := by decide
    have hmoves : moves ⟨"."⟩ = [] := by decide
    have hstart : start origin ⟨"."⟩ = origin := rfl
    have hcomponents : components ⟨"."⟩ = [.here] := by decide
    have hlocate : fs.locate ⟨"."⟩ = some origin := by
      simp [locate, admits_of_unlimited hu.limits_eq, hcomponents, walk, hu.origin_eq, hu.folder]
    simp [he, hparent, hmoves, hstart, makeWay, hlocate]
  · simp [he, makeWay_components hu]

theorem performAll_append (fs : FileSystem) (steps rest : List Step) :
    fs.performAll (steps ++ rest) =
      match fs.performAll steps with
      | (fs, none) => fs.performAll rest
      | (fs, some failed) => (fs, some failed) := by
  induction steps generalizing fs with
  | nil => rfl
  | cons step steps ih =>
    simp only [List.cons_append, performAll]
    split
    · exact ih _
    · rfl

def folderSteps (p : FilePath) : List Step :=
  match p.parent? with
  | some parent => if parent.text.isEmpty then [] else [.makeFolders parent]
  | none => []

theorem replaceSteps_eq (p : FilePath) (content : String) :
    replaceSteps p content =
      folderSteps p ++ [.write p.temporary content, .rename p.temporary p] := rfl

theorem performAll_folderSteps (hu : fs.Unlimited origin) (hm : p.moves ≠ []) :
    ((fs.performAll (folderSteps p)).1, (fs.performAll (folderSteps p)).2.isNone) =
      fs.makeWay (p.start origin) p.moves.dropLast := by
  obtain ⟨parent, hp⟩ := isSome_parent? hm
  obtain ⟨hmoves, habs⟩ := parent?_spec hp
  have hstart : parent.start origin = p.start origin := by rw [start, start, habs]
  unfold folderSteps
  rw [hp]
  by_cases he : parent.text.isEmpty = true
  · have hempty : parent = ⟨""⟩ := by
      cases parent
      simpa using he
    subst hempty
    have hnone : moves ⟨""⟩ = [] := by decide
    have horigin : p.start origin = origin := by rw [← hstart]; rfl
    simp [performAll, ← hmoves, hnone, makeWay, horigin, hu.folder]
  · have hmake := makeFolders_eq hu fun hpoint : parent.endsInPoint = true => eq_point_of_parent? hp hpoint
    rw [hmoves, hstart] at hmake
    simp only [he, Bool.false_eq_true, if_false, performAll, perform, hmake]
    split <;> next hs => simp [hs]

structure Reaches (fs : FileSystem) (origin : Place) (p : FilePath) : Prop where
  moves : p.moves ≠ []
  folders : ∀ w ∈ p.folders origin, fs.isFolder w = true

theorem filePlace?_eq (hu : fs.Unlimited origin) (hp : fs.Reaches origin p) :
    fs.filePlace? p = if p.endsInFolder = false ∧ fs.isFolder (p.place origin) = false then
      some (p.place origin) else none := by
  rw [filePlace?, locate_eq hu hp.moves, if_pos hp.folders, Option.bind_some]
  cases p.endsInFolder <;> cases fs.isFolder (p.place origin) <;> rfl

theorem perform_write (hu : fs.Unlimited origin) (hp : fs.Reaches origin p) (content : String) :
    fs.perform (.write p content) =
      if p.endsInFolder = false ∧ fs.isFolder (p.place origin) = false then
        (fs.put (p.place origin) (.file content), true) else (fs, false) := by
  by_cases hc : p.endsInFolder = false ∧ fs.isFolder (p.place origin) = false
  · simp only [perform, filePlace?_eq hu hp, if_pos hc]
  · simp only [perform, filePlace?_eq hu hp, if_neg hc]

theorem perform_rename (hu : fs.Unlimited origin) {source : FilePath} {node : Node}
    (hs : fs.Reaches origin source) (hp : fs.Reaches origin p) (he : source.endsInFolder = false)
    (hf : fs.isFolder (source.place origin) = false)
    (hn : fs.node? (source.place origin) = some node) :
    fs.perform (.rename source p) =
      if p.endsInFolder = false ∧ fs.isFolder (p.place origin) = false then
        ((fs.remove (source.place origin)).put (p.place origin) node, true) else (fs, false) := by
  by_cases hc : p.endsInFolder = false ∧ fs.isFolder (p.place origin) = false
  · simp only [perform, filePlace?_eq hu hs, filePlace?_eq hu hp, he, hf, and_self, if_true,
      if_pos hc, hn]
  · simp only [perform, filePlace?_eq hu hs, filePlace?_eq hu hp, he, hf, and_self, if_true,
      if_neg hc]

theorem isFolder_put_file (h : fs.isFolder origin = false) (content : String) (w : Place) :
    (fs.put origin (.file content)).isFolder w = fs.isFolder w := by
  by_cases hw : w = origin
  · subst hw
    have hr : w ≠ [] := by
      rintro rfl
      simp [isFolder_root] at h
    rw [h]
    simp [isFolder, node?_put_self fs hr]
  · simp [isFolder, node?_put_of_ne fs hw]

theorem unlimited_put_remove (hu : fs.Unlimited origin) {source target : Place} {content : String}
    (hf : (((fs.put source (.file content)).remove source).put target (.file content)).isFolder
      origin = true) :
    (((fs.put source (.file content)).remove source).put target (.file content)).Unlimited origin :=
  ⟨hu.limits_eq, hu.origin_eq, hf⟩

theorem node?_put_remove (fs : FileSystem) {source target : Place} (hs : source ≠ []) (ht : target ≠ [])
    (content : String) (q : Place) :
    (((fs.put source (.file content)).remove source).put target (.file content)).node? q =
      if q = target then some (.file content) else if q = source then none else fs.node? q := by
  by_cases hq : q = target
  · rw [if_pos hq, hq, node?_put_self _ ht]
  · rw [if_neg hq, node?_put_of_ne _ hq]
    by_cases hqs : q = source
    · rw [if_pos hqs, hqs, node?_remove_self _ hs]
    · rw [if_neg hqs, node?_remove_of_ne _ hqs, node?_put_of_ne _ hqs]

theorem ne_root_of_not_isFolder {place : Place} (h : fs.isFolder place = false) : place ≠ [] := by
  rintro rfl
  simp [isFolder_root] at h

theorem performAll_write_rename (hu : fs.Unlimited origin) (hp : p.NamesFile)
    (hw : ∀ w ∈ p.folders origin, fs.isFolder w = true) (content : String) :
    fs.performAll [.write p.temporary content, .rename p.temporary p] =
      if p.temporary.endsInFolder = false ∧ fs.isFolder (p.temporary.place origin) = false then
        if fs.isFolder (p.place origin) = false then
          (((fs.put (p.temporary.place origin) (.file content)).remove
            (p.temporary.place origin)).put (p.place origin) (.file content), none)
        else (fs.put (p.temporary.place origin) (.file content), some (.rename p.temporary p))
      else (fs, some (.write p.temporary content)) := by
  obtain ⟨htm, htd, hta⟩ := hp.temporary
  have hfolders : p.temporary.folders origin = p.folders origin := by
    rw [folders, folders, start, start, hta, htd]
  have hreach : fs.Reaches origin p.temporary := ⟨htm, by rwa [hfolders]⟩
  by_cases hc : p.temporary.endsInFolder = false ∧ fs.isFolder (p.temporary.place origin) = false
  · simp only [performAll, perform_write hu hreach, if_pos hc]
    -- What was a folder before the file was written is one still.
    have hsame := isFolder_put_file hc.2 content
    have hu' : (fs.put (p.temporary.place origin) (.file content)).Unlimited origin :=
      ⟨hu.limits_eq, hu.origin_eq, by rw [hsame, hu.folder]⟩
    have hsource : (fs.put (p.temporary.place origin) (.file content)).Reaches origin p.temporary :=
      ⟨htm, fun w hm => by rw [hsame, hreach.folders w hm]⟩
    have htarget : (fs.put (p.temporary.place origin) (.file content)).Reaches origin p :=
      ⟨hp.moves_ne_nil, fun w hm => by rw [hsame, hw w hm]⟩
    have hnode := node?_put_self fs (ne_root_of_not_isFolder hc.2) (.file content)
    rw [perform_rename hu' hsource htarget hc.1 (by rw [hsame, hc.2]) hnode, hsame, hp.endsInFolder]
    by_cases ht : fs.isFolder (p.place origin) = false
    · simp [ht]
    · simp [ht]
  · simp only [performAll, perform_write hu hreach, if_neg hc]

/-- A file can be replaced in this state. -/
structure Ready (fs : FileSystem) (origin : Place) (p : FilePath) : Prop where
  named : p.temporary.endsInFolder = false
  clear : ∀ w ∈ p.folders origin, ¬ fs.HoldsFile w
  temporary_free : p.temporary.place origin ∉ p.folders origin ∧
    fs.isFolder (p.temporary.place origin) = false
  target_free : p.place origin ∉ p.folders origin ∧ fs.isFolder (p.place origin) = false

theorem isFolder_start (hu : fs.Unlimited origin) (p : FilePath) :
    fs.isFolder (p.start origin) = true := by
  unfold start
  split
  · exact fs.isFolder_root
  · exact hu.folder

theorem root_not_mem_dropLast_moves (p : FilePath) : Component.root ∉ p.moves.dropLast :=
  fun h => root_not_mem_movesOf _ (List.dropLast_subset _ h)

theorem folderSteps_spec (hu : fs.Unlimited origin) (hp : p.NamesFile)
    (hc : ∀ w ∈ p.folders origin, ¬ fs.HoldsFile w) :
    ∃ made : FileSystem, fs.performAll (folderSteps p) = (made, none) ∧ made.Unlimited origin ∧
      ∀ q, made.node? q = if q ∈ p.folders origin then some .folder else fs.node? q := by
  have hsteps := performAll_folderSteps hu hp.moves_ne_nil
  have hstart := isFolder_start hu p
  have hroot := root_not_mem_dropLast_moves p
  have hdone := (makeWay_succeeds_iff hu.limits_eq hstart hroot).mpr hc
  have hnode := node?_makeWay hu.limits_eq hstart hroot hc
  obtain ⟨horigin, hlimits⟩ := makeWay_frame fs (p.start origin) p.moves.dropLast
  have hnone : (fs.performAll (folderSteps p)).2 = none := by
    have := congrArg Prod.snd hsteps
    simpa [hdone] using this
  have hmade : (fs.performAll (folderSteps p)).1 = (fs.makeWay (p.start origin) p.moves.dropLast).1 :=
    congrArg Prod.fst hsteps
  refine ⟨_, Prod.ext hmade hnone, ⟨hlimits.trans hu.limits_eq, horigin.trans hu.origin_eq, ?_⟩, hnode⟩
  have hfolder := hnode origin
  rw [isFolder_iff, hfolder]
  split
  · rfl
  · exact isFolder_iff.mp hu.folder

theorem folderSteps_fail (hu : fs.Unlimited origin) (hp : p.NamesFile)
    (hc : ¬ ∀ w ∈ p.folders origin, ¬ fs.HoldsFile w) :
    (fs.performAll (folderSteps p)).2 ≠ none := by
  have hsteps := performAll_folderSteps hu hp.moves_ne_nil
  have hdone := makeWay_succeeds_iff hu.limits_eq (isFolder_start hu p) (root_not_mem_dropLast_moves p)
  intro hnone
  have hsnd := congrArg Prod.snd hsteps
  rw [hnone] at hsnd
  exact hc (hdone.mp hsnd.symm)

theorem isFolder_made {made : FileSystem} {folders : List Place} {q : Place}
    (h : made.node? q = if q ∈ folders then some .folder else fs.node? q) :
    made.isFolder q = false ↔ q ∉ folders ∧ fs.isFolder q = false := by
  unfold isFolder
  rw [h]
  by_cases hq : q ∈ folders <;> simp [hq]

/-- The folders are made, then the file is written and renamed; the first obstacle ends it. -/
theorem performAll_replaceSteps (hu : fs.Unlimited origin) (hp : p.NamesFile)
    (hc : ∀ w ∈ p.folders origin, ¬ fs.HoldsFile w) (content : String) :
    ∃ made : FileSystem, made.Unlimited origin ∧
      (∀ q, made.node? q = if q ∈ p.folders origin then some .folder else fs.node? q) ∧
      fs.performAll (replaceSteps p content) =
        if p.temporary.endsInFolder = false ∧ made.isFolder (p.temporary.place origin) = false then
          if made.isFolder (p.place origin) = false then
            (((made.put (p.temporary.place origin) (.file content)).remove
              (p.temporary.place origin)).put (p.place origin) (.file content), none)
          else (made.put (p.temporary.place origin) (.file content), some (.rename p.temporary p))
        else (made, some (.write p.temporary content)) := by
  obtain ⟨made, hsteps, hmu, hnode⟩ := folderSteps_spec hu hp hc
  have hw : ∀ w ∈ p.folders origin, made.isFolder w = true := by
    intro w hm
    rw [isFolder_iff, hnode, if_pos hm]
  refine ⟨made, hmu, hnode, ?_⟩
  rw [replaceSteps_eq, performAll_append, hsteps]
  exact performAll_write_rename hmu hp hw content

/-- The steps of a replacement all succeed exactly if the state is ready for them. -/
theorem replace_succeeds_iff (hu : fs.Unlimited origin) (hp : p.NamesFile) (content : String) :
    (fs.replace p content).2 = none ↔ fs.Ready origin p := by
  have hreplace : (fs.replace p content).2 = none ↔
      (fs.performAll (replaceSteps p content)).2 = none := by simp [replace]
  rw [hreplace]
  by_cases hc : ∀ w ∈ p.folders origin, ¬ fs.HoldsFile w
  · obtain ⟨made, -, hnode, hsteps⟩ := performAll_replaceSteps hu hp hc content
    have htemporary := isFolder_made (hnode (p.temporary.place origin))
    have htarget := isFolder_made (hnode (p.place origin))
    rw [hsteps]
    constructor
    · intro hdone
      by_cases h₁ : p.temporary.endsInFolder = false ∧ made.isFolder (p.temporary.place origin) = false
      · by_cases h₂ : made.isFolder (p.place origin) = false
        · exact ⟨h₁.1, hc, htemporary.mp h₁.2, htarget.mp h₂⟩
        · simp [h₁, h₂] at hdone
      · simp [h₁] at hdone
    · intro hr
      rw [if_pos ⟨hr.named, htemporary.mpr hr.temporary_free⟩, if_pos (htarget.mpr hr.target_free)]
  · refine ⟨fun hdone => ?_, fun hr => absurd hr.clear hc⟩
    have hfail := folderSteps_fail hu hp hc
    rw [replaceSteps_eq, performAll_append] at hdone
    split at hdone
    · next heq => exact absurd (congrArg Prod.snd heq) hfail
    · cases hdone

theorem replace_spec (hu : fs.Unlimited origin) (hp : p.NamesFile) (hr : fs.Ready origin p)
    (content : String) :
    (fs.replace p content).1.Unlimited origin ∧
    ∀ q, (fs.replace p content).1.node? q = if q = p.place origin then some (.file content)
      else if q = p.temporary.place origin then none
      else if q ∈ p.folders origin then some .folder else fs.node? q := by
  obtain ⟨made, hmu, hnode, hsteps⟩ := performAll_replaceSteps hu hp hr.clear content
  have htemporary := (isFolder_made (hnode (p.temporary.place origin))).mpr hr.temporary_free
  have htarget := (isFolder_made (hnode (p.place origin))).mpr hr.target_free
  rw [if_pos ⟨hr.named, htemporary⟩, if_pos htarget] at hsteps
  have hstate : (fs.replace p content).1 = ((made.put (p.temporary.place origin) (.file content)).remove
      (p.temporary.place origin)).put (p.place origin) (.file content) := by
    simp [replace, hsteps]
  have hput := node?_put_remove made (ne_root_of_not_isFolder htemporary)
    (ne_root_of_not_isFolder htarget) content
  rw [hstate]
  refine ⟨unlimited_put_remove hmu ?_, fun q => by rw [hput, hnode]⟩
  rw [isFolder_iff, hput]
  -- The origin is a folder, so it is neither of the two places that were changed.
  have hne : ∀ w, made.isFolder w = false → origin ≠ w := by
    rintro w hw rfl
    rw [hmu.folder] at hw
    cases hw
  rw [if_neg (hne _ htarget), if_neg (hne _ htemporary), isFolder_iff.mp hmu.folder]

theorem read?_eq (hu : fs.Unlimited origin) (hp : p.NamesFile)
    (hw : ∀ w ∈ p.folders origin, fs.isFolder w = true) {content : String}
    (hn : fs.node? (p.place origin) = some (.file content)) : fs.read? p = some content := by
  have hf : fs.isFolder (p.place origin) = false := by simp [isFolder, hn]
  rw [read?, filePlace?_eq hu ⟨hp.moves_ne_nil, hw⟩, if_pos ⟨hp.endsInFolder, hf⟩, Option.bind_some, hn]

end FileSystem

end ApiSamples
