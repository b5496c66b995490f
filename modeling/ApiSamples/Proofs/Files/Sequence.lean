import ApiSamples.Proofs.Files.Replacement
import Mathlib.Data.List.Induction
import Mathlib.Data.List.Nodup

namespace ApiSamples

open FilePath

namespace FileSystem

variable {fs : FileSystem} {origin : Place}

def replaceAll (fs : FileSystem) : List (FilePath × String) → FileSystem × Option FilePath
  | [] => (fs, none)
  | (p, content) :: files =>
    match fs.replace p content with
    | (fs, none) => fs.replaceAll files
    | (fs, some failed) => (fs, some failed)

/-- A path that neither the files before it nor what was there at first are in the way of. -/
structure Clear (fs : FileSystem) (origin : Place) (before : List FilePath) (p : FilePath) : Prop where
  /-- The temporary path is one of a file. -/
  named : p.temporary.endsInFolder = false
  /-- No file before it stands at the same place. -/
  fresh : ∀ q ∈ before, p.place origin ≠ q.place origin
  /-- No file stands where it needs a folder. -/
  open_way : ∀ w ∈ p.folders origin, (∀ q ∈ before, w ≠ q.place origin) ∧
    (fs.HoldsFile w → ∃ q ∈ before, w = q.temporary.place origin)
  /-- No folder stands where it needs a file. -/
  free : ∀ place, place = p.place origin ∨ place = p.temporary.place origin →
    fs.isFolder place = false ∧ ∀ q ∈ before ++ [p], place ∉ q.folders origin

/-- Paths of files that are clear of each other, in this order. -/
def Separate (fs : FileSystem) (origin : Place) (ps : List FilePath) : Prop :=
  ∀ before p after, ps = before ++ p :: after → fs.Clear origin before p

theorem separate_nil (fs : FileSystem) (origin : Place) : fs.Separate origin [] := by
  intro before p after h
  simp at h

theorem separate_snoc {ps : List FilePath} {p : FilePath} :
    fs.Separate origin (ps ++ [p]) ↔ fs.Separate origin ps ∧ fs.Clear origin ps p := by
  constructor
  · intro h
    refine ⟨?_, h ps p [] rfl⟩
    rintro before q after rfl
    exact h before q (after ++ [p]) (by simp)
  · rintro ⟨hps, hp⟩ before q after h
    rcases List.eq_nil_or_concat after with rfl | ⟨init, r, rfl⟩
    · obtain ⟨rfl, hq⟩ := List.append_inj' h rfl
      obtain rfl := (List.cons.inj hq).1
      exact hp
    · rw [List.concat_eq_append, ← List.cons_append, ← List.append_assoc] at h
      obtain ⟨rfl, -⟩ := List.append_inj' h rfl
      exact hps before q init rfl

theorem Separate.clear_of_mem {ps : List FilePath} {p : FilePath} (h : fs.Separate origin ps)
    (hp : p ∈ ps) : ∃ before, (∀ q ∈ before, q ∈ ps) ∧ fs.Clear origin before p := by
  obtain ⟨before, after, rfl⟩ := List.append_of_mem hp
  exact ⟨before, fun q hq => by simp [hq], h before p after rfl⟩

/-- What files that have been replaced have left of a file system. -/
structure Holds (fs : FileSystem) (origin : Place) (done : List (FilePath × String))
    (now : FileSystem) : Prop where
  unlimited : now.Unlimited origin
  files : ∀ e ∈ done, now.node? (e.1.place origin) = some (.file e.2)
  folders : ∀ e ∈ done, ∀ w ∈ e.1.folders origin, now.isFolder w = true
  temporaries : ∀ q, (∀ e ∈ done, q ≠ e.1.place origin ∧ q ∉ e.1.folders origin) →
    (∃ e ∈ done, q = e.1.temporary.place origin) → now.node? q = none
  rest : ∀ q, (∀ e ∈ done, q ≠ e.1.place origin ∧ q ∉ e.1.folders origin ∧
    q ≠ e.1.temporary.place origin) → now.node? q = fs.node? q

theorem holds_nil (hu : fs.Unlimited origin) : fs.Holds origin [] fs :=
  ⟨hu, by simp, by simp, by simp, by simp⟩

variable {now : FileSystem} {done : List (FilePath × String)} {p : FilePath}

/-- No file stands where another one, earlier or later, needs a folder. -/
theorem Separate.place_not_mem_folders {ps : List FilePath} {q : FilePath}
    (h : fs.Separate origin ps) (hp : p ∈ ps) (hq : q ∈ ps) : p.place origin ∉ q.folders origin := by
  obtain ⟨before, after, rfl⟩ := List.append_of_mem hp
  have hclear := h before p after rfl
  have hearly : ∀ r ∈ before ++ [p], p.place origin ∉ r.folders origin :=
    (hclear.free _ (.inl rfl)).2
  rcases List.mem_append.mp hq with hb | ha
  · exact hearly q (by simp [hb])
  · rcases List.mem_cons.mp ha with rfl | ha
    · exact hearly q (by simp)
    · obtain ⟨mid, rest, rfl⟩ := List.append_of_mem ha
      have hlate := h (before ++ p :: mid) q rest (by simp)
      intro hw
      exact (hlate.open_way _ hw).1 p (by simp) rfl

theorem place_cases (origin : Place) (done : List (FilePath × String)) (w : Place) :
    (∃ e ∈ done, w = e.1.place origin) ∨
    (∃ e ∈ done, w ∈ e.1.folders origin) ∨
    ((∀ e ∈ done, w ≠ e.1.place origin ∧ w ∉ e.1.folders origin) ∧
      ((∃ e ∈ done, w = e.1.temporary.place origin) ∨
        ∀ e ∈ done, w ≠ e.1.temporary.place origin)) := by
  grind

theorem Holds.holdsFile_iff (h : fs.Holds origin done now)
    (hs : fs.Separate origin (done.map Prod.fst)) (w : Place) :
    now.HoldsFile w ↔ (∃ e ∈ done, w = e.1.place origin) ∨
      (fs.HoldsFile w ∧ ∀ e ∈ done, w ≠ e.1.temporary.place origin) := by
  rcases place_cases origin done w with ⟨e, he, rfl⟩ | ⟨e, he, hw⟩ | ⟨hout, ⟨e, he, heq⟩ | htemp⟩
  · exact iff_of_true ⟨e.2, h.files e he⟩ (.inl ⟨e, he, rfl⟩)
  · refine iff_of_false (not_holdsFile_of_isFolder (h.folders e he w hw)) ?_
    rintro (⟨d, hd, rfl⟩ | ⟨hfile, htemp⟩)
    · exact hs.place_not_mem_folders (List.mem_map_of_mem hd) (List.mem_map_of_mem he) hw
    · obtain ⟨before, hbefore, hclear⟩ := hs.clear_of_mem (List.mem_map_of_mem he)
      obtain ⟨q, hq, hwq⟩ := (hclear.open_way w hw).2 hfile
      obtain ⟨d, hd, rfl⟩ := List.mem_map.mp (hbefore q hq)
      exact htemp d hd hwq
  · have hnone := h.temporaries w hout ⟨e, he, heq⟩
    refine iff_of_false (by rintro ⟨content, hc⟩; rw [hnone] at hc; cases hc) ?_
    rintro (⟨d, hd, hp⟩ | ⟨-, htemp⟩)
    · exact (hout d hd).1 hp
    · exact htemp e he heq
  · have hsame := h.rest w fun e he => ⟨(hout e he).1, (hout e he).2, htemp e he⟩
    unfold HoldsFile
    rw [hsame]
    constructor
    · exact fun hfile => .inr ⟨hfile, htemp⟩
    · rintro (⟨d, hd, hp⟩ | ⟨hfile, -⟩)
      · exact absurd hp (hout d hd).1
      · exact hfile

theorem Holds.isFolder_iff (h : fs.Holds origin done now)
    (hs : fs.Separate origin (done.map Prod.fst)) (w : Place) :
    now.isFolder w = true ↔ fs.isFolder w = true ∨ ∃ e ∈ done, w ∈ e.1.folders origin := by
  have hfree : ∀ e ∈ done, fs.isFolder (e.1.place origin) = false ∧
      fs.isFolder (e.1.temporary.place origin) = false := by
    intro e he
    obtain ⟨before, -, hclear⟩ := hs.clear_of_mem (List.mem_map_of_mem he)
    exact ⟨(hclear.free _ (.inl rfl)).1, (hclear.free _ (.inr rfl)).1⟩
  rcases place_cases origin done w with ⟨e, he, rfl⟩ | ⟨e, he, hw⟩ | ⟨hout, ⟨e, he, heq⟩ | htemp⟩
  · refine iff_of_false (by simp [isFolder, h.files e he]) ?_
    rintro (hf | ⟨d, hd, hw⟩)
    · rw [(hfree e he).1] at hf
      cases hf
    · exact hs.place_not_mem_folders (List.mem_map_of_mem he) (List.mem_map_of_mem hd) hw
  · exact iff_of_true (h.folders e he w hw) (.inr ⟨e, he, hw⟩)
  · have hnone := h.temporaries w hout ⟨e, he, heq⟩
    refine iff_of_false (by simp [isFolder, hnone]) ?_
    rintro (hf | ⟨d, hd, hw⟩)
    · rw [heq, (hfree e he).2] at hf
      cases hf
    · exact (hout d hd).2 hw
  · have hsame := h.rest w fun e he => ⟨(hout e he).1, (hout e he).2, htemp e he⟩
    unfold isFolder
    rw [hsame]
    constructor
    · exact .inl
    · rintro (hf | ⟨d, hd, hw⟩)
      · exact hf
      · exact absurd hw (hout d hd).2

theorem Holds.ready_iff (h : fs.Holds origin done now)
    (hs : fs.Separate origin (done.map Prod.fst)) :
    (now.Ready origin p ∧ ∀ e ∈ done, p.place origin ≠ e.1.place origin) ↔
      fs.Clear origin (done.map Prod.fst) p := by
  have hfolder : ∀ w, now.isFolder w = false ↔
      fs.isFolder w = false ∧ ∀ e ∈ done, w ∉ e.1.folders origin := by
    intro w
    rw [← Bool.not_eq_true, h.isFolder_iff hs w]
    simp
  have hfree : ∀ w, (w ∉ p.folders origin ∧ now.isFolder w = false) ↔
      fs.isFolder w = false ∧ ∀ q ∈ done.map Prod.fst ++ [p], w ∉ q.folders origin := by
    intro w
    rw [hfolder]
    simp only [List.mem_append, List.mem_map, List.mem_singleton]
    grind
  constructor
  · rintro ⟨hr, hfresh⟩
    refine ⟨hr.named, ?_, ?_, ?_⟩
    · intro q hq
      obtain ⟨e, he, rfl⟩ := List.mem_map.mp hq
      exact hfresh e he
    · intro w hw
      have hclear := hr.clear w hw
      rw [h.holdsFile_iff hs] at hclear
      refine ⟨?_, ?_⟩
      · intro q hq he
        obtain ⟨e, hd, rfl⟩ := List.mem_map.mp hq
        exact hclear (.inl ⟨e, hd, he⟩)
      · intro hfile
        by_contra hno
        refine hclear (.inr ⟨hfile, fun e he heq => hno ⟨e.1, List.mem_map_of_mem he, heq⟩⟩)
    · rintro place (heq | heq)
      · rw [heq]
        exact (hfree _).mp hr.target_free
      · rw [heq]
        exact (hfree _).mp hr.temporary_free
  · intro hc
    refine ⟨⟨hc.named, ?_, (hfree _).mpr (hc.free _ (.inr rfl)), (hfree _).mpr (hc.free _ (.inl rfl))⟩,
      fun e he => hc.fresh e.1 (List.mem_map_of_mem he)⟩
    intro w hw hfile
    rcases (h.holdsFile_iff hs w).mp hfile with ⟨e, he, heq⟩ | ⟨hf, htemp⟩
    · exact (hc.open_way w hw).1 e.1 (List.mem_map_of_mem he) heq
    · obtain ⟨q, hq, heq⟩ := (hc.open_way w hw).2 hf
      obtain ⟨e, he, rfl⟩ := List.mem_map.mp hq
      exact htemp e he heq

theorem Holds.replace (h : fs.Holds origin done now) (hs : fs.Separate origin (done.map Prod.fst))
    (hscripts : ∀ e ∈ done, e.1.IsScript) (hp : p.IsScript)
    (hc : fs.Clear origin (done.map Prod.fst) p) (content : String) :
    fs.Holds origin (done ++ [(p, content)]) (now.replace p content).1 := by
  obtain ⟨hu, hnode⟩ := replace_spec h.unlimited hp.namesFile ((h.ready_iff hs).mpr hc).1 content
  have hbefore : ∀ e ∈ done, e.1 ∈ done.map Prod.fst := fun e he => List.mem_map_of_mem he
  have hfree : ∀ w ∈ p.folders origin, w ≠ p.place origin ∧ w ≠ p.temporary.place origin := by
    intro w hw
    refine ⟨?_, ?_⟩
    · intro heq
      exact (hc.free w (.inl heq)).2 p (by simp) hw
    · intro heq
      exact (hc.free w (.inr heq)).2 p (by simp) hw
  refine ⟨hu, ?_, ?_, ?_, ?_⟩
  · intro e he
    rw [List.mem_append, List.mem_singleton] at he
    rcases he with he | rfl
    · have hfresh : e.1.place origin ≠ p.place origin := (hc.fresh e.1 (hbefore e he)).symm
      have htemp : e.1.place origin ≠ p.temporary.place origin :=
        (temporary_place_ne hp (hscripts e he) hc.named origin).symm
      have hway : e.1.place origin ∉ p.folders origin :=
        fun hw => (hc.open_way _ hw).1 e.1 (hbefore e he) rfl
      rw [hnode, if_neg hfresh, if_neg htemp, if_neg hway, h.files e he]
    · rw [hnode, if_pos rfl]
  · intro e he w hw
    rw [List.mem_append, List.mem_singleton] at he
    rw [FileSystem.isFolder_iff, hnode]
    rcases he with he | rfl
    · have hmem : e.1 ∈ done.map Prod.fst ++ [p] := by simp [hbefore e he]
      have hplace : w ≠ p.place origin := by
        intro heq
        exact (hc.free w (.inl heq)).2 e.1 hmem hw
      have htemp : w ≠ p.temporary.place origin := by
        intro heq
        exact (hc.free w (.inr heq)).2 e.1 hmem hw
      rw [if_neg hplace, if_neg htemp, FileSystem.isFolder_iff.mp (h.folders e he w hw), ite_self]
    · rw [if_neg (hfree w hw).1, if_neg (hfree w hw).2, if_pos hw]
  · intro q hout htemp
    have hlast := hout (p, content) (by simp)
    rw [hnode, if_neg hlast.1]
    by_cases hq : q = p.temporary.place origin
    · rw [if_pos hq]
    · obtain ⟨e, he, heq⟩ := htemp
      rw [List.mem_append, List.mem_singleton] at he
      rcases he with he | rfl
      · rw [if_neg hq, if_neg hlast.2]
        exact h.temporaries q (fun d hd => hout d (by simp [hd])) ⟨e, he, heq⟩
      · exact absurd heq hq
  · intro q hout
    have hlast := hout (p, content) (by simp)
    rw [hnode, if_neg hlast.1, if_neg hlast.2.2, if_neg hlast.2.1]
    exact h.rest q fun d hd => hout d (by simp [hd])

theorem Holds.locate (h : fs.Holds origin done now) {e : FilePath × String} (he : e ∈ done)
    (hf : e.1.NamesFile) : now.locate e.1 = some (e.1.place origin) :=
  (locate_eq h.unlimited hf.moves_ne_nil).trans (if_pos (h.folders e he))

theorem Holds.read? (h : fs.Holds origin done now) {e : FilePath × String} (he : e ∈ done)
    (hf : e.1.NamesFile) : now.read? e.1 = some e.2 :=
  read?_eq h.unlimited hf (h.folders e he) (h.files e he)

theorem replaceAll_append (fs : FileSystem) (files more : List (FilePath × String)) :
    fs.replaceAll (files ++ more) =
      match fs.replaceAll files with
      | (fs, none) => fs.replaceAll more
      | (fs, some failed) => (fs, some failed) := by
  induction files generalizing fs with
  | nil => rfl
  | cons e files ih =>
    obtain ⟨p, content⟩ := e
    simp only [List.cons_append, replaceAll]
    split
    · exact ih _
    · rfl

theorem replaceAll_singleton (fs : FileSystem) (p : FilePath) (content : String) :
    fs.replaceAll [(p, content)] = fs.replace p content := by
  simp only [replaceAll]
  split <;> next h => rw [h]

theorem replaceAll_of_separate (hu : fs.Unlimited origin) {files : List (FilePath × String)}
    (hscripts : ∀ e ∈ files, e.1.IsScript) (hs : fs.Separate origin (files.map Prod.fst)) :
    (fs.replaceAll files).2 = none ∧ fs.Holds origin files (fs.replaceAll files).1 := by
  induction files using List.reverseRecOn with
  | nil => exact ⟨rfl, holds_nil hu⟩
  | append_singleton files e ih =>
    obtain ⟨p, content⟩ := e
    rw [List.map_append] at hs
    obtain ⟨hfirst, hclear⟩ := separate_snoc.mp hs
    have hbefore : ∀ e ∈ files, e.1.IsScript := fun e he => hscripts e (by simp [he])
    have hp : p.IsScript := hscripts (p, content) (by simp)
    obtain ⟨hdone, hholds⟩ := ih hbefore hfirst
    have hready := ((hholds.ready_iff hfirst).mpr hclear).1
    have hstep : fs.replaceAll (files ++ [(p, content)]) =
        (fs.replaceAll files).1.replace p content := by
      rw [replaceAll_append]
      split
      · next heq => rw [heq, replaceAll_singleton]
      · next heq => simp [heq] at hdone
    rw [hstep]
    exact ⟨(replace_succeeds_iff hholds.unlimited hp.namesFile content).mpr hready,
      hholds.replace hfirst hbefore hp hclear content⟩

/-- All files are replaced, each at a place of its own, exactly if their paths are clear. -/
theorem replaceAll_succeeds_iff (hu : fs.Unlimited origin) {files : List (FilePath × String)}
    (hscripts : ∀ e ∈ files, e.1.IsScript) :
    ((fs.replaceAll files).2 = none ∧ (files.map fun e => e.1.place origin).Nodup) ↔
      fs.Separate origin (files.map Prod.fst) := by
  induction files using List.reverseRecOn with
  | nil => exact iff_of_true ⟨rfl, by simp⟩ (separate_nil fs origin)
  | append_singleton files e ih =>
    obtain ⟨p, content⟩ := e
    have hbefore : ∀ e ∈ files, e.1.IsScript := fun e he => hscripts e (by simp [he])
    have hp : p.IsScript := hscripts (p, content) (by simp)
    have hfresh : ((files ++ [(p, content)]).map fun e => e.1.place origin).Nodup ↔
        (files.map fun e => e.1.place origin).Nodup ∧
          ∀ e ∈ files, p.place origin ≠ e.1.place origin := by
      rw [List.map_append, List.map_singleton, List.nodup_append_comm, List.singleton_append,
        List.nodup_cons, and_comm]
      simp only [List.mem_map, not_exists, not_and, ne_eq, eq_comm]
    rw [hfresh, List.map_append, List.map_singleton, separate_snoc, ← ih hbefore,
      replaceAll_append]
    constructor
    · rintro ⟨hdone, hnodup, hnew⟩
      split at hdone
      · next now heq =>
        rw [replaceAll_singleton] at hdone
        have hfirst := (ih hbefore).mp ⟨by rw [heq], hnodup⟩
        have hholds := (replaceAll_of_separate hu hbefore hfirst).2
        rw [heq] at hholds
        have hready := (replace_succeeds_iff hholds.unlimited hp.namesFile content).mp hdone
        exact ⟨⟨by rw [heq], hnodup⟩, (hholds.ready_iff hfirst).mp ⟨hready, hnew⟩⟩
      · cases hdone
    · rintro ⟨hall, hclear⟩
      have hfirst := (ih hbefore).mp hall
      have hholds := (replaceAll_of_separate hu hbefore hfirst).2
      obtain ⟨hready, hnew⟩ := (hholds.ready_iff hfirst).mpr hclear
      refine ⟨?_, hall.2, hnew⟩
      split
      · next now heq =>
        rw [heq] at hholds hready
        rw [replaceAll_singleton]
        exact (replace_succeeds_iff hholds.unlimited hp.namesFile content).mpr hready
      · next heq => simp [heq] at hall

end FileSystem

end ApiSamples
