import ApiSamples.Proofs.Files.Outcome

namespace ApiSamples

namespace FilePath

def IsTemporary (p : FilePath) : Prop := ∃ ps name, p.parts = ps ++ [name ++ ".tmp"]

theorem namesFile_of_endsInFolder {p : FilePath} (h : p.endsInFolder = false) : p.NamesFile := by
  have hparts := List.dropLast_concat_getLast p.parts_ne_nil
  have hlast : p.parts.getLast? = some (p.parts.getLast p.parts_ne_nil) :=
    List.getLast?_eq_some_getLast p.parts_ne_nil
  simp only [endsInFolder, hlast, Bool.or_eq_false_iff, beq_eq_false_iff_ne] at h
  exact ⟨_, _, hparts.symm, by simp [isMove, h.1], h.2⟩

theorem place_ne_temporary_place {p : FilePath} (h : ¬ p.IsTemporary) (hp : p.endsInFolder = false)
    (ht : p.temporary.endsInFolder = false) (origin : Place) :
    p.place origin ≠ p.temporary.place origin := by
  have hfile := namesFile_of_endsInFolder hp
  obtain ⟨-, -, habsolute⟩ := hfile.temporary
  obtain ⟨ps, name, hparts, hname, hup⟩ := hfile
  have htemporary : p.temporary.parts = ps ++ [renamed "tmp" name true] :=
    parts_withExtension hparts hname hup (by decide)
  have hrenamed : renamed "tmp" name true ≠ ".." := by
    intro he
    simp [endsInFolder, htemporary, he] at ht
  intro heq
  rw [place_of_parts hparts hname hup, place_of_parts htemporary (isMove_renamed name true) hrenamed,
    start, start, habsolute] at heq
  have hsame : name = renamed "tmp" name true := by simpa using heq
  apply h
  refine ⟨ps, stem name, ?_⟩
  rw [hparts]
  unfold renamed at hsame hrenamed
  split at hsame
  · next hpoint => exact absurd (if_pos hpoint) hrenamed
  · have hextension : "." ++ "tmp" = ".tmp" := rfl
    rw [String.append_assoc, hextension] at hsame
    rw [← hsame]

end FilePath

open FilePath

namespace FileSystem

/-- If a file stands at the place before or after, it is the same with the same content. -/
def SameFile (fs now : FileSystem) (q : Place) : Prop :=
  ∀ content, now.node? q = some (.file content) ↔ fs.node? q = some (.file content)

/-- A replacement that succeeds has changed the file and no other, and one that fails has changed no
file. -/
structure AllOrNothing (fs : FileSystem) (p : FilePath) (content : String) : Prop where
  all : (fs.replace p content).2 = none →
    (fs.replace p content).1.read? p = some content ∧
    ¬ (fs.replace p content).1.HoldsFile (p.temporary.place fs.origin) ∧
    ∀ q ≠ p.place fs.origin, fs.SameFile (fs.replace p content).1 q
  nothing : (fs.replace p content).2 ≠ none → ∀ q, fs.SameFile (fs.replace p content).1 q

/-- The folders can be made, and the temporary file is written at this place then. -/
def WritesAt (fs : FileSystem) (p : FilePath) (made : FileSystem) (source : Place) : Prop :=
  fs.performAll (folderSteps p) = (made, none) ∧ made.filePlace? p.temporary = some source

variable {fs made : FileSystem} {p : FilePath} {source target : Place} {content : String}

theorem Grown.sameFile {now : FileSystem} (h : Grown fs now) (q : Place) : fs.SameFile now q :=
  fun _ => h.file_iff

theorem sameFile_put_of_ne (hg : Grown fs made) {q : Place} (hq : q ≠ source) :
    fs.SameFile (made.put source (.file content)) q := by
  intro other
  rw [node?_put_of_ne made hq, hg.file_iff]

theorem sameFile_put_self_iff (hf : made.isFolder source = false) :
    fs.SameFile (made.put source (.file content)) source ↔
      fs.node? source = some (.file content) := by
  unfold SameFile
  rw [node?_put_self made (ne_root_of_not_isFolder hf)]
  constructor
  · intro h
    exact (h content).mp rfl
  · intro h other
    rw [h]

theorem node?_replaced (hs : made.isFolder source = false) (ht : made.isFolder target = false)
    (q : Place) :
    (((made.put source (.file content)).remove source).put target (.file content)).node? q =
      if q = target then some (.file content) else if q = source then none else made.node? q :=
  node?_put_remove made (ne_root_of_not_isFolder hs) (ne_root_of_not_isFolder ht) content q

theorem read?_replaced (hs : made.isFolder source = false) (ht : made.filePlace? p = some target) :
    (((made.put source (.file content)).remove source).put target (.file content)).read? p =
      some content := by
  obtain ⟨-, -, hfolder⟩ := filePlace?_spec ht
  rw [read?, filePlace?_put_remove hs hfolder, ht, Option.bind_some, node?_replaced hs hfolder,
    if_pos rfl]

/-- Whatever comes of a replacement, no file is changed besides its own and the temporary one, and where
it succeeds, the one has its content and the other is gone. -/
theorem replace_changes (fs : FileSystem) (content : String) (hp : ¬ p.IsTemporary) :
    ((fs.replace p content).2 = none → (fs.replace p content).1.read? p = some content ∧
      ¬ (fs.replace p content).1.HoldsFile (p.temporary.place fs.origin)) ∧
    ∀ q ≠ p.temporary.place fs.origin, (fs.replace p content).2 ≠ none ∨ q ≠ p.place fs.origin →
      fs.SameFile (fs.replace p content).1 q := by
  have houtcome := outcome_replace fs p content
  generalize fs.replace p content = result at houtcome
  cases houtcome with
  | unmade hg hm => exact ⟨by simp, fun q _ _ => hg.sameFile q⟩
  | unwritten hg hm hs => exact ⟨by simp, fun q _ _ => hg.sameFile q⟩
  | leftBehind hg hm hs ht =>
    obtain ⟨hsource, -, -⟩ := filePlace?_spec hs
    rw [hg.origin_eq] at hsource
    exact ⟨by simp, fun q hq _ => sameFile_put_of_ne hg (hsource ▸ hq)⟩
  | replaced hg hm hs ht =>
    obtain ⟨hsource, hsfile, hsfolder⟩ := filePlace?_spec hs
    obtain ⟨htarget, htfile, htfolder⟩ := filePlace?_spec ht
    have hne := place_ne_temporary_place hp htfile hsfile fs.origin
    rw [hg.origin_eq] at hsource htarget
    rw [← hsource, ← htarget] at hne ⊢
    refine ⟨fun _ => ⟨read?_replaced hsfolder ht, ?_⟩, ?_⟩
    · rintro ⟨other, hother⟩
      rw [node?_replaced hsfolder htfolder, if_neg hne.symm, if_pos rfl] at hother
      cases hother
    · intro q hq hcases other
      have hqt : q ≠ _ := hcases.resolve_left (by simp)
      rw [node?_replaced hsfolder htfolder, if_neg hqt, if_neg hq, hg.file_iff]

theorem sameFile_replaced_source_iff (hs : made.isFolder source = false)
    (ht : made.isFolder target = false) (hne : source ≠ target) :
    fs.SameFile (((made.put source (.file content)).remove source).put target (.file content)) source ↔
      ¬ fs.HoldsFile source := by
  unfold SameFile HoldsFile
  rw [node?_replaced hs ht, if_neg hne, if_pos rfl]
  simp

/-- All that is left to settle is the file under the temporary name. -/
theorem allOrNothing_iff_sameFile (fs : FileSystem) (content : String) (hp : ¬ p.IsTemporary) :
    fs.AllOrNothing p content ↔
      ((fs.replace p content).2 ≠ none ∨ p.temporary.place fs.origin ≠ p.place fs.origin →
        fs.SameFile (fs.replace p content).1 (p.temporary.place fs.origin)) := by
  obtain ⟨hdone, hothers⟩ := replace_changes fs content hp
  constructor
  · rintro ⟨hall, hnothing⟩ hcases
    by_cases hr : (fs.replace p content).2 = none
    · exact (hall hr).2.2 _ (hcases.resolve_left (not_not.mpr hr))
    · exact hnothing hr _
  · intro hsame
    refine ⟨fun hr => ⟨(hdone hr).1, (hdone hr).2, fun q hq => ?_⟩, fun hr q => ?_⟩
    · by_cases hqs : q = p.temporary.place fs.origin
      · rw [hqs] at hq ⊢
        exact hsame (.inr hq)
      · exact hothers q hqs (.inr hq)
    · by_cases hqs : q = p.temporary.place fs.origin
      · rw [hqs]
        exact hsame (.inl hr)
      · exact hothers q hqs (.inl hr)

theorem forall_writesAt_iff (hm : fs.performAll (folderSteps p) = (made, none))
    (hs : made.filePlace? p.temporary = some source) {holds : FileSystem → Place → Prop} :
    (∀ now written, fs.WritesAt p now written → holds now written) ↔ holds made source := by
  constructor
  · intro h
    exact h made source ⟨hm, hs⟩
  · rintro h now written ⟨hnow, hwritten⟩
    obtain rfl : made = now := congrArg Prod.fst (hm.symm.trans hnow)
    obtain rfl : source = written := Option.some.inj (hs.symm.trans hwritten)
    exact h

/-- A replacement does all or nothing exactly if no file stands under the temporary name or, where the
temporary file cannot be renamed, one with the content itself. It leaves the other files alone in any
case, and one that succeeds does all of its own. -/
theorem allOrNothing_iff (fs : FileSystem) (p : FilePath) (content : String) (hp : ¬ p.IsTemporary) :
    (fs.AllOrNothing p content ↔ ∀ made source, fs.WritesAt p made source →
      if (made.filePlace? p).isSome = true then ¬ fs.HoldsFile source
      else fs.node? source = some (.file content)) ∧
    ((fs.replace p content).2 = none → (fs.replace p content).1.read? p = some content ∧
      ¬ (fs.replace p content).1.HoldsFile (p.temporary.place fs.origin)) ∧
    ∀ q ≠ p.temporary.place fs.origin, (fs.replace p content).2 ≠ none ∨ q ≠ p.place fs.origin →
      fs.SameFile (fs.replace p content).1 q := by
  refine ⟨?_, replace_changes fs content hp⟩
  rw [allOrNothing_iff_sameFile fs content hp]
  have houtcome := outcome_replace fs p content
  generalize fs.replace p content = result at houtcome
  cases houtcome with
  | unmade hg hm =>
    refine iff_of_true (fun _ => hg.sameFile _) ?_
    rintro made source ⟨hmade, -⟩
    rw [hmade] at hm
    exact absurd rfl hm
  | unwritten hg hm hs =>
    refine iff_of_true (fun _ => hg.sameFile _) ?_
    rintro now source ⟨hnow, hsource⟩
    obtain rfl := congrArg Prod.fst (hm.symm.trans hnow)
    rw [hs] at hsource
    cases hsource
  | @leftBehind made source hg hm hs ht =>
    obtain ⟨hsource, -, hfolder⟩ := filePlace?_spec hs
    rw [hg.origin_eq] at hsource
    have hclosed : ¬ (made.filePlace? p).isSome = true := by simp [ht]
    have hfailed : some p ≠ none := Option.some_ne_none p
    rw [forall_writesAt_iff hm hs, if_neg hclosed, ← hsource, ← sameFile_put_self_iff hfolder]
    exact ⟨fun h => h (.inl hfailed), fun h _ => h⟩
  | @replaced made source target hg hm hs ht =>
    obtain ⟨hsource, hsfile, hsfolder⟩ := filePlace?_spec hs
    obtain ⟨htarget, htfile, htfolder⟩ := filePlace?_spec ht
    have hne := (place_ne_temporary_place hp htfile hsfile fs.origin).symm
    rw [hg.origin_eq] at hsource htarget
    have hopen : (made.filePlace? p).isSome = true := by simp [ht]
    rw [← hsource, ← htarget] at hne ⊢
    rw [forall_writesAt_iff hm hs, if_pos hopen, ← sameFile_replaced_source_iff hsfolder htfolder hne]
    exact ⟨fun h => h (.inr hne), fun h _ => h⟩

theorem not_isTemporary_script : ¬ (⟨"x.ts"⟩ : FilePath).IsTemporary := by
  rintro ⟨ps, name, hparts⟩
  have hone : (⟨"x.ts"⟩ : FilePath).parts = [] ++ ["x.ts"] := by decide
  rw [hone] at hparts
  obtain ⟨-, hlast⟩ := List.append_inj' hparts rfl
  have hends : "x.ts".toList.reverse = (name ++ ".tmp").toList.reverse :=
    congrArg (fun s : String => s.toList.reverse) (List.cons.inj hlast).1
  simp at hends

theorem allOrNothing_empty : ¬ (⟨"x.ts"⟩ : FilePath).IsTemporary ∧
    (FileSystem.empty ["work"]).AllOrNothing ⟨"x.ts"⟩ "hi" := by
  refine ⟨not_isTemporary_script, ?_⟩
  refine (allOrNothing_iff _ ⟨"x.ts"⟩ "hi" not_isTemporary_script).1.mpr ?_
  rintro made source ⟨hmade, hsource⟩
  obtain rfl : FileSystem.empty ["work"] = made := congrArg Prod.fst hmade
  have hplace : (FileSystem.empty ["work"]).filePlace? (temporary ⟨"x.ts"⟩) = some ["work", "x.tmp"] := by
    decide
  obtain rfl : ["work", "x.tmp"] = source := Option.some.inj (hplace.symm.trans hsource)
  have hfree : (FileSystem.empty ["work"]).node? ["work", "x.tmp"] = none := by decide
  have hopen : ((FileSystem.empty ["work"]).filePlace? ⟨"x.ts"⟩).isSome = true := by decide
  rw [if_pos hopen]
  rintro ⟨other, hother⟩
  rw [hfree] at hother
  cases hother

/-- A folder that stands in place of the file makes the replacement fail, and the temporary file stays
behind. -/
theorem not_allOrNothing_folder : ¬ (⟨"x.ts"⟩ : FilePath).IsTemporary ∧
    (((FileSystem.empty ["work"]).put ["work", "x.ts"] .folder).replace ⟨"x.ts"⟩ "hi").2 ≠ none ∧
    ((FileSystem.empty ["work"]).put ["work", "x.ts"] .folder).node? ["work", "x.tmp"] = none ∧
    (((FileSystem.empty ["work"]).put ["work", "x.ts"] .folder).replace ⟨"x.ts"⟩ "hi").1.node?
      ["work", "x.tmp"] = some (.file "hi") ∧
    ¬ ((FileSystem.empty ["work"]).put ["work", "x.ts"] .folder).AllOrNothing ⟨"x.ts"⟩ "hi" := by
  have hfails : (((FileSystem.empty ["work"]).put ["work", "x.ts"] .folder).replace ⟨"x.ts"⟩ "hi").2 ≠
      none := by decide
  have hbefore : ((FileSystem.empty ["work"]).put ["work", "x.ts"] .folder).node? ["work", "x.tmp"] =
      none := by decide
  have hafter : (((FileSystem.empty ["work"]).put ["work", "x.ts"] .folder).replace ⟨"x.ts"⟩
      "hi").1.node? ["work", "x.tmp"] = some (.file "hi") := by decide
  refine ⟨not_isTemporary_script, hfails, hbefore, hafter, fun h => ?_⟩
  have hsame := (h.nothing hfails _ "hi").mp hafter
  rw [hbefore] at hsame
  cases hsame

end FileSystem

end ApiSamples
