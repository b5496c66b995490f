import ApiSamples.Proofs.Files.Sequence

namespace ApiSamples

open FilePath

namespace FileSystem

/-- The places that a step may change. -/
def Step.touched (origin : Place) : Step → List Place
  | .makeFolders p => p.route origin
  | .write p _ => [p.place origin]
  | .rename source target => [source.place origin, target.place origin]

/-- Two file systems with the same origin and limits that differ at some of the places only. -/
structure SameBut (touched : List Place) (fs now : FileSystem) : Prop where
  origin_eq : now.origin = fs.origin
  limits_eq : now.limits = fs.limits
  node?_eq : ∀ q ∉ touched, now.node? q = fs.node? q

variable {fs now last : FileSystem} {touched more : List Place}

theorem SameBut.refl (touched : List Place) (fs : FileSystem) : SameBut touched fs fs :=
  ⟨rfl, rfl, fun _ _ => rfl⟩

theorem SameBut.mono (h : SameBut touched fs now) (hm : ∀ q ∈ touched, q ∈ more) :
    SameBut more fs now :=
  ⟨h.origin_eq, h.limits_eq, fun q hq => h.node?_eq q fun hin => hq (hm q hin)⟩

theorem SameBut.append (h : SameBut touched fs now) (hn : SameBut more now last) :
    SameBut (touched ++ more) fs last := by
  refine ⟨hn.origin_eq.trans h.origin_eq, hn.limits_eq.trans h.limits_eq, ?_⟩
  intro q hq
  rw [List.mem_append, not_or] at hq
  rw [hn.node?_eq q hq.2, h.node?_eq q hq.1]

theorem SameBut.put (h : SameBut touched fs now) {place : Place} (hp : place ∈ touched) (node : Node) :
    SameBut touched fs (now.put place node) := by
  refine ⟨h.origin_eq, h.limits_eq, ?_⟩
  intro q hq
  have hne : q ≠ place := by
    rintro rfl
    exact hq hp
  rw [node?_put_of_ne now hne, h.node?_eq q hq]

theorem SameBut.remove (h : SameBut touched fs now) {place : Place} (hp : place ∈ touched) :
    SameBut touched fs (now.remove place) := by
  refine ⟨h.origin_eq, h.limits_eq, ?_⟩
  intro q hq
  have hne : q ≠ place := by
    rintro rfl
    exact hq hp
  rw [node?_remove_of_ne now hne, h.node?_eq q hq]

theorem sameBut_makeWay (fs : FileSystem) (place : Place) (cs : List Component) :
    SameBut (way place cs) fs (fs.makeWay place cs).1 :=
  ⟨(makeWay_frame fs place cs).1, (makeWay_frame fs place cs).2, fun _ hq => node?_makeWay_of_not_mem hq⟩

theorem sameBut_makeWay_components (fs : FileSystem) (p : FilePath) :
    SameBut (p.route fs.origin) fs (fs.makeWay fs.origin p.components).1 := by
  have hmoves := sameBut_makeWay fs (p.start fs.origin) p.moves
  rw [components_eq]
  by_cases ha : p.isAbsolute = true
  · have hstart : p.start fs.origin = [] := if_pos ha
    rw [hstart] at hmoves
    simpa [ha, head?_parts_of_isAbsolute ha, makeWay, walk, node?, route, hstart] using hmoves
  · have hstart : p.start fs.origin = fs.origin := if_neg ha
    rw [hstart] at hmoves
    by_cases hh : p.parts.head? = some "."
    · by_cases hf : fs.isFolder fs.origin = true
      · simpa [ha, hh, makeWay, walk, hf, isFolder_iff.mp hf, route, hstart] using hmoves
      · simpa [ha, hh, makeWay, walk, hf] using SameBut.refl _ fs
    · simpa [ha, hh, route, hstart] using hmoves

theorem mem_way_of_mem_dropLast {place w : Place} {cs : List Component}
    (h : w ∈ way place cs.dropLast) : w ∈ way place cs := by
  rcases List.eq_nil_or_concat cs with rfl | ⟨init, c, rfl⟩
  · exact h
  · rw [List.concat_eq_append, List.dropLast_concat] at h
    rw [List.concat_eq_append, mem_way_append]
    exact .inl h

theorem mem_route_of_parent {p parent : FilePath} (h : p.parent? = some parent) {origin w : Place}
    (hw : w ∈ parent.route origin) : w ∈ p.route origin := by
  obtain ⟨hmoves, habs⟩ := parent?_spec h
  rw [route, start, habs, hmoves] at hw
  exact mem_way_of_mem_dropLast hw

theorem sameBut_makeFolders (fs : FileSystem) (p : FilePath) :
    SameBut (p.route fs.origin) fs (fs.makeFolders p).1 := by
  unfold makeFolders
  split
  · exact .refl _ fs
  · split
    · cases hp : p.parent? with
      | none => simpa [makeWay] using SameBut.refl _ fs
      | some parent =>
        exact (sameBut_makeWay_components fs parent).mono fun w hw => mem_route_of_parent hp hw
    · exact sameBut_makeWay_components fs p

theorem place_of_filePlace? {p : FilePath} {q : Place} (h : fs.filePlace? p = some q) :
    q = p.place fs.origin := by
  obtain ⟨place, hl, hq⟩ := Option.bind_eq_some_iff.mp h
  split at hq
  · cases hq
  · cases hq
    exact place_of_locate hl

theorem sameBut_perform (fs : FileSystem) (step : Step) :
    SameBut (step.touched fs.origin) fs (fs.perform step).1 := by
  cases step with
  | makeFolders p => exact sameBut_makeFolders fs p
  | write p content =>
    simp only [perform]
    split
    · next place hp =>
      obtain rfl := place_of_filePlace? hp
      exact (SameBut.refl _ fs).put (by simp [Step.touched]) _
    · exact .refl _ fs
  | rename source target =>
    simp only [perform]
    split
    · next old new ho hn =>
      obtain rfl := place_of_filePlace? ho
      obtain rfl := place_of_filePlace? hn
      split
      · exact ((SameBut.refl _ fs).remove (by simp [Step.touched])).put (by simp [Step.touched]) _
      · exact .refl _ fs
    · exact .refl _ fs

theorem sameBut_performAll (fs : FileSystem) (steps : List Step) :
    SameBut (steps.flatMap fun step => step.touched fs.origin) fs (fs.performAll steps).1 := by
  induction steps generalizing fs with
  | nil => exact .refl _ fs
  | cons step steps ih =>
    have hstep := sameBut_perform fs step
    simp only [performAll, List.flatMap_cons]
    split
    · next now heq =>
      rw [heq] at hstep
      have hrest := ih now
      rw [hstep.origin_eq] at hrest
      exact hstep.append hrest
    · next now heq =>
      rw [heq] at hstep
      exact hstep.mono fun q hq => List.mem_append_left _ hq

theorem sameBut_replace (fs : FileSystem) (p : FilePath) (content : String) :
    SameBut ((replaceSteps p content).flatMap fun step => step.touched fs.origin) fs
      (fs.replace p content).1 :=
  sameBut_performAll fs (replaceSteps p content)

theorem sameBut_replaceAll (fs : FileSystem) (files : List (FilePath × String)) :
    SameBut (files.flatMap fun e => (replaceSteps e.1 e.2).flatMap fun step => step.touched fs.origin)
      fs (fs.replaceAll files).1 := by
  induction files generalizing fs with
  | nil => exact .refl _ fs
  | cons e files ih =>
    obtain ⟨p, content⟩ := e
    have hfirst := sameBut_replace fs p content
    simp only [replaceAll, List.flatMap_cons]
    split
    · next now heq =>
      rw [heq] at hfirst
      have hrest := ih now
      rw [hfirst.origin_eq] at hrest
      exact hfirst.append hrest
    · next now failed heq =>
      rw [heq] at hfirst
      exact hfirst.mono fun q hq => List.mem_append_left _ hq

end FileSystem

end ApiSamples
