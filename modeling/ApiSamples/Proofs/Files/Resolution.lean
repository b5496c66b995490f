import ApiSamples.Files.System
import ApiSamples.Proofs.Files.Path

namespace ApiSamples

namespace FilePath

def Component.follow (place : Place) : Component → Place
  | root => []
  | here => place
  | up => place.dropLast
  | name s => place ++ [s]

def resolve (place : Place) (cs : List Component) : Place := cs.foldl Component.follow place

/-- All places on the way, the first and the last ones included. -/
def way (place : Place) : List Component → List Place
  | [] => [place]
  | c :: cs => place :: way (c.follow place) cs

theorem mem_way_self (place : Place) (cs : List Component) : place ∈ way place cs := by
  cases cs <;> simp [way]

theorem resolve_mem_way (place : Place) (cs : List Component) : resolve place cs ∈ way place cs := by
  induction cs generalizing place with
  | nil => simp [resolve, way]
  | cons c cs ih => simpa [resolve, way] using .inr (ih (c.follow place))

theorem resolve_append (place : Place) (cs ds : List Component) :
    resolve place (cs ++ ds) = resolve (resolve place cs) ds := by
  simp [resolve]

theorem mem_way_append {place w : Place} {cs ds : List Component} :
    w ∈ way place (cs ++ ds) ↔ w ∈ way place cs ∨ w ∈ way (resolve place cs) ds := by
  induction cs generalizing place with
  | nil =>
    have h := mem_way_self place ds
    simp only [List.nil_append, way, List.mem_singleton, resolve, List.foldl_nil]
    grind
  | cons c cs ih => simp [way, resolve, ih, or_assoc]

def start (origin : Place) (p : FilePath) : Place := if p.isAbsolute then [] else origin

def place (origin : Place) (p : FilePath) : Place := resolve (p.start origin) p.moves

def route (origin : Place) (p : FilePath) : List Place := way (p.start origin) p.moves

/-- The places that have to be folders for something to stand at the end of the path. -/
def folders (origin : Place) (p : FilePath) : List Place := way (p.start origin) p.moves.dropLast

theorem place_of_parts {p : FilePath} {ps : List String} {part : String} (hp : p.parts = ps ++ [part])
    (hm : isMove part = true) (hup : part ≠ "..") (origin : Place) :
    p.place origin = resolve (p.start origin) (movesOf ps) ++ [part] := by
  have hname : Component.ofPart part = .name part := by simp [Component.ofPart, hup]
  rw [place, moves, hp, movesOf_snoc hm, resolve_append, hname]
  rfl

theorem IsScript.exists_place {p : FilePath} (h : p.IsScript) (origin : Place) :
    ∃ before name, p.place origin = before ++ [name ++ ".ts"] := by
  obtain ⟨ps, name, hp⟩ := h
  exact ⟨_, name, place_of_parts hp (isMove_script name) (script_ne_up name) origin⟩

theorem IsScript.exists_temporary_place {p : FilePath} (h : p.IsScript)
    (hn : p.temporary.endsInFolder = false) (origin : Place) :
    ∃ before name, p.temporary.place origin = before ++ [name ++ ".tmp"] := by
  obtain ⟨ps, name, hp⟩ := h
  have ht : p.temporary.parts = ps ++ [temporaryName name] := by
    rw [← renamed_script]
    exact parts_withExtension hp (isMove_script name) (script_ne_up name) (by decide)
  have hup : temporaryName name ≠ ".." := by
    intro he
    simp [endsInFolder, ht, he] at hn
  have hm : isMove (temporaryName name) = true := renamed_script name ▸ isMove_renamed _ _
  have hplace := place_of_parts ht hm hup origin
  unfold temporaryName at hplace hup
  split at hplace
  · exact ⟨_, ".ts", hplace⟩
  · next hne =>
    rw [if_neg hne] at hup
    split at hplace
    · next hpoint => exact absurd (if_pos hpoint) hup
    · exact ⟨_, name, hplace⟩

theorem temporary_place_ne {p q : FilePath} (hp : p.IsScript) (hq : q.IsScript)
    (hn : p.temporary.endsInFolder = false) (origin : Place) :
    p.temporary.place origin ≠ q.place origin := by
  obtain ⟨before, name, ht⟩ := hp.exists_temporary_place hn origin
  obtain ⟨others, other, hs⟩ := hq.exists_place origin
  intro he
  rw [ht, hs] at he
  obtain ⟨-, hname⟩ := List.append_inj' he rfl
  have hlast := congrArg (fun s => s.toList.getLast?) (List.cons.inj hname).1
  have htmp : ".tmp".toList = ['.', 't', 'm', 'p'] := rfl
  have hts : ".ts".toList = ['.', 't', 's'] := rfl
  simp [htmp, hts] at hlast

theorem components_eq (p : FilePath) :
    p.components = (if p.isAbsolute then [.root] else []) ++
      (if p.parts.head? = some "." then [.here] else []) ++ p.moves := by
  obtain ⟨first, rest, hp⟩ := List.exists_cons_of_ne_nil p.parts_ne_nil
  have hmove : isMove = fun part => !isVoid part := rfl
  have hc : componentsOf (first :: rest) =
      (if first = "." then [.here] else []) ++ movesOf (first :: rest) := by
    by_cases he : first = ""
    · simp [componentsOf, movesOf, hmove, isVoid, he]
    · by_cases hh : first = "."
      · simp [componentsOf, movesOf, hmove, isVoid, hh]
      · simp [componentsOf, movesOf, hmove, isVoid, he, hh]
  unfold components moves
  rw [hp, hc]
  by_cases ha : p.isAbsolute = true <;> simp [ha]

theorem head?_parts_of_isAbsolute {p : FilePath} (h : p.isAbsolute = true) :
    p.parts.head? ≠ some "." := by
  obtain ⟨part, rest, hp⟩ := (isAbsolute_iff p).mp h
  simp [hp]

end FilePath

open FilePath

namespace FileSystem

variable {fs : FileSystem} {place : Place}

def HoldsFile (fs : FileSystem) (place : Place) : Prop := ∃ content, fs.node? place = some (.file content)

/-- A file system without limits, in which relative paths start from a folder. -/
structure Unlimited (fs : FileSystem) (origin : Place) : Prop where
  limits_eq : fs.limits = none
  origin_eq : fs.origin = origin
  folder : fs.isFolder origin = true

theorem isFolder_iff : fs.isFolder place = true ↔ fs.node? place = some .folder := by
  simp [isFolder]

theorem isFolder_root (fs : FileSystem) : fs.isFolder [] = true := by
  simp [isFolder, node?]

theorem admits_of_unlimited (h : fs.limits = none) (p : FilePath) : fs.admits p = true := by
  simp [admits, h]

theorem follow_of_walk {c : Component} {next : Place} (h : fs.walk place c = some next) :
    next = c.follow place := by
  cases c with
  | root => simpa [walk, Component.follow] using h.symm
  | here | up | name s =>
    simp only [walk] at h
    split at h
    · simpa [Component.follow] using h.symm
    · cases h

theorem walk_of_unlimited (h : fs.limits = none) {c : Component} (hc : c ≠ .root) :
    fs.walk place c = if fs.isFolder place then some (c.follow place) else none := by
  cases c with
  | root => exact absurd rfl hc
  | here | up => rfl
  | name s => simp [walk, admitsName, h, Component.follow]

/-- Where a file system finds anything, it is the place of the path. -/
theorem resolve_of_foldlM {cs : List Component} {q : Place} (h : cs.foldlM fs.walk place = some q) :
    q = resolve place cs := by
  induction cs generalizing place with
  | nil => simpa [resolve] using h.symm
  | cons c cs ih =>
    obtain ⟨next, hw, hn⟩ := Option.bind_eq_some_iff.mp (by simpa [List.foldlM_cons] using h)
    rw [follow_of_walk hw] at hn
    exact ih hn

theorem foldlM_walk_snoc (h : fs.limits = none) {cs : List Component} {c : Component}
    (hcs : .root ∉ cs) (hc : c ≠ .root) :
    (cs ++ [c]).foldlM fs.walk place =
      if ∀ w ∈ way place cs, fs.isFolder w = true then some (resolve place (cs ++ [c])) else none := by
  induction cs generalizing place with
  | nil => simp [walk_of_unlimited h hc, way, resolve]
  | cons d cs ih =>
    have hd : d ≠ .root := fun he => hcs (by simp [he])
    have hrest : .root ∉ cs := fun hm => hcs (by simp [hm])
    simp only [List.cons_append, List.foldlM_cons, walk_of_unlimited h hd, way, List.forall_mem_cons]
    by_cases hf : fs.isFolder place = true
    · simp [hf, ih hrest, resolve]
    · simp [hf]

theorem resolve_components (origin : Place) (p : FilePath) :
    resolve origin p.components = p.place origin := by
  rw [components_eq, FilePath.place, start]
  by_cases ha : p.isAbsolute = true <;> by_cases hh : p.parts.head? = some "." <;>
    simp [ha, hh, resolve, Component.follow]

theorem place_of_locate {p : FilePath} {q : Place} (h : fs.locate p = some q) :
    q = p.place fs.origin := by
  unfold locate at h
  split at h
  · rw [resolve_of_foldlM h, resolve_components]
  · cases h

theorem locate_eq {p : FilePath} {origin : Place} (hu : fs.Unlimited origin) (hm : p.moves ≠ []) :
    fs.locate p = if ∀ w ∈ p.folders origin, fs.isFolder w = true then some (p.place origin)
      else none := by
  have hlast := List.dropLast_concat_getLast hm
  have hroot : Component.root ∉ p.moves := root_not_mem_movesOf _
  have hstart : p.components.foldlM fs.walk origin = p.moves.foldlM fs.walk (p.start origin) := by
    rw [components_eq, start]
    by_cases ha : p.isAbsolute = true
    · simp [ha, head?_parts_of_isAbsolute ha, walk]
    · by_cases hh : p.parts.head? = some "." <;> simp [ha, hh, walk, hu.folder]
  rw [locate, if_pos (admits_of_unlimited hu.limits_eq p), hu.origin_eq, hstart, folders, FilePath.place,
    ← hlast, foldlM_walk_snoc hu.limits_eq, List.dropLast_concat]
  · exact fun hr => hroot (List.dropLast_subset _ hr)
  · exact fun hr => hroot (hr ▸ List.getLast_mem hm)

theorem node?_makeWay_of_not_mem {cs : List Component} {q : Place} (hq : q ∉ way place cs) :
    (fs.makeWay place cs).1.node? q = fs.node? q := by
  induction cs generalizing fs place with
  | nil => rfl
  | cons c cs ih =>
    simp only [way, List.mem_cons, not_or] at hq
    simp only [makeWay]
    split
    · rfl
    · next next hw =>
      have hnext := follow_of_walk hw
      subst hnext
      have hne : q ≠ c.follow place := fun he => hq.2 (he ▸ mem_way_self _ cs)
      split
      · rw [ih hq.2, node?_put_of_ne fs hne]
      · exact ih hq.2
      · rfl

theorem makeWay_frame (fs : FileSystem) (place : Place) (cs : List Component) :
    (fs.makeWay place cs).1.origin = fs.origin ∧ (fs.makeWay place cs).1.limits = fs.limits := by
  induction cs generalizing fs place with
  | nil => exact ⟨rfl, rfl⟩
  | cons c cs ih =>
    simp only [makeWay]
    split
    · exact ⟨rfl, rfl⟩
    · split
      · exact ih _ _
      · exact ih _ _
      · exact ⟨rfl, rfl⟩

theorem ne_root_of_node?_eq_none (h : fs.node? place = none) : place ≠ [] := by
  rintro rfl
  simp [node?] at h

theorem holdsFile_put_folder (h : fs.node? place = none) (w : Place) :
    (fs.put place .folder).HoldsFile w ↔ fs.HoldsFile w := by
  unfold HoldsFile
  by_cases hw : w = place
  · subst hw
    simp [node?_put_self fs (ne_root_of_node?_eq_none h), h]
  · rw [node?_put_of_ne fs hw]

theorem isFolder_put_self (h : fs.node? place = none) :
    (fs.put place .folder).isFolder place = true :=
  isFolder_iff.mpr (node?_put_self fs (ne_root_of_node?_eq_none h) _)

theorem not_holdsFile_of_isFolder (h : fs.isFolder place = true) : ¬ fs.HoldsFile place := by
  rintro ⟨content, hc⟩
  rw [isFolder_iff.mp h] at hc
  cases hc

theorem makeWay_succeeds_iff (h : fs.limits = none) (hf : fs.isFolder place = true)
    {cs : List Component} (hcs : .root ∉ cs) :
    (fs.makeWay place cs).2 = true ↔ ∀ w ∈ way place cs, ¬ fs.HoldsFile w := by
  induction cs generalizing fs place with
  | nil => simp [makeWay, way, hf, not_holdsFile_of_isFolder hf]
  | cons c cs ih =>
    have hc : c ≠ .root := fun he => hcs (by simp [he])
    have hrest : .root ∉ cs := fun hm => hcs (by simp [hm])
    simp only [makeWay, walk_of_unlimited h hc, hf, if_true, way, List.forall_mem_cons,
      not_holdsFile_of_isFolder hf, not_false_eq_true, true_and]
    split
    · next hn => rw [ih (by exact h) (isFolder_put_self hn) hrest]; simp only [holdsFile_put_folder hn]
    · next hn => exact ih h (isFolder_iff.mpr hn) hrest
    · next content hn =>
      simp only [Bool.false_eq_true, false_iff]
      exact fun hall => hall _ (mem_way_self _ cs) ⟨content, hn⟩

theorem node?_makeWay (h : fs.limits = none) (hf : fs.isFolder place = true)
    {cs : List Component} (hcs : .root ∉ cs) (hs : ∀ w ∈ way place cs, ¬ fs.HoldsFile w) (q : Place) :
    (fs.makeWay place cs).1.node? q = if q ∈ way place cs then some .folder else fs.node? q := by
  induction cs generalizing fs place with
  | nil =>
    by_cases hq : q = place
    · simpa [makeWay, way, hq] using isFolder_iff.mp hf
    · simp [makeWay, way, hq]
  | cons c cs ih =>
    have hc : c ≠ .root := fun he => hcs (by simp [he])
    have hrest : .root ∉ cs := fun hm => hcs (by simp [hm])
    have hway : ∀ w ∈ way (c.follow place) cs, ¬ fs.HoldsFile w := fun w hw => hs w (by simp [way, hw])
    have hplace : q = place → q ∉ way (c.follow place) cs → fs.node? q = some .folder := by
      rintro rfl -
      exact isFolder_iff.mp hf
    simp only [makeWay, walk_of_unlimited h hc, hf, if_true, way, List.mem_cons]
    split
    · next hn =>
      rw [ih (by exact h) (isFolder_put_self hn) hrest (by simpa only [holdsFile_put_folder hn] using hway)]
      by_cases hq : q ∈ way (c.follow place) cs
      · simp [hq]
      · have hne : q ≠ c.follow place := fun he => hq (he ▸ mem_way_self _ cs)
        rw [node?_put_of_ne fs hne]
        grind
    · next hn =>
      rw [ih h (isFolder_iff.mpr hn) hrest hway]
      grind
    · next content hn => exact absurd ⟨content, hn⟩ (hway _ (mem_way_self _ cs))

end FileSystem

end ApiSamples
