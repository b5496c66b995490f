import ApiSamples.Proofs.Files.Frame

namespace ApiSamples

namespace FilePath

/-- Whether components lead above the place that many levels up at no point. -/
def staysBelow : Nat → List Component → Bool
  | _, [] => true
  | _, .root :: _ => false
  | n, .here :: cs => staysBelow n cs
  | 0, .up :: _ => false
  | n + 1, .up :: cs => staysBelow n cs
  | n, .name _ :: cs => staysBelow (n + 1) cs

def descends (p : FilePath) : Bool := !p.isAbsolute && staysBelow 0 p.moves

theorem prefix_of_mem_way {base rest w : Place} {cs : List Component}
    (hs : staysBelow rest.length cs = true) (hw : w ∈ way (base ++ rest) cs) : base <+: w := by
  induction cs generalizing rest with
  | nil =>
    rw [way, List.mem_singleton] at hw
    exact hw ▸ List.prefix_append base rest
  | cons c cs ih =>
    rw [way, List.mem_cons] at hw
    rcases hw with rfl | hw
    · exact List.prefix_append base rest
    · cases c with
      | root => simp [staysBelow] at hs
      | here => exact ih (by simpa [staysBelow] using hs) hw
      | up =>
        rcases List.eq_nil_or_concat rest with rfl | ⟨init, s, rfl⟩
        · simp [staysBelow] at hs
        · have hback : (base ++ init.concat s).dropLast = base ++ init := by
            rw [List.concat_eq_append, ← List.append_assoc, List.dropLast_concat]
          rw [Component.follow, hback] at hw
          exact ih (by simpa [staysBelow] using hs) hw
      | name s =>
        have hdown : base ++ rest ++ [s] = base ++ (rest ++ [s]) := List.append_assoc ..
        rw [Component.follow, hdown] at hw
        exact ih (by simpa [staysBelow] using hs) hw

theorem prefix_of_staysBelow {base w : Place} {cs : List Component} (hs : staysBelow 0 cs = true)
    (hw : w ∈ way base cs) : base <+: w := by
  have hlevel : staysBelow ([] : Place).length cs = true := hs
  rw [← List.append_nil base] at hw
  exact prefix_of_mem_way hlevel hw

section

variable {fresh : String} {place rest : Place} {cs : List Component}

/-- Once outside a folder, nothing leads back into it but its name. -/
theorem not_prefix_resolve (hf : .name fresh ∉ cs) (hp : ¬ [fresh] <+: place) :
    ¬ [fresh] <+: resolve place cs := by
  induction cs generalizing place with
  | nil => exact hp
  | cons c cs ih =>
    rw [List.mem_cons, not_or] at hf
    refine ih hf.2 ?_
    cases c with
    | root => simp [Component.follow]
    | here => exact hp
    | up => exact fun h => hp (h.trans (List.dropLast_prefix place))
    | name s =>
      have hs : fresh ≠ s := fun he => hf.1 (by rw [he])
      cases place with
      | nil => simpa [Component.follow] using hs
      | cons first names => simpa [Component.follow] using hp

theorem staysBelow_of_prefix_resolve (hf : .name fresh ∉ cs)
    (h : [fresh] <+: resolve (fresh :: rest) cs) : staysBelow rest.length cs = true := by
  induction cs generalizing rest with
  | nil => simp [staysBelow]
  | cons c cs ih =>
    rw [List.mem_cons, not_or] at hf
    have hnext : [fresh] <+: resolve (c.follow (fresh :: rest)) cs := h
    -- What has left the folder would have to come back.
    have hout : c.follow (fresh :: rest) ≠ [] := by
      intro he
      rw [he] at hnext
      exact not_prefix_resolve hf.2 (by simp) hnext
    cases c with
    | root => exact absurd rfl hout
    | here => exact ih hf.2 hnext
    | up =>
      rcases List.eq_nil_or_concat rest with rfl | ⟨init, s, rfl⟩
      · exact absurd rfl hout
      · have hback : (fresh :: init.concat s).dropLast = fresh :: init := by
          rw [List.concat_eq_append, ← List.cons_append, List.dropLast_concat]
        rw [Component.follow, hback] at hnext
        simpa [staysBelow] using ih hf.2 hnext
    | name s =>
      have hdown : staysBelow (rest ++ [s]).length cs = true := ih hf.2 hnext
      simpa [staysBelow] using hdown

end

theorem name_mem_movesOf {ps : List String} {s : String} (h : .name s ∈ movesOf ps) : s ∈ ps := by
  obtain ⟨part, hp, hs⟩ := List.mem_map.mp h
  have hpart := (List.mem_filter.mp hp).1
  unfold Component.ofPart at hs
  split at hs
  · cases hs
  · cases hs
    exact hpart

theorem exists_fresh (ps : List String) :
    ∃ fresh : String, fresh ∉ ps ∧ parts ⟨fresh⟩ = [fresh] ∧ movesOf [fresh] = [.name fresh] := by
  obtain ⟨n, hn⟩ : ∃ n, ∀ s ∈ ps, s.length ≤ n := by
    induction ps with
    | nil => exact ⟨0, by simp⟩
    | cons s ps ih =>
      obtain ⟨n, hn⟩ := ih
      exact ⟨max s.length n, by grind⟩
  obtain ⟨fresh, hfresh⟩ : ∃ fresh : String, fresh = String.ofList (List.replicate (n + 3) 'a') :=
    ⟨_, rfl⟩
  have hlength : fresh.length = n + 3 := by simp [hfresh]
  have hne : ∀ s : String, s.length ≤ 2 → fresh ≠ s := by
    rintro s hs rfl
    omega
  refine ⟨fresh, ?_, ?_, ?_⟩
  · intro hm
    have hle := hn fresh hm
    omega
  · have hslash : ∀ part ∈ [fresh], '/' ∉ part.toList := by simp [hfresh]
    simpa using parts_intercalate hslash (by simp)
  · have hempty := hne "" (by decide)
    have hpoint := hne "." (by decide)
    have hup := hne ".." (by decide)
    simp [movesOf, isMove, isVoid, Component.ofPart, hempty, hpoint, hup]

theorem place_join {base p : FilePath} (h : p.isAbsolute = false) (origin : Place) :
    (base.join p).place origin = resolve (base.place origin) p.moves := by
  rw [place, start, isAbsolute_join base h, moves_join base h, resolve_append]
  rfl

theorem mem_route_join {base p : FilePath} (h : p.isAbsolute = false) {origin w : Place} :
    w ∈ (base.join p).route origin ↔ w ∈ base.route origin ∨ w ∈ way (base.place origin) p.moves := by
  rw [route, start, isAbsolute_join base h, moves_join base h, mem_way_append]
  rfl

theorem prefix_place_join (base : FilePath) {p : FilePath} (h : p.descends = true) (origin : Place) :
    base.place origin <+: (base.join p).place origin := by
  simp only [descends, Bool.and_eq_true, Bool.not_eq_true'] at h
  rw [place_join h.1]
  exact prefix_of_staysBelow h.2 (resolve_mem_way _ _)

/-- A path that leads below a directory of a new name descends. -/
theorem descends_of_leads_below {p : FilePath} {fresh : String} (hf : fresh ∉ p.parts)
    (hparts : parts ⟨fresh⟩ = [fresh]) (hmoves : movesOf [fresh] = [.name fresh])
    (h : [fresh] <+: (join ⟨fresh⟩ p).place []) : p.descends = true := by
  have hnot : .name fresh ∉ p.moves := fun hm => hf (name_mem_movesOf hm)
  have hstart : place [] ⟨fresh⟩ = [fresh] := by
    rw [place, moves, hparts, hmoves, start, ite_self]
    rfl
  by_cases ha : p.isAbsolute = true
  · rw [join_of_isAbsolute _ ha] at h
    exact absurd h (not_prefix_resolve hnot (by simp [start]))
  · have hrelative : p.isAbsolute = false := Bool.not_eq_true _ ▸ ha
    rw [place_join hrelative, hstart] at h
    have hbelow : staysBelow ([] : Place).length p.moves = true :=
      staysBelow_of_prefix_resolve hnot h
    rw [descends, hrelative, Bool.not_false, Bool.true_and]
    exact hbelow

theorem place_temporary_join (base : FilePath) {p : FilePath} (h : p.NamesFile) (origin : Place) :
    (base.join p).temporary.place origin = (base.join p.temporary).place origin := by
  obtain ⟨-, -, habs⟩ := h.temporary
  by_cases ha : p.isAbsolute = true
  · rw [join_of_isAbsolute base ha, join_of_isAbsolute base (habs.trans ha)]
  · have hrelative : p.isAbsolute = false := Bool.not_eq_true _ ▸ ha
    obtain ⟨ps, name, hp, hname, hup⟩ := h
    obtain ⟨qs, hq, hbase⟩ := base.parts_join hrelative
    have hjoined : (base.join p).parts = (qs ++ ps) ++ [name] := by rw [hq, hp, List.append_assoc]
    have htemporary : p.temporary.parts = ps ++ [renamed "tmp" name true] :=
      parts_withExtension hp hname hup (by decide)
    have hboth : (base.join p).temporary.parts = (qs ++ ps) ++ [renamed "tmp" name true] :=
      parts_withExtension hjoined hname hup (by decide)
    have habsolute := (NamesFile.temporary ⟨_, _, hjoined, hname, hup⟩).2.2
    have hmoves : (base.join p).temporary.moves = base.moves ++ p.temporary.moves := by
      rw [moves, hboth, List.append_assoc, movesOf_append, hbase, ← htemporary, ← moves]
    rw [place_join (habs.trans hrelative), place, start, habsolute, isAbsolute_join base hrelative,
      hmoves, resolve_append]
    rfl

end FilePath

open FilePath

namespace FileSystem

/-- A step that leaves alone what is outside a directory, but for folders on the way to it. -/
def Step.StaysIn (directory : FilePath) (origin : Place) : Step → Prop
  | .makeFolders p => ∀ w ∈ p.route origin, w ∈ directory.route origin ∨ directory.place origin <+: w
  | .write p _ => directory.place origin <+: p.place origin
  | .rename source target =>
    directory.place origin <+: source.place origin ∧ directory.place origin <+: target.place origin

theorem Step.StaysIn.of_mem_touched {step : Step} {directory : FilePath} {origin q : Place}
    (h : step.StaysIn directory origin) (hq : q ∈ step.touched origin) :
    q ∈ directory.route origin ∨ directory.place origin <+: q := by
  cases step with
  | makeFolders p => exact h q hq
  | write p content =>
    obtain rfl := List.mem_singleton.mp hq
    exact .inr h
  | rename source target =>
    simp only [Step.touched, List.mem_cons, List.not_mem_nil, or_false] at hq
    rcases hq with rfl | rfl
    · exact .inr h.1
    · exact .inr h.2

theorem staysIn_of_mem_folderSteps {base p : FilePath} (h : p.descends = true) {origin : Place}
    {step : Step} (hs : step ∈ folderSteps (base.join p)) : step.StaysIn base origin := by
  simp only [descends, Bool.and_eq_true, Bool.not_eq_true'] at h
  unfold folderSteps at hs
  split at hs
  · next parent hp =>
    split at hs
    · cases hs
    · obtain rfl := List.mem_singleton.mp hs
      intro w hw
      rcases (mem_route_join h.1).mp (mem_route_of_parent hp hw) with hbase | hway
      · exact .inl hbase
      · exact .inr (prefix_of_staysBelow h.2 hway)
  · cases hs

theorem replaceSteps_stayIn_iff {p : FilePath} (hp : p.NamesFile) (content : String) :
    (∀ (directory : FilePath) (origin : Place), ∀ step ∈ replaceSteps (directory.join p) content,
      step.StaysIn directory origin) ↔ p.descends = true ∧ p.temporary.descends = true := by
  constructor
  · intro h
    obtain ⟨fresh, hfresh, hparts, hmoves⟩ := exists_fresh (p.parts ++ p.temporary.parts)
    rw [List.mem_append, not_or] at hfresh
    have hplace : place [] ⟨fresh⟩ = [fresh] := by
      rw [place, moves, hparts, hmoves, start, ite_self]
      rfl
    have hrename := h ⟨fresh⟩ [] (.rename (join ⟨fresh⟩ p).temporary (join ⟨fresh⟩ p))
      (by simp [replaceSteps_eq])
    rw [Step.StaysIn, hplace, place_temporary_join _ hp] at hrename
    exact ⟨descends_of_leads_below hfresh.1 hparts hmoves hrename.2,
      descends_of_leads_below hfresh.2 hparts hmoves hrename.1⟩
  · rintro ⟨hdown, htemporary⟩ directory origin step hs
    have htarget := prefix_place_join directory hdown origin
    have hsource := prefix_place_join directory htemporary origin
    rw [← place_temporary_join _ hp] at hsource
    rw [replaceSteps_eq] at hs
    rcases List.mem_append.mp hs with hs | hs
    · exact staysIn_of_mem_folderSteps hdown hs
    · simp only [List.mem_cons, List.not_mem_nil, or_false] at hs
      rcases hs with rfl | rfl
      · exact hsource
      · exact ⟨hsource, htarget⟩

end FileSystem

end ApiSamples
