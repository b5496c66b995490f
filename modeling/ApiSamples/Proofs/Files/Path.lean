import ApiSamples.Files.Path
import ApiSamples.Proofs.Text.Basic

namespace ApiSamples

namespace FilePath

theorem parts_ne_nil (p : FilePath) : p.parts ≠ [] := by
  simpa [parts] using Text.pieces_ne_nil (· == '/') p.text.toList

theorem slash_not_mem_of_mem_parts {p : FilePath} {part : String} (h : part ∈ p.parts) :
    '/' ∉ part.toList := by
  obtain ⟨piece, hp, rfl⟩ := List.mem_map.mp h
  simpa using Text.not_mem_of_mem_pieces hp

theorem parts_intercalate {ps : List String} (h : ∀ part ∈ ps, '/' ∉ part.toList) (hne : ps ≠ []) :
    parts ⟨"/".intercalate ps⟩ = ps := by
  have hslash : "/".toList = ['/'] := rfl
  have hpieces : Text.pieces (· == '/') (['/'].intercalate (ps.map String.toList)) =
      ps.map String.toList := Text.pieces_intercalate (by simpa using h) (by simpa using hne)
  simp only [parts, String.toList_intercalate, hslash, hpieces, List.map_map]
  simp

theorem parts_ofParts {ps : List String} (h : ∀ part ∈ ps, '/' ∉ part.toList) (hne : ps ≠ [])
    (hroot : ps ≠ [""]) : (ofParts ps).parts = ps := by
  rw [ofParts, if_neg hroot]
  exact parts_intercalate h hne

theorem isAbsolute_iff (p : FilePath) :
    p.isAbsolute = true ↔ ∃ part rest, p.parts = "" :: part :: rest := by
  unfold isAbsolute parts
  cases p.text.toList with
  | nil => simp [Text.pieces]
  | cons c cs =>
    obtain ⟨q, qs, hq⟩ := List.exists_cons_of_ne_nil (Text.pieces_ne_nil (· == '/') cs)
    by_cases hc : c = '/' <;> simp [Text.pieces, hq, hc]

def isMove (part : String) : Bool := !isVoid part

/-- What the parts of a path lead through, without the root. -/
def movesOf (ps : List String) : List Component := (ps.filter isMove).map Component.ofPart

def moves (p : FilePath) : List Component := movesOf p.parts

theorem movesOf_append (ps qs : List String) : movesOf (ps ++ qs) = movesOf ps ++ movesOf qs := by
  simp [movesOf]

theorem movesOf_snoc {ps : List String} {part : String} (h : isMove part = true) :
    movesOf (ps ++ [part]) = movesOf ps ++ [Component.ofPart part] := by
  simp [movesOf, h]

theorem movesOf_snoc_void {ps : List String} {part : String} (h : isMove part = false) :
    movesOf (ps ++ [part]) = movesOf ps := by
  simp [movesOf, h]

theorem root_not_mem_movesOf (ps : List String) : Component.root ∉ movesOf ps := by
  simp [movesOf, Component.ofPart]
  grind

theorem movesOf_trimVoid (reversed : List String) :
    movesOf (trimVoid reversed).reverse = movesOf reversed.reverse := by
  induction reversed with
  | nil => rfl
  | cons part parts ih =>
    by_cases h : isVoid part = true
    · rw [trimVoid, List.dropWhile_cons_of_pos h, List.reverse_cons, movesOf_snoc_void (by simp [isMove, h])]
      exact ih
    · rw [trimVoid, List.dropWhile_cons_of_neg h]

theorem join_of_isAbsolute (base : FilePath) {p : FilePath} (h : p.isAbsolute = true) :
    base.join p = p := by
  rw [join, if_pos h]

theorem parts_append_slash (cs ds : List Char) :
    parts ⟨String.ofList (cs ++ '/' :: ds)⟩ =
      parts ⟨String.ofList cs⟩ ++ parts ⟨String.ofList ds⟩ := by
  simp only [parts, String.toList_ofList, Text.pieces_append_cons, List.map_append]

theorem parts_join (base : FilePath) {p : FilePath} (h : p.isAbsolute = false) :
    ∃ ps, (base.join p).parts = ps ++ p.parts ∧ movesOf ps = base.moves := by
  have hp : p = ⟨String.ofList p.text.toList⟩ := by simp
  rw [join, h, if_neg Bool.false_ne_true]
  rcases List.eq_nil_or_concat base.text.toList with hb | ⟨cs, c, hb⟩
  · have htext : base.text = "" := by simpa using hb
    refine ⟨[], by simp [htext], ?_⟩
    rw [moves, parts, htext]
    decide
  · rw [List.concat_eq_append] at hb
    have hbase : base = ⟨String.ofList (cs ++ [c])⟩ := by rw [← hb]; simp
    by_cases hc : c = '/'
    · subst hc
      have hparts : base.parts = parts ⟨String.ofList cs⟩ ++ [""] := by
        rw [hbase]
        exact parts_append_slash cs []
      refine ⟨parts ⟨String.ofList cs⟩, ?_, ?_⟩
      · have htext : base.text ++ p.text = String.ofList (cs ++ '/' :: p.text.toList) := by
          apply String.toList_injective
          simp [hb]
        simp only [hb, List.getLast?_concat, beq_self_eq_true, Bool.or_true, if_true]
        rw [htext, parts_append_slash, ← hp]
      · rw [moves, hparts, movesOf_snoc_void (by decide)]
    · refine ⟨base.parts, ?_, rfl⟩
      have htext : base.text ++ "/" ++ p.text =
          String.ofList (base.text.toList ++ '/' :: p.text.toList) := by
        apply String.toList_injective
        simp
      have hempty : base.text.isEmpty = false := by simp [← String.toList_eq_nil_iff, hb]
      have hlast : (c == '/') = false := by simpa using hc
      simp only [hb, hempty, List.getLast?_concat, Option.some_beq_some, hlast, Bool.or_false,
        Bool.false_eq_true, if_false]
      rw [htext, parts_append_slash, ← hp]
      simp

theorem moves_join (base : FilePath) {p : FilePath} (h : p.isAbsolute = false) :
    (base.join p).moves = base.moves ++ p.moves := by
  obtain ⟨ps, hps, hm⟩ := base.parts_join h
  unfold moves
  rw [hps, movesOf_append, hm, moves]

theorem isAbsolute_join (base : FilePath) {p : FilePath} (h : p.isAbsolute = false) :
    (base.join p).isAbsolute = base.isAbsolute := by
  have hp := h
  unfold isAbsolute at hp
  rw [join, h, if_neg Bool.false_ne_true]
  cases hb : base.text.toList with
  | nil => simp_all [isAbsolute]
  | cons c cs => split <;> simp [isAbsolute, hb]

theorem isAbsolute_of_parts {p q : FilePath} {first : String} {ps qs : List String}
    (hp : p.parts = first :: ps) (hq : q.parts = first :: qs) (hne : ps ≠ []) (hne' : qs ≠ []) :
    p.isAbsolute = q.isAbsolute := by
  rw [Bool.eq_iff_iff, isAbsolute_iff, isAbsolute_iff, hp, hq]
  obtain ⟨_, _, rfl⟩ := List.exists_cons_of_ne_nil hne
  obtain ⟨_, _, rfl⟩ := List.exists_cons_of_ne_nil hne'
  simp

theorem isAbsolute_of_first {p : FilePath} {first : String} {ps : List String}
    (hp : p.parts = first :: ps) (h : first ≠ "") : p.isAbsolute = false := by
  rw [← Bool.not_eq_true, isAbsolute_iff, hp]
  rintro ⟨_, _, he⟩
  exact h (List.cons_eq_cons.mp he).1

theorem ofParts_root (rest : List String) (h : ∀ part ∈ rest, '/' ∉ part.toList) :
    (ofParts ("" :: rest)).isAbsolute = true ∧
      (ofParts ("" :: rest)).moves = movesOf ("" :: rest) := by
  cases rest with
  | nil => decide
  | cons part rest =>
    have hparts : (ofParts ("" :: part :: rest)).parts = "" :: part :: rest :=
      parts_ofParts (by simpa using h) (by simp) (by simp)
    exact ⟨(isAbsolute_iff _).mpr ⟨part, rest, hparts⟩, by rw [moves, hparts]⟩

theorem ofParts_relative {first : String} {rest : List String} (hf : first ≠ "")
    (h : ∀ part ∈ first :: rest, '/' ∉ part.toList) :
    (ofParts (first :: rest)).isAbsolute = false ∧
      (ofParts (first :: rest)).moves = movesOf (first :: rest) := by
  have hparts : (ofParts (first :: rest)).parts = first :: rest :=
    parts_ofParts h (by simp) (by simp [hf])
  exact ⟨isAbsolute_of_first hparts hf, by rw [moves, hparts]⟩

theorem mem_of_mem_trimVoid {part : String} {reversed : List String} (h : part ∈ trimVoid reversed) :
    part ∈ reversed := List.dropWhile_subset isVoid h

theorem isMove_of_trimVoid {part : String} {reversed rest : List String}
    (h : trimVoid reversed = part :: rest) : isMove part = true := by
  have hhead := List.head?_dropWhile_not isVoid reversed
  rw [show reversed.dropWhile isVoid = part :: rest from h] at hhead
  simpa [isMove] using hhead

theorem parent?_eq_some {p q : FilePath} (h : p.parent? = some q) :
    ∃ first rest, p.parts = first :: rest ∧
      ((first ≠ "" ∧ movesOf rest = [] ∧ q = ⟨""⟩) ∨
        ∃ kept last, movesOf rest = movesOf kept ++ [.ofPart last] ∧ q = ofParts (first :: kept) ∧
          (∀ part ∈ first :: kept, '/' ∉ part.toList) ∧
          ∀ part, kept.getLast? = some part → isMove part = true) := by
  have hslash : ∀ part ∈ p.parts, '/' ∉ part.toList := fun _ => slash_not_mem_of_mem_parts
  obtain ⟨first, rest, hp⟩ := List.exists_cons_of_ne_nil p.parts_ne_nil
  rw [hp] at hslash
  have hvoid := movesOf_trimVoid rest.reverse
  rw [List.reverse_reverse] at hvoid
  refine ⟨first, rest, hp, ?_⟩
  simp only [parent?, hp] at h
  split at h
  · next ht =>
    rw [ht] at hvoid
    by_cases hf : first = ""
    · simp [hf] at h
    · simp only [beq_iff_eq, hf, if_false, Option.some.injEq] at h
      exact .inl ⟨hf, hvoid.symm, h.symm⟩
  · next last before ht =>
    rw [ht, List.reverse_cons, movesOf_snoc (isMove_of_trimVoid ht)] at hvoid
    refine .inr ⟨(trimVoid before).reverse, last, ?_, (Option.some.inj h).symm, ?_, ?_⟩
    · rw [movesOf_trimVoid, hvoid]
    · intro part hpart
      rcases List.mem_cons.mp hpart with rfl | hpart
      · exact hslash part (by simp)
      · have hbefore := mem_of_mem_trimVoid (List.mem_reverse.mp hpart)
        have hrest : part ∈ rest.reverse :=
          mem_of_mem_trimVoid (ht ▸ List.mem_cons_of_mem last hbefore)
        exact hslash part (List.mem_cons_of_mem first (List.mem_reverse.mp hrest))
    · intro part hpart
      rw [List.getLast?_reverse] at hpart
      obtain ⟨others, ho⟩ := List.head?_eq_some_iff.mp hpart
      exact isMove_of_trimVoid ho

/-- The parent leads through all moves but the last, from the same start. -/
theorem parent?_spec {p q : FilePath} (h : p.parent? = some q) :
    q.moves = p.moves.dropLast ∧ q.isAbsolute = p.isAbsolute := by
  obtain ⟨first, rest, hp, ⟨hf, hrest, rfl⟩ | ⟨kept, last, hrest, rfl, hslash, -⟩⟩ :=
    parent?_eq_some h
  · have hm : p.moves = movesOf [first] := by
      unfold moves
      rw [hp, ← List.singleton_append, movesOf_append, hrest, List.append_nil]
    refine ⟨?_, (isAbsolute_of_first hp hf).symm⟩
    rw [hm]
    by_cases hi : isMove first = true <;> simp [movesOf, hi] <;> decide
  · have hm : p.moves.dropLast = movesOf (first :: kept) := by
      unfold moves
      rw [hp, ← List.singleton_append, movesOf_append, hrest, ← List.append_assoc,
        List.dropLast_concat, ← movesOf_append, List.singleton_append]
    rw [hm]
    by_cases hf : first = ""
    · subst hf
      obtain ⟨habs, hmoves⟩ := ofParts_root kept fun part hk => hslash part (by simp [hk])
      have hne : rest ≠ [] := by rintro rfl; simp [movesOf] at hrest
      obtain ⟨part, parts, rfl⟩ := List.exists_cons_of_ne_nil hne
      exact ⟨hmoves, habs.trans ((isAbsolute_iff p).mpr ⟨_, _, hp⟩).symm⟩
    · obtain ⟨habs, hmoves⟩ := ofParts_relative hf hslash
      exact ⟨hmoves, habs.trans (isAbsolute_of_first hp hf).symm⟩

theorem isSome_parent? {p : FilePath} (h : p.moves ≠ []) : ∃ q, p.parent? = some q := by
  obtain ⟨first, rest, hp⟩ := List.exists_cons_of_ne_nil p.parts_ne_nil
  have hvoid := movesOf_trimVoid rest.reverse
  rw [List.reverse_reverse] at hvoid
  simp only [parent?, hp]
  split
  · next ht =>
    rw [ht] at hvoid
    by_cases hf : first = ""
    · refine absurd ?_ h
      unfold moves
      rw [hp, hf, ← List.singleton_append, movesOf_append, ← hvoid]
      decide
    · simp [hf]
  · simp

theorem eq_point_of_parent? {p q : FilePath} (h : p.parent? = some q)
    (hq : q.endsInPoint = true) : q = ⟨"."⟩ := by
  obtain ⟨first, rest, -, ⟨-, -, rfl⟩ | ⟨kept, last, -, rfl, hslash, hkept⟩⟩ := parent?_eq_some h
  · exact absurd hq (by decide)
  · rcases List.eq_nil_or_concat kept with rfl | ⟨init, part, rfl⟩
    · by_cases hf : first = ""
      · subst hf
        exact absurd hq (by decide)
      · simp only [endsInPoint, parts_ofParts hslash (by simp) (by simpa using hf)] at hq
        have hpoint : first = "." := by simpa [hf] using hq
        subst hpoint
        decide
    · rw [List.concat_eq_append] at *
      have hpart : part ≠ "" ∧ part ≠ "." := by
        simpa [isMove, isVoid] using hkept part (by simp)
      simp only [endsInPoint, parts_ofParts hslash (by simp) (by simp)] at hq
      simp [hpart.1, hpart.2] at hq

theorem slash_not_mem_stem {name : String} (h : '/' ∉ name.toList) : '/' ∉ (stem name).toList := by
  unfold stem
  simp only
  split
  · exact h
  · exact h
  · next c before _ hd =>
    have hsub : ∀ d ∈ before, d ∈ name.toList := by
      intro d hd'
      have hmem : d ∈ name.toList.reverse.dropWhile (· != '.') := by rw [hd]; simp [hd']
      exact List.mem_reverse.mp (List.dropWhile_subset _ hmem)
    simpa using fun hm => h (hsub '/' hm)

theorem slash_not_mem_renamed {extension name : String} (atEnd : Bool) (h : '/' ∉ name.toList)
    (he : '/' ∉ extension.toList) : '/' ∉ (renamed extension name atEnd).toList := by
  unfold renamed
  split
  · decide
  · have hs := slash_not_mem_stem h
    have hpoint : ".".toList = ['.'] := rfl
    simp [hs, he, hpoint]

theorem renamed_ne_empty (extension name : String) (atEnd : Bool) :
    renamed extension name atEnd ≠ "" := by
  unfold renamed
  split
  · decide
  · intro h
    have := congrArg String.toList h
    simp at this

theorem parts_withExtension {p : FilePath} {ps : List String} {name extension : String}
    (hp : p.parts = ps ++ [name]) (hname : isMove name = true) (hup : name ≠ "..")
    (he : '/' ∉ extension.toList) :
    (p.withExtension extension).parts = ps ++ [renamed extension name true] := by
  have hslash : ∀ part ∈ ps ++ [name], '/' ∉ part.toList :=
    fun _ hm => slash_not_mem_of_mem_parts (hp ▸ hm)
  have hrenamed := slash_not_mem_renamed true (hslash name (by simp)) he
  have hvoid : isVoid name = false := by simpa [isMove] using hname
  cases ps with
  | nil =>
    have htext : (⟨renamed extension name true⟩ : FilePath) = ofParts [renamed extension name true] := by
      simp [ofParts, renamed_ne_empty]
    simp only [withExtension, hp, List.nil_append, List.reverse_nil, trimVoid, List.dropWhile_nil, hvoid,
      Bool.false_or, beq_iff_eq, hup, if_false, List.isEmpty_nil]
    rw [htext]
    exact parts_ofParts (by simpa using hrenamed) (by simp) (by simp [renamed_ne_empty])
  | cons first mid =>
    have ht : trimVoid (mid ++ [name]).reverse = name :: mid.reverse := by
      simp [trimVoid, hvoid]
    simp only [withExtension, hp, List.cons_append, ht, beq_iff_eq, hup, if_false,
      List.getLast?_append, List.getLast?_singleton, Option.some_or, List.reverse_cons,
      List.reverse_reverse]
    have hrest : ∀ part ∈ first :: (mid ++ [renamed extension name true]), '/' ∉ part.toList := by
      intro part hpart
      rcases List.mem_append.mp (List.cons_append ▸ hpart) with hm | hm
      · exact hslash part (List.mem_append_left _ hm)
      · rw [List.mem_singleton.mp hm]
        exact hrenamed
    simpa using parts_ofParts hrest (by simp) (by simp)

/-- A path whose last part can be the name of a file. -/
def NamesFile (p : FilePath) : Prop :=
  ∃ ps name, p.parts = ps ++ [name] ∧ isMove name = true ∧ name ≠ ".."

def temporary (p : FilePath) : FilePath := p.withExtension "tmp"

theorem NamesFile.moves_ne_nil {p : FilePath} (h : p.NamesFile) : p.moves ≠ [] := by
  obtain ⟨ps, name, hp, hname, -⟩ := h
  rw [moves, hp, movesOf_snoc hname]
  simp

theorem NamesFile.endsInFolder {p : FilePath} (h : p.NamesFile) : p.endsInFolder = false := by
  obtain ⟨ps, name, hp, hname, hup⟩ := h
  simp only [isMove, Bool.not_eq_true'] at hname
  simp [FilePath.endsInFolder, hp, hname, hup]

theorem isMove_renamed (name : String) (atEnd : Bool) : isMove (renamed "tmp" name atEnd) = true := by
  have hpoint : renamed "tmp" name atEnd ≠ "." := by
    unfold renamed
    split
    · decide
    · intro h
      have := congrArg (fun s => s.toList.getLast?) h
      have htmp : "tmp".toList = ['t', 'm', 'p'] := rfl
      simp [htmp] at this
  simp [isMove, isVoid, renamed_ne_empty, hpoint]

theorem NamesFile.temporary {p : FilePath} (h : p.NamesFile) :
    p.temporary.moves ≠ [] ∧ p.temporary.moves.dropLast = p.moves.dropLast ∧
      p.temporary.isAbsolute = p.isAbsolute := by
  obtain ⟨ps, name, hp, hname, hup⟩ := h
  have ht : (p.withExtension "tmp").parts = ps ++ [renamed "tmp" name true] :=
    parts_withExtension hp hname hup (by decide)
  refine ⟨?_, ?_, ?_⟩
  · simp [FilePath.temporary, moves, ht, movesOf_snoc (isMove_renamed name true)]
  · simp [FilePath.temporary, moves, ht, hp, movesOf_snoc hname, movesOf_snoc (isMove_renamed name true)]
  · cases ps with
    | nil =>
      have hsingle : ∀ (q : FilePath) (part : String), q.parts = [part] → q.isAbsolute = false := by
        intro q part hq
        rw [← Bool.not_eq_true, isAbsolute_iff, hq]
        simp
      rw [FilePath.temporary, hsingle _ _ ht, hsingle _ _ hp]
    | cons first mid => exact isAbsolute_of_parts ht hp (by simp) (by simp)

def IsScript (p : FilePath) : Prop := ∃ ps name, p.parts = ps ++ [name ++ ".ts"]

def temporaryName (name : String) : String :=
  if name = "" then ".ts.tmp" else if name = "." then ".." else name ++ ".tmp"

theorem isMove_script (name : String) : isMove (name ++ ".ts") = true := by
  have h : ".ts".toList = ['.', 't', 's'] := rfl
  have hne : name ++ ".ts" ≠ "" := by simp
  have hpoint : name ++ ".ts" ≠ "." := by
    intro he
    have := congrArg (fun s => s.toList.getLast?) he
    simp [h] at this
  simp [isMove, isVoid, hne, hpoint]

theorem script_ne_up (name : String) : name ++ ".ts" ≠ ".." := by
  have h : ".ts".toList = ['.', 't', 's'] := rfl
  intro he
  have := congrArg (fun s => s.toList.getLast?) he
  simp [h] at this

theorem renamed_script (name : String) : renamed "tmp" (name ++ ".ts") true = temporaryName name := by
  have h : ".ts".toList = ['.', 't', 's'] := rfl
  have hs : stem (name ++ ".ts") = if name = "" then ".ts" else name := by
    unfold stem
    simp only [String.toList_append, h, List.reverse_append, List.reverse_cons, List.reverse_nil]
    by_cases hn : name = ""
    · subst hn
      decide
    · have hne : name.toList.reverse ≠ [] := by simpa using hn
      obtain ⟨c, cs, hc⟩ := List.exists_cons_of_ne_nil hne
      have hback : name = String.ofList (c :: cs).reverse := by rw [← hc]; simp
      simp [hback]
  unfold renamed temporaryName
  rw [hs]
  by_cases hn : name = ""
  · subst hn
    decide
  · by_cases hpoint : name = "."
    · simp [hpoint]
    · simp only [hn, hpoint, if_false, beq_iff_eq, Bool.true_and]
      rw [String.append_assoc]
      rfl

theorem IsScript.namesFile {p : FilePath} (h : p.IsScript) : p.NamesFile := by
  obtain ⟨ps, name, hp⟩ := h
  exact ⟨ps, name ++ ".ts", hp, isMove_script name, script_ne_up name⟩

theorem IsScript.join (base : FilePath) {p : FilePath} (h : p.IsScript) : (base.join p).IsScript := by
  by_cases ha : p.isAbsolute = true
  · rwa [join_of_isAbsolute base ha]
  · obtain ⟨ps, name, hp⟩ := h
    obtain ⟨qs, hq, -⟩ := base.parts_join (Bool.not_eq_true _ ▸ ha)
    exact ⟨qs ++ ps, name, by rw [hq, hp, List.append_assoc]⟩

theorem isScript_mk (name : String) : IsScript ⟨name ++ ".ts"⟩ := by
  obtain ⟨ps, piece, hp⟩ : ∃ ps piece, Text.pieces (· == '/') name.toList = ps ++ [piece] :=
    ⟨_, _, (List.dropLast_concat_getLast (Text.pieces_ne_nil _ _)).symm⟩
  have hslash : '/' ∉ ".ts".toList := by decide
  have happend := Text.pieces_append_of_not_mem hp hslash
  refine ⟨ps.map String.ofList, String.ofList piece, ?_⟩
  rw [parts, String.toList_append, happend]
  simp

end FilePath

end ApiSamples
