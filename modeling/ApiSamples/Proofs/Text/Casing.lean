import ApiSamples.Proofs.Text.Basic
import ApiSamples.Text.Casing

namespace ApiSamples.Text

def isNamePart (c : Char) : Bool := c.isAlphanum || c == '$' || 128 ≤ c.toNat

theorem isNamePart_of_le {c : Char} (h : 128 ≤ c.toNat) : isNamePart c = true := by
  simp [isNamePart, h]

theorem isNamePart_of_isAlphanumeric {c : Char} (h : isAlphanumeric c = true) : isNamePart c = true := by
  unfold isAlphanumeric at h
  split at h
  · simp [isNamePart, h]
  · exact isNamePart_of_le (by omega)

/-- The whole run is shifted to characters beyond ASCII, or its only character to a part of names. -/
def leadsToNames (entry : Run × Int) : Bool :=
  (128 ≤ entry.1.first + entry.2 &&
    (entry.1.last + entry.2 < 0xD800 ||
      (0xE000 ≤ entry.1.first + entry.2 && entry.1.last + entry.2 < 0x110000))) ||
  (entry.1.first == entry.1.last && isNamePart (Char.ofNat (entry.1.first + entry.2).toNat))

theorem leadsToNames_lowerRuns : ∀ entry ∈ lowerRuns, leadsToNames entry = true := by decide +kernel

theorem leadsToNames_upperRuns : ∀ entry ∈ upperRuns, leadsToNames entry = true := by decide +kernel

theorem isNamePart_upperExpansions :
    ∀ entry ∈ upperExpansions, ∀ code ∈ entry.2, isNamePart (Char.ofNat code) = true := by
  decide +kernel

theorem toNat_ofNat_of_isValidChar {n : Nat} (h : n.isValidChar) : (Char.ofNat n).toNat = n := by
  rw [Char.ofNat, dif_pos h]
  rfl

theorem isNamePart_shift {entry : Run × Int} (h : leadsToNames entry = true) {n : Nat}
    (hn : entry.1.contains n = true) : isNamePart (Char.ofNat (n + entry.2).toNat) = true := by
  simp only [Run.contains, Bool.and_eq_true, decide_eq_true_eq] at hn
  obtain ⟨⟨hfirst, hlast⟩, -⟩ := hn
  simp only [leadsToNames, Bool.or_eq_true, Bool.and_eq_true, decide_eq_true_eq, beq_iff_eq] at h
  rcases h with ⟨hbeyond, hrange⟩ | ⟨hsingle, hpart⟩
  · have hvalid : ((n : Int) + entry.2).toNat.isValidChar := by
      simp only [Nat.isValidChar]
      omega
    apply isNamePart_of_le
    rw [toNat_ofNat_of_isValidChar hvalid]
    omega
  · have honly : n = entry.1.first := by omega
    rwa [honly]

theorem isNamePart_shifted {runs : List (Run × Int)} (h : ∀ entry ∈ runs, leadsToNames entry = true)
    {c : Char} (hc : isNamePart c = true) : isNamePart (shifted runs c) = true := by
  unfold shifted
  split
  · next entry hfind =>
    have hrun := h _ (List.mem_of_find?_eq_some hfind)
    have hcontains := List.find?_some hfind
    exact isNamePart_shift hrun hcontains
  · exact hc

theorem isNamePart_upper {c d : Char} (hc : isNamePart c = true) (hd : d ∈ upper c) :
    isNamePart d = true := by
  unfold upper at hd
  split at hd
  · next hascii =>
    rw [List.mem_singleton] at hd
    subst hd
    revert hc
    exact of_ascii (p := fun c => isNamePart c = true → isNamePart c.toUpper = true) (by decide) hascii
  · split at hd
    · next entry hfind =>
      obtain ⟨code, hcode, rfl⟩ := List.mem_map.mp hd
      exact isNamePart_upperExpansions _ (List.mem_of_find?_eq_some hfind) code hcode
    · rw [List.mem_singleton.mp hd]
      exact isNamePart_shifted leadsToNames_upperRuns hc

theorem isNamePart_lower {c d : Char} (hc : isNamePart c = true) (hd : d ∈ lower c) :
    isNamePart d = true := by
  unfold lower at hd
  split at hd
  · next hascii =>
    rw [List.mem_singleton] at hd
    subst hd
    revert hc
    exact of_ascii (p := fun c => isNamePart c = true → isNamePart c.toLower = true) (by decide) hascii
  · split at hd
    · rcases List.mem_cons.mp hd with rfl | hd
      · decide
      · rw [List.mem_singleton.mp hd]
        decide
    · rw [List.mem_singleton.mp hd]
      exact isNamePart_shifted leadsToNames_lowerRuns hc

theorem isNamePart_lowerWord {word : List Char} (h : ∀ c ∈ word, isNamePart c = true) {d : Char}
    (hd : d ∈ lowerWord word) : isNamePart d = true := by
  fun_induction lowerWord word with
  | case1 => cases hd
  | case2 =>
    rw [List.mem_singleton.mp hd]
    decide
  | case3 c => exact isNamePart_lower (h c (by simp)) hd
  | case4 c cs _ ih =>
    rcases List.mem_append.mp hd with hd | hd
    · exact isNamePart_lower (h c (by simp)) hd
    · exact ih (fun e he => h e (List.mem_cons_of_mem _ he)) hd

theorem isNamePart_capitalize {word : List Char} (h : ∀ c ∈ word, isNamePart c = true) {d : Char}
    (hd : d ∈ capitalize word) : isNamePart d = true := by
  cases word with
  | nil => cases hd
  | cons c cs =>
    rcases List.mem_append.mp hd with hd | hd
    · exact isNamePart_upper (h c (by simp)) hd
    · exact isNamePart_lowerWord (fun e he => h e (List.mem_cons_of_mem _ he)) hd

theorem flatten_wordsFrom (case : Case) (word cs : List Char) :
    (wordsFrom case word cs).flatten = word ++ cs := by
  fun_induction wordsFrom case word cs <;> simp_all

theorem isNamePart_of_mem_words {cs word : List Char} (hw : word ∈ words cs) :
    ∀ c ∈ word, isNamePart c = true := by
  intro c hc
  obtain ⟨piece, hpiece, hword⟩ := List.mem_flatMap.mp hw
  have hmem : c ∈ piece := by
    have hflat : c ∈ (wordsFrom .none [] piece).flatten := List.mem_flatten.mpr ⟨word, hword, hc⟩
    rwa [flatten_wordsFrom, List.nil_append] at hflat
  have hsep := (of_mem_pieces (List.mem_filter.mp hpiece).1 hmem).2
  exact isNamePart_of_isAlphanumeric (by simpa using hsep)

theorem isNamePart_of_isIdentifierLike {cs : List Char} (h : isIdentifierLike cs = true) :
    ∀ c ∈ cs, isNamePart c = true ∧ c.toNat < 128 := by
  intro c hc
  have hchar := List.all_eq_true.mp h c hc
  rw [Bool.or_eq_true, beq_iff_eq] at hchar
  rcases hchar with halnum | rfl
  · have hascii := (graphic_of_isAlphanum halnum).2
    exact ⟨by simp [isNamePart, halnum], by omega⟩
  · decide

theorem isNamePart_of_mem_camelChars {cs : List Char} {c : Char} (h : c ∈ camelChars cs) :
    isNamePart c = true := by
  unfold camelChars at h
  split at h
  · next hlike =>
    have hall := isNamePart_of_isIdentifierLike hlike
    cases cs with
    | nil => cases h
    | cons first cs =>
      obtain ⟨hfirst, hrest⟩ := List.forall_mem_cons.mp hall
      rcases List.mem_cons.mp h with rfl | hc
      · refine isNamePart_lower hfirst.1 ?_
        simp [lower, hfirst.2]
      · exact (hrest c hc).1
  · have hall : ∀ word ∈ words cs, ∀ c ∈ word, isNamePart c = true :=
      fun word hw => isNamePart_of_mem_words hw
    generalize words cs = ws at h hall
    cases ws with
    | nil => cases h
    | cons word ws =>
      obtain ⟨hword, hws⟩ := List.forall_mem_cons.mp hall
      rcases List.mem_append.mp h with hc | hc
      · exact isNamePart_lowerWord hword hc
      · obtain ⟨other, ho, hc⟩ := List.mem_flatMap.mp hc
        exact isNamePart_capitalize (hws other ho) hc

theorem isNamePart_of_mem_pascalChars {cs : List Char} {c : Char} (h : c ∈ pascalChars cs) :
    isNamePart c = true := by
  unfold pascalChars at h
  split at h
  · next hlike =>
    have hall := isNamePart_of_isIdentifierLike hlike
    cases cs with
    | nil => cases h
    | cons first cs =>
      obtain ⟨hfirst, hrest⟩ := List.forall_mem_cons.mp hall
      rcases List.mem_cons.mp h with rfl | hc
      · refine isNamePart_upper hfirst.1 ?_
        simp [upper, hfirst.2]
      · exact (hrest c hc).1
  · obtain ⟨word, hw, hc⟩ := List.mem_flatMap.mp h
    exact isNamePart_capitalize (isNamePart_of_mem_words hw) hc

end ApiSamples.Text
