import ApiSamples.Proofs.Text.Casing
import Mathlib.Data.List.Basic

namespace ApiSamples.Text

def IsAscii (cs : List Char) : Prop := ∀ c ∈ cs, c.toNat < 128

/-- The letters and digits of a text, whatever their case. -/
def signs (cs : List Char) : List Char := (cs.filter Char.isAlphanum).map Char.toLower

/-- The words of a name joined, with a capital each. An identifier stays as it is. -/
def humps (cs : List Char) : List Char :=
  if isIdentifierLike cs then cs else (words cs).flatMap capitalize

def BeginsIdentifier (hasCase : Char → Bool) (s : String) : Prop :=
  ∃ c cs, s.toList = c :: cs ∧ hasCase c = true ∧ ∀ d ∈ cs, d.isAlphanum = true ∨ d = '$'

@[simp] theorem signs_append (xs ys : List Char) : signs (xs ++ ys) = signs xs ++ signs ys := by
  simp [signs]

theorem signs_cons (c : Char) (cs : List Char) : signs (c :: cs) = signs [c] ++ signs cs := by
  rw [← signs_append, List.singleton_append]

theorem signs_flatMap {α : Type} (f : α → List Char) (xs : List α) :
    signs (xs.flatMap f) = xs.flatMap fun x => signs (f x) := by
  simp only [signs, List.filter_flatMap, List.map_flatMap]

variable {c : Char} {cs : List Char}

theorem isAscii_of_isIdentifierLike (h : isIdentifierLike cs = true) : IsAscii cs :=
  fun c hc => (isNamePart_of_isIdentifierLike h c hc).2

/-- A change of case that keeps which letter or digit a character is. -/
structure Recases (f : Char → Char) : Prop where
  alphanum : ∀ c, c.toNat < 128 → (f c).isAlphanum = c.isAlphanum
  dollar : ∀ c, c.toNat < 128 → (f c = '$' ↔ c = '$')
  lower : ∀ c, c.toNat < 128 → (f c).toLower = c.toLower
  upper : ∀ c, c.toNat < 128 → (f c).toUpper = c.toUpper

theorem recases_toLower : Recases Char.toLower where
  alphanum _ := of_ascii (p := fun c => c.toLower.isAlphanum = c.isAlphanum) (by decide)
  dollar _ := of_ascii (p := fun c => c.toLower = '$' ↔ c = '$') (by decide)
  lower _ := of_ascii (p := fun c => c.toLower.toLower = c.toLower) (by decide)
  upper _ := of_ascii (p := fun c => c.toLower.toUpper = c.toUpper) (by decide)

theorem recases_toUpper : Recases Char.toUpper where
  alphanum _ := of_ascii (p := fun c => c.toUpper.isAlphanum = c.isAlphanum) (by decide)
  dollar _ := of_ascii (p := fun c => c.toUpper = '$' ↔ c = '$') (by decide)
  lower _ := of_ascii (p := fun c => c.toUpper.toLower = c.toLower) (by decide)
  upper _ := of_ascii (p := fun c => c.toUpper.toUpper = c.toUpper) (by decide)

theorem isLower_toLower_iff {c : Char} (h : c.toNat < 128) : c.toLower.isLower = c.isAlpha :=
  of_ascii (p := fun c => c.toLower.isLower = c.isAlpha) (by decide) h

theorem isUpper_toUpper_iff {c : Char} (h : c.toNat < 128) : c.toUpper.isUpper = c.isAlpha :=
  of_ascii (p := fun c => c.toUpper.isUpper = c.isAlpha) (by decide) h

section

variable {f : Char → Char} (hf : Recases f)

include hf

theorem signs_singleton (h : c.toNat < 128) : signs [f c] = signs [c] := by
  simp only [signs, List.filter_singleton, hf.alphanum c h]
  cases c.isAlphanum with
  | true => simp [hf.lower c h]
  | false => rfl

theorem signs_modifyHead (h : IsAscii cs) : signs (cs.modifyHead f) = signs cs := by
  cases cs with
  | nil => rfl
  | cons c cs =>
    rw [List.modifyHead_cons, signs_cons, signs_singleton hf (h c List.mem_cons_self), ← signs_cons]

theorem signs_map (h : IsAscii cs) : signs (cs.map f) = signs cs := by
  induction cs with
  | nil => rfl
  | cons c cs ih =>
    obtain ⟨hc, hcs⟩ := List.forall_mem_cons.mp h
    rw [List.map_cons, signs_cons, signs_singleton hf hc, ih hcs, ← signs_cons]

theorem isIdentifierLike_modifyHead (h : IsAscii cs) :
    isIdentifierLike (cs.modifyHead f) = isIdentifierLike cs := by
  cases cs with
  | nil => rfl
  | cons c cs =>
    have hc := h c List.mem_cons_self
    have hdollar : (f c == '$') = (c == '$') := by
      rw [Bool.eq_iff_iff, beq_iff_eq, beq_iff_eq, hf.dollar c hc]
    rw [isIdentifierLike, isIdentifierLike, List.modifyHead_cons, List.all_cons, List.all_cons,
      hf.alphanum c hc, hdollar]

end

theorem flatten_pieces (isSeparator : Char → Bool) (cs : List Char) :
    (pieces isSeparator cs).flatten = cs.filter fun c => !isSeparator c := by
  induction cs with
  | nil => rfl
  | cons c cs ih =>
    obtain ⟨p, ps, hp⟩ := List.exists_cons_of_ne_nil (pieces_ne_nil isSeparator cs)
    rw [hp] at ih
    rw [pieces, hp, List.filter_cons]
    cases isSeparator c with
    | true => simpa using ih
    | false => simpa using ih

/-- The words of a name hold its letters and digits, in order. -/
theorem flatten_words (cs : List Char) : (words cs).flatten = cs.filter isAlphanumeric := by
  have hpieces := flatten_pieces (!isAlphanumeric ·) cs
  simp only [Bool.not_not] at hpieces
  rw [← hpieces, words]
  generalize pieces (!isAlphanumeric ·) cs = ps
  induction ps with
  | nil => rfl
  | cons piece ps ih =>
    cases piece with
    | nil => exact ih
    | cons c piece =>
      rw [List.filter_cons_of_pos (by simp), List.flatMap_cons, List.flatten_append, flatten_wordsFrom, ih,
        List.flatten_cons, List.nil_append]

theorem ne_nil_of_mem_wordsFrom {case : Case} {word : List Char} (hcase : case = .upper → word ≠ [])
    (h : word ≠ [] ∨ cs ≠ []) : ∀ w ∈ wordsFrom case word cs, w ≠ [] := by
  fun_induction wordsFrom case word cs with
  | case1 => simpa using h
  | case2 => simp
  | case3 case word c d cs _ ih =>
    exact List.forall_mem_cons.mpr ⟨by simp, ih (by simp) (.inr (by simp))⟩
  | case4 case word c d cs _ hend ih =>
    exact List.forall_mem_cons.mpr ⟨hcase hend.1, ih (by simp) (.inl (by simp))⟩
  | case5 case word c d cs _ _ ih => exact ih (by simp) (.inl (by simp))

theorem ne_nil_of_mem_words {w : List Char} (h : w ∈ words cs) : w ≠ [] := by
  obtain ⟨piece, hpiece, hw⟩ := List.mem_flatMap.mp h
  have hfull : piece ≠ [] := by simpa using (List.mem_filter.mp hpiece).2
  exact ne_nil_of_mem_wordsFrom (by simp) (.inr hfull) w hw

section

variable {w : List Char}

theorem isAlphanum_of_mem_words (h : IsAscii cs) (hw : w ∈ words cs) :
    ∀ c ∈ w, c.toNat < 128 ∧ c.isAlphanum = true := by
  intro c hc
  have hmem : c ∈ cs.filter isAlphanumeric := by
    rw [← flatten_words]
    exact List.mem_flatten.mpr ⟨w, hw, hc⟩
  obtain ⟨hmem, halnum⟩ := List.mem_filter.mp hmem
  have hascii := h c hmem
  rw [isAlphanumeric, if_pos hascii] at halnum
  exact ⟨hascii, halnum⟩

theorem lowerWord_of_ascii (h : IsAscii w) : lowerWord w = w.map Char.toLower := by
  fun_induction lowerWord w with
  | case1 => rfl
  | case2 =>
    have hsigma := h _ List.mem_cons_self
    revert hsigma
    decide
  | case3 c _ => exact if_pos (h c List.mem_cons_self)
  | case4 c cs _ ih =>
    obtain ⟨hc, hcs⟩ := List.forall_mem_cons.mp h
    rw [ih hcs, lower, if_pos hc]
    rfl

theorem capitalize_of_ascii (h : IsAscii w) :
    capitalize w = (w.map Char.toLower).modifyHead Char.toUpper := by
  cases w with
  | nil => rfl
  | cons c cs =>
    obtain ⟨hc, hcs⟩ := List.forall_mem_cons.mp h
    rw [capitalize, lowerWord_of_ascii hcs, upper, if_pos hc, List.map_cons, List.modifyHead_cons,
      recases_toLower.upper c hc]
    rfl

theorem isAlphanum_of_mem_capitalize (h : ∀ c ∈ w, c.toNat < 128 ∧ c.isAlphanum = true) :
    ∀ d ∈ capitalize w, d.isAlphanum = true := by
  rw [capitalize_of_ascii fun c hc => (h c hc).1]
  cases w with
  | nil => simp
  | cons c cs =>
    obtain ⟨⟨hc, halnum⟩, hcs⟩ := List.forall_mem_cons.mp h
    rw [List.map_cons, List.modifyHead_cons, recases_toLower.upper c hc]
    refine List.forall_mem_cons.mpr ⟨(recases_toUpper.alphanum c hc).trans halnum, ?_⟩
    intro d hd
    obtain ⟨e, he, rfl⟩ := List.mem_map.mp hd
    exact (recases_toLower.alphanum e (hcs e he).1).trans (hcs e he).2

theorem signs_capitalize (h : IsAscii w) : signs (capitalize w) = signs w := by
  have hlower : IsAscii (w.map Char.toLower) := by
    intro d hd
    obtain ⟨c, hc, rfl⟩ := List.mem_map.mp hd
    exact of_ascii (p := fun c => c.toLower.toNat < 128) (by decide) (h c hc)
  rw [capitalize_of_ascii h, signs_modifyHead recases_toUpper hlower, signs_map recases_toLower h]

end

theorem humps_of_isIdentifierLike (h : isIdentifierLike cs = true) : humps cs = cs := if_pos h

theorem isAlphanum_of_mem_humps (h : IsAscii cs) (hcs : ¬ isIdentifierLike cs = true) :
    ∀ c ∈ humps cs, c.isAlphanum = true := by
  intro c hc
  rw [humps, if_neg hcs] at hc
  obtain ⟨w, hw, hc⟩ := List.mem_flatMap.mp hc
  exact isAlphanum_of_mem_capitalize (isAlphanum_of_mem_words h hw) c hc

theorem isIdentifierLike_humps (h : IsAscii cs) : isIdentifierLike (humps cs) = true := by
  by_cases hcs : isIdentifierLike cs = true
  · rwa [humps_of_isIdentifierLike hcs]
  · refine List.all_eq_true.mpr fun c hc => ?_
    rw [isAlphanum_of_mem_humps h hcs c hc, Bool.true_or]

theorem signs_humps (h : IsAscii cs) : signs (humps cs) = signs cs := by
  by_cases hcs : isIdentifierLike cs = true
  · rw [humps_of_isIdentifierLike hcs]
  · have hword : ∀ w ∈ words cs, signs (capitalize w) = signs w :=
      fun w hw => signs_capitalize fun c hc => (isAlphanum_of_mem_words h hw c hc).1
    have hplain : cs.filter isAlphanumeric = cs.filter Char.isAlphanum :=
      List.filter_congr fun c hc => if_pos (h c hc)
    calc signs (humps cs) = (words cs).flatMap fun w => signs (capitalize w) := by
          rw [humps, if_neg hcs, signs_flatMap]
      _ = (words cs).flatMap signs := List.flatMap_congr hword
      _ = signs (words cs).flatten := by rw [← List.flatMap_id, signs_flatMap]; rfl
      _ = signs cs := by rw [flatten_words, hplain, signs, List.filter_filter]; simp only [Bool.and_self, signs]

/-- Joined words begin with the character that the name begins with, but for its case. -/
theorem exists_humps_cons {c : Char} (h : IsAscii (c :: cs)) (hc : c.isAlphanum = true) :
    ∃ d ds, humps (c :: cs) = d :: ds ∧ d.toLower = c.toLower := by
  by_cases hcs : isIdentifierLike (c :: cs) = true
  · exact ⟨c, cs, humps_of_isIdentifierLike hcs, rfl⟩
  · have hsigns := signs_humps h
    rw [signs, List.filter_eq_self.mpr (isAlphanum_of_mem_humps h hcs), signs,
      List.filter_cons_of_pos hc, List.map_cons] at hsigns
    obtain ⟨d, ds, hhumps, hd, -⟩ := List.map_eq_cons_iff.mp hsigns
    exact ⟨d, ds, hhumps, hd⟩

theorem pascalChars_eq (h : IsAscii cs) : pascalChars cs = (humps cs).modifyHead Char.toUpper := by
  unfold pascalChars humps
  split
  · cases cs <;> rfl
  · cases hwords : words cs with
    | nil => rfl
    | cons w ws =>
      have hw : w ∈ words cs := hwords ▸ List.mem_cons_self
      obtain ⟨c, rest, rfl⟩ := List.exists_cons_of_ne_nil (ne_nil_of_mem_words hw)
      have hc := (isAlphanum_of_mem_words h hw c List.mem_cons_self).1
      rw [List.flatMap_cons, capitalize, upper, if_pos hc]
      simp [recases_toUpper.upper c hc]

theorem camelChars_eq (h : IsAscii cs) : camelChars cs = (humps cs).modifyHead Char.toLower := by
  unfold camelChars humps
  split
  · cases cs <;> rfl
  · cases hwords : words cs with
    | nil => rfl
    | cons w ws =>
      have hw : w ∈ words cs := hwords ▸ List.mem_cons_self
      have hascii : IsAscii w := fun c hc => (isAlphanum_of_mem_words h hw c hc).1
      obtain ⟨c, rest, rfl⟩ := List.exists_cons_of_ne_nil (ne_nil_of_mem_words hw)
      obtain ⟨hc, hrest⟩ := List.forall_mem_cons.mp hascii
      -- the first word has no capital, and the capital that it gets in `humps` is taken back
      rw [camelWords, lowerWord_of_ascii hascii, List.flatMap_cons, capitalize, lowerWord_of_ascii hrest,
        upper, if_pos hc]
      simp [recases_toUpper.lower c hc]

theorem modifyHead_recased {f g : Char → Char} (hfg : ∀ c, c.toNat < 128 → g (f c) = g c)
    (h : IsAscii cs) : (cs.modifyHead f).modifyHead g = cs.modifyHead g := by
  cases cs with
  | nil => rfl
  | cons c cs => simp [hfg c (h c List.mem_cons_self)]

section

variable {f : Char → Char} (hf : Recases f)

include hf

theorem isIdentifierLike_recased (h : IsAscii cs) :
    isIdentifierLike ((humps cs).modifyHead f) = true := by
  have hlike := isIdentifierLike_humps h
  rwa [isIdentifierLike_modifyHead hf (isAscii_of_isIdentifierLike hlike)]

/-- The case that the first character has come to does not matter when a name is cased again. -/
theorem camelChars_recased (h : IsAscii cs) : camelChars ((humps cs).modifyHead f) = camelChars cs := by
  have hlike := isIdentifierLike_recased hf h
  rw [camelChars_eq (isAscii_of_isIdentifierLike hlike), humps_of_isIdentifierLike hlike, camelChars_eq h]
  exact modifyHead_recased hf.lower (isAscii_of_isIdentifierLike (isIdentifierLike_humps h))

theorem pascalChars_recased (h : IsAscii cs) : pascalChars ((humps cs).modifyHead f) = pascalChars cs := by
  have hlike := isIdentifierLike_recased hf h
  rw [pascalChars_eq (isAscii_of_isIdentifierLike hlike), humps_of_isIdentifierLike hlike, pascalChars_eq h]
  exact modifyHead_recased hf.upper (isAscii_of_isIdentifierLike (isIdentifierLike_humps h))

theorem signs_recased (h : IsAscii cs) : signs ((humps cs).modifyHead f) = signs cs := by
  have hascii := isAscii_of_isIdentifierLike (isIdentifierLike_humps h)
  rw [signs_modifyHead hf hascii, signs_humps h]

end

theorem humps_begins {c : Char} (h : IsAscii (c :: cs)) (hc : c.isAlpha = true) :
    ∃ d ds, humps (c :: cs) = d :: ds ∧ d.toLower.isLower = true ∧ d.toUpper.isUpper = true ∧
      ∀ e ∈ ds, e.isAlphanum = true ∨ e = '$' := by
  have halnum : c.isAlphanum = true := by rw [Char.isAlphanum, hc, Bool.true_or]
  obtain ⟨d, ds, hhumps, hd⟩ := exists_humps_cons h halnum
  have hlike := isIdentifierLike_humps h
  rw [hhumps] at hlike
  have hletter : d.toLower.isLower = true := by
    rw [hd, isLower_toLower_iff (h c List.mem_cons_self), hc]
  have hascii : d.toNat < 128 := isAscii_of_isIdentifierLike hlike d List.mem_cons_self
  refine ⟨d, ds, hhumps, hletter, ?_, fun e he => ?_⟩
  · rwa [isUpper_toUpper_iff hascii, ← isLower_toLower_iff hascii]
  · simpa using List.all_eq_true.mp hlike e (List.mem_cons_of_mem d he)

/-- Casing a name of ASCII characters loses none of its letters and digits, and of a name that begins with a
letter it makes an identifier. A cased name that is cased again is the name in the case asked for last. -/
theorem casing_laws (s : String) (h : IsAscii s.toList) :
    signs (camel s).toList = signs s.toList ∧ signs (pascal s).toList = signs s.toList ∧
    (∀ c cs, s.toList = c :: cs → c.isAlpha = true →
      BeginsIdentifier Char.isLower (camel s) ∧ BeginsIdentifier Char.isUpper (pascal s)) ∧
    camel (camel s) = camel s ∧ pascal (pascal s) = pascal s ∧
    camel (pascal s) = camel s ∧ pascal (camel s) = pascal s := by
  simp only [← String.toList_inj, BeginsIdentifier, toList_camel, toList_pascal]
  generalize s.toList = name at h
  have hcamel := camelChars_eq h
  have hpascal := pascalChars_eq h
  refine ⟨?_, ?_, ?_, ?_, ?_, ?_, ?_⟩
  · rw [hcamel, signs_recased recases_toLower h]
  · rw [hpascal, signs_recased recases_toUpper h]
  · rintro c cs rfl hc
    obtain ⟨d, ds, hhumps, hlower, hupper, hrest⟩ := humps_begins h hc
    rw [hcamel, hpascal, hhumps]
    exact ⟨⟨_, _, rfl, hlower, hrest⟩, _, _, rfl, hupper, hrest⟩
  · exact hcamel ▸ camelChars_recased recases_toLower h
  · exact hpascal ▸ pascalChars_recased recases_toUpper h
  · exact hpascal ▸ camelChars_recased recases_toUpper h
  · exact hcamel ▸ pascalChars_recased recases_toLower h

theorem casing_laws_request : IsAscii "XMLHttp_request$2-ID".toList ∧
    camel "XMLHttp_request$2-ID" = "xmlHttpRequest2Id" ∧ pascal "xmlHttpRequest2Id" = "XmlHttpRequest2Id" ∧
    signs "xmlHttpRequest2Id".toList = signs "XMLHttp_request$2-ID".toList ∧
    BeginsIdentifier Char.isLower "xmlHttpRequest2Id" ∧ camel "xmlHttpRequest2Id" = "xmlHttpRequest2Id" := by
  have hascii : IsAscii "XMLHttp_request$2-ID".toList := by simp [IsAscii]
  have hcamel : camel "XMLHttp_request$2-ID" = "xmlHttpRequest2Id" := by decide +kernel
  have hpascal : pascal "XMLHttp_request$2-ID" = "XmlHttpRequest2Id" := by decide +kernel
  have hlaws := casing_laws "XMLHttp_request$2-ID" hascii
  rw [hcamel, hpascal] at hlaws
  obtain ⟨hsigns, -, hidentifier, hagain, -, -, hother⟩ := hlaws
  exact ⟨hascii, hcamel, hother, hsigns, (hidentifier 'X' _ rfl (by decide)).1, hagain⟩

end ApiSamples.Text
