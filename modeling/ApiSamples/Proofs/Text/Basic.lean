import ApiSamples.Text.Basic

namespace ApiSamples

theorem graphic_of_isDigit {c : Char} (h : c.isDigit = true) : 33 ≤ c.toNat ∧ c.toNat ≤ 126 := by
  obtain ⟨hl, hu⟩ := Char.isDigit_iff_toNat.mp h
  have hl : 48 ≤ c.toNat := hl
  have hu : c.toNat ≤ 57 := hu
  omega

theorem graphic_of_isAlphanum {c : Char} (h : c.isAlphanum = true) : 33 ≤ c.toNat ∧ c.toNat ≤ 126 := by
  rcases Bool.or_eq_true_iff.mp h with halpha | hdigit
  · rcases Bool.or_eq_true_iff.mp halpha with hupper | hlower
    · obtain ⟨hl, hu⟩ := of_decide_eq_true hupper
      have hl : 65 ≤ c.toNat := UInt32.le_iff_toNat_le.mp hl
      have hu : c.toNat ≤ 90 := UInt32.le_iff_toNat_le.mp hu
      omega
    · obtain ⟨hl, hu⟩ := Bool.and_eq_true_iff.mp hlower
      have hl : 97 ≤ c.toNat := UInt32.le_iff_toNat_le.mp (of_decide_eq_true hl)
      have hu : c.toNat ≤ 122 := UInt32.le_iff_toNat_le.mp (of_decide_eq_true hu)
      omega
  · exact graphic_of_isDigit hdigit

theorem of_ascii {p : Char → Prop} (h : ∀ n < 128, p (Char.ofNat n)) {c : Char} (hc : c.toNat < 128) :
    p c := by
  have hn := h c.toNat hc
  rwa [Char.ofNat_toNat] at hn

end ApiSamples

namespace ApiSamples.Text

theorem pieces_eq_splitOnP (isSeparator : Char → Bool) (cs : List Char) :
    pieces isSeparator cs = cs.splitOnP isSeparator := by
  induction cs with
  | nil => rfl
  | cons c cs ih =>
    obtain ⟨p, ps, hp⟩ := List.exists_cons_of_ne_nil (pieces_ne_nil isSeparator cs)
    rw [List.splitOnP_cons_eq_if_modifyHead, ← ih]
    simp only [pieces, hp]
    rfl

theorem pieces_append_cons (xs ys : List Char) (separator : Char) :
    pieces (· == separator) (xs ++ separator :: ys) =
      pieces (· == separator) xs ++ pieces (· == separator) ys := by
  simp only [pieces_eq_splitOnP]
  exact List.splitOnP_append_cons xs ys (by simp)

theorem pieces_intercalate {separator : Char} {ps : List (List Char)}
    (h : ∀ p ∈ ps, separator ∉ p) (hne : ps ≠ []) :
    pieces (· == separator) ([separator].intercalate ps) = ps := by
  rw [pieces_eq_splitOnP]
  exact List.splitOn_intercalate separator h hne

/-- The characters of the pieces are the other characters of the text. -/
theorem of_mem_pieces {isSeparator : Char → Bool} {cs piece : List Char} {c : Char}
    (hp : piece ∈ pieces isSeparator cs) (hc : c ∈ piece) : c ∈ cs ∧ isSeparator c = false := by
  induction cs generalizing piece with
  | nil =>
    rw [pieces, List.mem_singleton] at hp
    subst hp
    cases hc
  | cons d cs ih =>
    have hrest : ∀ other ∈ pieces isSeparator cs, c ∈ other → c ∈ d :: cs ∧ isSeparator c = false :=
      fun other ho hc => (ih ho hc).imp_left (List.mem_cons_of_mem d)
    obtain ⟨first, rest, hfirst⟩ := List.exists_cons_of_ne_nil (pieces_ne_nil isSeparator cs)
    rw [hfirst] at hrest
    simp only [pieces, hfirst] at hp
    split at hp
    · rcases List.mem_cons.mp hp with rfl | hp
      · cases hc
      · exact hrest piece hp hc
    · next hd =>
      rcases List.mem_cons.mp hp with rfl | hp
      · rcases List.mem_cons.mp hc with rfl | hc
        · exact ⟨List.mem_cons_self, by simpa using hd⟩
        · exact hrest first List.mem_cons_self hc
      · exact hrest piece (List.mem_cons_of_mem _ hp) hc

theorem not_mem_of_mem_pieces {separator : Char} {cs piece : List Char}
    (h : piece ∈ pieces (· == separator) cs) : separator ∉ piece := by
  intro hc
  have hno := (of_mem_pieces h hc).2
  simp at hno

theorem separator_or_mem_pieces (isSeparator : Char → Bool) {cs : List Char} {c : Char}
    (h : c ∈ cs) : isSeparator c = true ∨ ∃ piece ∈ pieces isSeparator cs, c ∈ piece := by
  induction cs with
  | nil => cases h
  | cons d cs ih =>
    rw [pieces]
    by_cases hd : isSeparator d = true
    · rw [if_pos hd]
      rcases List.mem_cons.mp h with rfl | h
      · exact .inl hd
      · rcases ih h with hs | ⟨piece, hp, hc⟩
        · exact .inl hs
        · exact .inr ⟨piece, List.mem_cons_of_mem _ hp, hc⟩
    · rw [if_neg hd]
      obtain ⟨piece, rest, hp⟩ := List.exists_cons_of_ne_nil (pieces_ne_nil isSeparator cs)
      rw [hp] at ih ⊢
      rcases List.mem_cons.mp h with rfl | h
      · exact .inr ⟨c :: piece, by simp, by simp⟩
      · rcases ih h with hs | ⟨other, ho, hc⟩
        · exact .inl hs
        · rcases List.mem_cons.mp ho with rfl | ho
          · exact .inr ⟨d :: other, by simp, by simp [hc]⟩
          · exact .inr ⟨other, by simp [ho], hc⟩

theorem pieces_eq_concat (isSeparator : Char → Bool) (cs : List Char) :
    ∃ ps p, pieces isSeparator cs = ps ++ [p] :=
  ⟨_, _, (List.dropLast_concat_getLast (pieces_ne_nil isSeparator cs)).symm⟩

/-- The last piece of the first text goes on with the first piece of the second one. -/
theorem pieces_append {isSeparator : Char → Bool} {xs ys p q : List Char} {ps qs : List (List Char)}
    (hx : pieces isSeparator xs = ps ++ [p]) (hy : pieces isSeparator ys = q :: qs) :
    pieces isSeparator (xs ++ ys) = ps ++ (p ++ q) :: qs := by
  induction xs generalizing ps p with
  | nil =>
    obtain ⟨rfl, hp⟩ := List.append_inj' (show [] ++ [[]] = ps ++ [p] from hx) rfl
    obtain rfl := (List.cons.inj hp).1
    exact hy
  | cons c xs ih =>
    obtain ⟨first, rest, hfirst⟩ := List.exists_cons_of_ne_nil (pieces_ne_nil isSeparator xs)
    rw [pieces, hfirst] at hx
    rw [List.cons_append, pieces]
    by_cases hc : isSeparator c = true
    · rw [if_pos hc] at hx ⊢
      cases ps with
      | nil => cases hx
      | cons other ps =>
        obtain ⟨rfl, hrest⟩ := List.cons.inj hx
        rw [ih (hfirst.trans hrest), List.cons_append]
    · rw [if_neg hc] at hx ⊢
      cases ps with
      | nil =>
        obtain ⟨rfl, rfl⟩ := List.cons.inj hx
        have hinside : pieces isSeparator xs = [] ++ [first] := hfirst
        rw [ih hinside]
        rfl
      | cons other ps =>
        obtain ⟨rfl, rfl⟩ := List.cons.inj hx
        have hinside : pieces isSeparator xs = (first :: ps) ++ [p] := hfirst
        rw [ih hinside]
        rfl

theorem pieces_of_not_mem {separator : Char} {cs : List Char} (h : separator ∉ cs) :
    pieces (· == separator) cs = [cs] := by
  have hone : [cs] ≠ [] := List.cons_ne_nil _ _
  simpa using pieces_intercalate (List.forall_mem_singleton.mpr h) hone

theorem pieces_append_of_not_mem {separator : Char} {cs p tail : List Char}
    {ps : List (List Char)} (h : pieces (· == separator) cs = ps ++ [p]) (ht : separator ∉ tail) :
    pieces (· == separator) (cs ++ tail) = ps ++ [p ++ tail] :=
  pieces_append h (pieces_of_not_mem ht)

end ApiSamples.Text
