import ApiSamples.Json.Quoted

namespace ApiSamples.Quoted

def partOf (c : Char) : Part :=
  if c.toNat < 32 ∧ c ∉ ['\n', '\r', '\t', '\x08', '\x0c'] then .unit c.toNat else .char c

theorem hexValue?_hexDigit {n : Nat} (h : n < 16) : hexValue? (hexDigit n) = some n := by
  have hall : ∀ n < 16, hexValue? (hexDigit n) = some n := by decide
  exact hall n h

theorem unit?_hexDigit {n : Nat} (h : n < 32) :
    unit? '0' '0' (hexDigit (n / 16)) (hexDigit (n % 16)) = some n := by
  have hzero : hexValue? '0' = some 0 := by decide
  have hhigh := hexValue?_hexDigit (show n / 16 < 16 by omega)
  have hlow := hexValue?_hexDigit (show n % 16 < 16 by omega)
  have hsum : n / 16 * 16 + n % 16 = n := by omega
  simp [unit?, hzero, hhigh, hlow, hsum]

theorem scan_char {c : Char} (hq : c ≠ '"') (hb : c ≠ '\\') (hc : ¬ c.toNat < 32) (rest : List Char) :
    scan (c :: rest) = (scan rest).map fun (parts, rest) => (.char c :: parts, rest) := by
  rw [scan.eq_def]
  split
  · simp_all
  · simp_all
  · simp_all
  · simp_all
  · next d tail _ _ _ h =>
    obtain ⟨rfl, rfl⟩ := List.cons.inj h
    rw [if_neg (by simp [hc, hb])]

theorem scan_escape (c : Char) (rest : List Char) :
    scan (escape c ++ rest) = (scan rest).map fun (parts, rest) => (partOf c :: parts, rest) := by
  by_cases h : c ∈ ['"', '\\', '\n', '\r', '\t', '\x08', '\x0c']
  · simp only [List.mem_cons, List.not_mem_nil, or_false] at h
    rcases h with rfl | rfl | rfl | rfl | rfl | rfl | rfl <;>
      cases hs : scan rest <;> simp [escape, scan, letter?, partOf, hs]
  · simp only [List.mem_cons, List.not_mem_nil, or_false, not_or] at h
    obtain ⟨hq, hb, hn, hr, ht, h8, hf⟩ := h
    by_cases hc : c.toNat < 32
    · simp only [escape, hq, hb, hn, hr, ht, h8, hf, hc, if_false, if_true, List.cons_append,
        List.nil_append, scan, unit?_hexDigit hc]
      cases hs : scan rest <;> simp [partOf, hc, hn, hr, ht, h8, hf]
    · simp only [escape, hq, hb, hn, hr, ht, h8, hf, hc, if_false, List.cons_append, List.nil_append]
      rw [scan_char hq hb hc]
      simp [partOf, hc]

theorem scan_flatMap_escape (cs rest : List Char) :
    scan (cs.flatMap escape ++ '"' :: rest) = some (cs.map partOf, rest) := by
  induction cs with
  | nil => simp [scan]
  | cons c cs ih => rw [List.flatMap_cons, List.append_assoc, scan_escape, ih]; rfl

theorem join?_unit {n : Nat} (hhigh : isHigh n = false) (hlow : isLow n = false) (parts : List Part) :
    join? (.unit n :: parts) = (join? parts).map (Char.ofNat n :: ·) := by
  cases parts with
  | nil => simp [join?, hhigh, hlow]
  | cons part parts => cases part <;> simp [join?, hhigh, hlow]

theorem join?_partOf (c : Char) (parts : List Part) :
    join? (partOf c :: parts) = (join? parts).map (c :: ·) := by
  unfold partOf
  split
  · next h =>
    have hhigh : isHigh c.toNat = false := by simp [isHigh]; omega
    have hlow : isLow c.toNat = false := by simp [isLow]; omega
    rw [join?_unit hhigh hlow, Char.ofNat_toNat]
  · rw [join?]

theorem join?_map_partOf (cs : List Char) : join? (cs.map partOf) = some cs := by
  induction cs with
  | nil => rfl
  | cons c cs ih => rw [List.map_cons, join?_partOf, ih, Option.map_some]

/-- What can be read back is quoted differently if it is different. -/
theorem eq_of_quote_eq {s t : String} (h : quote s = quote t) : s = t := by
  have hscan : scan (s.toList.flatMap escape ++ ['"']) = scan (t.toList.flatMap escape ++ ['"']) :=
    congrArg scan (List.cons.inj (String.ofList_injective h)).2
  rw [scan_flatMap_escape, scan_flatMap_escape] at hscan
  have hparts : s.toList.map partOf = t.toList.map partOf := (Prod.mk.inj (Option.some.inj hscan)).1
  have hjoined := congrArg join? hparts
  rw [join?_map_partOf, join?_map_partOf] at hjoined
  exact String.toList_inj.mp (Option.some.inj hjoined)

end ApiSamples.Quoted
