import ApiSamples.Proofs.Literal.Scanner
import ApiSamples.Text.Basic

namespace ApiSamples

open Scanner

/-- Characters that no comma cuts, with no white space around them. -/
structure Token (cs : List Char) : Prop where
  isSealed : Sealed cs
  first : ∃ c rest, cs = c :: rest ∧ Text.isBlank c = false
  last : ∃ rest c, cs = rest ++ [c] ∧ Text.isBlank c = false

namespace Scanner

def special : List Char :=
  ['"', '\x27', '\x60', '(', '[', '\x7b', '<', ')', ']', '\x7d', '>', ',']

theorem isPlain_of_not_special {c : Char} (h : c ∉ special) : isPlain c = true := by
  simp only [special, List.mem_cons, List.not_mem_nil, or_false, not_or] at h
  unfold isPlain closing? isQuote isClosing
  split <;> simp_all

theorem isPlain_of {p : Char → Bool} (hp : special.all (!p ·) = true) {c : Char} (h : p c = true) :
    isPlain c = true := by
  refine isPlain_of_not_special fun hc => ?_
  have hno := List.all_eq_true.mp hp c hc
  rw [h] at hno
  cases hno

theorem isBlank_of_graphic {c : Char} (hl : 33 ≤ c.toNat) (hu : c.toNat ≤ 126) :
    Text.isBlank c = false := by
  simp only [Text.isBlank, Bool.or_eq_false_iff, Bool.and_eq_false_iff, decide_eq_false_iff_not,
    beq_eq_false_iff_ne]
  omega

theorem sealed_of_all {p : Char → Bool} (hp : special.all (!p ·) = true) {cs : List Char}
    (h : cs.all p = true) : Sealed cs := by
  refine sealed_of_isPlain (List.all_eq_true.mpr fun c hc => ?_)
  exact isPlain_of hp (List.all_eq_true.mp h c hc)

end Scanner

section

variable {xs ys zs : List Char}

theorem Token.append (hx : Token xs) (hy : Sealed ys) (hz : Token zs) : Token (xs ++ ys ++ zs) := by
  obtain ⟨c, rest, rfl, hc⟩ := hx.first
  obtain ⟨back, d, rfl, hd⟩ := hz.last
  refine ⟨(hx.isSealed.append hy).append hz.isSealed, ⟨c, rest ++ ys ++ (back ++ [d]), rfl, hc⟩, ?_⟩
  exact ⟨c :: rest ++ ys ++ back, d, by simp, hd⟩

/-- White space around a token is all that trimming takes away. -/
theorem Token.trimChars (h : Token xs) {before after : List Char}
    (hb : ∀ c ∈ before, Text.isBlank c = true) (ha : ∀ c ∈ after, Text.isBlank c = true) :
    Text.trimChars (before ++ xs ++ after) = xs := by
  obtain ⟨c, rest, hfirst, hc⟩ := h.first
  obtain ⟨back, d, hlast, hd⟩ := h.last
  have hfront : (before ++ xs ++ after).dropWhile Text.isBlank = xs ++ after := by
    rw [List.append_assoc, List.dropWhile_append_of_pos hb, hfirst]
    simp [hc]
  have hafter : ∀ c ∈ after.reverse, Text.isBlank c = true := by simpa using ha
  have hback : (xs ++ after).reverse.dropWhile Text.isBlank = xs.reverse := by
    rw [List.reverse_append, List.dropWhile_append_of_pos hafter, hlast]
    simp [hd]
  rw [Text.trimChars, hfront, Text.trimEndChars, hback, List.reverse_reverse]

theorem token_enclose {opening closer : Char} (h : Scanner.Balanced xs) (hq : isQuote opening = false)
    (ho : closing? opening = some closer) (hc : next ⟨[closer], .code⟩ closer = some start)
    (hb : Text.isBlank opening = false ∧ Text.isBlank closer = false) :
    Token (opening :: xs ++ [closer]) :=
  ⟨h.enclose hq ho hc, ⟨opening, _, rfl, hb.1⟩, ⟨opening :: xs, closer, rfl, hb.2⟩⟩

theorem token_parentheses (h : Scanner.Balanced xs) : Token ('(' :: xs ++ [')']) :=
  token_enclose h (by decide) rfl (by decide) (by decide)

theorem token_brackets (h : Scanner.Balanced xs) : Token ('[' :: xs ++ [']']) :=
  token_enclose h (by decide) rfl (by decide) (by decide)

theorem token_braces (h : Scanner.Balanced xs) : Token ('\x7b' :: xs ++ ['\x7d']) :=
  token_enclose h (by decide) rfl (by decide) (by decide)

theorem token_of_all {p : Char → Bool} (hp : special.all (!p ·) = true)
    (hb : ∀ c, p c = true → Text.isBlank c = false) (hne : xs ≠ []) (h : xs.all p = true) :
    Token xs := by
  have hall := List.all_eq_true.mp h
  refine ⟨sealed_of_all hp h, ?_, ?_⟩
  · obtain ⟨c, rest, rfl⟩ := List.exists_cons_of_ne_nil hne
    exact ⟨c, rest, rfl, hb c (hall c (by simp))⟩
  · have hlast := List.dropLast_concat_getLast hne
    exact ⟨xs.dropLast, xs.getLast hne, hlast.symm, hb _ (hall _ (List.getLast_mem hne))⟩

end

namespace Quoted

theorem hexDigit_inert {n : Nat} (h : n < 16) :
    hexDigit n ≠ '\\' ∧ hexDigit n ≠ '"' ∧ hexDigit n ≠ '\n' ∧ hexDigit n ≠ '\r' := by
  have hall : ∀ n < 16, hexDigit n ≠ '\\' ∧ hexDigit n ≠ '"' ∧ hexDigit n ≠ '\n' ∧ hexDigit n ≠ '\r' := by
    decide
  exact hall n h

theorem step_quoted {c : Char} (h : c ≠ '\\' ∧ c ≠ '"' ∧ c ≠ '\n' ∧ c ≠ '\r') :
    step ⟨[], .quoted '"'⟩ c = some ⟨[], .quoted '"'⟩ := by
  simp [step, start, next, h]

theorem pass_escape (c : Char) : pass ⟨[], .quoted '"'⟩ (escape c) = some ⟨[], .quoted '"'⟩ := by
  by_cases h : c ∈ ['"', '\\', '\n', '\r', '\t', '\x08', '\x0c']
  · simp only [List.mem_cons, List.not_mem_nil, or_false] at h
    rcases h with rfl | rfl | rfl | rfl | rfl | rfl | rfl <;> decide
  · simp only [List.mem_cons, List.not_mem_nil, or_false, not_or] at h
    obtain ⟨hq, hb, hn, hr, ht, h8, hf⟩ := h
    by_cases hc : c.toNat < 32
    · have hlead : pass ⟨[], .quoted '"'⟩ ['\\', 'u', '0', '0'] = some ⟨[], .quoted '"'⟩ := by decide
      have hhigh := step_quoted (hexDigit_inert (show c.toNat / 16 < 16 by omega))
      have hlow := step_quoted (hexDigit_inert (show c.toNat % 16 < 16 by omega))
      have hescape : escape c =
          ['\\', 'u', '0', '0'] ++ [hexDigit (c.toNat / 16), hexDigit (c.toNat % 16)] := by
        simp [escape, hq, hb, hn, hr, ht, h8, hf, hc]
      rw [hescape, pass_append, hlead, Option.bind_some, pass_cons, hhigh, Option.bind_some, pass_cons,
        hlow]
      rfl
    · have hescape : escape c = [c] := by simp [escape, hq, hb, hn, hr, ht, h8, hf, hc]
      rw [hescape, pass_cons, step_quoted ⟨hb, hq, hn, hr⟩]
      rfl

theorem token_encode (cs : List Char) : Token (encode cs) := by
  have hbody : pass ⟨[], .quoted '"'⟩ (cs.flatMap escape) = some ⟨[], .quoted '"'⟩ := by
    induction cs with
    | nil => rfl
    | cons c cs ih => rw [List.flatMap_cons, pass_append, pass_escape, Option.bind_some, ih]
  have hblank : Text.isBlank '"' = false := by decide
  refine ⟨?_, ⟨'"', _, rfl, hblank⟩, ⟨'"' :: cs.flatMap escape, '"', rfl, hblank⟩⟩
  have hopen : step start '"' = some ⟨[], .quoted '"'⟩ := by decide
  rw [Sealed, encode, List.cons_append, pass_cons, hopen, Option.bind_some, pass_append, hbody]
  rfl

theorem token_quote (s : String) : Token (quote s).toList := by
  simpa [quote] using token_encode s.toList

end Quoted

end ApiSamples
