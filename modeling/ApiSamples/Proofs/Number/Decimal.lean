import ApiSamples.Proofs.Number.ReadBack
import Mathlib.Algebra.Field.Rat

namespace ApiSamples

def Digits (cs : List Char) : Prop := ∀ c ∈ cs, c.isDigit = true

/-- A zero alone, or digits that do not begin with one. -/
inductive WholePart : List Char → Prop
  | zero : WholePart ['0']
  | digits {c : Char} {cs : List Char} (hc : c ≠ '0') (hd : Digits (c :: cs)) : WholePart (c :: cs)

inductive ExponentPart : List Char → Int → Prop
  | absent : ExponentPart [] 0
  | unsigned {letter : Char} {ds : List Char} (hl : letter ∈ ['e', 'E']) (hne : ds ≠ []) (hd : Digits ds) :
    ExponentPart (letter :: ds) (Nat.ofDigitChars 10 ds 0)
  | plus {letter : Char} {ds : List Char} (hl : letter ∈ ['e', 'E']) (hne : ds ≠ []) (hd : Digits ds) :
    ExponentPart (letter :: '+' :: ds) (Nat.ofDigitChars 10 ds 0)
  | minus {letter : Char} {ds : List Char} (hl : letter ∈ ['e', 'E']) (hne : ds ≠ []) (hd : Digits ds) :
    ExponentPart (letter :: '-' :: ds) (-Nat.ofDigitChars 10 ds 0)

/-- Digits on one side of a point at least, and the digits before it no needless zero. -/
inductive DecimalLiteral : List Char → ℚ → Prop
  | whole {ws es : List Char} {x : Int} (hw : WholePart ws) (he : ExponentPart es x) :
    DecimalLiteral (ws ++ es) (Nat.ofDigitChars 10 ws 0 * 10 ^ x)
  | point {ws fs es : List Char} {x : Int} (hw : WholePart ws) (hf : Digits fs) (he : ExponentPart es x) :
    DecimalLiteral (ws ++ '.' :: fs ++ es) (Nat.ofDigitChars 10 (ws ++ fs) 0 * 10 ^ (x - fs.length))
  | fraction {fs es : List Char} {x : Int} (hne : fs ≠ []) (hf : Digits fs) (he : ExponentPart es x) :
    DecimalLiteral ('.' :: fs ++ es) (Nat.ofDigitChars 10 fs 0 * 10 ^ (x - fs.length))

inductive SignedLiteral : List Char → ℚ → Prop
  | plain {cs : List Char} {q : ℚ} (h : DecimalLiteral cs q) : SignedLiteral cs q
  | negated {cs : List Char} {q : ℚ} (h : DecimalLiteral cs q) : SignedLiteral ('-' :: cs) (-q)

def leadsWithZero : List Char → Bool
  | '0' :: c :: _ => c.isDigit
  | _ => false

def needlessZero : List Char → Bool
  | '-' :: cs => leadsWithZero cs
  | cs => leadsWithZero cs

theorem ExponentPart.head_not_digit {cs : List Char} {x : Int} (h : ExponentPart cs x) :
    ∀ c ∈ cs.head?, c.isDigit = false := by
  have hletters : ∀ c ∈ ['e', 'E'], c.isDigit = false := by simp [Char.isDigit]
  cases h with
  | absent => simp
  | unsigned hl | plus hl | minus hl => simpa using hletters _ hl

theorem leadsWithZero_zero {cs : List Char} (h : ∀ c ∈ cs.head?, c.isDigit = false) :
    leadsWithZero ('0' :: cs) = false := by
  cases cs with
  | nil => rfl
  | cons c cs => exact h c rfl

theorem leadsWithZero_of_ne {c : Char} (hc : c ≠ '0') (cs : List Char) : leadsWithZero (c :: cs) = false := by
  simp [leadsWithZero, hc]

theorem WholePart.leadsWithZero_append {ws : List Char} (h : WholePart ws) {cs : List Char}
    (hcs : ∀ c ∈ cs.head?, c.isDigit = false) : leadsWithZero (ws ++ cs) = false := by
  cases h with
  | zero => exact leadsWithZero_zero hcs
  | digits hc hd => exact leadsWithZero_of_ne hc _

theorem DecimalLiteral.leadsWithZero_eq {cs : List Char} {q : ℚ} (h : DecimalLiteral cs q) :
    leadsWithZero cs = false := by
  cases h with
  | whole hw he => exact hw.leadsWithZero_append he.head_not_digit
  | point hw hf he =>
    rw [List.append_assoc]
    exact hw.leadsWithZero_append (by simp)
  | fraction hne hf he => exact leadsWithZero_of_ne (by decide) _

theorem DecimalLiteral.head_ne_minus {cs : List Char} {q : ℚ} (h : DecimalLiteral cs q) :
    cs.head? ≠ some '-' := by
  have hwhole : ∀ {ws rest : List Char}, WholePart ws → (ws ++ rest).head? ≠ some '-' := by
    intro ws rest hw
    cases hw with
    | zero => simp
    | digits hc hd =>
      have hdigit := hd _ List.mem_cons_self
      rintro hminus
      obtain rfl := Option.some.inj hminus
      revert hdigit
      decide
  cases h with
  | whole hw he => exact hwhole hw
  | point hw hf he =>
    rw [List.append_assoc]
    exact hwhole hw
  | fraction hne hf he => simp

theorem leadsWithZero_of_needlessZero {cs : List Char} (h : needlessZero cs = false) :
    leadsWithZero cs = false := by
  unfold needlessZero at h
  split at h
  · exact leadsWithZero_of_ne (by decide) _
  · exact h

theorem needlessZero_of_head {cs : List Char} (h : cs.head? ≠ some '-') :
    needlessZero cs = leadsWithZero cs := by
  cases cs with
  | nil => rfl
  | cons c cs =>
    have hc : c ≠ '-' := by simpa using h
    simp [needlessZero, hc]

theorem SignedLiteral.needlessZero_eq {cs : List Char} {q : ℚ} (h : SignedLiteral cs q) :
    needlessZero cs = false := by
  cases h with
  | plain h =>
    rw [needlessZero_of_head h.head_ne_minus]
    exact h.leadsWithZero_eq
  | negated h => exact h.leadsWithZero_eq

namespace Numeral

/-- The number that a numeral writes, before it is rounded to a double. -/
def toRat (n : Numeral) : ℚ :=
  (if n.negative then -1 else 1) * (n.scientific.1 * 10 ^ n.scientific.2)

theorem isDigit_of_digit? {c : Char} {d : Nat} (h : digit? c = some d) :
    c.isDigit = true ∧ d = c.toNat - 48 := by
  obtain ⟨hc, hd⟩ := Option.ite_none_right_eq_some.mp h
  exact ⟨hc, (Option.some.inj hd).symm⟩

theorem digits_split {cs rest : List Char} {ds : List Nat} (h : digits cs = (ds, rest)) :
    ∃ taken, cs = taken ++ rest ∧ Digits taken ∧ ds = taken.map fun c => c.toNat - 48 := by
  induction cs generalizing ds with
  | nil =>
    cases h
    exact ⟨[], rfl, List.forall_mem_nil _, rfl⟩
  | cons c cs ih =>
    rw [digits] at h
    split at h
    · next d hd =>
      obtain ⟨hc, rfl⟩ := isDigit_of_digit? hd
      cases h
      obtain ⟨taken, hcs, hdigits, hds⟩ := ih rfl
      refine ⟨c :: taken, ?_, List.forall_mem_cons.mpr ⟨hc, hdigits⟩, ?_⟩
      · rw [List.cons_append, ← hcs]
      · rw [hds, List.map_cons]
    · cases h
      exact ⟨[], rfl, List.forall_mem_nil _, rfl⟩

theorem sign_split {cs rest : List Char} {negative : Bool} (h : (match cs with
    | '+' :: cs => (false, cs)
    | '-' :: cs => (true, cs)
    | cs => (false, cs)) = (negative, rest)) :
    (negative = false ∧ (cs = rest ∨ cs = '+' :: rest)) ∨ (negative = true ∧ cs = '-' :: rest) := by
  split at h <;> cases h
  · exact .inl ⟨rfl, .inr rfl⟩
  · exact .inr ⟨rfl, rfl⟩
  · exact .inl ⟨rfl, .inl rfl⟩

theorem exponentPart_of_scanExponent {cs : List Char} {e : Bool × List Nat}
    (h : scanExponent cs = some (e, [])) {letter : Char} (hl : letter ∈ ['e', 'E']) :
    ExponentPart (letter :: cs) (if e.1 then -(value e.2 : Int) else value e.2) := by
  revert h
  fun_cases scanExponent cs with
  | case1 => simp
  | case2 _ negative tail hsign ds more hds hdigits =>
    intro h
    cases h
    obtain ⟨taken, htail, htaken, rfl⟩ := digits_split hdigits
    obtain rfl : tail = taken := by simpa using htail
    have hne : tail ≠ [] := by
      rintro rfl
      exact hds rfl
    rw [value_eq_ofDigitChars]
    rcases sign_split hsign with ⟨rfl, rfl | rfl⟩ | ⟨rfl, rfl⟩
    · exact .unsigned hl hne htaken
    · exact .plus hl hne htaken
    · exact .minus hl hne htaken

theorem exponentPart_of_scanExponent? {cs : List Char} {exponent : Option (Bool × List Nat)}
    (h : scanExponent? cs = some (exponent, [])) (whole : List Nat) (fraction : Option (List Nat)) :
    ExponentPart cs (power ⟨false, whole, fraction, exponent⟩) := by
  unfold scanExponent? at h
  split at h
  · obtain ⟨⟨e, rest⟩, he, heq⟩ := Option.map_eq_some_iff.mp h
    cases heq
    exact exponentPart_of_scanExponent he (by simp)
  · obtain ⟨⟨e, rest⟩, he, heq⟩ := Option.map_eq_some_iff.mp h
    cases heq
    exact exponentPart_of_scanExponent he (by simp)
  · cases h
    exact .absent

theorem point_split {cs rest : List Char} {fraction : Option (List Nat)} (h : (match cs with
    | '.' :: rest => match digits rest with
      | (ds, rest) => (some ds, rest)
    | rest => (none, rest)) = (fraction, rest)) :
    (fraction = none ∧ cs = rest) ∨
      ∃ fs, Digits fs ∧ fraction = some (fs.map fun c => c.toNat - 48) ∧ cs = '.' :: fs ++ rest := by
  split at h
  · next more =>
    have hdigits : digits more = ((digits more).1, (digits more).2) := rfl
    obtain ⟨fs, hmore, hfs, hds⟩ := digits_split hdigits
    cases h
    exact .inr ⟨fs, hfs, by rw [hds], by rw [List.cons_append, ← hmore]⟩
  · cases h
    exact .inl ⟨rfl, rfl⟩

theorem wholePart_of_digits {ws rest : List Char} (hne : ws ≠ []) (hd : Digits ws)
    (h : leadsWithZero (ws ++ rest) = false) : WholePart ws := by
  obtain ⟨c, cs, rfl⟩ := List.exists_cons_of_ne_nil hne
  by_cases hc : c = '0'
  · subst hc
    cases cs with
    | nil => exact .zero
    | cons d cs =>
      have hdigit : d.isDigit = true := hd d (by simp)
      have hno : d.isDigit = false := h
      rw [hdigit] at hno
      cases hno
  · exact .digits hc hd

theorem toRat_whole (ws : List Char) (exponent : Option (Bool × List Nat)) :
    toRat ⟨false, ws.map fun c => c.toNat - 48, none, exponent⟩ =
      Nat.ofDigitChars 10 ws 0 * 10 ^ power ⟨false, ws.map fun c => c.toNat - 48, none, exponent⟩ := by
  simp [toRat, scientific, value_eq_ofDigitChars]

theorem toRat_point (ws fs : List Char) (exponent : Option (Bool × List Nat)) :
    toRat ⟨false, ws.map fun c => c.toNat - 48, some (fs.map fun c => c.toNat - 48), exponent⟩ =
      Nat.ofDigitChars 10 (ws ++ fs) 0 * 10 ^ (power ⟨false, ws.map fun c => c.toNat - 48,
        some (fs.map fun c => c.toNat - 48), exponent⟩ - fs.length) := by
  simp [toRat, scientific, ← List.map_append, value_eq_ofDigitChars]

theorem toRat_negative (whole : List Nat) (fraction : Option (List Nat))
    (exponent : Option (Bool × List Nat)) :
    toRat ⟨true, whole, fraction, exponent⟩ = -toRat ⟨false, whole, fraction, exponent⟩ := by
  simp [toRat, scientific, power]

theorem decimalLiteral_of_parts {ws more rest : List Char} {fraction : Option (List Nat)}
    {exponent : Option (Bool × List Nat)} (hws : Digits ws) (hpoint : (fraction = none ∧ more = rest) ∨
      ∃ fs, Digits fs ∧ fraction = some (fs.map fun c => c.toNat - 48) ∧ more = '.' :: fs ++ rest)
    (hsome : ws ≠ [] ∨ fraction.getD [] ≠ []) (hexponent : scanExponent? rest = some (exponent, []))
    (hzero : leadsWithZero (ws ++ more) = false) :
    DecimalLiteral (ws ++ more) (toRat ⟨false, ws.map fun c => c.toNat - 48, fraction, exponent⟩) := by
  have hexp := exponentPart_of_scanExponent? hexponent (ws.map fun c => c.toNat - 48) fraction
  rcases hpoint with ⟨rfl, rfl⟩ | ⟨fs, hfs, rfl, rfl⟩
  · have hne : ws ≠ [] := by simpa using hsome
    rw [toRat_whole]
    exact .whole (wholePart_of_digits hne hws hzero) hexp
  · rw [toRat_point]
    by_cases hne : ws = []
    · subst hne
      have hfraction : fs ≠ [] := by simpa using hsome
      exact .fraction hfraction hfs hexp
    · rw [← List.append_assoc]
      exact .point (wholePart_of_digits hne hws hzero) hfs hexp

/-- What is read as a numeral is a literal of the same number, if it does not begin with a plus sign and
has no needless zero. -/
theorem signedLiteral_of_ofText? {cs : List Char} {n : Numeral} (h : ofText? cs = some n)
    (hplus : cs.head? ≠ some '+') (hzero : needlessZero cs = false) : SignedLiteral cs n.toRat := by
  revert h
  fun_cases ofText? cs with
  | case1 => simp
  | case2 negative tail hsign whole more hwhole fraction rest hpoint hsome exponent hexponent =>
    intro h
    cases h
    obtain ⟨ws, rfl, hws, rfl⟩ := digits_split hwhole
    have hdigits : ws ≠ [] ∨ fraction.getD [] ≠ [] := by
      by_contra hnone
      rw [not_or, not_not, not_not] at hnone
      exact hsome (by simp [hnone])
    have hbody := decimalLiteral_of_parts hws (point_split hpoint) hdigits hexponent
    rcases sign_split hsign with ⟨rfl, rfl | rfl⟩ | ⟨rfl, rfl⟩
    · exact .plain (hbody (leadsWithZero_of_needlessZero hzero))
    · simp at hplus
    · rw [toRat_negative]
      exact .negated (hbody hzero)
  | case3 => simp

end Numeral

end ApiSamples
