import ApiSamples.Proofs.Number.Characters

namespace ApiSamples

namespace Numeral

/-- What can stand behind a numeral without becoming a part of it. -/
def Ends (rest : List Char) : Prop := ∀ c ∈ rest.head?, isNumeric c = false

/-- What is taken off the front of a text is the same if the rest comes behind it. -/
def Undisturbed {α : Type} (rest : List Char) (scan : List Char → Option (α × List Char)) : Prop :=
  ∀ cs, scan (cs ++ rest) = (scan cs).map fun (a, left) => (a, left ++ rest)

def exponentOf (negative : Bool) (cs : List Char) : Option ((Bool × List Nat) × List Char) :=
  match digits cs with
  | ([], _) => none
  | (ds, rest) => some ((negative, ds), rest)

def scanFraction : List Char → Option (Option (List Nat) × List Char)
  | '.' :: cs => match digits cs with
    | ([], _) => none
    | (ds, rest) => some (some ds, rest)
  | cs => some (none, cs)

def scanTail (negative : Bool) (whole : List Nat) (cs : List Char) : Option (Numeral × List Char) :=
  (scanFraction cs).bind fun (fraction, rest) =>
    (scanExponent? rest).map fun (exponent, rest) => (⟨negative, whole, fraction, exponent⟩, rest)

theorem scanUnsigned_eq (negative : Bool) (cs : List Char) :
    scanUnsigned negative cs = match digits cs with
      | ([], _) => none
      | (0 :: _ :: _, _) => none
      | (whole, rest) => scanTail negative whole rest := rfl

theorem scanExponent_of_unsigned {cs : List Char} (h : ∀ c ∈ ['+', '-'], cs.head? ≠ some c) :
    scanExponent cs = exponentOf false cs := by
  cases cs with
  | nil => rfl
  | cons c cs =>
    have hplus : c ≠ '+' := by simpa using h '+' (by simp)
    have hminus : c ≠ '-' := by simpa using h '-' (by simp)
    simp only [scanExponent, List.cons.injEq, hplus, hminus, false_and, imp_self, implies_true]
    rfl

theorem scanExponent?_of_none {cs : List Char} (h : ∀ c ∈ ['e', 'E'], cs.head? ≠ some c) :
    scanExponent? cs = some (none, cs) := by
  cases cs with
  | nil => rfl
  | cons c cs =>
    have hlower : c ≠ 'e' := by simpa using h 'e' (by simp)
    have hupper : c ≠ 'E' := by simpa using h 'E' (by simp)
    simp [scanExponent?, hlower, hupper]

theorem scanFraction_of_none {cs : List Char} (h : ∀ c ∈ ['.'], cs.head? ≠ some c) :
    scanFraction cs = some (none, cs) := by
  cases cs with
  | nil => rfl
  | cons c cs =>
    have hpoint : c ≠ '.' := by simpa using h '.' (by simp)
    simp [scanFraction, hpoint]

theorem scan_of_unsigned {cs : List Char} (h : ∀ c ∈ ['-'], cs.head? ≠ some c) :
    scan cs = scanUnsigned false cs := by
  cases cs with
  | nil => rfl
  | cons c cs =>
    have hminus : c ≠ '-' := by simpa using h '-' (by simp)
    simp [scan, hminus]

variable {rest : List Char}

theorem ends_cons {c : Char} {rest : List Char} (h : isNumeric c = false) : Ends (c :: rest) := by
  simpa [Ends] using h

theorem Ends.head?_ne (h : Ends rest) {c : Char} (hc : isNumeric c = true) : rest.head? ≠ some c := by
  intro hr
  have hno := h c hr
  rw [hc] at hno
  cases hno

theorem Ends.digits_eq (h : Ends rest) : digits rest = ([], rest) := by
  cases rest with
  | nil => rfl
  | cons c rest =>
    have hdigit : c.isDigit = false := by
      have hc := h c rfl
      simp only [isNumeric, Bool.or_eq_false_iff] at hc
      exact hc.1
    simp [digits, digit?, hdigit]

theorem digits_append (h : Ends rest) (cs : List Char) :
    digits (cs ++ rest) = ((digits cs).1, (digits cs).2 ++ rest) := by
  induction cs with
  | nil => exact h.digits_eq
  | cons c cs ih =>
    rw [List.cons_append, digits, digits]
    cases digit? c with
    | none => rfl
    | some d => simp [ih]

theorem Undisturbed.map {α β : Type} {scan : List Char → Option (α × List Char)}
    (h : Undisturbed rest scan) (f : α → β) :
    Undisturbed rest fun cs => (scan cs).map (Prod.map f id) := by
  intro cs
  simp only [h cs, Option.map_map]
  rfl

/-- A scan that turns on a few marks. In front of a text that ends the numeral no mark comes first. -/
theorem undisturbed_of_marks {α : Type} {scan other : List Char → Option (α × List Char)}
    (h : Ends rest) (marks : List Char) (hmarks : marks.all isNumeric = true)
    (hother : ∀ cs, (∀ c ∈ marks, cs.head? ≠ some c) → scan cs = other cs)
    (ho : Undisturbed rest other) (hmark : ∀ c ∈ marks, Undisturbed rest fun cs => scan (c :: cs)) :
    Undisturbed rest scan := by
  intro cs
  cases cs with
  | nil =>
    have hends : ∀ c ∈ marks, rest.head? ≠ some c :=
      fun c hc => h.head?_ne (List.all_eq_true.mp hmarks c hc)
    rw [List.nil_append, hother rest hends, hother [] (by simp)]
    exact ho []
  | cons c cs =>
    by_cases hc : c ∈ marks
    · exact hmark c hc cs
    · have hne : ∀ left : List Char, ∀ m ∈ marks, (c :: left).head? ≠ some m := by
        rintro left m hm heq
        exact hc (Option.some.inj heq ▸ hm)
      rw [List.cons_append, hother _ (hne _), hother _ (hne _)]
      exact ho (c :: cs)

theorem undisturbed_nothing {α : Type} : Undisturbed rest fun cs => some ((none : Option α), cs) :=
  fun _ => rfl

theorem undisturbed_exponentOf (h : Ends rest) (negative : Bool) :
    Undisturbed rest (exponentOf negative) := by
  intro cs
  unfold exponentOf
  rw [digits_append h]
  rcases digits cs with ⟨_ | ⟨d, ds⟩, left⟩ <;> rfl

theorem undisturbed_scanExponent (h : Ends rest) : Undisturbed rest scanExponent := by
  apply undisturbed_of_marks h ['+', '-'] rfl (fun _ => scanExponent_of_unsigned)
    (undisturbed_exponentOf h false)
  rintro c hc
  obtain rfl | rfl : c = '+' ∨ c = '-' := by simpa using hc
  · exact undisturbed_exponentOf h false
  · exact undisturbed_exponentOf h true

theorem undisturbed_scanExponent? (h : Ends rest) : Undisturbed rest scanExponent? := by
  apply undisturbed_of_marks h ['e', 'E'] rfl (fun _ => scanExponent?_of_none)
    undisturbed_nothing
  intro c hc
  have hletter := (undisturbed_scanExponent h).map some
  obtain rfl | rfl : c = 'e' ∨ c = 'E' := by simpa using hc
  · exact hletter
  · exact hletter

theorem undisturbed_scanFraction (h : Ends rest) : Undisturbed rest scanFraction := by
  apply undisturbed_of_marks h ['.'] rfl (fun _ => scanFraction_of_none)
    undisturbed_nothing
  intro c hc
  obtain rfl : c = '.' := by simpa using hc
  intro cs
  simp only [scanFraction, digits_append h]
  rcases digits cs with ⟨_ | ⟨d, ds⟩, left⟩ <;> rfl

theorem undisturbed_scanTail (h : Ends rest) (negative : Bool) (whole : List Nat) :
    Undisturbed rest (scanTail negative whole) := by
  intro cs
  rw [scanTail, scanTail, undisturbed_scanFraction h]
  cases scanFraction cs with
  | none => rfl
  | some found =>
    obtain ⟨fraction, left⟩ := found
    simp only [Option.map_some, Option.bind_some, undisturbed_scanExponent? h left, Option.map_map]
    rfl

theorem undisturbed_scanUnsigned (h : Ends rest) (negative : Bool) :
    Undisturbed rest (scanUnsigned negative) := by
  intro cs
  have htail := undisturbed_scanTail h negative
  rw [scanUnsigned_eq, scanUnsigned_eq, digits_append h]
  rcases digits cs with ⟨ds, left⟩
  match ds with
  | [] => rfl
  | [0] => exact htail [0] left
  | [.succ d] => exact htail [d + 1] left
  | 0 :: d :: ds => rfl
  | .succ d :: e :: ds => exact htail ((d + 1) :: e :: ds) left

theorem undisturbed_scan (h : Ends rest) : Undisturbed rest scan := by
  apply undisturbed_of_marks h ['-'] rfl (fun _ => scan_of_unsigned)
    (undisturbed_scanUnsigned h false)
  intro c hc
  obtain rfl : c = '-' := by simpa using hc
  exact undisturbed_scanUnsigned h true

theorem digits_of_isDigit {cs : List Char} (h : ∀ c ∈ cs, c.isDigit = true) :
    digits cs = (cs.map fun c => c.toNat - 48, []) := by
  induction cs with
  | nil => rfl
  | cons c cs ih =>
    have hc : digit? c = some (c.toNat - 48) := if_pos (h c List.mem_cons_self)
    rw [digits, hc, ih fun d hd => h d (List.mem_cons_of_mem c hd)]
    rfl

theorem value_eq_ofDigitChars (cs : List Char) :
    value (cs.map fun c => c.toNat - 48) = Nat.ofDigitChars 10 cs 0 := by
  have hzero : '0'.toNat = 48 := rfl
  simp only [value, List.foldl_map, Nat.ofDigitChars_eq_foldl, hzero, Nat.mul_comm]

theorem eq_zero_of_head?_toDigits {n : Nat} (h : (Nat.toDigits 10 n).head? = some '0') : n = 0 := by
  induction n using Nat.strongRecOn with
  | ind n ih =>
    by_cases hn : n < 10
    · rw [Nat.toDigits_of_lt_base hn] at h
      have hall : ∀ n < 10, n.digitChar = '0' → n = 0 := by decide
      exact hall n hn (Option.some.inj h)
    · have hsplit := Nat.toDigits_of_base_le (b := 10) (by decide) (Nat.le_of_not_lt hn)
      obtain ⟨c, cs, hc⟩ := List.exists_cons_of_ne_nil (Nat.toDigits_ne_nil (n := n / 10) (b := 10))
      rw [hsplit, hc] at h
      have hzero := ih (n / 10) (by omega) (hc ▸ h)
      omega

theorem scanUnsigned_toDigits (negative : Bool) (n : Nat) :
    ∃ whole, value whole = n ∧
      scanUnsigned negative (Nat.toDigits 10 n) = some (⟨negative, whole, none, none⟩, []) := by
  have hdigit : ∀ c ∈ Nat.toDigits 10 n, c.isDigit = true :=
    fun c hc => Nat.isDigit_of_mem_toDigits (by decide) (by decide) hc
  refine ⟨(Nat.toDigits 10 n).map fun c => c.toNat - 48, ?_, ?_⟩
  · rw [value_eq_ofDigitChars, Nat.ofDigitChars_ten_toDigits]
  · rw [scanUnsigned_eq, digits_of_isDigit hdigit]
    obtain ⟨c, cs, hc⟩ := List.exists_cons_of_ne_nil (Nat.toDigits_ne_nil (n := n) (b := 10))
    by_cases hzero : n = 0
    · subst hzero
      rfl
    · have hleading : c ≠ '0' := by
        rintro rfl
        exact hzero (eq_zero_of_head?_toDigits (congrArg List.head? hc))
      have hpos : c.toNat - 48 ≠ 0 := by
        have hrange := Char.isDigit_iff_toNat.mp (hdigit c (by simp [hc]))
        have hfirst : '0'.toNat = 48 := rfl
        have hcode : c.toNat ≠ 48 := fun h => hleading (Char.toNat_inj.mp h)
        omega
      obtain ⟨d, hd⟩ := Nat.exists_eq_succ_of_ne_zero hpos
      rw [hc, List.map_cons, hd]
      cases cs <;> rfl

end Numeral

namespace Number

def ofText? (text : String) : Option Number :=
  match Numeral.scan text.toList with
  | some (n, []) => ofNumeral? n
  | _ => none

theorem ofNumeral?_integer {n : Int} (fits : -(twoPow 63 : Int) ≤ n ∧ n < twoPow 64)
    {negative : Bool} {whole : List Nat}
    (h : n = if negative then -(Numeral.value whole : Int) else Numeral.value whole)
    (hzero : ¬ (negative = true ∧ n = 0)) :
    ofNumeral? ⟨negative, whole, none, none⟩ = some (integer n fits) := by
  have hinteger : Numeral.isInteger ⟨negative, whole, none, none⟩ = true := rfl
  have hint : ofInt? n = some (integer n fits) := dif_pos fits
  simp only [ofNumeral?, ← h, hinteger, hint]
  simp [hzero]

/-- Every integer is read back from its text. -/
theorem ofText?_integer {n : Int} (fits : -(twoPow 63 : Int) ≤ n ∧ n < twoPow 64) :
    ofText? (integer n fits).text = some (integer n fits) := by
  rw [text, Int.toString_eq_repr, Int.repr_eq_if]
  by_cases hn : 0 ≤ n
  · obtain ⟨whole, hvalue, hscan⟩ := Numeral.scanUnsigned_toDigits false n.toNat
    have hunsigned : ∀ c ∈ ['-'], (Nat.toDigits 10 n.toNat).head? ≠ some c := by
      intro c hc h
      obtain rfl : c = '-' := by simpa using hc
      have hdigit := Nat.isDigit_of_mem_toDigits (by decide) (by decide) (List.mem_of_head? h)
      revert hdigit
      decide
    have hint : ofNumeral? ⟨false, whole, none, none⟩ = some (integer n fits) := by
      apply ofNumeral?_integer fits
      · rw [hvalue, Int.toNat_of_nonneg hn]
        rfl
      · simp
    rw [if_pos hn, ofText?, Nat.repr_eq_ofList_toDigits, String.toList_ofList,
      Numeral.scan_of_unsigned hunsigned, hscan]
    exact hint
  · obtain ⟨whole, hvalue, hscan⟩ := Numeral.scanUnsigned_toDigits true (-n).toNat
    have hminus : ("-" ++ (-n).toNat.repr).toList = '-' :: Nat.toDigits 10 (-n).toNat := by
      have hsign : "-".toList = ['-'] := rfl
      rw [String.toList_append, hsign, Nat.repr_eq_ofList_toDigits, String.toList_ofList]
      rfl
    have hint : ofNumeral? ⟨true, whole, none, none⟩ = some (integer n fits) := by
      apply ofNumeral?_integer fits
      · rw [hvalue, if_pos rfl]
        omega
      · omega
    rw [if_neg hn, ofText?, hminus, Numeral.scan, hscan]
    exact hint

end Number

/-- Reading the text of a double, each of its steps rounded, comes out at the double again. -/
def Double.ReadsBack (x : Double) : Prop := Number.ofText? x.text = some (.double x)

instance (x : Double) : Decidable x.ReadsBack :=
  inferInstanceAs (Decidable (Number.ofText? x.text = some (.double x)))

end ApiSamples
