import ApiSamples.Number.Basic
import ApiSamples.Proofs.Text.Basic
import Mathlib.Tactic.SplitIfs

namespace ApiSamples

def isNumeric (c : Char) : Bool := c.isDigit || c ∈ ['+', '-', '.', 'e', 'E']

def Numeric (cs : List Char) : Prop := cs ≠ [] ∧ cs.all isNumeric = true

theorem graphic_of_isNumeric {c : Char} (h : isNumeric c = true) : 33 ≤ c.toNat ∧ c.toNat ≤ 126 := by
  simp only [isNumeric, Bool.or_eq_true, decide_eq_true_eq] at h
  rcases h with hdigit | h
  · exact graphic_of_isDigit hdigit
  · simp only [List.mem_cons, List.not_mem_nil, or_false] at h
    rcases h with rfl | rfl | rfl | rfl | rfl <;> decide

theorem Numeric.negate {cs : List Char} (h : Numeric cs) : Numeric ('-' :: cs) := by
  refine ⟨List.cons_ne_nil _ _, ?_⟩
  rw [List.all_cons, h.2]
  decide

theorem numeric_toDigits (n : Nat) : Numeric (Nat.toDigits 10 n) := by
  refine ⟨Nat.toDigits_ne_nil, List.all_eq_true.mpr fun c hc => ?_⟩
  have hdigit : c.isDigit = true := Nat.isDigit_of_mem_toDigits (by decide) (by decide) hc
  simp [isNumeric, hdigit]

theorem all_zeros (n : Nat) : (List.replicate n '0').all isNumeric = true := by
  rw [List.all_eq_true]
  intro c hc
  obtain rfl := List.eq_of_mem_replicate hc
  decide

theorem numeric_decimalText (d : Double.Decimal) : Numeric (Double.decimalText d).toList := by
  have hdigits := (numeric_toDigits d.digits).2
  have hexponent := (numeric_toDigits (d.power + (Nat.toDigits 10 d.digits).length - 1).natAbs).2
  have htake : ∀ n, ((Nat.toDigits 10 d.digits).take n).all isNumeric = true :=
    fun n => List.all_eq_true.mpr fun c hc => List.all_eq_true.mp hdigits c (List.mem_of_mem_take hc)
  have hdrop : ∀ n, ((Nat.toDigits 10 d.digits).drop n).all isNumeric = true :=
    fun n => List.all_eq_true.mpr fun c hc => List.all_eq_true.mp hdigits c (List.mem_of_mem_drop hc)
  have hsigns : isNumeric '.' = true ∧ isNumeric '0' = true ∧ isNumeric 'e' = true ∧
      isNumeric '+' = true ∧ isNumeric '-' = true := by decide
  unfold Double.decimalText
  rw [String.toList_ofList]
  constructor
  · split_ifs <;> simp
  · simp only []
    split_ifs <;>
      simp only [List.all_append, List.all_cons, List.all_nil, hdigits, hexponent, htake, hdrop,
        all_zeros, hsigns, Bool.and_self]

theorem numeric_repr (n : Nat) : Numeric n.repr.toList := by
  rw [Nat.repr_eq_ofList_toDigits, String.toList_ofList]
  exact numeric_toDigits n

theorem numeric_text (n : Number) : Numeric n.text.toList := by
  have hminus : "-".toList = ['-'] := rfl
  cases n with
  | integer n fits =>
    rw [Number.text, Int.toString_eq_repr, Int.repr_eq_if]
    split
    · exact numeric_repr _
    · rw [String.toList_append, hminus]
      exact (numeric_repr _).negate
  | double x =>
    have hmagnitude : Numeric
        (if x.isZero then "0.0" else Double.decimalText (Double.shortest x.rank)).toList := by
      split
      · exact ⟨by decide, by decide⟩
      · exact numeric_decimalText _
    rw [Number.text, Double.text, String.toList_append]
    split
    · rw [hminus]
      exact hmagnitude.negate
    · simpa using hmagnitude

namespace Numeral

/-- What stands before the rest is numeric. -/
def Takes (cs rest : List Char) : Prop := ∃ taken, cs = taken ++ rest ∧ taken.all isNumeric = true

theorem Takes.refl (cs : List Char) : Takes cs cs := ⟨[], rfl, rfl⟩

theorem Takes.cons {c : Char} {cs rest : List Char} (hc : isNumeric c = true) (h : Takes cs rest) :
    Takes (c :: cs) rest := by
  obtain ⟨taken, rfl, hall⟩ := h
  exact ⟨c :: taken, rfl, by rw [List.all_cons, hc, hall, Bool.and_self]⟩

theorem Takes.trans {cs mid rest : List Char} (h : Takes cs mid) (hm : Takes mid rest) :
    Takes cs rest := by
  obtain ⟨taken, rfl, hall⟩ := h
  obtain ⟨more, rfl, hmore⟩ := hm
  exact ⟨taken ++ more, by simp, by rw [List.all_append, hall, hmore, Bool.and_self]⟩

theorem takes_digits {cs rest : List Char} {ds : List Nat} (h : digits cs = (ds, rest)) :
    Takes cs rest := by
  induction cs generalizing ds with
  | nil =>
    cases h
    exact .refl []
  | cons c cs ih =>
    rw [digits] at h
    split at h
    · next d hd =>
      have hdigit : c.isDigit = true := by
        unfold digit? at hd
        split at hd
        · assumption
        · cases hd
      cases h
      exact (ih rfl).cons (by simp [isNumeric, hdigit])
    · cases h
      exact .refl _

theorem takes_sign {cs rest : List Char} {negative : Bool} (h : (match cs with
    | '+' :: cs => (false, cs)
    | '-' :: cs => (true, cs)
    | cs => (false, cs)) = (negative, rest)) : Takes cs rest := by
  split at h
  · cases h
    exact (Takes.refl _).cons (by decide)
  · cases h
    exact (Takes.refl _).cons (by decide)
  · cases h
    exact .refl _

theorem takes_point {cs rest : List Char} {fraction : Option (List Nat)} (h : (match cs with
    | '.' :: rest => match digits rest with
      | (ds, rest) => (some ds, rest)
    | rest => (none, rest)) = (fraction, rest)) : Takes cs rest := by
  split at h
  · cases h
    exact (takes_digits rfl).cons (by decide)
  · cases h
    exact .refl _

theorem takes_scanExponent {cs rest : List Char} {e : Bool × List Nat}
    (h : scanExponent cs = some (e, rest)) : Takes cs rest := by
  revert h
  fun_cases scanExponent cs with
  | case1 => simp
  | case2 _ negative tail hsign ds more _ hdigits =>
    intro h
    cases h
    exact (takes_sign hsign).trans (takes_digits hdigits)

theorem takes_scanExponent? {cs rest : List Char} {e : Option (Bool × List Nat)}
    (h : scanExponent? cs = some (e, rest)) : Takes cs rest := by
  unfold scanExponent? at h
  split at h
  · obtain ⟨⟨e, tail⟩, he, heq⟩ := Option.map_eq_some_iff.mp h
    cases heq
    exact (takes_scanExponent he).cons (by decide)
  · obtain ⟨⟨e, tail⟩, he, heq⟩ := Option.map_eq_some_iff.mp h
    cases heq
    exact (takes_scanExponent he).cons (by decide)
  · cases h
    exact .refl _

theorem numeric_of_ofText? {cs : List Char} {n : Numeral} (h : ofText? cs = some n) :
    cs.all isNumeric = true := by
  revert h
  fun_cases ofText? cs with
  | case1 => simp
  | case2 negative tail hsign whole more hwhole fraction rest hpoint _ exponent hexponent =>
    intro _
    have hmantissa := ((takes_sign hsign).trans (takes_digits hwhole)).trans (takes_point hpoint)
    obtain ⟨taken, ht, hall⟩ := hmantissa.trans (takes_scanExponent? hexponent)
    rwa [ht, List.append_nil]
  | case3 => simp

end Numeral

end ApiSamples
