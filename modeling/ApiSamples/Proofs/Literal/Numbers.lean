import ApiSamples.Proofs.Literal.Scalar
import ApiSamples.Proofs.Number.Decimal

namespace ApiSamples.Scalar

/-- `n` is a number literal for the number that the text is without the white space around it, and that
number is finite as a double. -/
def StandsFor (n s : String) : Prop :=
  ∃ numeral x, Numeral.ofText? (Text.trimChars s.toList) = some numeral ∧ numeral.nearest? = some x ∧
    SignedLiteral n.toList numeral.toRat

def asString (kind : Kind) (s : String) : String :=
  if kind = .unixTime then date (Quoted.quote s) else Quoted.quote s

/-- A number without quotes, in milliseconds if the kind is one of times. -/
def asNumber (kind : Kind) (n : String) : String :=
  if kind = .unixTime then date (n ++ " * 1000") else n

/-- The text stands in quotes, or as a number literal for the number that it is. -/
def NumberKept (kind : Kind) (s : String) : Prop :=
  literal kind (.string s) = asString kind s ∨
    ∃ n, StandsFor n s ∧ literal kind (.string s) = asNumber kind n

section

variable {kind : Kind} {s n : String}

theorem literal_string (hkind : kind.isNumeric = true ∨ kind = .unixTime) (s : String) :
    literal kind (.string s) = ((number? s).map (asNumber kind)).getD (asString kind s) := by
  rcases hkind with h | rfl
  · have hkind : literal kind (.string s) = numeric (.string s) ∧ kind ≠ .unixTime := by
      cases kind with
      | int | long | double | decimal => exact ⟨rfl, by decide⟩
      | _ => cases h
    rw [hkind.1, numeric, bare?, plain]
    cases number? s <;> simp [asNumber, asString, hkind.2]
  · rw [literal, unixTime, bare?, plain]
    cases number? s <;> simp [asNumber, asString]

theorem number?_spec (h : number? s = some n) :
    n.toList = Text.trimChars s.toList ∧ n.toList.head? ≠ some '+' ∧
      ∃ numeral x, Numeral.ofText? n.toList = some numeral ∧ numeral.nearest? = some x := by
  obtain ⟨hread, htext⟩ := Option.ite_none_right_eq_some.mp h
  rw [Bool.and_eq_true] at hread
  obtain ⟨hbegin, hfinite⟩ := hread
  obtain ⟨x, hx⟩ := Option.isSome_iff_exists.mp hfinite
  obtain ⟨numeral, hnumeral, hnearest⟩ := Option.bind_eq_some_iff.mp hx
  obtain rfl := Option.some.inj htext
  rw [String.toList_ofList]
  refine ⟨rfl, fun hplus => ?_, numeral, x, hnumeral, hnearest⟩
  obtain ⟨cs, hcs⟩ := List.head?_eq_some_iff.mp hplus
  rw [hcs] at hbegin
  exact Bool.false_ne_true hbegin

theorem standsFor_of_number? (h : number? s = some n) (hzero : needlessZero n.toList = false) :
    StandsFor n s := by
  obtain ⟨htrim, hplus, numeral, x, hnumeral, hnearest⟩ := number?_spec h
  refine ⟨numeral, x, ?_, hnearest, Numeral.signedLiteral_of_ofText? hnumeral hplus hzero⟩
  rw [← htrim]
  exact hnumeral

theorem StandsFor.needlessZero_eq (h : StandsFor n s) : needlessZero n.toList = false := by
  obtain ⟨_, _, _, _, hliteral⟩ := h
  exact hliteral.needlessZero_eq

theorem date_injective : Function.Injective date := by
  intro a b h
  have hlists := congrArg String.toList h
  simp only [date, String.toList_append] at hlists
  exact String.toList_inj.mp (List.append_cancel_left (List.append_cancel_right hlists))

theorem asNumber_injective (kind : Kind) : Function.Injective (asNumber kind) := by
  intro a b h
  unfold asNumber at h
  split at h
  · have hlists := congrArg String.toList (date_injective h)
    simp only [String.toList_append] at hlists
    exact String.toList_inj.mp (List.append_cancel_right hlists)
  · exact h

theorem asNumber_ne_asString (h : number? s = some n) : asNumber kind n ≠ asString kind s := by
  have hmark : isNumeric '"' = false := by decide
  obtain ⟨hne, hall⟩ := numeric_number? h
  obtain ⟨c, cs, hcs⟩ := List.exists_cons_of_ne_nil hne
  have hfirst : ∀ rest : List Char, n.toList ++ rest ≠ (Quoted.quote s).toList := by
    intro rest hsame
    rw [hcs, Quoted.quote, String.toList_ofList, Quoted.encode] at hsame
    obtain rfl := (List.cons.inj hsame).1
    have hc := List.all_eq_true.mp hall '"' (by simp [hcs])
    rw [hmark] at hc
    cases hc
  intro hsame
  unfold asNumber asString at hsame
  split at hsame
  · have hlists := congrArg String.toList (date_injective hsame)
    rw [String.toList_append] at hlists
    exact hfirst _ hlists
  · apply hfirst []
    rw [List.append_nil, hsame]

theorem not_numberKept (hkind : kind.isNumeric = true ∨ kind = .unixTime) (h : number? s = some n)
    (hzero : needlessZero n.toList = true) : ¬ NumberKept kind s := by
  have hliteral : literal kind (.string s) = asNumber kind n := by
    rw [literal_string hkind, h, Option.map_some, Option.getD_some]
  rintro (hquoted | ⟨other, hother, hsame⟩)
  · exact asNumber_ne_asString h (hliteral ▸ hquoted)
  · have heq : n = other := asNumber_injective kind (hliteral ▸ hsame)
    rw [heq, hother.needlessZero_eq] at hzero
    cases hzero

/-- A kind of numbers keeps what a text says exactly if the number in it has no needless zero. -/
theorem numberKept_iff (kind : Kind) (hkind : kind.isNumeric = true ∨ kind = .unixTime) (s : String) :
    NumberKept kind s ↔ ∀ n, number? s = some n → needlessZero n.toList = false := by
  constructor
  · intro hkept n hn
    by_contra hzero
    exact not_numberKept hkind hn (Bool.not_eq_false _ ▸ hzero) hkept
  · intro hzero
    have hliteral := literal_string hkind s
    cases hn : number? s with
    | none =>
      rw [hn] at hliteral
      exact .inl hliteral
    | some n =>
      rw [hn] at hliteral
      exact .inr ⟨n, standsFor_of_number? hn (hzero n hn), hliteral⟩

theorem numberKept_fraction :
    Kind.double.isNumeric = true ∧ literal .double (.string " -2.50e1 ") = "-2.50e1" ∧
      NumberKept .double " -2.50e1 " := by
  have hnumber : number? " -2.50e1 " = some "-2.50e1" := by decide +kernel
  refine ⟨rfl, ?_, (numberKept_iff .double (.inl rfl) " -2.50e1 ").mpr ?_⟩
  · rw [literal_string (.inl rfl), hnumber]
    rfl
  · intro n hn
    rw [hnumber] at hn
    obtain rfl := Option.some.inj hn
    decide

/-- As a literal of its own this would be octal, or no number at all. -/
theorem not_numberKept_zeros :
    literal .int (.string "007") = "007" ∧ ¬ NumberKept .int "007" := by
  have hnumber : number? "007" = some "007" := by decide +kernel
  refine ⟨?_, not_numberKept (.inl rfl) hnumber (by decide)⟩
  rw [literal_string (.inl rfl), hnumber]
  rfl

end

end ApiSamples.Scalar
