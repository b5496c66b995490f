import ApiSamples.Proofs.Json.Printed
import ApiSamples.Proofs.Literal.Scalar

namespace ApiSamples.Scanner

namespace Mode

def next (m : Mode) (c : Char) : Mode :=
  match m with
  | .code => if isQuote c then .quoted c else .code
  | .quoted quote => if c = '\\' then .escaped quote else if c = quote then .code else .quoted quote
  | .escaped quote => .quoted quote

def run (m : Mode) (cs : List Char) : Mode := cs.foldl next m

/-- What stands outside string literals, with the mark that opens each of them. -/
def outside (m : Mode) : List Char → List Char
  | [] => []
  | c :: cs => if m = .code then c :: outside (m.next c) cs else outside (m.next c) cs

variable {xs ys : List Char}

theorem run_append (m : Mode) (xs ys : List Char) : m.run (xs ++ ys) = (m.run xs).run ys :=
  List.foldl_append

theorem outside_append (m : Mode) (xs ys : List Char) :
    m.outside (xs ++ ys) = m.outside xs ++ (m.run xs).outside ys := by
  induction xs generalizing m with
  | nil => rfl
  | cons c xs ih =>
    rw [List.cons_append, outside, outside, ih]
    split <;> rfl

theorem mem_of_mem_outside {m : Mode} {c : Char} (h : c ∈ m.outside xs) : c ∈ xs := by
  induction xs generalizing m with
  | nil => cases h
  | cons d xs ih =>
    rw [outside] at h
    split at h
    · rcases List.mem_cons.mp h with rfl | h
      · exact List.mem_cons_self
      · exact List.mem_cons_of_mem d (ih h)
    · exact List.mem_cons_of_mem d (ih h)

end Mode

theorem mode_of_next {s t : State} {c : Char} (h : next s c = some t) : t.mode = s.mode.next c := by
  obtain ⟨pending, mode⟩ := s
  cases mode with
  | escaped quote =>
    cases h
    rfl
  | quoted quote =>
    simp only [next, Mode.next] at h ⊢
    split_ifs at h ⊢ <;> cases h <;> rfl
  | code =>
    simp only [next, Mode.next] at h ⊢
    by_cases hq : isQuote c = true
    · rw [if_pos hq] at h ⊢
      cases h
      rfl
    · rw [if_neg hq] at h ⊢
      split at h
      · cases h
        rfl
      · split_ifs at h
        · split at h
          · split_ifs at h
            cases h
            rfl
          · cases h
        · cases h
          rfl

theorem mode_of_run {s t : State} {cs : List Char} (h : Scanner.run s cs = some t) :
    t.mode = s.mode.run cs := by
  induction cs generalizing s with
  | nil =>
    cases h
    rfl
  | cons c cs ih =>
    rw [run_cons] at h
    obtain ⟨u, hu, ht⟩ := Option.bind_eq_some_iff.mp h
    rw [ih ht, mode_of_next hu]
    rfl

theorem Balanced.closed {cs : List Char} (h : Balanced cs) : Mode.code.run cs = .code :=
  (mode_of_run h).symm

end ApiSamples.Scanner

namespace ApiSamples

open Scanner

theorem Token.closed {cs : List Char} (h : Token cs) : Mode.code.run cs = .code := h.isSealed.balanced.closed

namespace Quoted

theorem outside_quoted {c : Char} (hb : c ≠ '\\') (hq : c ≠ '"') (cs : List Char) :
    (Mode.quoted '"').outside (c :: cs) = (Mode.quoted '"').outside cs := by
  simp [Mode.outside, Mode.next, hb, hq]

theorem outside_escape (c : Char) (rest : List Char) :
    (Mode.quoted '"').outside (escape c ++ rest) = (Mode.quoted '"').outside rest := by
  unfold escape
  split_ifs with hq hb
  · rfl
  · rfl
  · rfl
  · rfl
  · rfl
  · rfl
  · rfl
  · obtain ⟨hhighb, hhighq, -⟩ := hexDigit_inert (show c.toNat / 16 < 16 by omega)
    obtain ⟨hlowb, hlowq, -⟩ := hexDigit_inert (show c.toNat % 16 < 16 by omega)
    have hlead : ∀ cs, (Mode.quoted '"').outside ('\\' :: 'u' :: '0' :: '0' :: cs) =
      (Mode.quoted '"').outside cs := fun _ => rfl
    rw [List.cons_append, List.cons_append, List.cons_append, List.cons_append, hlead, List.cons_append,
      outside_quoted hhighb hhighq, List.cons_append, outside_quoted hlowb hlowq, List.nil_append]
  · exact outside_quoted hb hq rest

theorem outside_quote (s : String) : Mode.code.outside (quote s).toList = ['"'] := by
  have hbody : ∀ cs : List Char, (Mode.quoted '"').outside (cs.flatMap escape ++ ['"']) = [] := by
    intro cs
    induction cs with
    | nil => rfl
    | cons c cs ih => rw [List.flatMap_cons, List.append_assoc, outside_escape, ih]
  rw [quote, String.toList_ofList, encode, List.cons_append, Mode.outside, if_pos rfl]
  exact congrArg _ (hbody s.toList)

end Quoted

end ApiSamples
