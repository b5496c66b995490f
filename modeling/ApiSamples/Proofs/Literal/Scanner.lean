import ApiSamples.Proofs.Json.Quoted
import Mathlib.Tactic.SplitIfs

namespace ApiSamples.Scanner

def isQuote (c : Char) : Bool := c == '"' || c == '\x27' || c == '\x60'

def closing? : Char → Option Char
  | '(' => some ')'
  | '[' => some ']'
  | '\x7b' => some '\x7d'
  | '<' => some '>'
  | _ => none

def isClosing (c : Char) : Bool := c == ')' || c == ']' || c == '\x7d' || c == '>'

inductive Mode where
  | code
  | quoted (quote : Char)
  /-- Behind a backslash in a string. -/
  | escaped (quote : Char)
  deriving DecidableEq

structure State where
  /-- The brackets that are to come, the next one first. -/
  pending : List Char
  mode : Mode
  deriving DecidableEq

def start : State := ⟨[], .code⟩

/-- Nothing if a bracket is closed that is not open, or if a line ends inside a string. -/
def next (s : State) (c : Char) : Option State :=
  match s.mode with
  | .escaped quote => some ⟨s.pending, .quoted quote⟩
  | .quoted quote =>
    if c = '\\' then some ⟨s.pending, .escaped quote⟩
    else if c = quote then some ⟨s.pending, .code⟩
    else if c = '\n' ∨ c = '\r' then none
    else some s
  | .code =>
    if isQuote c then some ⟨s.pending, .quoted c⟩
    else match closing? c with
      | some closer => some ⟨closer :: s.pending, .code⟩
      | none =>
        if isClosing c then
          match s.pending with
          | top :: rest => if c = top then some ⟨rest, .code⟩ else none
          | [] => none
        else some s

def run (s : State) (cs : List Char) : Option State := cs.foldlM next s

def wellFormed (text : String) : Bool := run start text.toList == some start

def glue (cs : List Char) : List (List Char) → List (List Char)
  | [] => [cs]
  | piece :: pieces => (cs ++ piece) :: pieces

def cut (s : State) : List Char → List (List Char)
  | [] => [[]]
  | c :: cs =>
    if s = start ∧ c = ',' then [] :: cut start cs
    else match next s c with
      | none => [c :: cs]
      | some s => glue [c] (cut s cs)

def step (s : State) (c : Char) : Option State := if s = start ∧ c = ',' then none else next s c

def pass (s : State) (cs : List Char) : Option State := cs.foldlM step s

/-- From the start back to the start. -/
def Balanced (cs : List Char) : Prop := run start cs = some start

/-- The same, and without a comma that cuts it. -/
def Sealed (cs : List Char) : Prop := pass start cs = some start

section

variable {s t : State} {xs ys : List Char}

theorem run_append (s : State) (xs ys : List Char) :
    run s (xs ++ ys) = (run s xs).bind fun t => run t ys := List.foldlM_append

theorem pass_append (s : State) (xs ys : List Char) :
    pass s (xs ++ ys) = (pass s xs).bind fun t => pass t ys := List.foldlM_append

theorem pass_cons (s : State) (c : Char) (cs : List Char) :
    pass s (c :: cs) = (step s c).bind fun t => pass t cs := List.foldlM_cons

theorem run_cons (s : State) (c : Char) (cs : List Char) :
    run s (c :: cs) = (next s c).bind fun t => run t cs := List.foldlM_cons

theorem next_of_step {c : Char} (h : step s c = some t) : next s c = some t := by
  unfold step at h
  split at h
  · cases h
  · exact h

theorem run_of_pass (h : pass s xs = some t) : run s xs = some t := by
  induction xs generalizing s with
  | nil => exact h
  | cons c xs ih =>
    rw [pass_cons] at h
    obtain ⟨u, hu, ht⟩ := Option.bind_eq_some_iff.mp h
    rw [run_cons, next_of_step hu]
    exact ih ht

theorem glue_glue (xs ys : List Char) (pieces : List (List Char)) :
    glue xs (glue ys pieces) = glue (xs ++ ys) pieces := by
  cases pieces <;> simp [glue]

theorem cut_ne_nil (s : State) (cs : List Char) : cut s cs ≠ [] := by
  cases cs with
  | nil => simp [cut]
  | cons c cs =>
    rw [cut]
    split
    · simp
    · split
      · simp
      · next t _ => cases cut t cs <;> simp [glue]

theorem glue_nil {pieces : List (List Char)} (h : pieces ≠ []) : glue [] pieces = pieces := by
  cases pieces with
  | nil => exact absurd rfl h
  | cons piece pieces => simp [glue]

theorem cut_append (h : pass s xs = some t) (ys : List Char) :
    cut s (xs ++ ys) = glue xs (cut t ys) := by
  induction xs generalizing s with
  | nil =>
    obtain rfl := Option.some.inj h
    exact (glue_nil (cut_ne_nil s ys)).symm
  | cons c xs ih =>
    rw [pass_cons] at h
    obtain ⟨u, hu, ht⟩ := Option.bind_eq_some_iff.mp h
    have hnext := next_of_step hu
    unfold step at hu
    split at hu
    · cases hu
    · next hcomma =>
      simp only [List.cons_append, cut, if_neg hcomma, hnext, ih ht, glue_glue, List.nil_append]

theorem cut_comma (cs : List Char) : cut start (',' :: cs) = [] :: cut start cs := by
  rw [cut, if_pos ⟨rfl, rfl⟩]

def State.inside (s : State) (outer : List Char) : State := ⟨s.pending ++ outer, s.mode⟩

theorem next_inside {c : Char} (h : next s c = some t) (outer : List Char) :
    next (s.inside outer) c = some (t.inside outer) := by
  obtain ⟨pending, mode⟩ := s
  cases mode with
  | escaped quote =>
    cases h
    rfl
  | quoted quote =>
    simp only [next, State.inside] at h ⊢
    split_ifs at h ⊢ <;> cases h <;> rfl
  | code =>
    simp only [next, State.inside] at h ⊢
    by_cases hq : isQuote c = true
    · rw [if_pos hq] at h ⊢
      cases h
      rfl
    · rw [if_neg hq] at h ⊢
      cases ho : closing? c with
      | some closer =>
        simp only [ho] at h ⊢
        cases h
        rfl
      | none =>
        simp only [ho] at h ⊢
        by_cases hc : isClosing c = true
        · rw [if_pos hc] at h ⊢
          cases pending with
          | nil => cases h
          | cons top rest =>
            simp only [List.cons_append] at h ⊢
            split_ifs at h ⊢
            cases h
            rfl
        · rw [if_neg hc] at h ⊢
          cases h
          rfl

theorem pass_inside (h : run s xs = some t) {outer : List Char} (ho : outer ≠ []) :
    pass (s.inside outer) xs = some (t.inside outer) := by
  induction xs generalizing s with
  | nil => rw [Option.some.inj h]; rfl
  | cons c xs ih =>
    rw [run_cons] at h
    obtain ⟨u, hu, ht⟩ := Option.bind_eq_some_iff.mp h
    have hout : ¬ (s.inside outer = start ∧ c = ',') := by
      rintro ⟨he, -⟩
      simp [State.inside, start, ho] at he
    rw [pass_cons, step, if_neg hout, next_inside hu]
    exact ih ht

end

section

variable {xs ys : List Char}

theorem Sealed.balanced (h : Sealed xs) : Balanced xs := run_of_pass h

theorem sealed_nil : Sealed [] := rfl

theorem balanced_nil : Balanced [] := rfl

theorem Sealed.append (hx : Sealed xs) (hy : Sealed ys) : Sealed (xs ++ ys) := by
  rw [Sealed, pass_append, hx]
  exact hy

theorem Balanced.append (hx : Balanced xs) (hy : Balanced ys) : Balanced (xs ++ ys) := by
  rw [Balanced, run_append, hx]
  exact hy

theorem balanced_comma : Balanced [','] := rfl

theorem Balanced.enclose {opening closer : Char} (hq : isQuote opening = false)
    (ho : closing? opening = some closer) (hc : next ⟨[closer], .code⟩ closer = some start)
    (h : Balanced xs) : Sealed (opening :: xs ++ [closer]) := by
  have hcomma : opening ≠ ',' := by
    rintro rfl
    cases ho
  have hopen : step start opening = some (start.inside [closer]) := by
    simp [step, hcomma, next, start, hq, ho, State.inside]
  have hclose : step (start.inside [closer]) closer = some start := by
    rw [step, if_neg (by simp [State.inside, start])]
    exact hc
  rw [Sealed, List.cons_append, pass_cons, hopen, Option.bind_some, pass_append,
    pass_inside h (List.cons_ne_nil _ _), Option.bind_some, pass_cons, hclose]
  rfl

def isPlain (c : Char) : Bool := !isQuote c && (closing? c).isNone && !isClosing c && c != ','

theorem step_of_isPlain {c : Char} (h : isPlain c = true) : step start c = some start := by
  simp only [isPlain, Bool.and_eq_true, Bool.not_eq_true', bne_iff_ne, ne_eq,
    Option.isNone_iff_eq_none] at h
  obtain ⟨⟨⟨hq, ho⟩, hc⟩, hcomma⟩ := h
  simp [step, hcomma, next, start, hq, ho, hc]

theorem sealed_of_isPlain (h : xs.all isPlain = true) : Sealed xs := by
  induction xs with
  | nil => exact sealed_nil
  | cons c xs ih =>
    rw [List.all_cons, Bool.and_eq_true] at h
    rw [Sealed, pass_cons, step_of_isPlain h.1]
    exact ih h.2

end

end ApiSamples.Scanner
