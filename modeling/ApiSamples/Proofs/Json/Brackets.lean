import ApiSamples.Proofs.Json.Address
import Mathlib.Data.List.Basic

namespace ApiSamples.Address

def IsPlain (c : Char) : Prop := c ≠ '.' ∧ c ≠ '\\' ∧ c.isDigit = false

def isBracket (c : Char) : Bool := c == '[' || c == ']'

/-- The last bracket opens, so that nothing closes it. -/
def EndsOpen (cs : List Char) : Prop := (cs.filter isBracket).getLast? = some '['

instance : DecidablePred EndsOpen := fun cs =>
  inferInstanceAs (Decidable ((cs.filter isBracket).getLast? = some '['))

def completed (cs : List Char) : List Char := if EndsOpen cs then cs ++ [']'] else cs

variable {c : Char} {cs inner : List Char}

theorem endsOpen_cons_of_ne (h : c ≠ '[') : EndsOpen (c :: cs) ↔ EndsOpen cs := by
  rw [EndsOpen, EndsOpen, List.filter_cons]
  split
  · rw [List.getLast?_cons, Option.some.injEq]
    cases (cs.filter isBracket).getLast? with
    | none => simp [h]
    | some d => simp
  · rfl

theorem endsOpen_append_close : EndsOpen (inner ++ ']' :: cs) ↔ EndsOpen cs := by
  have hclose : EndsOpen (']' :: cs) ↔ EndsOpen cs := endsOpen_cons_of_ne (by decide)
  have hfilter : (']' :: cs).filter isBracket = ']' :: cs.filter isBracket := rfl
  rw [← hclose, EndsOpen, EndsOpen, List.filter_append, hfilter, List.getLast?_append_cons]

theorem endsOpen_open (h : ']' ∉ inner) : EndsOpen ('[' :: inner) := by
  have hfilter : ('[' :: inner).filter isBracket = '[' :: inner.filter isBracket := rfl
  rw [EndsOpen, hfilter, List.getLast?_cons]
  cases hlast : (inner.filter isBracket).getLast? with
  | none => rfl
  | some d =>
    obtain ⟨hd, hbracket⟩ := List.mem_filter.mp (List.mem_of_getLast? hlast)
    rw [isBracket, Bool.or_eq_true, beq_iff_eq, beq_iff_eq] at hbracket
    have hne : d ≠ ']' := fun heq => h (heq ▸ hd)
    rw [Option.getD_some, hbracket.resolve_right hne]

theorem completed_cons_of_ne (h : c ≠ '[') : completed (c :: cs) = c :: completed cs := by
  unfold completed
  by_cases hopen : EndsOpen cs
  · rw [if_pos hopen, if_pos ((endsOpen_cons_of_ne h).mpr hopen), List.cons_append]
  · rw [if_neg hopen, if_neg (mt (endsOpen_cons_of_ne h).mp hopen)]

theorem completed_append_close : completed (inner ++ ']' :: cs) = inner ++ ']' :: completed cs := by
  unfold completed
  by_cases hopen : EndsOpen cs
  · rw [if_pos hopen, if_pos (endsOpen_append_close.mpr hopen), List.append_assoc, List.cons_append]
  · rw [if_neg hopen, if_neg (mt endsOpen_append_close.mp hopen)]

theorem completed_open (h : ']' ∉ inner) : completed ('[' :: inner) = '[' :: inner ++ [']'] := by
  rw [completed, if_pos (endsOpen_open h)]

theorem index?_of_plain (h : ∀ c ∈ inner, IsPlain c) : index? inner = none := by
  have hdigits : ∀ cs : List Char, (∀ c ∈ cs, IsPlain c) →
      (!cs.isEmpty && cs.all Char.isDigit) = false := by
    intro cs hcs
    cases cs with
    | nil => rfl
    | cons c cs => simp [(hcs c List.mem_cons_self).2.2]
  unfold index?
  split
  · next cs => simp [hdigits cs fun c hc => h c (List.mem_cons_of_mem _ hc)]
  · simp [hdigits _ h]

/-- Outside brackets the key goes on to the end of the text, and inside brackets it takes them in. -/
theorem steps_completed (h : ∀ c ∈ cs, IsPlain c) :
    (∀ key, steps key cs = flush (key ++ completed cs)) ∧
    ∀ key inner, (∀ c ∈ inner, IsPlain c) → ']' ∉ inner →
      bracketSteps key inner cs = flush (key ++ completed ('[' :: inner ++ cs)) := by
  induction cs with
  | nil =>
    constructor
    · intro key
      have hnothing : completed [] = [] := rfl
      rw [steps, hnothing, List.append_nil]
    · intro key inner hinner hclose
      rw [bracketSteps, index?_of_plain hinner, List.append_nil, completed_open hclose, List.append_assoc]
  | cons c cs ih =>
    obtain ⟨hc, hcs⟩ := List.forall_mem_cons.mp h
    obtain ⟨houtside, hinside⟩ := ih hcs
    constructor
    · intro key
      by_cases hopen : c = '['
      · subst hopen
        rw [steps, hinside key [] (by simp) (by simp)]
        rfl
      · rw [steps_plain hc.1 hopen fun hescape => absurd hescape hc.2.1, houtside,
          completed_cons_of_ne hopen, List.append_assoc, List.singleton_append]
    · intro key inner hinner hclose
      by_cases hc' : c = ']'
      · subst hc'
        have hkey : completed ('[' :: inner ++ ']' :: cs) = '[' :: inner ++ [']'] ++ completed cs := by
          rw [completed_append_close, List.append_assoc, List.singleton_append]
        rw [bracketSteps, index?_of_plain hinner, hkey]
        simp only [houtside, List.append_assoc]
      · have hinner' : ∀ d ∈ inner ++ [c], IsPlain d := by
          intro d hd
          obtain hd | hd := List.mem_append.mp hd
          · exact hinner d hd
          · exact List.mem_singleton.mp hd ▸ hc
        have hclose' : ']' ∉ inner ++ [c] := by
          simp [hclose, Ne.symm hc']
        rw [bracketSteps, hinside key _ hinner' hclose']
        · simp
        · exact hc'

/-- The wire name is one key, and nothing is dropped from it or put into it. -/
def KeptWhole (path : String) : Prop := parse path = [.key path]

/-- A wire name without points, backslashes and digits is one key. The key is the wire name itself exactly if
its last bracket does not open; otherwise it has a closing bracket behind it. -/
theorem kept_whole_iff (path : String) (hne : path ≠ "") (hplain : ∀ c ∈ path.toList, IsPlain c) :
    (KeptWhole path ↔ ¬ EndsOpen path.toList) ∧
    (EndsOpen path.toList → parse path = [.key (path ++ "]")]) := by
  have hparse : parse path = flush (completed path.toList) := (steps_completed hplain).1 []
  have hpath : path.toList ≠ [] := by simpa using hne
  have hopened : EndsOpen path.toList → parse path = [.key (path ++ "]")] := by
    intro hopen
    have hkey : String.ofList (path.toList ++ [']']) = path ++ "]" := by
      simp
    rw [hparse, completed, if_pos hopen, flush_of_ne_nil (by simp), hkey]
  refine ⟨⟨fun hkept hopen => ?_, fun hclosed => ?_⟩, hopened⟩
  · rw [KeptWhole, hopened hopen] at hkept
    have hsame : path ++ "]" = path := Step.key.inj (List.cons.inj hkept).1
    have hlength := congrArg String.length hsame
    have hclosing : "]".length = 1 := rfl
    rw [String.length_append] at hlength
    omega
  · rw [KeptWhole, hparse, completed, if_neg hclosed, flush_of_ne_nil hpath, String.ofList_toList]

theorem nested_kept_whole :
    "a]b[[x]]c[]" ≠ "" ∧ (∀ c ∈ "a]b[[x]]c[]".toList, IsPlain c) ∧ ¬ EndsOpen "a]b[[x]]c[]".toList ∧
    parse "a]b[[x]]c[]" = [.key "a]b[[x]]c[]"] := by
  have hplain : ∀ c ∈ "a]b[[x]]c[]".toList, IsPlain c := by simp [IsPlain]
  have hclosed : ¬ EndsOpen "a]b[[x]]c[]".toList := by decide
  have hkept := (kept_whole_iff "a]b[[x]]c[]" (by decide) hplain).1.mpr hclosed
  exact ⟨by decide, hplain, hclosed, hkept⟩

theorem not_keptWhole_open :
    (∀ c ∈ "tags[x".toList, IsPlain c) ∧ parse "tags[x" = [.key "tags[x]"] ∧
    ¬ KeptWhole "tags[x" := by
  have hparse : parse "tags[x" = [.key "tags[x]"] := by decide
  have hplain : ∀ c ∈ "tags[x".toList, IsPlain c := by simp [IsPlain]
  refine ⟨hplain, hparse, fun hkept => ?_⟩
  rw [KeptWhole, hparse] at hkept
  exact absurd hkept (by decide)

end ApiSamples.Address
