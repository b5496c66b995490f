import ApiSamples.Proofs.Text.Lines
import Mathlib.Data.List.Basic

namespace ApiSamples.Text

def spaces (n : Nat) : String := String.ofList (List.replicate n ' ')

/-- The text with `lead` behind every line feed. -/
def leadFeeds (lead s : String) : String :=
  String.ofList (s.toList.flatMap fun c => if c = '\n' then '\n' :: lead.toList else [c])

/-- No line but the first one is empty. -/
def Filled (cs : List Char) : Prop := ∀ p ∈ (splitChars cs).tail, p ≠ []

section

variable {lead s t : String}

theorem spaces_add (m n : Nat) : spaces (m + n) = spaces m ++ spaces n := by
  rw [spaces, List.replicate_add, String.ofList_append]
  rfl

theorem margin_eq (depth : Nat) : margin depth = spaces (2 * depth) := by
  induction depth with
  | zero => rfl
  | succ depth ih =>
    have htwo : 2 * (depth + 1) = 2 + 2 * depth := by omega
    rw [htwo, spaces_add, ← ih]
    rfl

theorem margin_add (m n : Nat) : margin (m + n) = margin m ++ margin n :=
  repeated_add "  " m n

theorem leadFeeds_append (lead s t : String) :
    leadFeeds lead (s ++ t) = leadFeeds lead s ++ leadFeeds lead t := by
  simp [leadFeeds, String.ofList_append]

theorem leadFeeds_of_not_mem (lead : String) (h : '\n' ∉ s.toList) : leadFeeds lead s = s := by
  have hsingle : ∀ c ∈ s.toList, (if c = '\n' then '\n' :: lead.toList else [c]) = [c] :=
    fun c hc => if_neg fun heq : c = '\n' => h (heq ▸ hc)
  rw [leadFeeds, List.flatMap_congr hsingle, List.flatMap_singleton', String.ofList_toList]

theorem leadFeeds_feed (lead : String) : leadFeeds lead "\n" = "\n" ++ lead := by
  have hfeed : "\n".toList = ['\n'] := rfl
  apply String.toList_inj.mp
  simp [leadFeeds, hfeed]

theorem leadFeeds_unlines (lead : String) {ls : List String} (h : ∀ l ∈ ls, '\n' ∉ l.toList) :
    lead ++ leadFeeds lead (unlines ls) = unlines (ls.map (lead ++ ·)) ++ lead := by
  induction ls with
  | nil => simp [leadFeeds]
  | cons l ls ih =>
    obtain ⟨hl, hls⟩ := List.forall_mem_cons.mp h
    calc lead ++ leadFeeds lead (unlines (l :: ls))
      _ = lead ++ l ++ "\n" ++ (lead ++ leadFeeds lead (unlines ls)) := by
        rw [unlines_cons, leadFeeds_append, leadFeeds_append, leadFeeds_of_not_mem lead hl,
          leadFeeds_feed]
        simp only [String.append_assoc]
      _ = unlines ((l :: ls).map (lead ++ ·)) ++ lead := by
        rw [ih hls, List.map_cons, unlines_cons]
        simp only [String.append_assoc]

theorem unlines_lead (lead s : String) :
    unlines ((splitLines s).map (lead ++ ·)) = lead ++ leadFeeds lead s ++ "\n" := by
  have hlines := leadFeeds_unlines lead fun l hl => not_mem_of_mem_splitLines hl (s := s)
  rw [unlines_splitLines, leadFeeds_append, leadFeeds_feed] at hlines
  apply String.toList_inj.mp
  have hlists := congrArg String.toList hlines
  simp only [String.toList_append, ← List.append_assoc] at hlists ⊢
  exact (List.append_cancel_right hlists).symm

theorem filled_of_not_mem {cs : List Char} (h : '\n' ∉ cs) : Filled cs := by
  intro p hp
  rw [splitChars, pieces_of_not_mem h] at hp
  cases hp

theorem Filled.append {xs ys : List Char} (hx : Filled xs) (hy : Filled ys) : Filled (xs ++ ys) := by
  obtain ⟨ps, p, hps⟩ := pieces_eq_concat (· == '\n') xs
  obtain ⟨q, qs, hqs⟩ := List.exists_cons_of_ne_nil (pieces_ne_nil (· == '\n') ys)
  rw [Filled, splitChars, hps] at hx
  rw [Filled, splitChars, hqs] at hy
  rw [Filled, splitChars, pieces_append hps hqs]
  cases ps with
  | nil => exact hy
  | cons first ps =>
    obtain ⟨hinside, hlast⟩ := List.forall_mem_append.mp hx
    have hp : p ≠ [] := hlast p (List.mem_singleton_self p)
    refine List.forall_mem_append.mpr ⟨hinside, List.forall_mem_cons.mpr ⟨?_, hy⟩⟩
    exact List.append_ne_nil_of_left_ne_nil hp q

theorem Filled.feed {c : Char} {cs : List Char} (hc : c ≠ '\n') (h : Filled (c :: cs)) :
    Filled ('\n' :: c :: cs) := by
  obtain ⟨q, qs, hqs⟩ := List.exists_cons_of_ne_nil (pieces_ne_nil (· == '\n') cs)
  have hfirst : pieces (· == '\n') (c :: cs) = (c :: q) :: qs := by
    simp [pieces, hc, hqs]
  rw [Filled, splitChars, hfirst] at h
  have hall : pieces (· == '\n') ('\n' :: c :: cs) = [] :: (c :: q) :: qs := by
    rw [pieces, hfirst]
    rfl
  rw [Filled, splitChars, hall]
  exact List.forall_mem_cons.mpr ⟨List.cons_ne_nil c q, h⟩

theorem Filled.ne_empty (h : Filled t.toList) : ∀ l ∈ (splitLines t).tail, l ≠ "" := by
  intro l hl
  rw [splitLines, ← List.map_tail] at hl
  obtain ⟨p, hp, rfl⟩ := List.mem_map.mp hl
  simpa using h p hp

theorem getLast?_splitLines_ne {c : Char} (h : s.toList.getLast? = some c) (hc : c ≠ '\n') :
    (splitLines s).getLast? ≠ some "" := by
  obtain ⟨cs, hcs⟩ := List.getLast?_eq_some_iff.mp h
  obtain ⟨ps, p, hps⟩ := pieces_eq_concat (· == '\n') cs
  have hline : '\n' ∉ [c] := by simpa using hc.symm
  rw [splitLines, splitChars, hcs, pieces_append_of_not_mem hps hline]
  simp

theorem indentLine_of_ne (lead : String) {line : String} (h : line ≠ "") :
    indentLine lead line = lead ++ line := by
  unfold indentLine
  simp [h]

theorem splitLines_append {ls rest : List String} {last first : String}
    (hs : splitLines s = ls ++ [last]) (ht : splitLines t = first :: rest) :
    splitLines (s ++ t) = ls ++ (last ++ first) :: rest := by
  obtain ⟨ps, p, hps⟩ := pieces_eq_concat (· == '\n') s.toList
  obtain ⟨q, qs, hqs⟩ := List.exists_cons_of_ne_nil (pieces_ne_nil (· == '\n') t.toList)
  rw [splitLines, splitChars, hps, List.map_append, List.map_singleton] at hs
  rw [splitLines, splitChars, hqs, List.map_cons] at ht
  obtain ⟨rfl, hlast⟩ := List.append_inj' hs rfl
  obtain rfl := List.singleton_inj.mp hlast
  obtain ⟨rfl, rfl⟩ := List.cons.inj ht
  rw [splitLines, splitChars, String.toList_append, pieces_append hps hqs]
  simp [String.ofList_append]

/-- The lines of a text that goes on behind another text are moved to the right. -/
theorem indentLines_append (lead : String) (hs : (splitLines s).getLast? ≠ some "")
    (ht : Filled t.toList) :
    ∃ front, indentLines lead s = front ++ "\n" ∧
      indentLines lead (s ++ t) = front ++ leadFeeds lead t ++ "\n" := by
  obtain ⟨first, rest, hfirst⟩ := List.exists_cons_of_ne_nil (splitLines_ne_nil t)
  have hlast := List.dropLast_concat_getLast (splitLines_ne_nil s)
  generalize (splitLines s).dropLast = ls at hlast
  generalize (splitLines s).getLast _ = last at hlast
  rw [← hlast, List.getLast?_concat] at hs
  have hfilled := ht.ne_empty
  rw [hfirst, List.tail_cons] at hfilled
  have hne : last ≠ "" := fun heq => hs (congrArg some heq)
  have hjoined : last ++ first ≠ "" := by simp [hne]
  have hrest : rest.map (indentLine lead) = rest.map (lead ++ ·) :=
    List.map_congr_left fun l hl => indentLine_of_ne lead (hfilled l hl)
  have hmoved : first ++ "\n" ++ unlines (rest.map (lead ++ ·)) = leadFeeds lead t ++ "\n" := by
    have hlead := unlines_lead lead t
    rw [hfirst, List.map_cons, unlines_cons] at hlead
    simpa [← String.toList_inj] using hlead
  refine ⟨unlines (ls.map (indentLine lead)) ++ (lead ++ last), ?_, ?_⟩
  · rw [indentLines_eq, ← hlast, List.map_append, List.map_singleton, unlines_concat,
      indentLine_of_ne lead hne]
  · rw [indentLines_eq, splitLines_append hlast.symm hfirst, List.map_append, List.map_cons,
      indentLine_of_ne lead hjoined, hrest, unlines_append, unlines_cons]
    simp only [String.append_assoc] at hmoved ⊢
    rw [hmoved]

end

end ApiSamples.Text
